import DataBinding.Binding.Basic

namespace DataBinding.Binding

open Text

def isPropertyChar (c : Char) : Bool := isWordChar c || c == '.'

def property? (s : List Char) : Option Path := (Path.parse (String.ofList s)).toOption

def isQuote (c : Char) : Bool := c == '\x22' || c == '\x27'

/-- The string after its opening quote, and the rest. A backslash keeps the character after it;
`none` if the string is not closed. -/
def quoted (quote : Char) : List Char → Option (List Char × List Char)
  | [] => none
  | ['\\'] => none
  | '\\' :: c :: s => (quoted quote s).map fun r ↦ (c :: r.1, r.2)
  | c :: s => if c = quote then some ([], s) else (quoted quote s).map fun r ↦ (c :: r.1, r.2)

theorem length_of_quoted {quote : Char} {s t r : List Char} (h : quoted quote s = some (t, r)) :
    r.length < s.length := by
  fun_induction quoted quote s generalizing t r with
  | case1 => simp at h
  | case2 => simp at h
  | case3 c s ih =>
    obtain ⟨x, hx, he⟩ := Option.map_eq_some_iff.1 h
    have := ih (show _ = some (x.1, x.2) from hx)
    simp only [Prod.mk.injEq] at he
    simp only [List.length_cons, ← he.2]
    omega
  | case4 s => simp_all
  | case5 c s _ _ _ ih =>
    obtain ⟨x, hx, he⟩ := Option.map_eq_some_iff.1 h
    have := ih (show _ = some (x.1, x.2) from hx)
    simp only [Prod.mk.injEq] at he
    simp only [List.length_cons, ← he.2]
    omega

def dropComma : List Char → List Char
  | ',' :: s => s
  | s => s

theorem length_dropComma (s : List Char) : (dropComma s).length ≤ s.length := by
  unfold dropComma
  split <;> simp

theorem length_trimStart (s : List Char) : (trimStart s).length ≤ s.length :=
  List.IsSuffix.length_le (List.dropWhile_suffix _)

def arguments (s : List Char) : Option (List String × List Char) :=
  match _hs : trimStart s with
  | [] => some ([], [])
  | q :: t =>
    if isQuote q then
      match _hq : quoted q t with
      | none => none
      | some (arg, r) =>
        (arguments (dropComma (trimStart r))).map fun x ↦ (String.ofList arg :: x.1, x.2)
    else some ([], q :: t)
termination_by s.length
decreasing_by
  have h₁ := length_of_quoted _hq
  have h₂ := length_dropComma (trimStart r)
  have h₃ := length_trimStart r
  have h₄ := length_trimStart s
  simp only [_hs, List.length_cons] at h₄
  omega

/-- Where a chain stops making sense: the fault, with the text from there on. -/
inductive Stop where
  | unexpected (found : Char) (rest : List Char)
  | noName (rest : List Char)
  | unclosed

def clause (s : List Char) : Except Stop (Clause × List Char) :=
  let s := trimStart s
  let name := s.takeWhile isWordChar
  if name.isEmpty then .error (.noName s)
  else
    match trimStart (s.dropWhile isWordChar) with
    | ':' :: r =>
      match arguments r with
      | none => .error .unclosed
      | some (args, r) => .ok (⟨String.ofList name, args⟩, r)
    | r => .ok (⟨String.ofList name, []⟩, r)

theorem length_of_arguments {s r : List Char} {args : List String}
    (h : arguments s = some (args, r)) : r.length ≤ s.length := by
  fun_induction arguments s generalizing args r with
  | case1 => simp_all
  | case2 => simp_all
  | case3 s q t hs hq arg u hu ih =>
    obtain ⟨x, hx, he⟩ := Option.map_eq_some_iff.1 h
    have h₁ := ih (show _ = some (x.1, x.2) from hx)
    have h₂ := length_of_quoted hu
    have h₃ := length_dropComma (trimStart u)
    have h₄ := length_trimStart u
    have h₅ := length_trimStart s
    simp only [hs, List.length_cons] at h₅
    simp only [Prod.mk.injEq] at he
    rw [← he.2]
    omega
  | case4 s q t hs hq =>
    have := length_trimStart s
    simp_all

theorem length_of_clause {s r : List Char} {call : Clause} (h : clause s = .ok (call, r)) :
    r.length ≤ s.length := by
  have h₁ := length_trimStart s
  have h₂ := length_trimStart ((trimStart s).dropWhile isWordChar)
  have h₃ := (List.dropWhile_suffix isWordChar (l := trimStart s)).length_le
  simp only [clause] at h
  split at h
  · simp at h
  · split at h
    · rename_i t ht
      split at h
      · simp at h
      · rename_i args u hu
        have := length_of_arguments hu
        simp only [ht, List.length_cons] at h₂
        simp only [Except.ok.injEq, Prod.mk.injEq] at h
        rw [← h.2]
        omega
    · simp only [Except.ok.injEq, Prod.mk.injEq] at h
      rw [← h.2]
      omega

def clauses (s : List Char) : Except Stop (List Clause) :=
  match _hs : trimStart s with
  | [] => .ok []
  | c :: t =>
    if c = '|' then
      match _hc : clause t with
      | .error e => .error e
      | .ok (call, r) =>
        match clauses r with
        | .error e => .error e
        | .ok calls => .ok (call :: calls)
    else .error (.unexpected c (c :: t))
termination_by s.length
decreasing_by
  have h₁ := length_of_clause _hc
  have h₂ := length_trimStart s
  simp only [_hs, List.length_cons] at h₂
  omega

def Stop.fault (input : List Char) : Stop → Fault
  | unexpected found rest => .unexpectedChar found (utf8Length input - utf8Length rest)
  | noName rest => .expectedFilterName (utf8Length input - utf8Length rest)
  | unclosed => .unclosedString

def endsProperty : List Char → Bool
  | [] => true
  | c :: _ => c == '|' || isBlank c

def parseChain (input : List Char) : Except Fault Binding :=
  let s := trimStart input
  let rest := s.dropWhile isPropertyChar
  match property? (s.takeWhile isPropertyChar) with
  | none => .error .invalidProperty
  | some p =>
    if endsProperty rest then
      match clauses rest with
      | .ok calls => .ok (.chain p calls)
      | .error stop => .error (stop.fault input)
    else .error .invalidProperty

/-- Reads `path:attribute:truthy:falsy`, of which only the path is required. Without an
attribute the literals mean nothing. -/
def parseAttribute (input : List Char) : Except Fault Binding :=
  let (head, rest) := cut ':' input
  let head := trim head
  if head.all isPropertyChar then
    match property? head with
    | none => .error .invalidProperty
    | some p =>
      let (name, rest) := cut ':' (rest.getD [])
      let (truthy, rest) := cut ':' (rest.getD [])
      match trim name with
      | [] => .ok (.content p)
      | name =>
        .ok (.attr p (String.ofList name) (String.ofList truthy)
          (String.ofList (rest.getD [])))
  else .error .invalidProperty

def Style.resolve (style : Style) (input : List Char) : Style :=
  match style with
  | .auto => guessStyle input
  | style => style

def parse (style : Style) (expression : String) : Except ParseError Binding :=
  let input := expression.toList
  let result :=
    match style.resolve input with
    | .attr => parseAttribute input
    | _ => parseChain input
  result.mapError (⟨expression, ·⟩)

end DataBinding.Binding
