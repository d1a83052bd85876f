import DataBinding.Proofs.Binding.Grammar
import DataBinding.Proofs.Text.Offset
import Mathlib.Logic.Function.Iterate

namespace DataBinding.Binding

open Text

/-- A program that moves a cursor. It finds a fault or answers, and gives nothing at all if it looks
where no character starts or if a loop of it does not end. -/
abbrev Scan := StateT Nat (ExceptT Fault Option)

section Programs

variable (input : List Char)

def peek : Scan (Option Char) := do
  let rest ← (from? input (← get) : Option (List Char))
  return rest.head?

def advance : Scan (Option Char) := do
  let c ← peek input
  modify (· + utf8Length c.toList)
  return c

/-- Goes round and round; a round is handed what is to come after it. There are as many rounds as
the text has characters, and one more. A loop that asks for another one gives nothing. -/
def loop {α : Type} (round : Scan α → Scan α) : Scan α := round^[input.length + 1] fun _ ↦ none

def skipWhile (p : Char → Bool) : Scan Unit := loop input fun again ↦ do
  if (← peek input).any p then
    let _ ← advance input
    again

def skipChar (c : Char) : Scan Unit := do
  if (← peek input) = some c then
    let _ ← advance input

def readWhile (p : Char → Bool) : Scan (List Char) := do
  let start ← get
  skipWhile input p
  (between? input start (← get) : Option (List Char))

def readInside (quote : Char) : Scan (List Char) := loop input fun again ↦ do
  match ← advance input with
  | none => throw .unclosedString
  | some c =>
    if c = '\\' then
      match ← advance input with
      | none => throw .unclosedString
      | some d => return d :: (← again)
    else if c = quote then return []
    else return c :: (← again)

def readString : Scan (List Char) := do
  match ← advance input with
  | none => throw .unclosedString
  | some quote => readInside input quote

def readArguments : Scan (List String) := loop input fun again ↦ do
  skipWhile input isBlank
  if (← peek input).any isQuote then
    let arg ← readString input
    skipWhile input isBlank
    skipChar input ','
    return String.ofList arg :: (← again)
  else return []

def readClause : Scan Clause := do
  skipWhile input isBlank
  let start ← get
  let name ← readWhile input isWordChar
  if name.isEmpty then throw (.expectedFilterName start)
  else
    skipWhile input isBlank
    if (← peek input) = some ':' then
      let _ ← advance input
      return ⟨String.ofList name, ← readArguments input⟩
    else return ⟨String.ofList name, []⟩

def readClauses : Scan (List Clause) := loop input fun again ↦ do
  skipWhile input isBlank
  match ← peek input with
  | none => return []
  | some c =>
    if c = '|' then
      let _ ← advance input
      return (← readClause input) :: (← again)
    else throw (.unexpectedChar c (← get))

def readChain : Scan Binding := do
  skipWhile input isBlank
  match property? (← readWhile input isPropertyChar) with
  | none => throw .invalidProperty
  | some p =>
    if (← peek input).all fun c ↦ c == '|' || isBlank c then
      return .chain p (← readClauses input)
    else throw .invalidProperty

end Programs

def offset (input rest : List Char) : Nat := utf8Length input - utf8Length rest

section Cursor

variable {input s r : List Char}

theorem from?_offset (h : s <:+ input) : from? input (offset input s) = some s := by
  obtain ⟨a, rfl⟩ := h
  rw [offset, utf8Length_append, Nat.add_sub_cancel, from?_append]

theorem offset_append {a : List Char} (h : a ++ s <:+ input) :
    offset input (a ++ s) + utf8Length a = offset input s := by
  obtain ⟨b, rfl⟩ := h
  simp only [offset, utf8Length_append]
  omega

theorem between?_offset {a : List Char} (h : a ++ s <:+ input) :
    between? input (offset input (a ++ s)) (offset input s) = some a := by
  rw [← offset_append h]
  obtain ⟨b, rfl⟩ := h
  rw [offset, utf8Length_append b, Nat.add_sub_cancel, between?_append]

end Cursor

theorem run_bind_of_pure {α β : Type} {f : Scan α} {g : α → Scan β} {n m : Nat} {a : α}
    (h : f.run n = pure (a, m)) : (f >>= g).run n = (g a).run m := by
  rw [StateT.run_bind, h, pure_bind]

theorem run_bind_of_throw {α β : Type} {f : Scan α} {g : α → Scan β} {n : Nat} {e : Fault}
    (h : f.run n = throw e) : (f >>= g).run n = throw e := by
  rw [StateT.run_bind, h]
  rfl

theorem ne_backslash {c : Char} {s : List Char} (hend : c = '\\' → s = [] → False)
    (hmore : ∀ d t, c = '\\' → s = d :: t → False) : c ≠ '\\' := by
  intro hc
  cases s with
  | nil => exact hend hc rfl
  | cons d t => exact hmore d t hc rfl

section Runs

variable {input s : List Char}

/-- What a loop does if every round does it, given that the loop does it on what is left, which is
less than there was. -/
theorem run_loop {α : Type} {round : Scan α → Scan α}
    {result : List Char → ExceptT Fault Option (α × Nat)}
    (hround : ∀ s again, s <:+ input →
      (∀ r, r <:+ input → r.length < s.length → again.run (offset input r) = result r) →
      (round again).run (offset input s) = result s) :
    ∀ s, s <:+ input → (loop input round).run (offset input s) = result s := by
  have hrounds (k : Nat) : ∀ s, s <:+ input → s.length < k →
      (round^[k] fun _ ↦ none).run (offset input s) = result s := by
    induction k with
    | zero => exact fun s _ hlt ↦ absurd hlt (Nat.not_lt_zero _)
    | succ k ih =>
      intro s hs hlt
      rw [Function.iterate_succ_apply']
      exact hround s _ hs fun r hr hless ↦ ih r hr (by omega)
  exact fun s hs ↦ hrounds _ s hs (Nat.lt_succ_of_le hs.length_le)

theorem run_peek (h : s <:+ input) :
    (peek input).run (offset input s) = pure (s.head?, offset input s) := by
  simp only [peek, StateT.run_bind, StateT.run_get, pure_bind, from?_offset h]
  rfl

theorem run_advance_nil : (advance input).run (offset input []) = pure (none, offset input []) := by
  rw [advance, run_bind_of_pure (run_peek List.nil_suffix)]
  rfl

theorem run_advance_cons {c : Char} (h : c :: s <:+ input) :
    (advance input).run (offset input (c :: s)) = pure (some c, offset input s) := by
  rw [advance, run_bind_of_pure (run_peek h)]
  have hoffset : offset input (c :: s) + utf8Length [c] = offset input s :=
    offset_append (a := [c]) h
  rw [← hoffset]
  rfl

theorem run_skipWhile (p : Char → Bool) (h : s <:+ input) :
    (skipWhile input p).run (offset input s) = pure ((), offset input (s.dropWhile p)) := by
  unfold skipWhile
  revert s
  apply run_loop
  intro s again hs hagain
  rw [run_bind_of_pure (run_peek hs)]
  cases s with
  | nil => rfl
  | cons c s =>
    by_cases hc : p c
    · simp only [List.head?_cons, Option.any_some, hc, if_true]
      rw [run_bind_of_pure (run_advance_cons hs),
        hagain s ((List.suffix_cons c s).trans hs) (Nat.lt_succ_self _),
        List.dropWhile_cons_of_pos hc]
    · simp only [List.head?_cons, Option.any_some, hc]
      rw [List.dropWhile_cons_of_neg hc]
      rfl

theorem run_skipBlank (h : s <:+ input) :
    (skipWhile input isBlank).run (offset input s) = pure ((), offset input (trimStart s)) :=
  run_skipWhile isBlank h

theorem run_next {α : Type} (h : s <:+ input) (f : Option Char → Scan α) :
    (skipWhile input isBlank >>= fun _ ↦ peek input >>= f).run (offset input s) =
      (f (trimStart s).head?).run (offset input (trimStart s)) := by
  rw [run_bind_of_pure (run_skipBlank h),
    run_bind_of_pure (run_peek ((trimStart_suffix s).trans h))]

theorem run_skipComma (h : s <:+ input) :
    (skipChar input ',').run (offset input s) = pure ((), offset input (dropComma s)) := by
  rw [skipChar, run_bind_of_pure (run_peek h)]
  by_cases hs : s.head? = some ','
  · obtain ⟨t, rfl⟩ := List.head?_eq_some_iff.mp hs
    rw [if_pos hs, run_bind_of_pure (run_advance_cons h)]
    rfl
  · rw [if_neg hs, dropComma_of_head hs]
    rfl

theorem run_readWhile (p : Char → Bool) (h : s <:+ input) :
    (readWhile input p).run (offset input s) =
      pure (s.takeWhile p, offset input (s.dropWhile p)) := by
  have hsplit : s.takeWhile p ++ s.dropWhile p <:+ input := by
    rwa [List.takeWhile_append_dropWhile]
  have hcut := between?_offset hsplit
  rw [List.takeWhile_append_dropWhile] at hcut
  simp only [readWhile, StateT.run_bind, StateT.run_get, pure_bind, run_skipWhile p h, hcut]
  rfl

def orFault {α : Type} (input : List Char) :
    Except Stop (α × List Char) → ExceptT Fault Option (α × Nat)
  | .ok (a, r) => pure (a, offset input r)
  | .error stop => throw (stop.fault input)

def orUnclosed {α : Type} : Option α → Except Stop α
  | some a => .ok a
  | none => .error .unclosed

theorem run_map_of_orFault {α β : Type} {f : Scan α} {n : Nat} {x : Except Stop (α × List Char)}
    (h : f.run n = orFault input x) (g : α → β) :
    (f >>= fun a ↦ pure (g a)).run n = orFault input (x.map fun r ↦ (g r.1, r.2)) := by
  cases x with
  | error stop => exact run_bind_of_throw h
  | ok r => exact run_bind_of_pure h

theorem orUnclosed_map {α β : Type} (f : α → β) (o : Option α) :
    orUnclosed (o.map f) = (orUnclosed o).map f := by
  cases o <;> rfl

theorem run_readInside {quote : Char} (h : s <:+ input) :
    (readInside input quote).run (offset input s) =
      orFault input (orUnclosed (quoted quote s)) := by
  unfold readInside
  revert s
  apply run_loop
  intro s again hs hagain
  fun_cases quoted quote s with
  | case1 =>
    rw [run_bind_of_pure run_advance_nil]
    rfl
  | case2 =>
    rw [run_bind_of_pure (run_advance_cons hs)]
    simp only [if_true]
    rw [run_bind_of_pure run_advance_nil]
    rfl
  | case3 c s =>
    have hcons : c :: s <:+ input := (List.suffix_cons _ _).trans hs
    rw [run_bind_of_pure (run_advance_cons hs), orUnclosed_map]
    simp only [if_true]
    rw [run_bind_of_pure (run_advance_cons hcons)]
    exact run_map_of_orFault
      (hagain s ((List.suffix_cons _ _).trans hcons) (by simp only [List.length_cons]; omega)) _
  | case4 s hend hmore =>
    have hc : quote ≠ '\\' := ne_backslash hend hmore
    rw [run_bind_of_pure (run_advance_cons hs)]
    simp only [hc, if_false, if_true]
    rfl
  | case5 c s hend hmore hne =>
    have hc : c ≠ '\\' := ne_backslash hend hmore
    rw [run_bind_of_pure (run_advance_cons hs), orUnclosed_map]
    simp only [hc, hne, if_false]
    exact run_map_of_orFault
      (hagain s ((List.suffix_cons _ _).trans hs) (Nat.lt_succ_self _)) _

theorem run_readString {quote : Char} (h : quote :: s <:+ input) :
    (readString input).run (offset input (quote :: s)) =
      orFault input (orUnclosed (quoted quote s)) := by
  rw [readString, run_bind_of_pure (run_advance_cons h)]
  exact run_readInside ((List.suffix_cons _ _).trans h)

theorem suffix_of_quoted {quote : Char} {t r : List Char} (h : quoted quote s = some (t, r)) :
    r <:+ s := by
  obtain ⟨b, rfl, -⟩ := inside_of_quoted h
  exact ⟨b ++ [quote], by simp⟩

theorem dropComma_suffix (s : List Char) : dropComma s <:+ s := by
  obtain ⟨comma, -, hs⟩ := exists_comma s
  exact ⟨comma, hs.symm⟩

theorem run_readArguments (h : s <:+ input) :
    (readArguments input).run (offset input s) = orFault input (orUnclosed (arguments s)) := by
  unfold readArguments
  revert s
  apply run_loop
  intro s again h hagain
  rw [run_next h, arguments_eq]
  cases hs : trimStart s with
  | nil => rfl
  | cons q t =>
    have hcons : q :: t <:+ input := hs ▸ (trimStart_suffix s).trans h
    by_cases hq : isQuote q
    · have hstring := run_readString hcons
      simp only [List.head?_cons, Option.any_some, hq, if_true]
      cases hr : quoted q t with
      | none =>
        rw [hr] at hstring
        exact run_bind_of_throw hstring
      | some x =>
        obtain ⟨arg, r⟩ := x
        rw [hr] at hstring
        have hrest := (suffix_of_quoted hr).trans ((List.suffix_cons q t).trans hcons)
        have hblank := (trimStart_suffix r).trans hrest
        have hless : (dropComma (trimStart r)).length < s.length := by
          have h₁ := length_of_quoted hr
          have h₂ := length_dropComma (trimStart r)
          have h₃ := length_trimStart r
          have h₄ := length_trimStart s
          simp only [hs, List.length_cons] at h₄
          omega
        rw [run_bind_of_pure hstring, run_bind_of_pure (run_skipBlank hrest),
          run_bind_of_pure (run_skipComma hblank), orUnclosed_map]
        exact run_map_of_orFault (hagain _ ((dropComma_suffix _).trans hblank) hless) _
    · simp only [List.head?_cons, Option.any_some, hq]
      rfl

theorem suffix_of_clause {r : List Char} {call : Clause} (h : clause s = .ok (call, r)) :
    r <:+ s := by
  obtain ⟨b, w, rfl, -⟩ := called_of_clause h
  exact ⟨b ++ w, by simp⟩

theorem run_readClause (h : s <:+ input) :
    (readClause input).run (offset input s) = orFault input (clause s) := by
  have htrim := (trimStart_suffix s).trans h
  have hrest := (List.dropWhile_suffix isWordChar).trans htrim
  rw [readClause, run_bind_of_pure (run_skipBlank h), run_bind_of_pure (StateT.run_get _),
    run_bind_of_pure (run_readWhile isWordChar htrim)]
  simp only [clause]
  split
  · rfl
  · have hafter := (trimStart_suffix _).trans hrest
    rw [run_next hrest]
    cases hs : trimStart ((trimStart s).dropWhile isWordChar) with
    | nil => rfl
    | cons c t =>
      rw [hs] at hafter
      by_cases hc : c = ':'
      · subst hc
        have hread := run_map_of_orFault
          (run_readArguments ((List.suffix_cons _ _).trans hafter))
          (Clause.mk (String.ofList ((trimStart s).takeWhile isWordChar)))
        simp only [List.head?_cons, if_true]
        rw [run_bind_of_pure (run_advance_cons hafter)]
        refine hread.trans ?_
        cases arguments t <;> rfl
      · simp only [List.head?_cons, Option.some.injEq, hc, if_false]
        split
        · rename_i u hu
          exact absurd (List.cons.inj hu).1 hc
        · rfl

theorem run_readClauses (h : s <:+ input) :
    (readClauses input).run (offset input s) =
      orFault input ((clauses s).map fun calls ↦ (calls, [])) := by
  unfold readClauses
  revert s
  apply run_loop
  intro s again h hagain
  rw [run_next h, clauses_eq]
  cases hs : trimStart s with
  | nil => rfl
  | cons c t =>
    have hcons : c :: t <:+ input := hs ▸ (trimStart_suffix s).trans h
    by_cases hc : c = '|'
    · have ht := (List.suffix_cons c t).trans hcons
      have hclause := run_readClause ht
      simp only [List.head?_cons, hc, if_true]
      rw [← hc, run_bind_of_pure (run_advance_cons hcons)]
      cases hr : clause t with
      | error stop =>
        rw [hr] at hclause
        exact run_bind_of_throw hclause
      | ok x =>
        obtain ⟨call, r⟩ := x
        rw [hr] at hclause
        have hless : r.length < s.length := by
          have h₁ := length_of_clause hr
          have h₂ := length_trimStart s
          simp only [hs, List.length_cons] at h₂
          omega
        rw [run_bind_of_pure hclause]
        refine (run_map_of_orFault (hagain r ((suffix_of_clause hr).trans ht) hless)
          (call :: ·)).trans ?_
        dsimp only
        cases clauses r <;> rfl
    · simp only [List.head?_cons, hc, if_false]
      rw [run_bind_of_pure (StateT.run_get _)]
      rfl

theorem endsProperty_eq (s : List Char) :
    endsProperty s = s.head?.all fun c ↦ c == '|' || isBlank c := by
  cases s <;> rfl

end Runs

/-- Reading with a cursor from the start of a text gives what reading the text gives. -/
theorem run_readChain (input : List Char) :
    (readChain input).run 0 =
      match parseChain input with
      | .ok b => pure (b, utf8Length input)
      | .error fault => throw fault := by
  have hstart : offset input input = 0 := Nat.sub_self _
  have htrim := trimStart_suffix input
  have hrest := (List.dropWhile_suffix isPropertyChar).trans htrim
  rw [← hstart, readChain, run_bind_of_pure (run_skipBlank (List.suffix_refl _)),
    run_bind_of_pure (run_readWhile isPropertyChar htrim)]
  simp only [parseChain, endsProperty_eq]
  cases property? ((trimStart input).takeWhile isPropertyChar) with
  | none => rfl
  | some p =>
    rw [run_bind_of_pure (run_peek hrest)]
    split
    · have hread := run_map_of_orFault (run_readClauses hrest) (Binding.chain p)
      refine hread.trans ?_
      cases clauses ((trimStart input).dropWhile isPropertyChar) <;> rfl
    · rfl

end DataBinding.Binding
