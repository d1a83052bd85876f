import DataBinding.Proofs.Binding.Chain

namespace DataBinding.Binding

open Text Grammar

inductive Mark where
  | single
  | double
deriving DecidableEq, Repr

def Mark.char : Mark → Char
  | single => '\x27'
  | double => '\x22'

/-- A text between quotes: a backslash stands before each backslash and each such quote in it. -/
def escaped (quote : Char) (s : List Char) : List Char :=
  s.flatMap fun c ↦ if c = '\\' ∨ c = quote then ['\\', c] else [c]

structure QuotedArgument where
  mark : Mark
  value : String
deriving DecidableEq, Repr

def QuotedArgument.text (a : QuotedArgument) : List Char :=
  a.mark.char :: (escaped a.mark.char a.value.toList ++ [a.mark.char])

structure Spelling where
  name : String
  args : List QuotedArgument
deriving DecidableEq, Repr

namespace Spelling

def clause (c : Spelling) : Clause := ⟨c.name, c.args.map QuotedArgument.value⟩

def argumentsText : List QuotedArgument → List Char
  | [] => []
  | args => ':' :: ' ' :: [',', ' '].intercalate (args.map QuotedArgument.text)

def text (c : Spelling) : List Char :=
  ' ' :: '|' :: ' ' :: (c.name.toList ++ argumentsText c.args)

end Spelling

def chainText (p : Path) (cs : List Spelling) : String :=
  p.text ++ String.ofList (cs.flatMap Spelling.text)

/-- The segments of the path and the names of the filters are words. -/
def OfWords (p : Path) (calls : List Clause) : Prop :=
  (∀ s ∈ p.segments, IsWord s.toList) ∧ ∀ call ∈ calls, IsWord call.name.toList

theorem Mark.isQuote_char (m : Mark) : isQuote m.char := by
  cases m <;> rfl

theorem inside_escaped (quote : Char) (s : List Char) : Inside quote (escaped quote s) s := by
  induction s with
  | nil => exact .nil
  | cons c s ih =>
    rw [escaped, List.flatMap_cons]
    by_cases hc : c = '\\' ∨ c = quote
    · rw [if_pos hc]
      exact .escaped ih
    · rw [if_neg hc]
      rw [not_or] at hc
      exact .plain hc.1 hc.2 ih

theorem QuotedArgument.derives (a : QuotedArgument) : Argument a.text a.value := by
  have h := Argument.quoted a.mark.isQuote_char
    (inside_escaped a.mark.char a.value.toList)
  rwa [String.ofList_toList] at h

theorem arguments_intercalate {w : List Char} (hw : Blank w) (a : QuotedArgument)
    (as : List QuotedArgument) :
    Arguments (w ++ [',', ' '].intercalate ((a :: as).map QuotedArgument.text))
      ((a :: as).map QuotedArgument.value) := by
  induction as generalizing w a with
  | nil =>
    have h := Arguments.cons hw a.derives blank_nil (.inl rfl) .nil
    simpa using h
  | cons b bs ih =>
    have h := Arguments.cons hw a.derives blank_nil (.inr rfl) (ih blank_space b)
    simpa using h

theorem Spelling.given (args : List QuotedArgument) :
    Given (argumentsText args) (args.map QuotedArgument.value) := by
  cases args with
  | nil => exact .none
  | cons a as =>
    exact .some (arguments_intercalate blank_space a as)

theorem clauses_flatMap_text {cs : List Spelling} (h : ∀ c ∈ cs, IsWord c.name.toList) :
    Clauses (cs.flatMap Spelling.text) (cs.map Spelling.clause) := by
  induction cs with
  | nil => exact .nil
  | cons c cs ih =>
    obtain ⟨hc, hcs⟩ := List.forall_mem_cons.mp h
    have hcalled := Called.mk blank_space hc blank_nil (Spelling.given c.args)
    rw [String.ofList_toList] at hcalled
    exact Clauses.cons blank_space hcalled (ih hcs)

theorem dotted_join {segments : List String} (hne : segments ≠ [])
    (h : ∀ s ∈ segments, IsWord s.toList) : Dotted (Path.join segments).toList segments := by
  rw [Path.join, String.toList_intercalate]
  induction segments with
  | nil => exact absurd rfl hne
  | cons s segments ih =>
    obtain ⟨hs, hrest⟩ := List.forall_mem_cons.mp h
    cases segments with
    | nil =>
      have hword := Dotted.word hs
      rw [String.ofList_toList] at hword
      simpa using hword
    | cons t segments =>
      have hdot := Dotted.dot hs (ih (List.cons_ne_nil _ _) hrest)
      rw [String.ofList_toList] at hdot
      simpa using hdot

theorem chain_chainText {p : Path} {cs : List Spelling}
    (h : OfWords p (cs.map Spelling.clause)) :
    Chain (chainText p cs).toList p.segments (cs.map Spelling.clause) := by
  have hnames : ∀ c ∈ cs, IsWord c.name.toList :=
    fun c hc ↦ h.2 c.clause (List.mem_map_of_mem hc)
  have hends : Ends (cs.flatMap Spelling.text ++ []) := by
    intro c hc
    cases cs with
    | nil => cases hc
    | cons d cs =>
      cases hc
      exact .inr rfl
  have hchain := Chain.mk blank_nil (.plain (dotted_join p.nonempty h.1)) hends
    (clauses_flatMap_text hnames) blank_nil
  rw [List.nil_append, List.append_nil] at hchain
  rwa [chainText, String.toList_append, String.toList_ofList]

theorem parse_chainText {p : Path} {cs : List Spelling} (h : OfWords p (cs.map Spelling.clause)) :
    parse .filterChain (chainText p cs) = .ok (.chain p (cs.map Spelling.clause)) := by
  obtain ⟨q, hq, hread⟩ := parseChain_of_chain (chain_chainText h)
  rw [Path.segments_inj] at hq
  subst hq
  exact parse_filterChain_eq_ok.mpr hread

theorem guessStyle_chainText {p : Path} {cs : List Spelling}
    (h : OfWords p (cs.map Spelling.clause)) :
    guessStyle (chainText p cs).toList = .filterChain := by
  rw [guessStyle]
  split
  · rfl
  · rename_i hbar
    rw [if_neg]
    intro hcolon
    rw [chainText, String.toList_append, String.toList_ofList, List.mem_append] at hbar hcolon
    rw [not_or] at hbar
    cases cs with
    | nil =>
      have hcolon' : ':' ∈ p.text.toList := by simpa using hcolon
      exact absurd ((dotted_join p.nonempty h.1).isPropertyChar ':' hcolon') (by decide)
    | cons c cs =>
      refine hbar.2 ?_
      rw [List.flatMap_cons, Spelling.text]
      simp

theorem parse_auto_chainText {p : Path} {cs : List Spelling}
    (h : OfWords p (cs.map Spelling.clause)) :
    parse .auto (chainText p cs) = .ok (.chain p (cs.map Spelling.clause)) := by
  have hguess := guessStyle_chainText h
  rw [← parse_chainText h]
  simp only [parse, Style.resolve, hguess]

theorem isWord_of_clauses {s : List Char} {calls : List Clause} (h : Clauses s calls) :
    ∀ call ∈ calls, IsWord call.name.toList := by
  induction h with
  | nil => simp
  | cons hw hcalled hrest ih =>
    refine List.forall_mem_cons.mpr ⟨?_, ih⟩
    cases hcalled with
    | mk hv hname => simpa using hname

theorem ofWords_of_chain {s : List Char} {p : Path} {calls : List Clause}
    (h : Chain s p.segments calls) : OfWords p calls := by
  cases h with
  | mk hw hp hends hs => exact ⟨(dropFinalDot_of_property hp).isWord, isWord_of_clauses hs⟩

theorem parseAttribute_ne_chain {s : List Char} {p : Path} {calls : List Clause} :
    parseAttribute s ≠ .ok (.chain p calls) := by
  intro h
  simp only [parseAttribute] at h
  split at h
  · split at h
    · cases h
    · split at h <;> cases h
  · cases h

theorem parseChain_of_parse {style : Style} {expression : String} {p : Path} {calls : List Clause}
    (h : parse style expression = .ok (.chain p calls)) :
    parseChain expression.toList = .ok (.chain p calls) := by
  simp only [parse] at h
  split at h
  · cases ha : parseAttribute expression.toList with
    | error e =>
      rw [ha] at h
      cases h
    | ok b =>
      rw [ha] at h
      cases h
      exact absurd ha parseAttribute_ne_chain
  · cases hc : parseChain expression.toList with
    | error e =>
      rw [hc] at h
      cases h
    | ok b =>
      rw [hc] at h
      cases h
      rfl

/-- A chain of words is read back from its text, whatever quotes it is written with; and what is
read as a chain is a chain of words, so that it can be written and read again. -/
theorem parse_text_of_words :
    (∀ (p : Path) (cs : List Spelling), OfWords p (cs.map Spelling.clause) →
      parse .filterChain (chainText p cs) = .ok (.chain p (cs.map Spelling.clause)) ∧
      parse .auto (chainText p cs) = .ok (.chain p (cs.map Spelling.clause))) ∧
    ∀ (style : Style) (expression : String) (p : Path) (calls : List Clause),
      parse style expression = .ok (.chain p calls) →
      OfWords p calls ∧
      ∀ cs : List Spelling, cs.map Spelling.clause = calls →
        parse .filterChain (chainText p cs) = .ok (.chain p calls) ∧
        parse .auto (chainText p cs) = .ok (.chain p calls) := by
  refine ⟨fun p cs h ↦ ⟨parse_chainText h, parse_auto_chainText h⟩, ?_⟩
  intro style expression p calls h
  obtain ⟨q, calls', he, hchain⟩ := chain_of_parseChain (parseChain_of_parse h)
  cases he
  have hwords := ofWords_of_chain hchain
  refine ⟨hwords, ?_⟩
  rintro cs rfl
  exact ⟨parse_chainText hwords, parse_auto_chainText hwords⟩

namespace Greeting

def path : Path := ⟨["model", "name"], by decide, by decide⟩

def spelled : List Spelling :=
  [⟨"replace", [⟨.double, "say \x22hi\x22 | \\"⟩, ⟨.single, "it\x27s: ok,\n"⟩]⟩, ⟨"upcase", []⟩]

def text : String :=
  "model.name | replace: \x22say \\\x22hi\\\x22 | \\\\\x22, \x27it\\\x27s: ok,\n\x27 | upcase"

def withDoubleQuotes : List Spelling :=
  spelled.map fun c ↦ { c with args := c.args.map fun a ↦ { a with mark := .double } }

theorem parse_text_of_words_greeting :
    OfWords path (spelled.map Spelling.clause) ∧
    parse .auto text = .ok (.chain path (spelled.map Spelling.clause)) ∧
    parse .filterChain (chainText path withDoubleQuotes) =
      .ok (.chain path (spelled.map Spelling.clause)) := by
  have hwords : OfWords path (spelled.map Spelling.clause) := by constructor <;> decide
  have htext : chainText path spelled = text := rfl
  have hparse := (parse_text_of_words.1 path spelled hwords).2
  rw [htext] at hparse
  have hagain := (parse_text_of_words.2 .auto text path _ hparse).2 withDoubleQuotes rfl
  exact ⟨hwords, hparse, hagain.1⟩

end Greeting

end DataBinding.Binding
