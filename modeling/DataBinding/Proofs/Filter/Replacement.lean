import DataBinding.Engine.Rendering
import DataBinding.Filter.Builtin
import DataBinding.Markup.Basic
import DataBinding.Proofs.Filter.Chain
import DataBinding.Proofs.Filter.Expansion
import DataBinding.Proofs.Pattern.Splice
import Mathlib

namespace DataBinding

open Pattern Text

namespace Replacement

variable {c : Captured}

/-- A text with its dollar signs doubled. -/
def escape (t : List Char) : List Char := t.flatMap fun d ↦ if d = '$' then ['$', '$'] else [d]

theorem expand_nil : expand c [] = [] := by rw [expand]

theorem expand_cons_of_ne {d : Char} (h : d ≠ '$') (s : List Char) :
    expand c (d :: s) = d :: expand c s := by
  rw [expand, if_neg h]

theorem expand_of_some {s t : List Char} {n : Nat} (h : reference c s = some (t, n)) :
    expand c ('$' :: s) = t ++ expand c (s.drop n) := by
  rw [expand, if_pos rfl, h]

theorem expand_of_none {s : List Char} (h : reference c s = none) :
    expand c ('$' :: s) = '$' :: expand c s := by
  rw [expand, if_pos rfl, h]

theorem expand_escape (c : Captured) (t : List Char) : expand c (escape t) = t := by
  induction t with
  | nil => exact expand_nil
  | cons d t ih =>
    rw [escape, List.flatMap_cons, ← escape]
    split
    · rename_i hd
      have hdollar : reference c ('$' :: escape t) = some (['$'], 1) := rfl
      rw [hd, List.cons_append, List.cons_append, List.nil_append, expand_of_some hdollar,
        List.drop_succ_cons, List.drop_zero, ih, List.singleton_append]
    · rename_i hd
      rw [List.cons_append, List.nil_append, expand_cons_of_ne hd, ih]

theorem expand_whole (c : Captured) : expand c ['$', '&'] = c.whole := by
  have hwhole : reference c ['&'] = some (c.whole, 1) := rfl
  rw [expand_of_some hwhole, List.drop_succ_cons, List.drop_nil, expand_nil, List.append_nil]

/-- What a replacement text stands for as far as it has been read, and what is left of it. -/
inductive Reads (c : Captured) (s : List Char) : List Char → List Char → Prop
  | start : Reads c s [] s
  | char {out rest : List Char} {d : Char} (h : Reads c s out (d :: rest)) (hd : d ≠ '$') :
      Reads c s (out ++ [d]) rest
  | refers {out rest t : List Char} {n : Nat} (h : Reads c s out ('$' :: rest))
      (ht : reference c rest = some (t, n)) : Reads c s (out ++ t) (rest.drop n)
  | keeps {out rest : List Char} (h : Reads c s out ('$' :: rest)) (hn : reference c rest = none) :
      Reads c s (out ++ ['$']) rest

section

variable {s out rest : List Char}

theorem Reads.expand_eq (h : Reads c s out rest) : expand c s = out ++ expand c rest := by
  induction h with
  | start => rw [List.nil_append]
  | char h hd ih => rw [ih, expand_cons_of_ne hd, List.append_cons]
  | refers h ht ih => rw [ih, expand_of_some ht, List.append_assoc]
  | keeps h hn ih => rw [ih, expand_of_none hn, List.append_cons]

theorem Reads.finish (h : Reads c s out rest) : Reads c s (out ++ expand c rest) [] := by
  induction rest using expand.induct c generalizing out with
  | case1 => rwa [expand_nil, List.append_nil]
  | case2 rest t n ht ih =>
    rw [expand_of_some ht, ← List.append_assoc]
    exact ih (h.refers ht)
  | case3 rest hn ih =>
    rw [expand_of_none hn, List.append_cons]
    exact ih (h.keeps hn)
  | case4 d rest hd ih =>
    rw [expand_cons_of_ne hd, List.append_cons]
    exact ih (h.char hd)

theorem Reads.chars {t : List Char} (h : Reads c s out (t ++ rest)) (ht : '$' ∉ t) :
    Reads c s (out ++ t) rest := by
  induction t generalizing out with
  | nil => rwa [List.append_nil]
  | cons d t ih =>
    rw [List.mem_cons, not_or] at ht
    rw [List.append_cons]
    exact ih (h.char (Ne.symm ht.1)) ht.2

end

def HasGroup (groups n : Nat) : Prop := 1 ≤ n ∧ n ≤ groups

instance (groups n : Nat) : Decidable (HasGroup groups n) :=
  inferInstanceAs (Decidable (1 ≤ n ∧ n ≤ groups))

/-- A dollar sign with a number that is no group's, neither by its first digit nor by two digits,
and what stands behind it. -/
inductive Unnumbered (groups : Nat) : List Char → List Char → Prop
  | one {d : Char} {rest : List Char} (hd : d.isDigit) (hrest : ∀ o ∈ rest.head?, ¬ o.isDigit)
      (hone : ¬ HasGroup groups (digit d)) : Unnumbered groups ['$', d] rest
  | two {d o : Char} {rest : List Char} (hd : d.isDigit) (ho : o.isDigit)
      (htwo : ¬ HasGroup groups (10 * digit d + digit o)) (hone : ¬ HasGroup groups (digit d)) :
      Unnumbered groups ['$', d, o] rest

def byName (name : List Char) : List Char := '$' :: '<' :: (name ++ ['>'])

theorem byName_append (name s : List Char) :
    byName name ++ s = '$' :: '<' :: (name ++ '>' :: s) := by
  simp [byName]

/-- A name in angle brackets that no group has. -/
structure Unnamed (names : List (String × Nat)) (name : List Char) : Prop where
  closed : '>' ∉ name
  ne : ∀ g ∈ names, g.1 ≠ String.ofList name

theorem reference_digit {d : Char} (hd : d.isDigit) (s : List Char) :
    reference c (d :: s) =
      (groupReference c (d :: s)).map fun r ↦ (numbered c r.1, r.2) := by
  have hne {e : Char} (he : ¬ e.isDigit) : d ≠ e := fun h ↦ he (h ▸ hd)
  rw [reference_cons, if_neg (hne (by decide)), if_neg (hne (by decide)),
    if_neg (hne (by decide)), if_neg (hne (by decide)), if_pos hd]

theorem Reads.keeps_digit {s out rest : List Char} {d : Char} (hd : d.isDigit)
    (hn : groupReference c (d :: rest) = none) (h : Reads c s out ('$' :: d :: rest)) :
    Reads c s (out ++ ['$']) (d :: rest) :=
  h.keeps (by rw [reference_digit hd, hn, Option.map_none])

theorem groupReference_eq_none {d : Char} {s : List Char} (hone : hasGroup c (digit d) = false)
    (htwo : ∀ o ∈ s.head?, o.isDigit → hasGroup c (10 * digit d + digit o) = false) :
    groupReference c (d :: s) = none := by
  cases s with
  | nil => simp [groupReference, hone]
  | cons o s =>
    have ho := htwo o rfl
    by_cases hd : o.isDigit
    · simp [groupReference, hone, ho hd]
    · simp [groupReference, hone, hd]

theorem reference_name (hc : c.names ≠ []) {name : List Char} (h : '>' ∉ name)
    (s : List Char) :
    reference c ('<' :: (name ++ '>' :: s)) = some (named c name, name.length + 2) := by
  have hname : (name ++ '>' :: s).takeWhile (· != '>') = name := takeWhile_append_cons h s
  have hlt : name.length < (name ++ '>' :: s).length := by
    rw [List.length_append, List.length_cons]
    omega
  have hempty : c.names.isEmpty = false := List.isEmpty_eq_false_iff.mpr hc
  rw [reference, hempty, if_neg Bool.false_ne_true, hname, if_pos hlt]

section

variable {s out rest : List Char}

theorem hasGroup_iff (n : Nat) : hasGroup c n = true ↔ HasGroup c.groups.length n := by
  simp [hasGroup, HasGroup]

theorem named_eq_nil {name : List Char} (h : Unnamed c.names name) : named c name = [] := by
  have hnone : c.names.lookup (String.ofList name) = none :=
    List.lookup_eq_none_iff.mpr fun g hg ↦ bne_iff_ne.mpr (Ne.symm (h.ne g hg))
  rw [named, hnone]

theorem Reads.keeps_number {written : List Char} (hw : Unnumbered c.groups.length written rest)
    (h : Reads c s out (written ++ rest)) : Reads c s (out ++ written) rest := by
  have hlacks {n : Nat} (hn : ¬ HasGroup c.groups.length n) : hasGroup c n = false :=
    Bool.eq_false_iff.mpr (mt (hasGroup_iff n).mp hn)
  have hdollar {d : Char} (hd : d.isDigit) : '$' ≠ d := fun he ↦ absurd (he ▸ hd) (by decide)
  cases hw with
  | @one d _ hd hrest hone =>
    have hnone : groupReference c (d :: rest) = none :=
      groupReference_eq_none (hlacks hone) fun o ho hdigit ↦ absurd hdigit (hrest o ho)
    have hkept : Reads c s (out ++ ['$']) ([d] ++ rest) := h.keeps_digit hd hnone
    rw [List.append_cons]
    exact hkept.chars (by simpa using hdollar hd)
  | @two d o _ hd ho htwo hone =>
    have hnone : groupReference c (d :: o :: rest) = none :=
      groupReference_eq_none (hlacks hone) fun e he _ ↦ by
        cases he
        exact hlacks htwo
    have hkept : Reads c s (out ++ ['$']) ([d, o] ++ rest) := h.keeps_digit hd hnone
    rw [List.append_cons]
    exact hkept.chars (by simpa using ⟨hdollar hd, hdollar ho⟩)

/-- Where no group has a name, the dollar sign before a name stands for itself. -/
theorem Reads.keeps_dollar {name : List Char} (hc : c.names = [])
    (h : Reads c s out (byName name ++ rest)) :
    Reads c s (out ++ ['$']) ('<' :: (name ++ '>' :: rest)) := by
  rw [byName_append] at h
  refine h.keeps ?_
  rw [reference, hc]
  rfl

theorem Reads.keeps_byName {name : List Char} (hc : c.names = [])
    (h : Reads c s out (byName name ++ rest)) (hname : '$' ∉ name) :
    Reads c s (out ++ byName name) rest := by
  have hkept := h.keeps_dollar hc
  rw [List.append_cons name, ← List.cons_append] at hkept
  rw [byName, List.append_cons]
  exact hkept.chars (by simpa using hname)

theorem Reads.drops_byName {name : List Char} (hn : Unnamed c.names name) (hc : c.names ≠ [])
    (h : Reads c s out (byName name ++ rest)) : Reads c s out rest := by
  rw [byName_append] at h
  have hempty := h.refers (reference_name hc hn.closed rest)
  rwa [named_eq_nil hn, List.append_nil, List.drop_succ_cons, List.append_cons,
    List.drop_left'] at hempty
  rw [List.length_append, List.length_singleton]

end

end Replacement

open Replacement

section

variable {E : Type} [FilterTarget E] {ρ : Type} (searcher : Searcher ρ) {source : String}
  {pattern : ρ}

theorem run_applyAll_replace (h : searcher.compile source = .ok pattern) (replacement s : String)
    (b : Option E) :
    (Clause.applyAll (.builtinOver searcher) [⟨"replace", [source, replacement]⟩]
        (some (.string s))).run b =
      .ok (.string (String.ofList
        (searcher.replaceAll pattern (expand · replacement.toList) s.toList))) b := by
  let call : Clause := ⟨"replace", [source, replacement]⟩
  have hfind : (Filters.builtinOver searcher).find? call.name =
      some (Filter.replaceOver searcher) := rfl
  have hscript : (Filter.replaceOver searcher).script (.string s) call.args =
      .done (.ok (.string (String.ofList
        (searcher.replaceAll pattern (expand · replacement.toList) s.toList)))) := by
    change Script.done ((searcher.compile source).mapError FilterError.pattern >>= fun pattern ↦
      .ok (Json.string (String.ofList
        (searcher.replaceAll pattern (expand · replacement.toList) s.toList)))) = _
    rw [h]
    rfl
  exact Clause.run_applyAll_of_script (v := some (.string s)) hfind rfl hscript b

/-- A replacement text with its dollar signs doubled is what each match is replaced by, and `$&`
leaves the text as it is. This is so with every engine whose matches lie in the text one after the
other; those of the patterns that are defined here do, and are found by searching on from the end of
the last one. -/
theorem replace_escaped (h : searcher.compile source = .ok pattern) (s t : String)
    (horder : InOrder s.toList.toArray 0 (searcher.captures pattern s.toList.toArray))
    (b : Option E) :
    let text := s.toList.toArray
    let cs := searcher.captures pattern text
    (List.zipWith (· ++ ·) (gaps text 0 cs) (cs.map Captured.whole ++ [[]])).flatten = s.toList ∧
    (∀ c : Captured, expand c (escape t.toList) = t.toList) ∧
    (Clause.applyAll (.builtinOver searcher) [⟨"replace", [source, String.ofList (escape t.toList)]⟩]
        (some (.string s))).run b =
      .ok (.string (String.ofList (t.toList.intercalate (gaps text 0 cs)))) b ∧
    (Clause.applyAll (.builtinOver searcher) [⟨"replace", [source, "$&"]⟩]
        (some (.string s))).run b = .ok (.string s) b ∧
    Filters.builtinOver Pattern.searcher = .builtin ∧
    ∀ (source : String) (pattern : Pattern) (text : Array Char), compile source = .ok pattern →
      Successive pattern text 0 none (.init (pattern.program.size * (text.size + 1)))
        (allMatches pattern text) ∧
      InOrder text 0 (Pattern.searcher.captures pattern text) := by
  intro text cs
  refine ⟨flatten_gaps_whole horder, fun c ↦ expand_escape c t.toList, ?_, ?_, rfl,
    fun source pattern text hc ↦ successive_of_compile hc text⟩
  · have hconst : (expand · (escape t.toList)) = fun _ ↦ t.toList :=
      funext fun c ↦ expand_escape c t.toList
    rw [run_applyAll_replace searcher h, String.toList_ofList, hconst, Searcher.replaceAll,
      splice_const]
  · have hwhole : (expand · "$&".toList) = Captured.whole := funext expand_whole
    rw [run_applyAll_replace searcher h, hwhole, Searcher.replaceAll, splice_whole horder,
      slice_all, String.ofList_toList]

end

namespace Initial

def pattern : Pattern where
  program := #[.accept, .save 3 0, .char (.ofSet (.single 'a')) 1, .save 2 2]
  start := 3
  groups := 1
  names := [("first", 1)]

theorem compile_eq : compile "(?P<first>a)" = .ok pattern := by
  let form : Form := .capture 1 (some "first") (.text ['a'])
  have hparse : parse "(?P<first>a)".toList =
      .ok (.capture 1 (some "first") (.set (.chars (.single 'a')))) := by cbv
  have hform : Expr.form (.capture 1 (some "first") (.set (.chars (.single 'a')))) = form := by cbv
  have hforwards : form.machine .forwards = ⟨9, 16, false⟩ := by cbv
  have hbackwards : form.machine .backwards = ⟨5, 16, false⟩ := by cbv
  have hsize : form.isTooLarge = false := by
    rw [Form.isTooLarge, hforwards, hbackwards]
    decide
  have hprogram : Program.ofForm form = (pattern.program, pattern.start) := by cbv
  simp only [compile, hparse, bind, Except.bind, hform, hsize, hprogram]
  rfl

def ada : Array Char := "ada".toList.toArray

def firstMatch : Match := ⟨0, 1, #[none, none, some 0, some 1]⟩

def secondMatch : Match := ⟨2, 3, #[none, none, some 2, some 3]⟩

theorem allMatches_eq : allMatches pattern ada = [firstMatch, secondMatch] := by cbv

theorem captures_eq : searcher.captures pattern ada =
    [captured pattern ada firstMatch, captured pattern ada secondMatch] := by
  change (allMatches pattern ada).map (captured pattern ada) = _
  rw [allMatches_eq]
  rfl

theorem gaps_eq : gaps ada 0 (searcher.captures pattern ada) = [[], ['d'], []] := by
  rw [captures_eq]
  rfl

theorem replace_escaped_ada :
    let answer (replacement : String) :=
      (Clause.applyAll .builtin [⟨"replace", ["(?P<first>a)", replacement]⟩]
        (some (.string "ada"))).run (none : Option (ElementIn Markup))
    compile "(?P<first>a)" = .ok pattern ∧ InOrder ada 0 (searcher.captures pattern ada) ∧
      answer "$$<first>$$&$$1" = .ok (.string "$<first>$&$1d$<first>$&$1") none ∧
      answer "$&" = .ok (.string "ada") none := by
  intro answer
  have horder : InOrder ada 0 (searcher.captures pattern ada) :=
    (successive_of_compile compile_eq ada).2
  obtain ⟨-, -, hescaped, hwhole, -⟩ := replace_escaped searcher compile_eq "ada" "$<first>$&$1"
    horder (none : Option (ElementIn Markup))
  rw [← ada, gaps_eq] at hescaped
  exact ⟨compile_eq, horder, hescaped, hwhole⟩

end Initial

section

variable {E : Type} [FilterTarget E] {ρ : Type} (searcher : Searcher ρ) {source : String}
  {pattern : ρ}

/-- Each match is replaced by what the replacement text stands for. Wherever reading this text comes
upon a number that is no group's, the number is kept as it is written. So is a name that no group
has, apart from dollar signs within it, in a pattern that names no group. In a pattern that names
some group it is left out. -/
theorem replace_missing (h : searcher.compile source = .ok pattern) (replacement s : String)
    (b : Option E) :
    (let text := s.toList.toArray
    let cs := searcher.captures pattern text
    (Clause.applyAll (.builtinOver searcher) [⟨"replace", [source, replacement]⟩]
        (some (.string s))).run b =
      .ok (.string (String.ofList (List.zipWith (· ++ ·) (gaps text 0 cs)
        (cs.map (expand · replacement.toList) ++ [[]])).flatten)) b) ∧
    (∀ (c : Captured) (t out rest : List Char),
      (Reads c t out rest → expand c t = out ++ expand c rest ∧
        Reads c t (out ++ expand c rest) []) ∧
      (∀ written, Unnumbered c.groups.length written rest →
        Reads c t out (written ++ rest) → Reads c t (out ++ written) rest) ∧
      ∀ name, Unnamed c.names name → Reads c t out (byName name ++ rest) →
        (c.names = [] → Reads c t (out ++ ['$']) ('<' :: (name ++ '>' :: rest)) ∧
          ('$' ∉ name → Reads c t (out ++ byName name) rest)) ∧
        (c.names ≠ [] → Reads c t out rest)) ∧
    Filters.builtinOver Pattern.searcher = .builtin ∧
    ∀ (pattern : Pattern) (text : Array Char), ∀ c ∈ Pattern.searcher.captures pattern text,
      c.groups.length = pattern.groups ∧ c.names = pattern.names := by
  refine ⟨?_, fun c t out rest ↦ ⟨fun hr ↦ ⟨hr.expand_eq, hr.finish⟩, fun written hw hr ↦
    hr.keeps_number hw, fun name hn hr ↦ ⟨fun hc ↦ ⟨hr.keeps_dollar hc, hr.keeps_byName hc⟩,
      hr.drops_byName hn⟩⟩, rfl, fun pattern text c hc ↦ ?_⟩
  · intro text cs
    rw [run_applyAll_replace searcher h, Searcher.replaceAll, splice_eq_flatten]
  · obtain ⟨m, -, rfl⟩ := List.mem_map.mp hc
    exact ⟨by simp [captured], rfl⟩

end

namespace Initial

theorem replace_missing_ada :
    let t := "$2$<second>$&".toList
    compile "(?P<first>a)" = .ok pattern ∧
      ∃ c ∈ searcher.captures pattern ada,
        Unnumbered c.groups.length ['$', '2'] (byName "second".toList ++ ['$', '&']) ∧
        Unnamed c.names "second".toList ∧
        Reads c t ['$', '2'] ['$', '&'] ∧ expand c t = "$2a".toList := by
  intro t
  let c : Captured := captured pattern ada secondMatch
  have hc : c ∈ searcher.captures pattern ada := by
    rw [captures_eq]
    exact List.mem_cons_of_mem _ List.mem_cons_self
  have hnumber : Unnumbered c.groups.length ['$', '2'] (byName "second".toList ++ ['$', '&']) :=
    .one (by decide) (by rintro o ⟨⟩; decide) (by decide)
  have hname : Unnamed c.names "second".toList := ⟨by decide, by decide⟩
  have hmissing := (replace_missing searcher compile_eq "$2$<second>$&" "ada"
    (none : Option (ElementIn Markup))).2.1 c t
  have hfirst : Reads c t ['$', '2'] (byName "second".toList ++ ['$', '&']) :=
    (hmissing [] _).2.1 ['$', '2'] hnumber .start
  have hsecond : Reads c t ['$', '2'] ['$', '&'] :=
    ((hmissing _ _).2.2 _ hname hfirst).2 (List.cons_ne_nil _ _)
  refine ⟨compile_eq, c, hc, hnumber, hname, hsecond, ?_⟩
  rw [((hmissing _ _).1 hsecond).1, expand_whole]
  rfl

/-- A name that no group has is left out, since another group has one. -/
theorem unnamed_left_out :
    Unnamed pattern.names "second".toList ∧
      (Clause.applyAll .builtin [⟨"replace", ["(?P<first>a)", "$<second>"]⟩]
        (some (.string "ada"))).run (none : Option (ElementIn Markup)) = .ok (.string "d") none ∧
      ¬ ∀ (source : String) (p : Pattern), compile source = .ok p →
        ∀ text, ∀ c ∈ searcher.captures p text, ∀ t out name rest, Unnamed p.names name →
          Reads c t out (byName name ++ rest) →
          expand c t = out ++ byName name ++ expand c rest := by
  have hname : Unnamed pattern.names "second".toList := ⟨by decide, by decide⟩
  have hempty (m : Match) : expand (captured pattern ada m) (byName "second".toList) = [] := by
    have hread : Reads (captured pattern ada m) (byName "second".toList) []
        (byName "second".toList ++ []) := .start
    rw [(hread.drops_byName hname (List.cons_ne_nil _ _)).expand_eq, expand_nil]
    rfl
  refine ⟨hname, ?_, fun h ↦ ?_⟩
  · have hconst :
        searcher.replaceAll pattern (expand · "$<second>".toList) "ada".toList = ['d'] := by
      have htext : "$<second>".toList = byName "second".toList := rfl
      rw [Searcher.replaceAll, splice_eq_flatten, ← ada, gaps_eq, captures_eq, List.map_cons,
        List.map_cons, List.map_nil, htext, hempty, hempty]
      rfl
    rw [Filters.builtin, run_applyAll_replace searcher compile_eq, hconst]
  · have hc : captured pattern ada firstMatch ∈ searcher.captures pattern ada := by
      rw [captures_eq]
      exact List.mem_cons_self
    have hkept := h "(?P<first>a)" pattern compile_eq ada _ hc (byName "second".toList) []
      "second".toList [] hname .start
    rw [hempty] at hkept
    cases hkept

end Initial

end DataBinding
