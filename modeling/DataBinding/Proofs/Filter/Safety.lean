import DataBinding.Filter.Builtin
import DataBinding.Proofs.Filter.Expansion
import DataBinding.Proofs.Filter.Handlers
import DataBinding.Proofs.Pattern.Matches

namespace DataBinding

open Pattern Replacement

namespace Script

def Avoids (e : FilterError) : Script → Prop
  | done result => result ≠ .error e
  | readAttribute _ next => e ≠ .noElement ∧ ∀ a, (next a).Avoids e
  | setAttribute _ _ next => e ≠ .noElement ∧ next.Avoids e
  | innerHtml next => e ≠ .noElement ∧ ∀ html, (next html).Avoids e

variable {E : Type} [FilterTarget E]

theorem Avoids.ne_of_run {e e' : FilterError} {script : Script} (h : script.Avoids e)
    {target target' : Option E} (hr : script.run.run target = .error e' target') : e' ≠ e := by
  induction script generalizing target with
  | done result =>
    cases result with
    | ok v => cases hr
    | error e₁ =>
      cases hr
      rintro rfl
      exact h rfl
  | readAttribute name next ih =>
    rw [run] at hr
    cases target with
    | none => cases hr; exact h.1.symm
    | some el => exact ih _ (h.2 _) hr
  | setAttribute name value next ih =>
    rw [run] at hr
    cases target with
    | none => cases hr; exact h.1.symm
    | some el => exact ih h.2 hr
  | innerHtml next ih =>
    rw [run] at hr
    cases target with
    | none => cases hr; exact h.1.symm
    | some el => exact ih _ (h.2 _) hr

end Script

namespace Pattern

def spans (pattern : Pattern) (text : Array Char) (m : Match) : Spans where
  subject := text.toList
  first := offset text m.start
  last := offset text m.stop
  groups := (List.range pattern.groups).map fun i ↦ do
    return (offset text (← (m.slots[2 * (i + 1)]?).join),
      offset text (← (m.slots[2 * (i + 1) + 1]?).join))
  names := pattern.names

def splice? (pattern : Pattern) (text : Array Char) (replacement : Spans → Option (List Char))
    (position : Nat) : List Match → Option (List Char)
  | [] => some (slice text position text.size)
  | m :: ms => do
    let t ← replacement (spans pattern text m)
    let rest ← splice? pattern text replacement m.stop ms
    return slice text position m.start ++ (t ++ rest)

def replaceAll? (pattern : Pattern) (replacement : Spans → Option (List Char)) (s : List Char) :
    Option (List Char) :=
  let text := s.toArray
  splice? pattern text replacement 0 (allMatches pattern text)

section

variable {pattern : Pattern} {text : Array Char}

theorem Match.Proper.between? {m : Match} {i first stop : Nat} (h : m.Proper i m.start text.size)
    (hfirst : m.slots[2 * i]? = some (some first))
    (hstop : m.slots[2 * i + 1]? = some (some stop)) :
    Text.between? text.toList (offset text first) (offset text stop) =
      some (slice text first stop) :=
  between?_offset (h.noted.ordered trivial first stop hfirst hstop)
    (Nat.le_trans (h.noted.mem _ _ hstop).2 h.le_size)

theorem located_spans {m : Match} (h : ∀ i, m.Proper i m.start text.size) :
    Located (spans pattern text m) (captured pattern text m) := by
  have hle : m.start ≤ m.stop := (h 0).start_le
  have hsize : m.stop ≤ text.size := (h 0).le_size
  refine ⟨upTo?_offset (Nat.le_trans hle hsize), between?_offset hle hsize, from?_offset hsize,
    fun n ↦ ?_, ?_, rfl⟩
  · rw [numbered?, numbered, List.getD_eq_getElem?_getD, List.getD_eq_getElem?_getD]
    simp only [spans, captured, List.getElem?_map]
    cases (List.range pattern.groups)[n - 1]? with
    | none => rfl
    | some i =>
      simp only [Option.map_some, Option.getD_some, groupText]
      cases hfirst : (m.slots[2 * (i + 1)]?).join with
      | none => rfl
      | some first =>
        cases hstop : (m.slots[2 * (i + 1) + 1]?).join with
        | none => rfl
        | some stop =>
          exact (h (i + 1)).between? (Option.join_eq_some_iff.mp hfirst)
            (Option.join_eq_some_iff.mp hstop)
  · simp only [spans, captured, List.length_map]

theorem splice?_eq {replacement? : Spans → Option (List Char)} {replacement : Captured → List Char}
    {ms : List Match} (h : ∀ m ∈ ms, replacement? (spans pattern text m) =
      some (replacement (captured pattern text m))) (position : Nat) :
    splice? pattern text replacement? position ms =
      some (splice text replacement position (ms.map (captured pattern text))) := by
  induction ms generalizing position with
  | nil => rfl
  | cons m ms ih =>
    obtain ⟨hm, hms⟩ := List.forall_mem_cons.mp h
    rw [splice?, hm, ih hms]
    rfl

theorem replaceAll?_expand? {source : String} (h : compile source = .ok pattern)
    (replacement s : List Char) :
    replaceAll? pattern (expand? · replacement) s =
      some (searcher.replaceAll pattern (expand · replacement) s) := by
  refine splice?_eq (fun m hm ↦ ?_) 0
  exact expand?_eq (located_spans (allMatches_proper h s.toArray hm)) replacement

end

end Pattern

namespace Filter

/-- A filter with a script that is none if an argument is not there or a cut is out of place. -/
structure Guarded where
  filter : Filter
  script? : Json → List String → Option Script

def attrText? (v : Json) (args : List String) : Option String :=
  if args.length = 3 then
    if Json.isTruthy (some v) then args[1]? else args[2]?
  else some v.display

def attrScript? (v : Json) (args : List String) : Option Script := do
  let text ← attrText? v args
  let name ← args[0]?
  return .setAttribute name text (.innerHtml fun html ↦ .done (.ok (.string html)))

def checked {α : Type} (expect : Json → Except FilterError α)
    (f : α → List String → Option Result) (v : Json) (args : List String) : Option Script :=
  match expect v with
  | .error e => some (.done (.error e))
  | .ok a => (f a args).map .done

def replaceText? (s : String) (args : List String) : Option Result := do
  match compile (← args[0]?) with
  | .error e => return .error (.pattern e)
  | .ok pattern =>
    let replacement ← args[1]?
    let t ← replaceAll? pattern (expand? · replacement.toList) s.toList
    return .ok (.string (String.ofList t))

def replaceFirstText? (s : String) (args : List String) : Option Result := do
  let found ← args[0]?
  let replacement ← args[1]?
  return .ok (.string (String.ofList
    (Text.replaceFirst found.toList replacement.toList s.toList)))

def splitText? (s : String) (args : List String) : Option Result := do
  let delimiter ← args[0]?
  return .ok (.array ((pieces s.toList delimiter.toList).map fun p ↦ .string (String.ofList p)))

def joinItems? (vs : List Json) (args : List String) : Option Result := do
  let delimiter ← args[0]?
  return .ok (.string (String.ofList (delimiter.toList.intercalate (vs.map Json.render))))

def unchecked (f : Filter) : Guarded := ⟨f, fun v args ↦ some (f.script v args)⟩

/-- The built-in filters. -/
def guarded : List Guarded :=
  [⟨attr, attrScript?⟩, unchecked upcase, unchecked downcase,
    ⟨replace, checked expectString replaceText?⟩,
    ⟨replaceFirst, checked expectString replaceFirstText?⟩,
    ⟨split, checked expectString splitText?⟩, ⟨join, checked expectArray joinItems?⟩,
    unchecked first, unchecked last]

theorem map_filter_guarded : guarded.map Guarded.filter = builtin := rfl

def Guarded.Sound (g : Guarded) : Prop :=
  ∀ v args, g.filter.arity.accepts args.length → g.script? v args = some (g.filter.script v args)

theorem sound_unchecked (f : Filter) : (unchecked f).Sound := fun _ _ _ ↦ rfl

theorem sound_checked {α : Type} {name : String} {arity : Arity}
    {expect : Json → Except FilterError α} {f? : α → List String → Option Result}
    {f : α → List String → Result}
    (h : ∀ a args, arity.accepts args.length → f? a args = some (f a args)) :
    Guarded.Sound
      ⟨ofFunction name arity fun v args ↦ expect v >>= fun a ↦ f a args, checked expect f?⟩ := by
  intro v args hargs
  simp only [checked, ofFunction]
  cases expect v with
  | error e => rfl
  | ok a =>
    simp only [h a args hargs]
    rfl

theorem eq_pair_of_accepts {args : List String} (h : (Arity.exactly 2).accepts args.length) :
    ∃ a b, args = [a, b] := by
  match args, h with
  | [a, b], _ => exact ⟨a, b, rfl⟩

theorem eq_singleton_of_accepts {args : List String}
    (h : (Arity.exactly 1).accepts args.length) : ∃ a, args = [a] :=
  List.length_eq_one_iff.mp (beq_iff_eq.mp h)

theorem sound_attr : Guarded.Sound ⟨attr, attrScript?⟩ := by
  intro v args h
  have hlen : 1 ≤ args.length ∧ args.length ≤ 3 := by
    have hdec := (Bool.and_eq_true _ _ ▸ h : _ ∧ _)
    exact ⟨of_decide_eq_true hdec.1, of_decide_eq_true hdec.2⟩
  match args with
  | [] => exact absurd hlen.1 (by decide)
  | [a] => rfl
  | [a, b] => rfl
  | [a, b, c] =>
    simp only [attrScript?, attrText?, attr, attrScript, attrText]
    cases Json.isTruthy (some v) <;> rfl
  | _ :: _ :: _ :: _ :: _ =>
    simp only [List.length_cons] at hlen
    omega

theorem sound_replace : Guarded.Sound ⟨replace, checked expectString replaceText?⟩ := by
  refine sound_checked fun s args h ↦ ?_
  obtain ⟨source, replacement, rfl⟩ := eq_pair_of_accepts h
  change _ = some ((compile source).mapError FilterError.pattern >>= fun pattern ↦
    .ok (Json.string (String.ofList
      (searcher.replaceAll pattern (expand · replacement.toList) s.toList))))
  simp only [replaceText?, List.getElem?_cons_zero, List.getElem?_cons_succ, Option.bind_eq_bind,
    Option.bind_some]
  cases hc : compile source with
  | error e => rfl
  | ok pattern =>
    simp only [replaceAll?_expand? hc]
    rfl

theorem sound_replaceFirst :
    Guarded.Sound ⟨replaceFirst, checked expectString replaceFirstText?⟩ := by
  refine sound_checked fun s args h ↦ ?_
  obtain ⟨found, replacement, rfl⟩ := eq_pair_of_accepts h
  rfl

theorem sound_split : Guarded.Sound ⟨split, checked expectString splitText?⟩ := by
  refine sound_checked fun s args h ↦ ?_
  obtain ⟨delimiter, rfl⟩ := eq_singleton_of_accepts h
  rfl

theorem sound_join : Guarded.Sound ⟨join, checked expectArray joinItems?⟩ := by
  refine sound_checked fun vs args h ↦ ?_
  obtain ⟨delimiter, rfl⟩ := eq_singleton_of_accepts h
  rfl

/-- As many arguments as a filter takes let all of its checks pass. -/
theorem sound_of_mem {g : Guarded} (hg : g ∈ guarded) : g.Sound := by
  simp only [guarded, List.mem_cons, List.not_mem_nil, or_false] at hg
  obtain rfl | rfl | rfl | rfl | rfl | rfl | rfl | rfl | rfl := hg
  · exact sound_attr
  · exact sound_unchecked upcase
  · exact sound_unchecked downcase
  · exact sound_replace
  · exact sound_replaceFirst
  · exact sound_split
  · exact sound_join
  · exact sound_unchecked first
  · exact sound_unchecked last

def Guarded.Avoids (g : Guarded) (e : FilterError) : Prop :=
  ∀ v args script, g.script? v args = some script → script.Avoids e

theorem avoids_unchecked {e : FilterError} {name : String} {arity : Arity}
    {f : Json → List String → Result} (h : ∀ v args, f v args ≠ .error e) :
    (unchecked (ofFunction name arity f)).Avoids e := by
  rintro v args script ⟨⟩
  exact h v args

theorem avoids_checked {α : Type} {e : FilterError} {f : Filter}
    {expect : Json → Except FilterError α} {f? : α → List String → Option Result}
    (he : ∀ v, expect v ≠ .error e) (hf : ∀ a args, f? a args ≠ some (.error e)) :
    Guarded.Avoids ⟨f, checked expect f?⟩ e := by
  intro v args script h
  simp only [checked] at h
  cases hv : expect v with
  | error e' =>
    rw [hv] at h
    cases h
    rintro ⟨⟩
    exact he v hv
  | ok a =>
    rw [hv] at h
    obtain ⟨result, hr, rfl⟩ := Option.map_eq_some_iff.mp h
    rintro rfl
    exact hf a args hr

theorem expectString_ne (k : Nat) (v : Json) : expectString v ≠ .error (.missingArgument k) := by
  cases v <;> nofun

theorem expectArray_ne (k : Nat) (v : Json) : expectArray v ≠ .error (.missingArgument k) := by
  cases v <;> nofun

theorem onText_ne (k : Nat) (f : List Char → List Char) (v : Json) :
    onText f v ≠ .error (.missingArgument k) := by
  cases v <;> nofun

theorem avoids_attr (k : Nat) : Guarded.Avoids ⟨attr, attrScript?⟩ (.missingArgument k) := by
  intro v args script h
  obtain ⟨text, -, h⟩ := Option.bind_eq_some_iff.mp (show attrScript? v args = _ from h)
  obtain ⟨name, -, h⟩ := Option.bind_eq_some_iff.mp h
  cases h
  exact ⟨nofun, nofun, fun html ↦ nofun⟩

theorem avoids_of_mem {g : Guarded} (hg : g ∈ guarded) (k : Nat) :
    g.Avoids (.missingArgument k) := by
  simp only [guarded, List.mem_cons, List.not_mem_nil, or_false] at hg
  obtain rfl | rfl | rfl | rfl | rfl | rfl | rfl | rfl | rfl := hg
  · exact avoids_attr k
  · exact avoids_unchecked fun v _ ↦ onText_ne k _ v
  · exact avoids_unchecked fun v _ ↦ onText_ne k _ v
  · refine avoids_checked (expectString_ne k) fun s args h ↦ ?_
    obtain ⟨source, -, h⟩ := Option.bind_eq_some_iff.mp h
    split at h
    · cases h
    · obtain ⟨replacement, -, h⟩ := Option.bind_eq_some_iff.mp h
      obtain ⟨t, -, h⟩ := Option.bind_eq_some_iff.mp h
      cases h
  · refine avoids_checked (expectString_ne k) fun s args h ↦ ?_
    obtain ⟨found, -, h⟩ := Option.bind_eq_some_iff.mp h
    obtain ⟨replacement, -, h⟩ := Option.bind_eq_some_iff.mp h
    cases h
  · refine avoids_checked (expectString_ne k) fun s args h ↦ ?_
    obtain ⟨delimiter, -, h⟩ := Option.bind_eq_some_iff.mp h
    cases h
  · refine avoids_checked (expectArray_ne k) fun vs args h ↦ ?_
    obtain ⟨delimiter, -, h⟩ := Option.bind_eq_some_iff.mp h
    cases h
  · exact avoids_unchecked nofun
  · exact avoids_unchecked nofun

end Filter

namespace Filters

theorem mem_foldl_insert {fs : List Filter} {r : Filters} {f : Filter}
    (h : f ∈ (fs.foldl insert r).filters) : f ∈ r.filters ∨ f ∈ fs := by
  induction fs generalizing r with
  | nil => exact .inl h
  | cons g fs ih =>
    rcases ih h with h | h
    · rcases List.mem_append.mp h with h | h
      · exact .inl ((List.mem_filter.mp h).1)
      · exact .inr (List.mem_singleton.mp h ▸ List.mem_cons_self)
    · exact .inr (List.mem_cons_of_mem g h)

theorem mem_of_mem_builtin {f : Filter} (h : f ∈ builtin.filters) : f ∈ Filter.builtin :=
  (mem_foldl_insert h).resolve_left (List.not_mem_nil)

end Filters

namespace Clause

variable {E : Type} [FilterTarget E]

theorem exists_guarded {f : Filter} (hf : f ∈ Filters.builtin.filters) :
    ∃ g ∈ Filter.guarded, g.filter = f :=
  List.mem_map.mp (Filter.map_filter_guarded ▸ Filters.mem_of_mem_builtin hf)

theorem endsWith_of_run_builtin {chain : List Clause} {v : Option Json} {target target' : Option E}
    {e : FilterError} (h : (applyAll Filters.builtin chain v).run target = .error e target') :
    EndsWith (fun source ↦ ∀ k, source ≠ .missingArgument k) e := by
  rw [applyAll_eq_applyAllWith] at h
  refine endsWith_of_run_applyAllWith (fun f hf v args t e t' ha hrun k ↦ ?_) h
  obtain ⟨g, hg, rfl⟩ := exists_guarded hf
  exact (Filter.avoids_of_mem hg k v args _ (Filter.sound_of_mem hg v args ha)).ne_of_run hrun

variable {σ : Type}

/-- Handlers are called with values that are not `null` and as many arguments as their filters
take, and chains do not end with `null`. The built-in filters, called so, find every argument
that they read, and cut texts between characters only; so does a replacement text for any match
that lies in its subject. -/
theorem applyAll_safe (handlers : Filter → Handler σ) (r : Filters) (chain : List Clause)
    (v : Option Json) (s : σ) (target : Option E) :
    (applyAll (E := E) r = applyAllWith scripts r ∧
      mapState Prod.fst ((applyAllWith (noting handlers) r chain v).run (s, [])) =
        (applyAllWith handlers r chain v).run s ∧
      (∀ i ∈ invocations handlers r chain v s,
        i.filter ∈ r.filters ∧ i.value ≠ .null ∧ i.filter.arity.accepts i.args.length) ∧
      ∀ w s', (applyAllWith handlers r chain v).run s = .ok w s' → w ≠ .null) ∧
    (Filter.guarded.map (·.filter) = Filter.builtin ∧
      (∀ i ∈ invocations scripts Filters.builtin chain v target,
        (∃ g ∈ Filter.guarded, g.filter = i.filter) ∧
        ∀ g ∈ Filter.guarded, g.filter = i.filter →
          g.script? i.value i.args = some (i.filter.script i.value i.args)) ∧
      ∀ e target', (applyAll Filters.builtin chain v).run target = .error e target' →
        EndsWith (fun source ↦ ∀ k, source ≠ .missingArgument k) e) ∧
    ∀ m : Spans, InSubject m → ∀ replacement, (expand? m replacement).isSome := by
  have hcalls : ∀ i ∈ invocations handlers r chain v s,
      i.filter ∈ r.filters ∧ i.value ≠ .null ∧ i.filter.arity.accepts i.args.length :=
    fun i hi ↦ of_mem_invocations handlers r hi
  have hresult : ∀ w s', (applyAllWith handlers r chain v).run s = .ok w s' → w ≠ .null := by
    intro w s' h
    rw [run_applyAllWith] at h
    cases hrun : (chain.foldlM (applyWith handlers r) (v.getD .null)).run s with
    | error e s₁ => rw [hrun] at h; cases h
    | ok u s₁ =>
      rw [hrun] at h
      cases h
      exact Json.orBlank_ne_null u
  have hbuiltin : ∀ i ∈ invocations scripts Filters.builtin chain v target,
      (∃ g ∈ Filter.guarded, g.filter = i.filter) ∧
      ∀ g ∈ Filter.guarded, g.filter = i.filter →
        g.script? i.value i.args = some (i.filter.script i.value i.args) := by
    intro i hi
    obtain ⟨hf, -, ha⟩ := of_mem_invocations scripts Filters.builtin hi
    refine ⟨exists_guarded hf, fun g hg hgi ↦ ?_⟩
    rw [← hgi] at ha ⊢
    exact Filter.sound_of_mem hg i.value i.args ha
  have hexpand : ∀ m : Spans, InSubject m → ∀ replacement, (expand? m replacement).isSome := by
    intro m hm replacement
    obtain ⟨c, hc⟩ := hm.exists_located
    rw [expand?_eq hc]
    rfl
  exact ⟨⟨applyAll_eq_applyAllWith r, mapState_run_noting handlers r chain v s [], hcalls, hresult⟩,
    ⟨Filter.map_filter_guarded, hbuiltin,
      fun e target' h ↦ endsWith_of_run_builtin h⟩, hexpand⟩

def umlaut : Spans := ⟨"höher".toList, 1, 3, [some (1, 3), none], []⟩

theorem applyAll_safe_umlaut :
    InSubject umlaut ∧ (expand? umlaut "[$`$1$2$&$é".toList).isSome := by
  have hin : InSubject umlaut := by
    refine ⟨by decide, fun g hg span hspan ↦ ?_⟩
    simp only [umlaut, List.mem_cons, List.not_mem_nil, or_false] at hg
    obtain rfl | rfl := hg
    · cases hspan
      decide
    · cases hspan
  let bare : FilterTarget Unit := ⟨fun _ _ ↦ none, fun el _ _ ↦ el, fun _ ↦ ""⟩
  let same (_ : Filter) : Handler Unit := fun v _ ↦ pure v
  have hsafe := applyAll_safe (E := Unit) same Filters.builtin [] none () none
  exact ⟨hin, hsafe.2.2 umlaut hin _⟩

end Clause

end DataBinding
