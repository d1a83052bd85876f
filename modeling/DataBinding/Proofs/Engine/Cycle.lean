import DataBinding.Engine.Dependencies
import Mathlib.Logic.Relation

namespace DataBinding.Dependencies

open Relation

variable (g : Dependencies) (sources : List Path)

/-- A write to `x` recomputes `y`. -/
def Feeds (x y : Path) : Prop := ∃ inputs, (y, inputs) ∈ g.edges ∧ ∃ i ∈ inputs, i.isRelatedTo x

/-- A write to `x` can change what is read at one of the sources. -/
def Touches (x : Path) : Prop := ∃ source ∈ sources, source.isRelatedTo x

theorem related?_isSome_iff (x : Path) : (related? sources x).isSome ↔ Touches sources x := by
  simp only [related?, List.find?_isSome, Touches]

theorem related?_eq_none_iff (x : Path) : related? sources x = none ↔ ¬ Touches sources x := by
  rw [← related?_isSome_iff, Bool.not_eq_true, Option.isSome_eq_false_iff,
    Option.isNone_iff_eq_none]

variable {g sources}

theorem feeds_cons {computed written y : Path} {inputs : List Path}
    {edges : List (Path × List Path)} :
    Feeds ⟨(computed, inputs) :: edges⟩ written y ↔
      (y = computed ∧ inputs.any (·.isRelatedTo written)) ∨ Feeds ⟨edges⟩ written y := by
  constructor
  · rintro ⟨i, hi, hr⟩
    rcases List.mem_cons.mp hi with hi | hi
    · cases hi
      exact .inl ⟨rfl, List.any_eq_true.mpr hr⟩
    · exact .inr ⟨i, hi, hr⟩
  · rintro (⟨rfl, ha⟩ | ⟨i, hi, hr⟩)
    · exact ⟨inputs, List.mem_cons_self, List.any_eq_true.mp ha⟩
    · exact ⟨i, List.mem_cons_of_mem _ hi, hr⟩

theorem follow_ok {written : Path} {edges : List (Path × List Path)} {f f' : Frontier}
    (h : follow sources written edges f = .ok f') :
    ∃ new, f' = ⟨new ++ f.seen, new ++ f.pending⟩ ∧
      (∀ y ∈ new, Feeds ⟨edges⟩ written y ∧ ¬ Touches sources y) ∧
      ∀ y, Feeds ⟨edges⟩ written y → y ∈ f'.seen := by
  induction edges generalizing f with
  | nil =>
    simp only [follow, Except.ok.injEq] at h
    exact ⟨[], by simp [h], by simp, by simp [Feeds]⟩
  | cons e edges ih =>
    obtain ⟨computed, inputs⟩ := e
    simp only [follow] at h
    split at h
    · -- the target has been seen, or the write does not feed it
      rename_i hskip
      obtain ⟨new, hf, hnew, hall⟩ := ih h
      refine ⟨new, hf, fun y hy ↦ ⟨feeds_cons.mpr (.inr (hnew y hy).1), (hnew y hy).2⟩,
        fun y hy ↦ ?_⟩
      rcases feeds_cons.mp hy with ⟨rfl, ha⟩ | hy
      · rw [hf]
        exact List.mem_append_right _ (hskip.resolve_right (not_not_intro ha))
      · exact hall y hy
    · rename_i htake
      have ha := Decidable.not_not.mp (not_or.mp htake).2
      split at h
      · cases h
      · rename_i hclean
        obtain ⟨new, hf, hnew, hall⟩ := ih h
        refine ⟨new ++ [computed], by simp [hf], fun y hy ↦ ?_, fun y hy ↦ ?_⟩
        · rcases List.mem_append.mp hy with hy | hy
          · exact ⟨feeds_cons.mpr (.inr (hnew y hy).1), (hnew y hy).2⟩
          · rw [List.mem_singleton.mp hy]
            exact ⟨feeds_cons.mpr (.inl ⟨rfl, ha⟩),
              (related?_eq_none_iff sources computed).mp hclean⟩
        · rcases feeds_cons.mp hy with ⟨rfl, -⟩ | hy
          · simp [hf]
          · exact hall y hy

theorem follow_error {written source : Path} {edges : List (Path × List Path)} {f : Frontier}
    (h : follow sources written edges f = .error source) :
    ∃ y, Feeds ⟨edges⟩ written y ∧ Touches sources y := by
  induction edges generalizing f with
  | nil => simp [follow] at h
  | cons e edges ih =>
    obtain ⟨computed, inputs⟩ := e
    simp only [follow] at h
    split at h
    · obtain ⟨y, hy, ht⟩ := ih h
      exact ⟨y, feeds_cons.mpr (.inr hy), ht⟩
    · rename_i htake
      have ha := Decidable.not_not.mp (not_or.mp htake).2
      split at h
      · rename_i s hs
        refine ⟨computed, feeds_cons.mpr (.inl ⟨rfl, ha⟩), ?_⟩
        rw [← related?_isSome_iff, hs]
        rfl
      · obtain ⟨y, hy, ht⟩ := ih h
        exact ⟨y, feeds_cons.mpr (.inr hy), ht⟩

/-- What the search knows when a round begins: everything seen is reached from the start and
touches no source, and what is not pending has been followed. -/
structure Explored (g : Dependencies) (sources : List Path) (start : Path) (f : Frontier) :
    Prop where
  start_mem : start ∈ f.seen
  reached : ∀ x ∈ f.seen, ReflTransGen g.Feeds start x
  clean : ∀ x ∈ f.seen, ¬ Touches sources x
  pending_seen : ∀ x ∈ f.pending, x ∈ f.seen
  followed : ∀ x ∈ f.seen, x ∉ f.pending → ∀ y, g.Feeds x y → y ∈ f.seen

theorem Explored.init {start : Path} (h : ¬ Touches sources start) :
    Explored g sources start ⟨[start], [start]⟩ where
  start_mem := List.mem_singleton_self start
  reached x hx := by rw [List.mem_singleton.mp hx]
  clean x hx := by rwa [List.mem_singleton.mp hx]
  pending_seen x hx := hx
  followed x hx hp := absurd hx hp

theorem Explored.next {start written : Path} {f f' : Frontier} {pending : List Path}
    (h : Explored g sources start f) (hp : f.pending = written :: pending)
    (hf : follow sources written g.edges { f with pending } = .ok f') :
    Explored g sources start f' := by
  obtain ⟨new, rfl, hnew, hall⟩ := follow_ok hf
  have hw : written ∈ f.seen := h.pending_seen written (by simp [hp])
  refine ⟨List.mem_append_right _ h.start_mem, ?_, ?_, ?_, ?_⟩
  · intro x hx
    rcases List.mem_append.mp hx with hx | hx
    · exact (h.reached written hw).tail (hnew x hx).1
    · exact h.reached x hx
  · intro x hx
    rcases List.mem_append.mp hx with hx | hx
    · exact (hnew x hx).2
    · exact h.clean x hx
  · intro x hx
    rcases List.mem_append.mp hx with hx | hx
    · exact List.mem_append_left _ hx
    · exact List.mem_append_right _ (h.pending_seen x (by simp [hp, hx]))
  · intro x hx hn y hy
    rcases List.mem_append.mp hx with hx | hx
    · exact absurd (List.mem_append_left _ hx) hn
    · by_cases he : x = written
      · exact hall y (he ▸ hy)
      · have hn' : x ∉ f.pending := by
          rw [hp, List.mem_cons, not_or]
          exact ⟨he, fun hx ↦ hn (List.mem_append_right _ hx)⟩
        exact List.mem_append_right _ (h.followed x hx hn' y hy)

theorem explore_isSome_iff {start : Path} {f : Frontier} (h : Explored g sources start f) :
    (explore g sources f).isSome ↔ ∃ x, ReflTransGen g.Feeds start x ∧ Touches sources x := by
  fun_induction explore g sources f with
  | case1 f hp =>
    have hseen (x : Path) (hx : ReflTransGen g.Feeds start x) : x ∈ f.seen := by
      induction hx with
      | refl => exact h.start_mem
      | tail _ hs ih => exact h.followed _ ih (by simp [hp]) _ hs
    simp only [Option.isSome_none, Bool.false_eq_true, false_iff, not_exists, not_and]
    exact fun x hx ↦ h.clean x (hseen x hx)
  | case2 f written pending hp source hf =>
    obtain ⟨y, hy, ht⟩ := follow_error hf
    have hw := h.reached written (h.pending_seen written (by simp [hp]))
    simp only [Option.isSome_some, true_iff]
    exact ⟨y, hw.tail hy, ht⟩
  | case3 f written pending hp f' hf ih => exact ih (h.next hp hf)

theorem not_touches_of_cycleVia {target : Path} (h : g.cycleVia target sources = none) :
    ¬ Touches sources target := by
  unfold cycleVia at h
  split at h
  · cases h
  · rename_i hn
    exact (related?_eq_none_iff sources target).mp hn

/-- A declaration is refused exactly when a source is related to its target, or to the end of a
chain of declared targets that starts at its target and in which each one feeds the next. -/
theorem cycleVia_isSome_iff (g : Dependencies) (target : Path) (sources : List Path) :
    (g.cycleVia target sources).isSome ↔
      (∃ s ∈ sources, s.isRelatedTo target) ∨
        ∃ x, TransGen g.Feeds target x ∧ ∃ s ∈ sources, s.isRelatedTo x := by
  unfold cycleVia
  split
  · rename_i s hs
    have ht : Touches sources target := by
      rw [← related?_isSome_iff, hs]
      rfl
    simp only [Option.isSome_some, true_iff]
    exact .inl ht
  · rename_i hn
    have ht := (related?_eq_none_iff sources target).mp hn
    rw [explore_isSome_iff (.init ht)]
    constructor
    · rintro ⟨x, hx, hs⟩
      rcases reflTransGen_iff_eq_or_transGen.mp hx with rfl | hx
      · exact absurd hs ht
      · exact .inr ⟨x, hx, hs⟩
    · rintro (hs | ⟨x, hx, hs⟩)
      · exact absurd hs ht
      · exact ⟨x, hx.to_reflTransGen, hs⟩

end DataBinding.Dependencies
