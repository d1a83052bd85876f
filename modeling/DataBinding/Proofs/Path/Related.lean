import DataBinding.Path.Basic

namespace DataBinding.Path

variable {p q : Path}

theorem segments_inj : p.segments = q.segments ↔ p = q := by
  cases p
  cases q
  simp

theorem isRelatedTo_iff :
    p.isRelatedTo q ↔ p.segments <+: q.segments ∨ q.segments <+: p.segments := by
  simp only [isRelatedTo, length, beq_iff_eq]
  rcases Nat.le_total p.segments.length q.segments.length with h | h
  · rw [Nat.min_eq_left h, List.take_length, List.prefix_iff_eq_take]
    refine ⟨.inl, fun hr ↦ hr.elim id fun hq ↦ ?_⟩
    rw [List.IsPrefix.eq_of_length_le hq h, List.take_length]
  · rw [Nat.min_eq_right h, List.take_length]
    refine ⟨fun he ↦ .inr (List.prefix_iff_eq_take.mpr he.symm), fun hr ↦ ?_⟩
    rcases hr with hp | hq
    · rw [List.IsPrefix.eq_of_length_le hp h, List.take_length]
    · exact (List.prefix_iff_eq_take.mp hq).symm

theorem isRelatedTo_comm : p.isRelatedTo q ↔ q.isRelatedTo p := by
  rw [isRelatedTo_iff, isRelatedTo_iff, or_comm]

theorem isRelatedTo_self (p : Path) : p.isRelatedTo p :=
  isRelatedTo_iff.mpr (.inl (List.prefix_refl _))

theorem isStrictPrefix_iff {l m : List String} : isStrictPrefix l m ↔ l <+: m ∧ l ≠ m := by
  simp only [isStrictPrefix, Bool.and_eq_true, decide_eq_true_eq, beq_iff_eq]
  constructor
  · rintro ⟨hlt, ht⟩
    refine ⟨List.prefix_iff_eq_take.mpr ht.symm, ?_⟩
    rintro rfl
    exact Nat.lt_irrefl _ hlt
  · rintro ⟨hp, hne⟩
    exact ⟨Nat.lt_of_le_of_ne hp.length_le fun hl ↦ hne (hp.eq_of_length hl),
      (List.prefix_iff_eq_take.mp hp).symm⟩

theorem isAncestorOf_iff : p.isAncestorOf q ↔ p.segments <+: q.segments ∧ p ≠ q := by
  rw [isAncestorOf, isStrictPrefix_iff, Ne, segments_inj]

theorem isRelatedTo_iff_eq_or :
    p.isRelatedTo q ↔ p = q ∨ p.isAncestorOf q ∨ p.isDescendantOf q := by
  rw [isRelatedTo_iff, isDescendantOf, isAncestorOf_iff, isAncestorOf_iff]
  by_cases h : p = q
  · simp [h]
  · simp [h, Ne.symm h]

theorem exists_parting {l m : List String} (hl : ¬ l <+: m) (hm : ¬ m <+: l) :
    ∃ above a b below rest, l = above ++ a :: below ∧ m = above ++ b :: rest ∧ a ≠ b := by
  induction l generalizing m with
  | nil => exact absurd List.nil_prefix hl
  | cons s l ih =>
    rcases m with _ | ⟨t, m⟩
    · exact absurd List.nil_prefix hm
    · by_cases h : s = t
      · subst h
        rw [List.prefix_cons_inj] at hl hm
        obtain ⟨above, a, b, below, rest, rfl, rfl, hab⟩ := ih hl hm
        exact ⟨s :: above, a, b, below, rest, rfl, rfl, hab⟩
      · exact ⟨[], s, t, l, m, rfl, rfl, h⟩

theorem parting_unique {l m above above' below below' rest rest' : List String} {a a' b b' : String}
    (hl : l = above ++ a :: below) (hm : m = above ++ b :: rest) (hab : a ≠ b)
    (hl' : l = above' ++ a' :: below') (hm' : m = above' ++ b' :: rest') (hab' : a' ≠ b') :
    above = above' ∧ a = a' ∧ b = b' := by
  induction above generalizing l m above' with
  | nil =>
    subst hl hm
    cases above' with
    | nil =>
      cases hl'
      cases hm'
      exact ⟨rfl, rfl, rfl⟩
    | cons s above' =>
      cases hl'
      cases hm'
      exact absurd rfl hab
  | cons s above ih =>
    subst hl hm
    cases above' with
    | nil =>
      cases hl'
      cases hm'
      exact absurd rfl hab'
    | cons t above' =>
      simp only [List.cons_append, List.cons.injEq] at hl' hm'
      obtain ⟨rfl, hab⟩ := ih rfl rfl hl'.2 hm'.2
      exact ⟨by rw [hl'.1], hab⟩

theorem exists_parting_of_not_isRelatedTo (h : ¬ p.isRelatedTo q) :
    ∃ above a b below rest, p.segments = above ++ a :: below ∧ q.segments = above ++ b :: rest ∧
      a ≠ b := by
  rw [isRelatedTo_iff, not_or] at h
  exact exists_parting h.1 h.2

end DataBinding.Path
