import DataBinding.Proofs.Path.Order
import DataBinding.Proofs.Path.Overwrite
import DataBinding.Proofs.Path.Text

namespace DataBinding.Path

variable {p q : Path}

theorem compare_append {rest : List String} (h : rest ≠ []) (l : List String) :
    compare l (l ++ rest) = .lt := by
  induction l with
  | nil =>
    obtain ⟨s, rest, rfl⟩ := List.exists_cons_of_ne_nil h
    exact List.compare_nil_cons
  | cons s l ih =>
    rw [List.cons_append, List.compare_cons_cons, Std.ReflOrd.compare_self, ih]
    rfl

theorem compare_of_isAncestorOf (h : p.isAncestorOf q) : compare p q = .lt := by
  obtain ⟨below, rfl⟩ := isAncestorOf_iff_exists_append.mp h
  exact compare_append below.nonempty p.segments

theorem isPrefix_of_between {l x y z : List String} (hx : l <+: x) (hz : l <+: z)
    (hxy : (compare x y).isLE) (hyz : (compare y z).isLE) : l <+: y := by
  induction l generalizing x y z with
  | nil => exact List.nil_prefix
  | cons s l ih =>
    obtain ⟨x, rfl⟩ := hx
    obtain ⟨z, rfl⟩ := hz
    cases y with
    | nil => cases hxy
    | cons t y =>
      rw [List.cons_append, List.compare_cons_cons, Ordering.isLE_then_iff_and] at hxy hyz
      obtain rfl : s = t :=
        Std.LawfulEqOrd.eq_of_compare (Std.OrientedCmp.isLE_antisymm hxy.1 hyz.1)
      rw [Std.ReflOrd.compare_self] at hxy hyz
      rw [List.prefix_cons_inj]
      exact ih (List.prefix_append l x) (List.prefix_append l z) (hxy.2.resolve_left nofun)
        (hyz.2.resolve_left nofun)

theorem eq_or_isAncestorOf_iff : p = q ∨ p.isAncestorOf q ↔ p.segments <+: q.segments := by
  rw [isAncestorOf_iff]
  constructor
  · rintro (rfl | ⟨h, -⟩)
    · exact List.prefix_refl _
    · exact h
  · intro h
    by_cases he : p = q
    · exact .inl he
    · exact .inr ⟨h, he⟩

theorem not_isAncestorOf_self (p : Path) : ¬ p.isAncestorOf p :=
  fun h ↦ (isAncestorOf_iff.mp h).2 rfl

theorem isAncestorOf_asymm (h : p.isAncestorOf q) : ¬ q.isAncestorOf p := by
  intro h'
  obtain ⟨hle, hne⟩ := isAncestorOf_iff.mp h
  obtain ⟨hge, -⟩ := isAncestorOf_iff.mp h'
  exact hne (segments_inj.mp (hle.eq_of_length_le hge.length_le))

theorem count_relations (p q : Path) :
    [decide (p = q), p.isAncestorOf q, p.isDescendantOf q, !p.isRelatedTo q].count true = 1 := by
  have hrelated : p.isRelatedTo q = (decide (p = q) || p.isAncestorOf q || p.isDescendantOf q) := by
    rw [Bool.eq_iff_iff, isRelatedTo_iff_eq_or, Bool.or_eq_true, Bool.or_eq_true, or_assoc,
      decide_eq_true_iff]
  rw [hrelated, isDescendantOf]
  by_cases he : p = q
  · subst he
    simp [not_isAncestorOf_self]
  · cases hpq : p.isAncestorOf q with
    | true => simp [he, isAncestorOf_asymm hpq]
    | false => cases hqp : q.isAncestorOf p <;> simp [he]

theorem pairwise_prefixes (p : Path) : p.prefixes.Pairwise fun q r ↦ compare q r = .lt := by
  rw [prefixes, List.pairwise_filterMap]
  refine List.pairwise_lt_range.imp_of_mem fun {n m} _ hmem hlt q hq r hr ↦ ?_
  have hm : m < p.segments.length := List.mem_range.mp hmem
  rw [ofSegments?_eq_some_iff] at hq hr
  refine compare_of_isAncestorOf (isAncestorOf_iff.mpr ⟨?_, ?_⟩)
  · rw [hq, hr]
    exact List.take_prefix_take_left (Nat.succ_le_succ hlt.le)
  · rintro rfl
    have hlen := congrArg List.length (hq.symm.trans hr)
    rw [List.length_take, List.length_take] at hlen
    omega

/-- Two paths are equal, or one is a strict prefix of the other, or they are unrelated. The prefixes
of a path are the path and its ancestors, in ascending order. A path comes before its descendants,
and nothing but descendants stands between them. -/
theorem relations_agree_with_order (p q : Path) :
    [decide (p = q), p.isAncestorOf q, p.isDescendantOf q, !p.isRelatedTo q].count true = 1 ∧
      (p.isAncestorOf q ↔ p.segments <+: q.segments ∧ p.segments ≠ q.segments) ∧
      p.isRelatedTo q = q.isRelatedTo p ∧
      (p.isRelatedTo q ↔ p = q ∨ p.isAncestorOf q ∨ p.isDescendantOf q) ∧
      (p ∈ q.prefixes ↔ p = q ∨ p.isAncestorOf q) ∧
      q.prefixes.Pairwise (fun r s ↦ compare r s = .lt) ∧
      (p.isAncestorOf q → compare p q = .lt) ∧
      ∀ x y z : Path, (p = x ∨ p.isAncestorOf x) → (p = z ∨ p.isAncestorOf z) →
        (compare x y).isLE → (compare y z).isLE → p = y ∨ p.isAncestorOf y := by
  refine ⟨count_relations p q, isStrictPrefix_iff, Bool.eq_iff_iff.mpr isRelatedTo_comm,
    isRelatedTo_iff_eq_or, ?_, pairwise_prefixes q, compare_of_isAncestorOf, ?_⟩
  · rw [mem_prefixes_iff, eq_or_isAncestorOf_iff]
  · intro x y z hx hz hxy hyz
    rw [eq_or_isAncestorOf_iff] at hx hz ⊢
    exact isPrefix_of_between hx hz hxy hyz

theorem relations_agree_with_order_model :
    let model : Path := ⟨["model"], by decide, by decide⟩
    let pages : Path := ⟨["model", "pages"], by decide, by decide⟩
    let current : Path := ⟨["model", "pages", "current"], by decide, by decide⟩
    let view : Path := ⟨["model-view"], by decide, by decide⟩
    current.prefixes = [model, pages, current] ∧
      model.isAncestorOf current ∧ compare model pages = .lt ∧ compare pages current = .lt ∧
      (model = pages ∨ model.isAncestorOf pages) ∧
      compare model view = .lt ∧ ¬ (compare view current).isLE := by
  intro model pages current view
  have hmodel : model.isAncestorOf current := by decide
  have hpages : pages.isAncestorOf current := by decide
  obtain ⟨-, -, -, -, -, -, -, hbetween⟩ := relations_agree_with_order model current
  obtain ⟨-, -, -, -, -, -, hcurrent, -⟩ := relations_agree_with_order pages current
  have hfirst : compare model pages = .lt := by decide
  have hlast : compare pages current = .lt := hcurrent hpages
  refine ⟨by decide, hmodel, hfirst, hlast, ?_, by decide, by decide⟩
  exact hbetween model pages current (.inl rfl) (.inr hmodel) (by rw [hfirst]; rfl)
    (by rw [hlast]; rfl)

end DataBinding.Path
