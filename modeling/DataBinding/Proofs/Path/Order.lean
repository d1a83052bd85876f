import DataBinding.Path.Basic
import Mathlib.Data.List.Basic
import Mathlib.Data.List.Nodup

namespace DataBinding

namespace Path

instance : Std.TransOrd Path where
  eq_swap {p q} := Std.OrientedOrd.eq_swap (a := p.segments) (b := q.segments)
  isLE_trans {p q r} :=
    Std.TransOrd.isLE_trans (a := p.segments) (b := q.segments) (c := r.segments)

end Path

variable {β γ : Type} [Ord γ] (key : β → γ)

/-- A list in the order of its keys. What has the same key stays in its order. -/
def sortOn (l : List β) : List β := l.mergeSort fun a b ↦ (compare (key a) (key b)).isLE

def SortedOn (l : List β) : Prop := l.Pairwise fun a b ↦ (compare (key a) (key b)).isLE

variable {key} [Std.TransOrd γ]

theorem isLE_trans_key (a b c : β) (hab : (compare (key a) (key b)).isLE)
    (hbc : (compare (key b) (key c)).isLE) : (compare (key a) (key c)).isLE :=
  Std.TransOrd.isLE_trans hab hbc

theorem isLE_total_key (a b : β) :
    ((compare (key a) (key b)).isLE || (compare (key b) (key a)).isLE) := by
  rw [Std.OrientedOrd.eq_swap (a := key b)]
  cases compare (key a) (key b) <;> rfl

theorem sortedOn_sortOn (l : List β) : SortedOn key (sortOn key l) :=
  List.pairwise_mergeSort isLE_trans_key isLE_total_key l

variable [DecidableEq γ]

theorem filter_sortOn (l : List β) (k : γ) :
    (sortOn key l).filter (key · = k) = l.filter (key · = k) := by
  have hsorted : SortedOn key (l.filter (key · = k)) := by
    refine List.pairwise_of_forall_mem_list fun a ha b hb ↦ ?_
    rw [of_decide_eq_true (List.mem_filter.mp ha).2, of_decide_eq_true (List.mem_filter.mp hb).2]
    simp
  have hsub : (l.filter (key · = k)).Sublist (sortOn key l) :=
    List.sublist_mergeSort isLE_trans_key isLE_total_key hsorted List.filter_sublist
  have hfilter := hsub.filter (key · = k)
  rw [List.filter_filter] at hfilter
  simp only [Bool.and_self] at hfilter
  exact (hfilter.eq_of_length ((List.mergeSort_perm l _).filter _).length_eq.symm).symm

theorem SortedOn.eq_of_filter [Std.LawfulEqOrd γ] {l m : List β} (hl : SortedOn key l)
    (hm : SortedOn key m) (h : ∀ k, l.filter (key · = k) = m.filter (key · = k)) : l = m := by
  induction l generalizing m with
  | nil =>
    cases m with
    | nil => rfl
    | cons b m => simpa using h (key b)
  | cons a l ih =>
    obtain _ | ⟨b, m⟩ := m
    · simpa using h (key a)
    · obtain ⟨ha, hl'⟩ := List.pairwise_cons.mp hl
      obtain ⟨hb, hm'⟩ := List.pairwise_cons.mp hm
      have hmem (c : β) : c ∈ a :: l ↔ c ∈ b :: m := by
        have hc := congrArg (c ∈ ·) (h (key c))
        simpa only [List.mem_filter, decide_true, and_true, eq_iff_iff] using hc
      have hle {c d : β} {n : List β} (hn : ∀ e ∈ n, (compare (key d) (key e)).isLE)
          (hc : c ∈ d :: n) : (compare (key d) (key c)).isLE := by
        rcases List.mem_cons.mp hc with rfl | hc
        · exact Std.ReflOrd.isLE_rfl
        · exact hn c hc
      have hkey : key a = key b := by
        refine Std.LawfulEqOrd.eq_of_compare (Std.OrientedCmp.isLE_antisymm ?_ ?_)
        · exact hle ha ((hmem b).mpr List.mem_cons_self)
        · exact hle hb ((hmem a).mp List.mem_cons_self)
      have hhead := h (key a)
      simp only [List.filter_cons, hkey, decide_true, if_true, List.cons.injEq] at hhead
      obtain ⟨rfl, -⟩ := hhead
      refine congrArg _ (ih hl' hm' fun k ↦ ?_)
      have hk := h k
      simp only [List.filter_cons] at hk
      split at hk
      · exact (List.cons.inj hk).2
      · exact hk

/-- A list in order that has the same entries for each key is the sorted one. -/
theorem SortedOn.eq_sortOn [Std.LawfulEqOrd γ] {l m : List β} (hl : SortedOn key l)
    (h : ∀ k, l.filter (key · = k) = m.filter (key · = k)) : l = sortOn key m :=
  hl.eq_of_filter (sortedOn_sortOn m) fun k ↦ (h k).trans (filter_sortOn m k).symm

section Groups

variable {δ : Type} [DecidableEq δ] {group : β → δ}

theorem filter_flatMap_filter (l : List β) {ks : List δ} (hks : ks.Nodup) (q : δ) :
    (ks.flatMap fun k ↦ l.filter (group · = k)).filter (group · = q) =
      if q ∈ ks then l.filter (group · = q) else [] := by
  induction ks with
  | nil => rfl
  | cons k ks ih =>
    obtain ⟨hk, hks⟩ := List.nodup_cons.mp hks
    rw [List.flatMap_cons, List.filter_append, ih hks, List.filter_filter]
    by_cases hq : q = k
    · subst hq
      simp [hk]
    · have hnone : l.filter (fun x ↦ decide (group x = q) && decide (group x = k)) = [] := by
        rw [List.filter_eq_nil_iff]
        intro x _ hx
        simp only [Bool.and_eq_true, decide_eq_true_eq] at hx
        exact hq (hx.1.symm.trans hx.2)
      simp [hq, hnone]

/-- Sorting by the ranks of groups puts one group after the other. -/
theorem flatMap_filter_eq_sortOn {rank : δ → Nat} {l : List β} {ks : List δ}
    (hks : ks.Pairwise fun a b ↦ rank a < rank b) (hl : ∀ x ∈ l, group x ∈ ks) :
    (ks.flatMap fun k ↦ l.filter (group · = k)) = sortOn (fun x ↦ rank (group x)) l := by
  have hranks : (ks.map rank).Nodup := (List.pairwise_map.mpr hks).imp Nat.ne_of_lt
  have hgroup {k : δ} {x : β} (hx : x ∈ l.filter (group · = k)) : group x = k :=
    of_decide_eq_true (List.mem_filter.mp hx).2
  have hmem : ∀ x ∈ ks.flatMap fun k ↦ l.filter (group · = k), group x ∈ ks := by
    intro x hx
    obtain ⟨k, hk, hx⟩ := List.mem_flatMap.mp hx
    exact hgroup hx ▸ hk
  refine SortedOn.eq_sortOn ?_ fun r ↦ ?_
  · rw [SortedOn, List.pairwise_flatMap]
    refine ⟨fun k _ ↦ List.pairwise_of_forall_mem_list fun x hx y hy ↦ ?_, ?_⟩
    · rw [hgroup hx, hgroup hy]
      exact Std.ReflOrd.isLE_rfl
    · refine hks.imp fun hab x hx y hy ↦ ?_
      rw [hgroup hx, hgroup hy]
      exact Nat.isLE_compare.mpr (Nat.le_of_lt hab)
  · by_cases hr : ∃ q ∈ ks, rank q = r
    · obtain ⟨q, hq, rfl⟩ := hr
      have hone {x : β} (hx : group x ∈ ks) :
          decide (rank (group x) = rank q) = decide (group x = q) :=
        decide_eq_decide.mpr
          ⟨fun h ↦ List.inj_on_of_nodup_map hranks hx hq h, fun h ↦ congrArg rank h⟩
      rw [List.filter_congr fun x hx ↦ hone (hl x hx),
        List.filter_congr fun x hx ↦ hone (hmem x hx),
        filter_flatMap_filter l hranks.of_map, if_pos hq]
    · have hnone {m : List β} (hm : ∀ x ∈ m, group x ∈ ks) :
          m.filter (fun x ↦ rank (group x) = r) = [] := by
        rw [List.filter_eq_nil_iff]
        exact fun x hx he ↦ hr ⟨group x, hm x hx, of_decide_eq_true he⟩
      rw [hnone hl, hnone hmem]

end Groups

end DataBinding
