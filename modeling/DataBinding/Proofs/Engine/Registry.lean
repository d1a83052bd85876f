import DataBinding.Proofs.Engine.Observers
import DataBinding.Proofs.Path.Order
import Mathlib.Data.List.Induction

namespace DataBinding.Observers

variable {κ : Type}

def callbacksOn (o : Observers κ) (p : Path) : List κ := (o.entries.lookup p).getD []

theorem count_eq (o : Observers κ) (p : Path) : o.count p = (o.callbacksOn p).length := by
  rw [count, callbacksOn]
  cases o.entries.lookup p <;> rfl

theorem callbacksOn_observe (o : Observers κ) (p : Path) (c : κ) (q : Path) :
    (o.observe p c).callbacksOn q = o.callbacksOn q ++ if p = q then [c] else [] := by
  have hnone {entries : List (Path × List κ)} (h : ∀ e ∈ entries, e.1 ≠ p) :
      entries.lookup p = none :=
    List.lookup_eq_none_iff.mpr fun e he ↦ by simpa using Ne.symm (h e he)
  rcases observe_cases o p c with ⟨before, cs, after, he, hb, ho⟩ | ⟨hnew, ho⟩
  · simp only [ho, callbacksOn, he, List.lookup_append, List.lookup_cons]
    by_cases hq : p = q
    · subst hq
      simp [hnone hb]
    · have hne : (q == p) = false := by simpa using Ne.symm hq
      simp [hq, hne]
  · simp only [ho, callbacksOn, List.lookup_append, List.lookup_cons, List.lookup_nil]
    by_cases hq : p = q
    · subst hq
      simp [hnone hnew]
    · have hne : (q == p) = false := by simpa using Ne.symm hq
      simp [hq, hne]

theorem ofList_append (L : List (Path × κ)) (e : Path × κ) :
    ofList (L ++ [e]) = (ofList L).observe e.1 e.2 := by
  rw [ofList, List.foldl_append]
  rfl

theorem callbacksOn_ofList (L : List (Path × κ)) (p : Path) :
    (ofList L).callbacksOn p = registered L p := by
  induction L using List.reverseRecOn with
  | nil => rfl
  | append_singleton L e ih => rw [ofList_append, callbacksOn_observe, ih, registered_append]

def paths (o : Observers κ) : List Path := o.entries.map (·.1)

theorem paths_observe (o : Observers κ) (p : Path) (c : κ) :
    (o.observe p c).paths = if p ∈ o.paths then o.paths else o.paths ++ [p] := by
  rcases observe_cases o p c with ⟨before, cs, after, he, -, ho⟩ | ⟨hnew, ho⟩
  · simp [ho, paths, he]
  · have hp : p ∉ o.paths := fun h ↦ by
      obtain ⟨e, he, hep⟩ := List.mem_map.mp h
      exact hnew e he hep
    rw [if_neg hp]
    simp [ho, paths]

/-- How many registrations came before the first one on a path. -/
def firstAt (registrations : List (Path × κ)) (p : Path) : Nat :=
  (registrations.map (·.1)).idxOf p

theorem mem_paths_ofList {L : List (Path × κ)} {p : Path} :
    p ∈ (ofList L).paths ↔ p ∈ L.map (·.1) := by
  induction L using List.reverseRecOn with
  | nil => rfl
  | append_singleton L e ih =>
    rw [ofList_append, paths_observe, List.map_append, List.mem_append, ← ih]
    split
    · rename_i he
      simp only [List.map_cons, List.map_nil, List.mem_singleton]
      exact ⟨.inl, fun h ↦ h.elim id fun hp ↦ hp ▸ he⟩
    · simp

theorem pairwise_firstAt (L : List (Path × κ)) :
    (ofList L).paths.Pairwise fun p q ↦ firstAt L p < firstAt L q := by
  induction L using List.reverseRecOn with
  | nil => exact List.Pairwise.nil
  | append_singleton L e ih =>
    have hkeep {p : Path} (hp : p ∈ (ofList L).paths) : firstAt (L ++ [e]) p = firstAt L p := by
      rw [firstAt, List.map_append, List.idxOf_append_of_mem (mem_paths_ofList.mp hp)]
      rfl
    have hold : (ofList L).paths.Pairwise fun p q ↦ firstAt (L ++ [e]) p < firstAt (L ++ [e]) q :=
      ih.imp_of_mem fun hp hq hlt ↦ by rwa [hkeep hp, hkeep hq]
    rw [ofList_append, paths_observe]
    split
    · exact hold
    · rename_i hnew
      refine List.pairwise_append.mpr ⟨hold, List.pairwise_singleton _ _, fun p hp q hq ↦ ?_⟩
      rw [List.mem_singleton.mp hq, hkeep hp, firstAt, firstAt, List.map_append,
        List.idxOf_append_of_notMem fun h ↦ hnew (mem_paths_ofList.mpr h)]
      exact Nat.lt_of_lt_of_le (List.idxOf_lt_length_of_mem (mem_paths_ofList.mp hp))
        (Nat.le_add_right _ _)

theorem relatedTo_ofList (L : List (Path × κ)) (p : Path) :
    (ofList L).relatedTo p =
      ((ofList L).paths.filter (·.isRelatedTo p)).flatMap (registered L) := by
  have h := lists_ofList L
  rw [h.relatedTo_eq, paths, List.filter_map, List.flatMap_map]
  exact List.flatMap_congr fun e he ↦ ((h.mem_entries e.1 e.2).mp (List.mem_filter.mp he).1).1

/-- A write triggers the callbacks of the registrations on related paths, one for each of them: in
the order in which their paths were first observed, and on one path in order of registration. The
callbacks on a path are as many as the registrations on exactly that path. -/
theorem relatedTo_ofList_eq_sortOn (L : List (Path × κ)) (p : Path) :
    (ofList L).relatedTo p =
        (sortOn (fun e ↦ firstAt L e.1) (L.filter (·.1.isRelatedTo p))).map (·.2) ∧
      ∀ q, (ofList L).count q = L.countP (·.1 = q) := by
  refine ⟨?_, fun q ↦ ?_⟩
  · have hsort :
        (((ofList L).paths.filter (·.isRelatedTo p)).flatMap fun q ↦
          (L.filter (·.1.isRelatedTo p)).filter (·.1 = q)) =
        sortOn (fun e ↦ firstAt L e.1) (L.filter (·.1.isRelatedTo p)) := by
      refine flatMap_filter_eq_sortOn ((pairwise_firstAt L).sublist List.filter_sublist)
        fun e he ↦ ?_
      obtain ⟨he, hr⟩ := List.mem_filter.mp he
      exact List.mem_filter.mpr ⟨mem_paths_ofList.mpr (List.mem_map_of_mem he), hr⟩
    rw [relatedTo_ofList, ← hsort, List.map_flatMap]
    refine List.flatMap_congr fun q hq ↦ ?_
    rw [registered, List.filter_filter]
    refine congrArg _ (List.filter_congr fun e _ ↦ ?_)
    by_cases he : e.1 = q
    · subst he
      simpa using (List.mem_filter.mp hq).2
    · simp [he]
  · rw [count_eq, callbacksOn_ofList, registered, List.length_map, List.countP_eq_length_filter]
    rfl

example :
    let a : Path := ⟨["a"], by decide, by decide⟩
    let ab : Path := ⟨["a", "b"], by decide, by decide⟩
    (ofList [(ab, 1), (a, 2), (ab, 3)]).relatedTo a = [1, 3, 2] := by
  cbv

end DataBinding.Observers
