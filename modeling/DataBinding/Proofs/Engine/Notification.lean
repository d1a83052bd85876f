import DataBinding.Proofs.Engine.Observers
import DataBinding.Proofs.Path.Frame

namespace DataBinding.Observers

open Json

/-- A write that changes what is read at a path, a missing value taken as `null`, triggers all
callbacks of that path, unless it gives up an array that holds what is read there; that is then
missing. -/
theorem triggers_or_givesUp {κ : Type} (L : List (Path × κ)) (root value : Json) (p q : Path)
    (h : ((root.set p value).2.get? q).getD null ≠ (root.get? q).getD null) :
    ((q = p ∨ q.isAncestorOf p ∨ q.isDescendantOf p) ∧
        (registered L q).Sublist ((ofList L).relatedTo p)) ∨
      ∃ above a b below rest, p.segments = above ++ a :: below ∧ q.segments = above ++ b :: rest ∧
        a ≠ b ∧ GivesUp root above a ∧ (root.set p value).2.get? q = none := by
  by_cases hr : q.isRelatedTo p
  · exact .inl ⟨Path.isRelatedTo_iff_eq_or.mp hr, (lists_ofList L).registered_sublist hr⟩
  · refine .inr ?_
    obtain ⟨above, a, b, below, rest, hp, hq, hab⟩ :=
      Path.exists_parting_of_not_isRelatedTo fun h ↦ hr (Path.isRelatedTo_comm.mp h)
    have hg : GivesUp root above a := by
      by_contra hg
      apply h
      simp only [Json.set, Json.get?, hp, hq]
      exact getD_getAt?_setAt value below rest hab hg
    refine ⟨above, a, b, below, rest, hp, hq, hab, hg, ?_⟩
    obtain ⟨⟨items, hi⟩, ha⟩ := hg
    simp only [Json.set, Json.get?, hp, hq]
    rw [getAt?_append_setAt_append, hi, Option.getD_some, getAt?_setAt_array_key _ _ _ ha hab]

def listName : Path := ⟨["list", "name"], by decide, by decide⟩

def listZero : Path := ⟨["list", "0"], by decide, by decide⟩

def listStore : Json := object [("list", array [bool true])]

theorem getD_listZero_ne :
    ((listStore.set listName null).2.get? listZero).getD null ≠
      (listStore.get? listZero).getD null := by
  have hnew : ((listStore.set listName null).2.get? listZero).getD null = null := by rfl
  have hold : (listStore.get? listZero).getD null = bool true := by rfl
  rw [hnew, hold]
  exact Json.noConfusion

theorem not_listZero_isRelatedTo : ¬ listZero.isRelatedTo listName := by decide

theorem triggers_or_givesUp_listZero :
    ((listStore.set listName null).2.get? listZero).getD null ≠
        (listStore.get? listZero).getD null ∧
      ∃ above a b below rest, listName.segments = above ++ a :: below ∧
        listZero.segments = above ++ b :: rest ∧ a ≠ b ∧ GivesUp listStore above a ∧
        (listStore.set listName null).2.get? listZero = none :=
  ⟨getD_listZero_ne,
    (triggers_or_givesUp [(listZero, ())] listStore null listName listZero
      getD_listZero_ne).resolve_left fun h ↦
        not_listZero_isRelatedTo (Path.isRelatedTo_iff_eq_or.mpr h.1)⟩

/-- Giving up an array changes what is read at its items, of which no callback learns. -/
theorem not_always_triggered :
    ¬ ∀ (L : List (Path × Unit)) (root value : Json) (p q : Path),
      ((root.set p value).2.get? q).getD null ≠ (root.get? q).getD null →
        (registered L q).Sublist ((ofList L).relatedTo p) := by
  intro h
  have hs := h [(listZero, ())] listStore null listName listZero getD_listZero_ne
  have hmem : () ∈ (ofList [(listZero, ())]).relatedTo listName :=
    hs.subset (mem_registered.mpr List.mem_cons_self)
  obtain ⟨q, hq, hr⟩ := (lists_ofList _).mem_relatedTo.mp hmem
  rw [List.mem_singleton, Prod.mk.injEq] at hq
  exact not_listZero_isRelatedTo (hq.1 ▸ hr)

end DataBinding.Observers
