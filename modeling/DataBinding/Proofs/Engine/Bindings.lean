import DataBinding.Engine.Bindings
import DataBinding.Proofs.Path.Index

namespace DataBinding.Bindings

variable {t : Bindings}

/-- Every entry is found at the path that it shows and nowhere else. -/
def Indexed (t : Bindings) : Prop := t.positions.Indexes (t.bound.map fun e ↦ e.2.property)

theorem indexed_empty : Bindings.empty.Indexed := .empty

theorem Indexed.push (h : t.Indexed) (el : ElementId) (b : Binding) : (t.push el b).Indexed := by
  simpa [Indexed, Bindings.push] using PathMap.Indexes.insert h b.property

theorem Indexed.listing_perm (h : t.Indexed) :
    t.positions.trie.listing.Perm (t.bound.zipIdx.map fun e ↦ (e.1.2.property.segments, e.2)) := by
  have hl := h.listed
  rwa [List.zipIdx_map, List.map_map] at hl

theorem Indexed.exact_perm (h : t.Indexed) (q : Path) :
    (t.positions.exact q).Perm
      ((t.bound.zipIdx.filter fun e ↦ e.1.2.property = q).map (·.2)) := by
  have hat := (h.listing_perm.filter (·.1 = q.segments)).map (·.2)
  rw [Trie.filter_listing_eq h.ordered, ← PathMap.exact_eq, List.filter_map] at hat
  simpa [Function.comp_def, Path.segments_inj] using hat

def affected (t : Bindings) (p : Path) : List (Nat × ElementId × Binding) :=
  (t.bound.zipIdx.filter fun e ↦ e.1.2.property.isRelatedTo p).map fun e ↦ (e.2, e.1)

theorem Indexed.relatedTo_eq (h : t.Indexed) (p : Path) : t.relatedTo p = t.affected p :=
  PathMap.Indexes.filterMap_related h p fun i e ↦ (i, e)

theorem mem_affected {p : Path} {i : Nat} {el : ElementId} {b : Binding} :
    (i, el, b) ∈ t.affected p ↔ t.bound[i]? = some (el, b) ∧ b.property.isRelatedTo p := by
  simp only [affected, List.mem_map, List.mem_filter, List.mem_zipIdx_iff_getElem?, Prod.mk.injEq]
  constructor
  · rintro ⟨⟨e, j⟩, ⟨hget, hr⟩, rfl, rfl⟩
    exact ⟨hget, hr⟩
  · rintro ⟨hget, hr⟩
    exact ⟨((el, b), i), ⟨hget, hr⟩, rfl, rfl⟩

theorem map_snd_affected (t : Bindings) (p : Path) :
    (t.affected p).map Prod.snd = t.bound.filter fun e ↦ e.2.property.isRelatedTo p := by
  rw [affected, List.map_map]
  exact map_fst_filter_zipIdx t.bound fun e ↦ e.2.property.isRelatedTo p

end DataBinding.Bindings
