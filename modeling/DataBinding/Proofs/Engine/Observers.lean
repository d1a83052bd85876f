import DataBinding.Engine.Observers
import DataBinding.Proofs.Path.Trie
import Mathlib.Data.List.Nodup

namespace DataBinding.Observers

variable {κ : Type}

/-- The callbacks registered on a path, in order of registration. -/
def registered (registrations : List (Path × κ)) (p : Path) : List κ :=
  (registrations.filter (·.1 == p)).map (·.2)

theorem registered_append (L : List (Path × κ)) (p q : Path) (c : κ) :
    registered (L ++ [(p, c)]) q = registered L q ++ if p = q then [c] else [] := by
  by_cases h : p = q <;> simp [registered, h]

theorem mem_registered {L : List (Path × κ)} {p : Path} {c : κ} :
    c ∈ registered L p ↔ (p, c) ∈ L := by
  simp [registered]

theorem observe_cases (o : Observers κ) (p : Path) (c : κ) :
    (∃ before cs after, o.entries = before ++ (p, cs) :: after ∧ (∀ e ∈ before, e.1 ≠ p) ∧
        o.observe p c = ⟨before ++ (p, cs ++ [c]) :: after, o.positions⟩) ∨
      (∀ e ∈ o.entries, e.1 ≠ p) ∧
        o.observe p c = ⟨o.entries ++ [(p, [c])], o.positions.insert p o.entries.length⟩ := by
  obtain ⟨entries, positions⟩ := o
  unfold observe
  split
  · rename_i i hi
    obtain ⟨hlt, hp, hmin⟩ := List.findIdx?_eq_some_iff_getElem.mp hi
    have hentry : entries[i] = (p, entries[i].2) := by rw [← eq_of_beq hp]
    refine .inl ⟨entries.take i, entries[i].2, entries.drop (i + 1), ?_, fun e he ↦ ?_, ?_⟩
    · rw [← hentry, ← List.drop_eq_getElem_cons, List.take_append_drop]
    · obtain ⟨j, hj, rfl⟩ := List.mem_take_iff_getElem.mp he
      simpa using hmin j (Nat.lt_of_lt_of_le hj (Nat.min_le_left _ _))
    · rw [List.modify_eq_take_cons_drop hlt, eq_of_beq hp]
  · rename_i hnone
    exact .inr ⟨fun e he ↦ by simpa using List.findIdx?_eq_none_iff.mp hnone e he, rfl⟩

section Map

variable {ι : Type} (f : κ → ι)

theorem map_observe (o : Observers κ) (p : Path) (c : κ) :
    (o.observe p c).map f = (o.map f).observe p (f c) := by
  have hkey : (fun e : Path × List ι ↦ e.1 == p) ∘ (fun e ↦ (e.1, e.2.map f)) =
      fun e : Path × List κ ↦ e.1 == p := rfl
  unfold observe
  simp only [map, List.findIdx?_map, hkey]
  cases o.entries.findIdx? fun e ↦ e.1 == p with
  | none => simp
  | some i =>
    simp only [Observers.mk.injEq, and_true]
    refine List.ext_getElem? fun j ↦ ?_
    simp only [List.getElem?_map, List.getElem?_modify]
    by_cases hj : i = j
    · simp [hj, Function.comp_def]
    · simp [hj]

theorem relatedTo_map (o : Observers κ) (p : Path) :
    (o.map f).relatedTo p = (o.relatedTo p).map f := by
  simp only [relatedTo, map, List.getElem?_map, List.map_flatMap, ← List.map_filterMap,
    List.flatMap_map]

end Map

/-- What is observed is a list of registrations. -/
structure Lists (o : Observers κ) (registrations : List (Path × κ)) : Prop where
  indexed : o.positions.Indexes (o.entries.map (·.1))
  distinct : (o.entries.map (·.1)).Nodup
  mem_entries : ∀ p cs, (p, cs) ∈ o.entries ↔ cs = registered registrations p ∧ cs ≠ []

theorem lists_empty : (∅ : Observers κ).Lists [] where
  indexed := .empty
  distinct := List.nodup_nil
  mem_entries p cs := by
    refine ⟨fun h ↦ absurd h List.not_mem_nil, ?_⟩
    rintro ⟨rfl, h⟩
    exact absurd rfl h

theorem Lists.extend {before after : List (Path × List κ)} {p : Path} {cs : List κ}
    {positions : PathMap Nat} {L : List (Path × κ)} (c : κ)
    (h : (⟨before ++ (p, cs) :: after, positions⟩ : Observers κ).Lists L) :
    (⟨before ++ (p, cs ++ [c]) :: after, positions⟩ : Observers κ).Lists (L ++ [(p, c)]) := by
  obtain ⟨hi, hd, hm⟩ := h
  have hkeys : (before ++ (p, cs ++ [c]) :: after).map (·.1) =
      (before ++ (p, cs) :: after).map (·.1) := by simp
  refine ⟨hkeys ▸ hi, hkeys ▸ hd, fun q ds ↦ ?_⟩
  simp only [List.map_append, List.map_cons] at hd
  have hp := (List.nodup_middle.mp hd).notMem
  simp only [List.mem_append, List.mem_map, not_or, not_exists, not_and] at hp
  rw [registered_append]
  by_cases hq : p = q
  · subst hq
    have hcs := ((hm p cs).mp (by simp)).1
    have hb : (p, ds) ∉ before := fun h ↦ hp.1 _ h rfl
    have ha : (p, ds) ∉ after := fun h ↦ hp.2 _ h rfl
    simp only [List.mem_append, List.mem_cons, hb, ha, Prod.mk.injEq, true_and, false_or, or_false,
      if_pos, ← hcs]
    exact ⟨fun h ↦ ⟨h, by simp [h]⟩, And.left⟩
  · rw [if_neg hq, List.append_nil, ← hm q ds]
    simp [Ne.symm hq]

theorem Lists.observe {o : Observers κ} {L : List (Path × κ)} (h : o.Lists L) (p : Path) (c : κ) :
    (o.observe p c).Lists (L ++ [(p, c)]) := by
  obtain ⟨entries, positions⟩ := o
  rcases observe_cases ⟨entries, positions⟩ p c with
    ⟨before, cs, after, he, -, ho⟩ | ⟨hnew, ho⟩
  · subst he
    exact ho ▸ h.extend c
  · obtain ⟨hi, hd, hm⟩ := h
    have hp (cs : List κ) : (p, cs) ∉ entries := fun hcs ↦ hnew _ hcs rfl
    have hreg : registered L p = [] := by
      by_contra hne
      exact hp _ ((hm p _).mpr ⟨rfl, hne⟩)
    refine ho ▸ ⟨by simpa using hi.insert p, ?_, fun q ds ↦ ?_⟩
    · simp only [List.map_append, List.map_singleton]
      refine List.nodup_append.mpr ⟨hd, List.nodup_singleton p, fun a ha b hb ↦ ?_⟩
      obtain ⟨e, he, rfl⟩ := List.mem_map.mp ha
      rw [List.mem_singleton.mp hb]
      exact hnew e he
    · rw [registered_append]
      by_cases hq : p = q
      · subst hq
        simp only [List.mem_append, List.mem_singleton, hp, Prod.mk.injEq, true_and, false_or, hreg,
          if_pos, List.nil_append]
        exact ⟨fun h ↦ ⟨h, by simp [h]⟩, And.left⟩
      · rw [if_neg hq, List.append_nil, ← hm q ds]
        simp [Ne.symm hq]

theorem Lists.observeAll {o : Observers κ} {L : List (Path × κ)} (h : o.Lists L)
    (M : List (Path × κ)) : (M.foldl (fun o e ↦ o.observe e.1 e.2) o).Lists (L ++ M) := by
  induction M generalizing o L with
  | nil => simpa using h
  | cons e M ih => simpa using ih (h.observe e.1 e.2)

def ofList (registrations : List (Path × κ)) : Observers κ :=
  registrations.foldl (fun o e ↦ o.observe e.1 e.2) ∅

theorem lists_ofList (L : List (Path × κ)) : (ofList L).Lists L := lists_empty.observeAll L

theorem Lists.relatedTo_eq {o : Observers κ} {L : List (Path × κ)} (h : o.Lists L) (p : Path) :
    o.relatedTo p = (o.entries.filter (·.1.isRelatedTo p)).flatMap (·.2) := by
  have hf := h.indexed.filterMap_related p fun _ e ↦ e
  have hid : (fun i : Nat ↦ (o.entries[i]?).map fun e ↦ e) = (o.entries[·]?) := by
    funext i
    exact Option.map_id'
  have hfst := map_fst_filter_zipIdx o.entries (·.1.isRelatedTo p)
  rw [hid, hfst] at hf
  rw [relatedTo, inOrder, hf]

theorem Lists.registered_sublist {o : Observers κ} {L : List (Path × κ)} (h : o.Lists L)
    {p q : Path} (hr : q.isRelatedTo p) : (registered L q).Sublist (o.relatedTo p) := by
  by_cases hne : registered L q = []
  · rw [hne]
    exact List.nil_sublist _
  · have hmem : (q, registered L q) ∈ o.entries.filter (·.1.isRelatedTo p) :=
      List.mem_filter.mpr ⟨(h.mem_entries q _).mpr ⟨rfl, hne⟩, hr⟩
    rw [h.relatedTo_eq]
    exact List.sublist_flatten_of_mem (List.mem_map_of_mem hmem)

theorem Lists.mem_relatedTo {o : Observers κ} {L : List (Path × κ)} (h : o.Lists L) {p : Path}
    {c : κ} : c ∈ o.relatedTo p ↔ ∃ q, (q, c) ∈ L ∧ q.isRelatedTo p := by
  constructor
  · intro hc
    rw [h.relatedTo_eq, List.mem_flatMap] at hc
    obtain ⟨⟨q, cs⟩, he, hc⟩ := hc
    obtain ⟨he, hr⟩ := List.mem_filter.mp he
    rw [((h.mem_entries q cs).mp he).1] at hc
    exact ⟨q, mem_registered.mp hc, hr⟩
  · rintro ⟨q, hq, hr⟩
    exact (h.registered_sublist hr).subset (mem_registered.mpr hq)

end DataBinding.Observers
