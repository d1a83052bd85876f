import DataBinding.Json.Decode
import Mathlib.Data.List.Nodup

namespace DataBinding.Json

theorem Members.insert_of_notMem {key : String} {ms : Members} (h : key ∉ ms.map Prod.fst)
    (v : Json) : Members.insert key v ms = ms ++ [(key, v)] := by
  induction ms with
  | nil => rfl
  | cons m ms ih =>
    rw [List.map_cons, List.mem_cons, not_or] at h
    rw [insert, if_neg (Ne.symm h.1), ih h.2, List.cons_append]

theorem Members.find?_eq_some_iff {key : String} {v : Json} {ms : Members}
    (h : (ms.map Prod.fst).Nodup) : Members.find? key ms = some v ↔ (key, v) ∈ ms := by
  induction ms with
  | nil => exact ⟨nofun, nofun⟩
  | cons m ms ih =>
    obtain ⟨k, w⟩ := m
    rw [List.map_cons, List.nodup_cons] at h
    rw [find?, List.mem_cons, Prod.mk.injEq]
    by_cases hk : k = key
    · subst hk
      have hnot : (k, v) ∉ ms := fun hm ↦ h.1 (List.mem_map.mpr ⟨_, hm, rfl⟩)
      simp [hnot, eq_comm]
    · simp [hk, Ne.symm hk, ih h.2]

theorem Members.find?_perm {key : String} {ms ms' : Members} (h : (ms.map Prod.fst).Nodup)
    (hp : ms'.Perm ms) : Members.find? key ms' = Members.find? key ms := by
  have h' : (ms'.map Prod.fst).Nodup := (hp.map Prod.fst).nodup_iff.mpr h
  refine Option.ext fun v ↦ ?_
  rw [Members.find?_eq_some_iff h, Members.find?_eq_some_iff h', hp.mem_iff]

theorem Members.nodup_insert {key : String} {v : Json} {ms : Members}
    (h : (ms.map Prod.fst).Nodup) : ((Members.insert key v ms).map Prod.fst).Nodup := by
  by_cases hk : key ∈ ms.map Prod.fst
  · have hsame : (Members.insert key v ms).map Prod.fst = ms.map Prod.fst := by
      clear h
      induction ms with
      | nil => cases hk
      | cons m ms ih =>
        rw [insert]
        split
        · rfl
        · rename_i hne
          rw [List.map_cons, List.map_cons, ih ((List.mem_cons.mp hk).resolve_left (Ne.symm hne))]
    rwa [hsame]
  · rw [insert_of_notMem hk, List.map_append, List.map_singleton]
    refine List.nodup_append.mpr ⟨h, List.nodup_singleton _, fun x hx y hy hxy ↦ ?_⟩
    rw [hxy, List.mem_singleton.mp hy] at hx
    exact hk hx

theorem Tree.nodup_memberValues? {depth : Nat} {done ms : Members}
    {ts : List (List Piece × Tree)} (h : (done.map Prod.fst).Nodup)
    (hr : Tree.memberValues? depth done ts = some ms) : (ms.map Prod.fst).Nodup := by
  induction ts generalizing done with
  | nil =>
    cases hr
    exact h
  | cons t ts ih =>
    obtain ⟨key, t⟩ := t
    simp only [Tree.memberValues?, Option.bind_eq_bind, Option.bind_eq_some_iff] at hr
    obtain ⟨k, -, v, -, hr⟩ := hr
    exact ih (Members.nodup_insert h) hr

theorem nodup_of_parse? {s : List Char} {ms : Members} (h : parse? s = some (object ms)) :
    (ms.map Prod.fst).Nodup := by
  simp only [parse?, Option.bind_eq_bind, Option.bind_eq_some_iff] at h
  obtain ⟨t, -, h⟩ := h
  cases t with
  | object members =>
    simp only [Tree.value?, depthLimit, Option.map_eq_some_iff, object.injEq] at h
    obtain ⟨ms, h, rfl⟩ := h
    have hnil : (([] : Members).map Prod.fst).Nodup := List.nodup_nil
    exact Tree.nodup_memberValues? hnil h
  | array items =>
    simp [Tree.value?, depthLimit] at h
  | null | bool b | number n | string s => simp [Tree.value?] at h

end DataBinding.Json
