import DataBinding.Path.Growth
import DataBinding.Proofs.Path.Commute
import DataBinding.Proofs.Path.InPlace
import Mathlib.Logic.Basic

namespace DataBinding

namespace Json

theorem succ_eq_zero_iff {i : UInt64} : i + 1 = 0 ↔ i.toNat + 1 = indexLimit := by
  have hlimit : indexLimit = 2 ^ 64 := rfl
  have hlt := i.toNat_lt
  rw [← UInt64.toNat_inj, UInt64.toNat_add, UInt64.toNat_one, UInt64.toNat_zero, hlimit]
  omega

theorem toNat_succ {i : UInt64} (h : i + 1 ≠ 0) : (i + 1).toNat = i.toNat + 1 := by
  have hne := mt succ_eq_zero_iff.mpr h
  rw [UInt64.toNat_add, UInt64.toNat_one, Nat.mod_eq_of_lt]
  exact Nat.lt_of_le_of_ne i.toNat_lt hne

theorem resize_eq_padTo {n : Nat} {items : List Json} (h : items.length ≤ n) :
    resize n items = padTo n items := by
  rw [resize, padTo, List.take_of_length_le h]

theorem grow_eq_padTo (checks : Bool) {i : UInt64} {items : List Json}
    (h : i.toNat < items.length ∨ i + 1 ≠ 0) :
    grow checks i items = .ok (padTo (i.toNat + 1) items) := by
  rw [grow]
  by_cases hlt : i.toNat < items.length
  · rw [if_pos hlt, padTo_of_le hlt]
  · have hne : i + 1 ≠ 0 := h.resolve_left hlt
    rw [if_neg hlt, if_neg (by simp [hne]), toNat_succ hne, resize_eq_padTo (by omega)]

theorem grow_of_wraps {i : UInt64} (h : i + 1 = 0) {items : List Json}
    (hlen : items.length ≤ i.toNat) :
    grow true i items = .error .overflow ∧ grow false i items = .ok [] := by
  rw [grow, grow, if_neg (Nat.not_lt.mpr hlen), if_neg (Nat.not_lt.mpr hlen), h]
  exact ⟨rfl, by simp [resize]⟩

theorem itemAt_padTo (i : UInt64) (items : List Json) :
    itemAt i (padTo (i.toNat + 1) items) = .ok (items.getD i.toNat null) := by
  rw [itemAt, getElem?_padTo _ _ (Nat.lt_succ_self _)]

/-- An array that has no item yet at the greatest index, which the segment stands for. -/
def Overgrown (s : String) (v : Json) : Prop :=
  ∃ items, v = array items ∧ segmentIndex? s = some (indexLimit - 1) ∧ items.length < indexLimit

theorem overgrown_array_iff {s : String} {n : Nat} {items : List Json}
    (hs : segmentIndex? s = some n) :
    Overgrown s (array items) ↔ items.length ≤ n ∧ UInt64.ofNat n + 1 = 0 := by
  have hlt := lt_of_segmentIndex? hs
  rw [succ_eq_zero_iff, UInt64.toNat_ofNat_of_lt' hlt]
  constructor
  · rintro ⟨items, ⟨⟩, hlast, hlen⟩
    obtain rfl : n = indexLimit - 1 := Option.some_inj.mp (hs.symm.trans hlast)
    exact ⟨Nat.le_sub_one_of_lt hlen, rfl⟩
  · rintro ⟨hlen, hn⟩
    refine ⟨items, rfl, ?_, Nat.lt_of_le_of_lt hlen hlt⟩
    rw [hs, ← hn, Nat.add_sub_cancel]

theorem grow_of_not_overgrown {s : String} {n : Nat} {items : List Json}
    (hs : segmentIndex? s = some n) (h : ¬ Overgrown s (array items)) (checks : Bool) :
    grow checks (.ofNat n) items = .ok (padTo (n + 1) items) ∧
      itemAt (.ofNat n) (padTo (n + 1) items) = .ok (items.getD n null) := by
  rw [overgrown_array_iff hs, not_and_or, Nat.not_le] at h
  have hn : (UInt64.ofNat n).toNat = n := UInt64.toNat_ofNat_of_lt' (lt_of_segmentIndex? hs)
  have hgrow := grow_eq_padTo (i := .ofNat n) checks (h.imp_left fun hlt ↦ by rwa [hn])
  have hitem := itemAt_padTo (.ofNat n) items
  rw [hn] at hgrow hitem
  exact ⟨hgrow, hitem⟩

def growthFault (checks : Bool) : WriteFault :=
  if checks then .overflow else .outOfRange (indexLimit - 1) 0

theorem slot_of_overgrown {s : String} {v : Json} (h : Overgrown s v) (checks : Bool) :
    slot checks s v = .error (growthFault checks) := by
  obtain ⟨items, rfl, hs, hlen⟩ := h
  have hlast : (UInt64.ofNat (indexLimit - 1)).toNat = indexLimit - 1 := rfl
  have hwraps : UInt64.ofNat (indexLimit - 1) + 1 = 0 := rfl
  obtain ⟨hchecked, hwrapped⟩ := grow_of_wraps hwraps (hlast ▸ Nat.le_sub_one_of_lt hlen)
  cases checks with
  | true =>
    simp only [slot, hs, hchecked]
    rfl
  | false =>
    simp only [slot, hs, hwrapped]
    rfl

theorem Keyed.slot_eq {s : String} {v : Json} (h : Keyed s v) (checks : Bool) :
    slot checks s v = .ok ((Members.find? s v.membersOrEmpty).getD null,
      fun new ↦ object (Members.insert s new v.membersOrEmpty)) := by
  cases v with
  | array items =>
    simp only [slot, h items rfl]
    rfl
  | null | bool _ | number _ | string _ | object _ => rfl

theorem slot_of_not_overgrown {s : String} {v : Json} (h : ¬ Overgrown s v) (checks : Bool) :
    ∃ put, slot checks s v = .ok ((getAt? [s] v).getD null, put) ∧
      ∀ value path, (setAt value (s :: path) v).2 =
        put (setAt value path ((getAt? [s] v).getD null)).2 := by
  rcases item_or_keyed s v with ⟨items, n, rfl, hs⟩ | hkey
  · have hn : (UInt64.ofNat n).toNat = n := UInt64.toNat_ofNat_of_lt' (lt_of_segmentIndex? hs)
    obtain ⟨hgrow, hitem⟩ := grow_of_not_overgrown hs h checks
    refine ⟨fun new ↦ array ((padTo (n + 1) items).set n new), ?_, fun value path ↦ ?_⟩
    · simp only [slot, hs, hgrow, bind, Except.bind, hitem, hn, getD_getAt?_item hs]
      rfl
    · rw [setAt_item value path hs, getD_getAt?_item hs]
  · refine ⟨_, hkey.getD_getAt? ▸ hkey.slot_eq checks, fun value path ↦ ?_⟩
    rw [hkey.setAt, hkey.getD_getAt?]

/-- A path leads to such an array where its next segment is the index. -/
def Overgrows (path : List String) (v : Json) : Prop :=
  ∃ above s below w, path = above ++ s :: below ∧ getAt? above v = some w ∧ Overgrown s w

theorem not_overgrows_null (path : List String) : ¬ Overgrows path null := by
  rintro ⟨above, s, below, w, -, hw, items, rfl, -⟩
  cases above with
  | nil => cases hw
  | cons t above =>
    rw [getAt?_null] at hw
    cases hw

theorem not_overgrows_of_forall {path : List String}
    (h : ∀ s ∈ path, segmentIndex? s ≠ some (indexLimit - 1)) (v : Json) : ¬ Overgrows path v := by
  rintro ⟨above, s, below, w, rfl, -, items, -, hs, -⟩
  exact h s (List.mem_append_right above List.mem_cons_self) hs

theorem overgrows_cons_iff {s : String} {path : List String} {v : Json} :
    Overgrows (s :: path) v ↔ Overgrown s v ∨ Overgrows path ((getAt? [s] v).getD null) := by
  constructor
  · rintro ⟨above, t, below, w, hpath, hw, hover⟩
    cases above with
    | nil =>
      cases hpath
      cases hw
      exact .inl hover
    | cons a above =>
      cases hpath
      rw [← List.singleton_append, getAt?_append] at hw
      obtain ⟨child, hchild, hw⟩ := Option.bind_eq_some_iff.mp hw
      exact .inr ⟨above, t, below, w, rfl, by rwa [hchild], hover⟩
  · rintro (hover | hbelow)
    · exact ⟨[], s, path, v, rfl, rfl, hover⟩
    · cases hchild : getAt? [s] v with
      | none =>
        rw [hchild] at hbelow
        exact absurd hbelow (not_overgrows_null path)
      | some child =>
        rw [hchild] at hbelow
        obtain ⟨above, t, below, w, rfl, hw, hover⟩ := hbelow
        refine ⟨s :: above, t, below, w, rfl, ?_, hover⟩
        rw [← List.singleton_append, getAt?_append, hchild]
        exact hw

theorem setAt_fst_cons (value : Json) (s : String) (path : List String) (v : Json) :
    (setAt value (s :: path) v).1 = (setAt value path ((getAt? [s] v).getD null)).1 := by
  rw [setAt_fst, setAt_fst, getD_getAt?_getD, ← getAt?_append, List.singleton_append]

theorem writeAt_cons_of_slot {checks : Bool} {s : String} {v child : Json} {put : Json → Json}
    (h : slot checks s v = .ok (child, put)) (value : Json) (path : List String) :
    writeAt checks value (s :: path) v =
      (writeAt checks value path child).map fun r ↦ (r.1, put r.2) := by
  rw [writeAt, h]
  rfl

theorem writeAt_of_overgrows {path : List String} {v : Json} (h : Overgrows path v) (checks : Bool)
    (value : Json) : writeAt checks value path v = .error (growthFault checks) := by
  induction path generalizing v with
  | nil =>
    obtain ⟨above, s, below, w, hpath, -⟩ := h
    exact absurd hpath.symm (List.append_ne_nil_of_right_ne_nil above (List.cons_ne_nil s below))
  | cons s path ih =>
    by_cases hover : Overgrown s v
    · rw [writeAt, slot_of_overgrown hover]
      rfl
    · obtain ⟨put, hslot, -⟩ := slot_of_not_overgrown hover checks
      rw [writeAt_cons_of_slot hslot, ih ((overgrows_cons_iff.mp h).resolve_left hover)]
      rfl

theorem writeAt_of_not_overgrows {path : List String} {v : Json} (h : ¬ Overgrows path v)
    (checks : Bool) (value : Json) :
    writeAt checks value path v = .ok (setAt value path v) := by
  induction path generalizing v with
  | nil => rfl
  | cons s path ih =>
    rw [overgrows_cons_iff, not_or] at h
    obtain ⟨put, hslot, hput⟩ := slot_of_not_overgrown h.1 checks
    rw [writeAt_cons_of_slot hslot, ih h.2]
    exact congrArg Except.ok (Prod.ext (setAt_fst_cons value s path v).symm (hput value path).symm)

/-- A write stops if and only if its path leads to an array that the greatest index addresses and
that has no item there. Any other array grows by a sum that does not wrap and has the item, and the
write ends with the value and the root that it has with unbounded lengths. -/
theorem write_stops_iff (checks : Bool) (root : Json) (p : Path) (value : Json) :
    (Overgrows p.segments root → root.write checks p value = .error (growthFault checks)) ∧
      (¬ Overgrows p.segments root → root.write checks p value = .ok (root.set p value)) ∧
      ∀ (items : List Json) (s : String) (n : Nat), segmentIndex? s = some n →
        (Overgrown s (array items) ↔ items.length ≤ n ∧ (UInt64.ofNat n + 1).toNat ≠ n + 1) ∧
        (¬ Overgrown s (array items) → grow checks (.ofNat n) items = .ok (padTo (n + 1) items) ∧
          itemAt (.ofNat n) (padTo (n + 1) items) = .ok (items.getD n null)) := by
  refine ⟨fun h ↦ writeAt_of_overgrows h checks value,
    fun h ↦ writeAt_of_not_overgrows h checks value, fun items s n hs ↦
      ⟨?_, fun h ↦ grow_of_not_overgrown hs h checks⟩⟩
  have hn : (UInt64.ofNat n).toNat = n := UInt64.toNat_ofNat_of_lt' (lt_of_segmentIndex? hs)
  have hwraps : (UInt64.ofNat n + 1).toNat ≠ n + 1 ↔ UInt64.ofNat n + 1 = 0 := by
    constructor
    · exact fun hne ↦ not_not.mp fun h ↦ hne ((toNat_succ h).trans (congrArg (· + 1) hn))
    · intro h
      rw [h, UInt64.toNat_zero]
      exact (Nat.succ_ne_zero n).symm
  rw [overgrown_array_iff hs, hwraps]

def lastFlag : Path := ⟨["flags", "18446744073709551615"], by decide, by decide⟩

theorem write_stops_iff_flags :
    Overgrows lastFlag.segments flags ∧
      flags.write true lastFlag null = .error .overflow ∧
      ¬ Overgrows secondFlag.segments flags ∧
      flags.write true secondFlag null = .ok (flags.set secondFlag null) := by
  have hlast : Overgrows lastFlag.segments flags :=
    ⟨["flags"], "18446744073709551615", [], array [bool true], rfl, rfl, [bool true], rfl, rfl,
      by decide⟩
  have hsecond : ¬ Overgrows secondFlag.segments flags :=
    not_overgrows_of_forall (by decide) flags
  obtain ⟨hstops, -, -⟩ := write_stops_iff true flags lastFlag null
  obtain ⟨-, hends, -⟩ := write_stops_iff true flags secondFlag null
  exact ⟨hlast, hstops hlast, hsecond, hends hsecond⟩

/-- The greatest index stops a write, whether or not sums are checked. -/
theorem last_index_stops :
    flags.write true lastFlag null = .error .overflow ∧
      flags.write false lastFlag null = .error (.outOfRange 18446744073709551615 0) ∧
      ¬ ∀ checks root p value, ∃ r, write checks root p value = .ok r := by
  have hchecked : flags.write true lastFlag null = .error .overflow := rfl
  refine ⟨hchecked, rfl, fun h ↦ ?_⟩
  obtain ⟨r, hr⟩ := h true flags lastFlag null
  rw [hchecked] at hr
  cases hr

end Json

end DataBinding
