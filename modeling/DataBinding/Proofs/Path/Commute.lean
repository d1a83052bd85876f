import DataBinding.Proofs.Json.Rearranged
import DataBinding.Proofs.Path.Overwrite

namespace DataBinding.Json

namespace Members

theorem exists_insert_eq (key : String) (ms : Members) :
    ∃ before after, ∀ v, insert key v ms = before ++ (key, v) :: after := by
  induction ms with
  | nil => exact ⟨[], [], fun v ↦ rfl⟩
  | cons m ms ih =>
    by_cases h : m.1 = key
    · exact ⟨[], ms, fun v ↦ by rw [insert, if_pos h, h, List.nil_append]⟩
    · obtain ⟨before, after, hi⟩ := ih
      exact ⟨m :: before, after, fun v ↦ by rw [insert, if_neg h, hi, List.cons_append]⟩

theorem insert_insert_perm {a b : String} (hab : a ≠ b) (v w : Json) (ms : Members) :
    (insert b w (insert a v ms)).Perm (insert a v (insert b w ms)) := by
  induction ms with
  | nil =>
    simp only [insert, hab, hab.symm, if_false]
    exact .swap _ _ _
  | cons m ms ih =>
    by_cases ha : m.1 = a
    · simp [insert, ha, hab]
    · by_cases hb : m.1 = b
      · simp [insert, hb, hab.symm]
      · simpa [insert, ha, hb] using ih

end Members

def Keyed (s : String) (v : Json) : Prop := ∀ items, v = array items → segmentIndex? s = none

theorem item_or_keyed (s : String) (v : Json) :
    (∃ items i, v = array items ∧ segmentIndex? s = some i) ∨ Keyed s v := by
  cases v with
  | array items =>
    cases hs : segmentIndex? s with
    | some i => exact .inl ⟨items, i, rfl, rfl⟩
    | none => exact .inr fun _ _ ↦ hs
  | null | bool _ | number _ | string _ | object _ => exact .inr nofun

section

variable (value : Json) {s : String} (path : List String)

theorem getD_getAt?_item {i : Nat} (hs : segmentIndex? s = some i) (items : List Json) :
    (getAt? [s] (array items)).getD null = items.getD i null := by
  simp [getAt?, hs, List.getD_eq_getElem?_getD]

theorem Keyed.setAt {v : Json} (h : Keyed s v) :
    (Json.setAt value (s :: path) v).2 =
      object (Members.insert s
        (Json.setAt value path ((Members.find? s v.membersOrEmpty).getD null)).2
        v.membersOrEmpty) := by
  cases v with
  | array items => simp only [Json.setAt, h items rfl]
  | null | bool _ | number _ | string _ | object _ => simp only [Json.setAt]

theorem Keyed.getD_getAt? {v : Json} (h : Keyed s v) :
    (Json.getAt? [s] v).getD null = (Members.find? s v.membersOrEmpty).getD null := by
  cases v with
  | array items => simp [Json.getAt?, h items rfl, membersOrEmpty, Members.find?]
  | null | bool _ | number _ | string _ | object _ =>
    simp [Json.getAt?, membersOrEmpty, Members.find?]

end

/-- A write puts what becomes of a child in the place of the child. The place is the same for every
write, the order of members within the child does not matter to it, and it grows with the child. -/
theorem exists_place (s : String) (v : Json) :
    ∃ place : Json → Json,
      (∀ value path, (setAt value (s :: path) v).2 =
        place (setAt value path ((getAt? [s] v).getD null)).2) ∧
      (∀ x y, Rearranged x y → Rearranged (place x) (place y)) ∧
      ∀ x y, sizeOf x < sizeOf y → sizeOf (place x) < sizeOf (place y) := by
  rcases item_or_keyed s v with ⟨items, i, rfl, hs⟩ | hkey
  · refine ⟨fun x ↦ array ((padTo (i + 1) items).take i ++ x :: (padTo (i + 1) items).drop (i + 1)),
      fun value path ↦ ?_, fun x y h ↦ .item _ _ h, fun x y h ↦ ?_⟩
    · rw [setAt_item value path hs, getD_getAt?_item hs, List.set_eq_take_append_cons_drop,
        if_pos (lt_length_padTo i items)]
    · have hsize := sizeOf_array_append_cons ((padTo (i + 1) items).take i)
        ((padTo (i + 1) items).drop (i + 1)) x y
      dsimp only
      omega
  · obtain ⟨before, after, hinsert⟩ := Members.exists_insert_eq s v.membersOrEmpty
    refine ⟨fun x ↦ object (before ++ (s, x) :: after), fun value path ↦ ?_,
      fun x y h ↦ .member before s after h, fun x y h ↦ ?_⟩
    · rw [hkey.setAt, hkey.getD_getAt?, hinsert]
    · have hsize := sizeOf_object_append_cons before after s x y
      dsimp only
      omega

theorem setAt_append (value : Json) (above path : List String) (root : Json) :
    (setAt value (above ++ path) root).2 =
      (setAt (setAt value path ((getAt? above root).getD null)).2 above root).2 := by
  induction above generalizing root with
  | nil => rfl
  | cons s above ih =>
    obtain ⟨place, hplace, -, -⟩ := exists_place s root
    rw [List.cons_append, hplace, hplace, ih, getD_getAt?_getD, ← getAt?_append,
      List.singleton_append]

theorem setAt_append_setAt_append (v w : Json) (above p q : List String) (root : Json) :
    (setAt w (above ++ q) (setAt v (above ++ p) root).2).2 =
      (setAt (setAt w q (setAt v p ((getAt? above root).getD null)).2).2 above root).2 := by
  rw [setAt_append w, setAt_append v]
  have hread := getAt?_append_setAt (setAt v p ((getAt? above root).getD null)).2 above [] root
  rw [List.append_nil, getAt?] at hread
  rw [hread, Option.getD_some, setAt_setAt]

theorem Rearranged.setAt {v w : Json} (h : Rearranged v w) (path : List String) (root : Json) :
    Rearranged (Json.setAt v path root).2 (Json.setAt w path root).2 := by
  induction path generalizing root with
  | nil => exact h
  | cons s path ih =>
    obtain ⟨place, hplace, hkeep, -⟩ := exists_place s root
    rw [hplace, hplace]
    exact hkeep _ _ (ih _)

theorem sizeOf_setAt_lt {v w : Json} (h : sizeOf v < sizeOf w) (path : List String) (root : Json) :
    sizeOf (setAt v path root).2 < sizeOf (setAt w path root).2 := by
  induction path generalizing root with
  | nil => exact h
  | cons s path ih =>
    obtain ⟨place, hplace, -, hgrow⟩ := exists_place s root
    rw [hplace, hplace]
    exact hgrow _ _ (ih _)

theorem getElem?_padTo_of_le {n k : Nat} (h : n ≤ k) (items : List Json) :
    (padTo n items)[k]? = items[k]? := by
  rw [padTo, List.getElem?_append]
  split
  · rfl
  · rw [List.getElem?_eq_none (by simp only [List.length_replicate]; omega),
      List.getElem?_eq_none (by omega)]

section Parting

variable (v w : Json) {a b : String} (below rest : List String)

theorem Keyed.of_object (s : String) (ms : Members) : Keyed s (object ms) := nofun

theorem rearranged_setAt_of_keyed (hab : a ≠ b) {c : Json} (ha : Keyed a c) (hb : Keyed b c) :
    Rearranged (setAt w (b :: rest) (setAt v (a :: below) c).2).2
      (setAt v (a :: below) (setAt w (b :: rest) c).2).2 := by
  rw [ha.setAt, hb.setAt, (Keyed.of_object b _).setAt, (Keyed.of_object a _).setAt]
  simp only [membersOrEmpty, Members.find?_insert_of_ne hab, Members.find?_insert_of_ne hab.symm]
  exact .members (Members.insert_insert_perm hab _ _ _)

theorem getElem?_padTo_set (items : List Json) (i : Nat) (x : Json) (k : Nat) :
    ((padTo (i + 1) items).set i x)[k]? =
      if k = i then some x else if k < i then some (items.getD k null) else items[k]? := by
  split
  · rename_i hk
    rw [hk, List.getElem?_set_self (lt_length_padTo i items)]
  · rename_i hk
    rw [List.getElem?_set_ne (Ne.symm hk)]
    split
    · rename_i hlt
      exact getElem?_padTo (i + 1) items (by omega)
    · rename_i hlt
      exact getElem?_padTo_of_le (by omega) items

theorem setAt_setAt_item (hab : a ≠ b) {i j : Nat} (ha : segmentIndex? a = some i)
    (hb : segmentIndex? b = some j) (items : List Json) :
    (setAt w (b :: rest) (setAt v (a :: below) (array items)).2).2 =
      (setAt v (a :: below) (setAt w (b :: rest) (array items)).2).2 := by
  have hij : i ≠ j := by
    rintro rfl
    exact hab (segmentIndex?_injective ha hb)
  have hget {i j : Nat} (h : i ≠ j) (x : Json) :
      ((padTo (i + 1) items).set i x).getD j null = items.getD j null := by
    simp only [List.getD_eq_getElem?_getD, getElem?_padTo_set, if_neg h.symm]
    split <;> rfl
  rw [setAt_item v below ha, setAt_item w rest hb, setAt_item w rest hb, setAt_item v below ha,
    hget hij, hget hij.symm, array.injEq]
  refine List.ext_getElem? fun k ↦ ?_
  simp only [getElem?_padTo_set, List.getD_eq_getElem?_getD]
  grind

/-- An array that is written by an index and then given up has lost what was written. -/
theorem sizeOf_setAt_setAt_lt (hab : a ≠ b) {i : Nat} (ha : segmentIndex? a = some i)
    (hb : segmentIndex? b = none) (items : List Json) :
    sizeOf (setAt w (b :: rest) (setAt v (a :: below) (array items)).2).2 <
      sizeOf (setAt v (a :: below) (setAt w (b :: rest) (array items)).2).2 := by
  have hkey (items : List Json) : Keyed b (array items) := fun _ _ ↦ hb
  rw [setAt_item v below ha, (hkey _).setAt, (hkey _).setAt, (Keyed.of_object a _).setAt]
  simp only [membersOrEmpty, Members.insert, hab.symm, if_false, object.sizeOf_spec,
    List.cons.sizeOf_spec, Prod.mk.sizeOf_spec]
  omega

/-- One of the segments addresses an item of the value, an array, and the other one gives the array
up. -/
def Quarrel (a b : String) (c : Json) : Prop :=
  (∃ items, c = array items) ∧ (segmentIndex? a).isSome ≠ (segmentIndex? b).isSome

theorem rearranged_setAt_setAt (hab : a ≠ b) {c : Json} (h : ¬ Quarrel a b c) :
    Rearranged (setAt w (b :: rest) (setAt v (a :: below) c).2).2
      (setAt v (a :: below) (setAt w (b :: rest) c).2).2 := by
  rcases item_or_keyed a c with ⟨items, i, rfl, ha⟩ | ha
  · rcases item_or_keyed b (array items) with ⟨items', j, -, hb⟩ | hb
    · rw [setAt_setAt_item v w below rest hab ha hb]
      exact .refl _
    · exact absurd ⟨⟨items, rfl⟩, by simp [ha, hb items rfl]⟩ h
  · rcases item_or_keyed b c with ⟨items, j, rfl, hb⟩ | hb
    · exact absurd ⟨⟨items, rfl⟩, by simp [ha items rfl, hb]⟩ h
    · exact rearranged_setAt_of_keyed v w below rest hab ha hb

theorem sizeOf_setAt_setAt_ne (hab : a ≠ b) {c : Json} (h : Quarrel a b c) :
    sizeOf (setAt w (b :: rest) (setAt v (a :: below) c).2).2 ≠
      sizeOf (setAt v (a :: below) (setAt w (b :: rest) c).2).2 := by
  obtain ⟨⟨items, rfl⟩, hone⟩ := h
  cases ha : segmentIndex? a with
  | some i =>
    cases hb : segmentIndex? b with
    | some j => simp [ha, hb] at hone
    | none => exact Nat.ne_of_lt (sizeOf_setAt_setAt_lt v w below rest hab ha hb items)
  | none =>
    cases hb : segmentIndex? b with
    | some j => exact Nat.ne_of_gt (sizeOf_setAt_setAt_lt w v rest below hab.symm hb ha items)
    | none => simp [ha, hb] at hone

end Parting

/-- The order of two writes to unrelated paths shows in the order of keys at most, unless the paths
part at an array which one of them addresses by an index and the other one by a key. -/
theorem set_comm_iff (root v w : Json) {p q : Path} (h : ¬ p.isRelatedTo q) :
    ∃ above a b below rest, p.segments = above ++ a :: below ∧ q.segments = above ++ b :: rest ∧
      a ≠ b ∧
      (Rearranged ((root.set p v).2.set q w).2 ((root.set q w).2.set p v).2 ↔
        ¬ ((∃ items, getAt? above root = some (array items)) ∧
          (segmentIndex? a).isSome ≠ (segmentIndex? b).isSome)) := by
  obtain ⟨above, a, b, below, rest, hp, hq, hab⟩ := Path.exists_parting_of_not_isRelatedTo h
  have harray (items : List Json) : (getAt? above root).getD null = array items ↔
      getAt? above root = some (array items) := by
    cases getAt? above root <;> simp
  refine ⟨above, a, b, below, rest, hp, hq, hab, ?_⟩
  simp only [Json.set, hp, hq, setAt_append_setAt_append, ← harray]
  constructor
  · intro hsame hquarrel
    rcases Nat.lt_or_gt_of_ne (sizeOf_setAt_setAt_ne v w below rest hab hquarrel) with hlt | hlt
    · exact Nat.ne_of_lt (sizeOf_setAt_lt hlt above root) hsame.sizeOf_eq
    · exact Nat.ne_of_gt (sizeOf_setAt_lt hlt above root) hsame.sizeOf_eq
  · intro hcalm
    exact (rearranged_setAt_setAt v w below rest hab hcalm).setAt above root

def listSize : Path := ⟨["list", "size"], by decide, by decide⟩

theorem set_comm_iff_list :
    ¬ thirdItem.isRelatedTo secondItem ∧
      Rearranged ((shortList.set thirdItem null).2.set secondItem null).2
        ((shortList.set secondItem null).2.set thirdItem null).2 ∧
      ¬ thirdItem.isRelatedTo listSize ∧
      ¬ Rearranged ((shortList.set thirdItem null).2.set listSize null).2
        ((shortList.set listSize null).2.set thirdItem null).2 := by
  have hitems : ¬ thirdItem.isRelatedTo secondItem := by decide
  have hname : ¬ thirdItem.isRelatedTo listSize := by decide
  refine ⟨hitems, ?_, hname, ?_⟩
  · obtain ⟨above, a, b, below, rest, hp, hq, hab, hiff⟩ :=
      set_comm_iff shortList null null hitems
    obtain ⟨rfl, rfl, rfl⟩ := Path.parting_unique hp hq hab
      (show _ = ["list"] ++ "2" :: [] from rfl) (show _ = ["list"] ++ "1" :: [] from rfl)
      (by decide)
    exact hiff.mpr fun h ↦ absurd h.2 (by decide)
  · obtain ⟨above, a, b, below, rest, hp, hq, hab, hiff⟩ :=
      set_comm_iff shortList null null hname
    obtain ⟨rfl, rfl, rfl⟩ := Path.parting_unique hp hq hab
      (show _ = ["list"] ++ "2" :: [] from rfl) (show _ = ["list"] ++ "size" :: [] from rfl)
      (by decide)
    exact fun h ↦ hiff.mp h ⟨⟨[bool true], rfl⟩, by decide⟩

end DataBinding.Json
