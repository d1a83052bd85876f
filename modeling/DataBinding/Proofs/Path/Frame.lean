import DataBinding.Proofs.Path.Related
import DataBinding.Proofs.Path.Segment

namespace DataBinding.Json

namespace Members

theorem find?_insert_self (key : String) (value : Json) (ms : Members) :
    find? key (insert key value ms) = some value := by
  induction ms with
  | nil => simp [insert, find?]
  | cons m ms ih =>
    by_cases h : m.1 = key
    · simp [insert, find?, h]
    · simpa [insert, find?, h] using ih

theorem find?_insert_of_ne {key k : String} (h : k ≠ key) (value : Json) (ms : Members) :
    find? k (insert key value ms) = find? k ms := by
  induction ms with
  | nil => simp [insert, find?, h.symm]
  | cons m ms ih =>
    by_cases hm : m.1 = key
    · simp [insert, find?, hm, h.symm]
    · simp only [insert, hm, ↓reduceIte, find?, ih]

end Members

theorem getAt?_append (p q : List String) (v : Json) :
    getAt? (p ++ q) v = (getAt? p v).bind (getAt? q) := by
  induction p generalizing v with
  | nil => simp [getAt?]
  | cons s p ih =>
    have hp : getAt? (p ++ q) = fun w ↦ (getAt? p w).bind (getAt? q) := funext ih
    cases v with
    | object members => simp only [List.cons_append, getAt?, Option.bind_assoc, hp]
    | array items => simp only [List.cons_append, getAt?, Option.bind_assoc, hp]
    | null | bool _ | number _ | string _ => simp [getAt?]

theorem getAt?_null (s : String) (p : List String) : getAt? (s :: p) null = none := by
  simp [getAt?]

theorem getAt?_getD_null (above : List String) (s : String) (p : List String) (v : Json) :
    getAt? (s :: p) ((getAt? above v).getD null) = getAt? (above ++ s :: p) v := by
  rw [getAt?_append]
  cases getAt? above v with
  | none => simp [getAt?_null]
  | some w => rfl

theorem getElem?_padTo (n : Nat) (items : List Json) {i : Nat} (h : i < n) :
    (padTo n items)[i]? = some (items.getD i null) := by
  simp only [padTo, List.getElem?_append, List.getElem?_replicate, List.getD_eq_getElem?_getD]
  split
  · rename_i hi
    simp [List.getElem?_eq_getElem hi]
  · rename_i hi
    rw [if_pos (by omega), List.getElem?_eq_none (by omega)]
    rfl

theorem getD_padTo {n i : Nat} (h : i < n) (items : List Json) :
    (padTo n items).getD i null = items.getD i null := by
  rw [List.getD_eq_getElem?_getD, getElem?_padTo n items h, Option.getD_some]

theorem lt_length_padTo (i : Nat) (items : List Json) : i < (padTo (i + 1) items).length := by
  simp only [padTo, List.length_append, List.length_replicate]
  omega

theorem getAt?_cons_setAt_cons (value : Json) (s : String) (p q : List String) (v : Json) :
    getAt? (s :: q) (setAt value (s :: p) v).2 =
      getAt? q (setAt value p ((getAt? [s] v).getD null)).2 := by
  cases v with
  | array items =>
    cases hi : segmentIndex? s with
    | none =>
      simp [setAt, hi, getAt?, membersOrEmpty, Members.insert, Members.find?]
    | some i =>
      have hold : (getAt? [s] (array items)).getD null = items.getD i null := by
        simp [getAt?, hi, List.getD_eq_getElem?_getD]
      rw [hold]
      simp only [setAt, hi, getAt?, Option.bind_some, getD_padTo (Nat.lt_succ_self i),
        List.getElem?_set_self (lt_length_padTo i items)]
  | object members =>
    have hold : (getAt? [s] (object members)).getD null = (Members.find? s members).getD null := by
      simp [getAt?]
    rw [hold]
    simp only [setAt, membersOrEmpty, getAt?, Members.find?_insert_self, Option.bind_some]
  | null | bool _ | number _ | string _ =>
    simp [setAt, getAt?, membersOrEmpty, Members.insert, Members.find?]

theorem getAt?_append_setAt_append (value : Json) (above p q : List String) (v : Json) :
    getAt? (above ++ q) (setAt value (above ++ p) v).2 =
      getAt? q (setAt value p ((getAt? above v).getD null)).2 := by
  induction above generalizing v with
  | nil => simp [getAt?]
  | cons s above ih =>
    rw [List.cons_append, List.cons_append, getAt?_cons_setAt_cons, ih]
    cases above with
    | nil => simp [getAt?]
    | cons t above => rw [getAt?_getD_null, List.singleton_append]

theorem getAt?_append_setAt (value : Json) (p q : List String) (v : Json) :
    getAt? (p ++ q) (setAt value p v).2 = getAt? q value := by
  have h := getAt?_append_setAt_append value p [] q v
  rwa [List.append_nil, setAt] at h

section Parting

variable (value : Json) {a b : String} (below rest : List String)

theorem getAt?_setAt_of_ne (hab : a ≠ b) {v : Json} (hv : ∀ items, v ≠ array items) :
    getAt? (b :: rest) (setAt value (a :: below) v).2 = getAt? (b :: rest) v := by
  cases v with
  | array items => exact absurd rfl (hv items)
  | object members =>
    simp only [setAt, membersOrEmpty, getAt?, Members.find?_insert_of_ne hab.symm]
  | null | bool _ | number _ | string _ =>
    simp [setAt, getAt?, membersOrEmpty, Members.insert, Members.find?, hab]

theorem getAt?_setAt_array {items : List Json} {i : Nat} (ha : segmentIndex? a = some i)
    (hab : a ≠ b) :
    getAt? (b :: rest) (setAt value (a :: below) (array items)).2 =
      (segmentIndex? b).bind fun j ↦
        if items.length ≤ j ∧ j < i then getAt? rest null
        else getAt? (b :: rest) (array items) := by
  simp only [setAt, ha, getAt?]
  cases hb : segmentIndex? b with
  | none => rfl
  | some j =>
    have hij : i ≠ j := by
      rintro rfl
      exact hab (segmentIndex?_injective ha hb)
    simp only [Option.bind_some, List.getElem?_set_ne hij]
    split
    · rename_i hj
      rw [getElem?_padTo _ _ (by omega), List.getD_eq_getElem?_getD,
        List.getElem?_eq_none (by omega)]
      rfl
    · rename_i hj
      simp only [padTo, List.getElem?_append]
      split
      · rfl
      · rw [List.getElem?_eq_none (by simp only [List.length_replicate]; omega),
          List.getElem?_eq_none (by omega)]

theorem getAt?_setAt_array_key {items : List Json} (ha : segmentIndex? a = none) (hab : a ≠ b) :
    getAt? (b :: rest) (setAt value (a :: below) (array items)).2 = none := by
  simp [setAt, ha, getAt?, membersOrEmpty, Members.insert, Members.find?, hab]

end Parting

/-- A write to `key` in the value at `above` gives up an array, since the key is no index. -/
def GivesUp (root : Json) (above : List String) (key : String) : Prop :=
  (∃ items, getAt? above root = some (array items)) ∧ segmentIndex? key = none

instance (root : Json) (above : List String) (key : String) : Decidable (GivesUp root above key) :=
  match h : getAt? above root with
  | some (array items) => decidable_of_iff (segmentIndex? key = none)
      ⟨fun hk ↦ ⟨⟨items, h⟩, hk⟩, And.right⟩
  | none | some null | some (bool _) | some (number _) | some (string _) | some (object _) =>
    isFalse fun hg ↦ by
      obtain ⟨⟨items, hi⟩, -⟩ := hg
      rw [h] at hi
      cases hi

/-- A write to `a` in the array at `above` makes it grow beyond the item that `b` denotes, which it
had not. -/
def Pads (root : Json) (above : List String) (a b : String) : Prop :=
  ∃ items i j, getAt? above root = some (array items) ∧ segmentIndex? a = some i ∧
    segmentIndex? b = some j ∧ items.length ≤ j ∧ j < i

section Beside

variable (value : Json) {root : Json} {above : List String} {a b : String}
  (below rest : List String)

theorem getAt?_setAt_of_givesUp (hab : a ≠ b) (h : GivesUp root above a) :
    getAt? (above ++ b :: rest) (setAt value (above ++ a :: below) root).2 = none := by
  obtain ⟨⟨items, hroot⟩, ha⟩ := h
  rw [getAt?_append_setAt_append, hroot, Option.getD_some, getAt?_setAt_array_key _ _ _ ha hab]

theorem getAt?_setAt_of_pads (hab : a ≠ b) (h : Pads root above a b) :
    getAt? (above ++ b :: rest) (setAt value (above ++ a :: below) root).2 = getAt? rest null := by
  obtain ⟨items, i, j, hroot, ha, hb, hj⟩ := h
  rw [getAt?_append_setAt_append, hroot, Option.getD_some, getAt?_setAt_array _ _ _ ha hab, hb,
    Option.bind_some, if_pos hj]

theorem Pads.getAt?_eq_none (h : Pads root above a b) :
    getAt? (above ++ b :: rest) root = none := by
  obtain ⟨items, i, j, hroot, -, hb, hj, -⟩ := h
  simp [getAt?_append, hroot, getAt?, hb, List.getElem?_eq_none hj]

/-- A write that neither gives up an array nor makes it grow over an item leaves what is read
there. -/
theorem getAt?_setAt_of_not (hab : a ≠ b) (hg : ¬ GivesUp root above a)
    (hp : ¬ Pads root above a b) :
    getAt? (above ++ b :: rest) (setAt value (above ++ a :: below) root).2 =
      getAt? (above ++ b :: rest) root := by
  rw [getAt?_append_setAt_append, ← getAt?_getD_null]
  by_cases hc : ∃ items, getAt? above root = some (array items)
  · obtain ⟨items, hroot⟩ := hc
    rw [hroot, Option.getD_some]
    cases ha : segmentIndex? a with
    | none => exact absurd ⟨⟨items, hroot⟩, ha⟩ hg
    | some i =>
      rw [getAt?_setAt_array value below rest ha hab]
      cases hb : segmentIndex? b with
      | none => simp [getAt?, hb]
      | some j => rw [Option.bind_some, if_neg fun hj ↦ hp ⟨items, i, j, hroot, ha, hb, hj⟩]
  · refine getAt?_setAt_of_ne value below rest hab fun items hi ↦ hc ⟨items, ?_⟩
    cases hroot : getAt? above root with
    | none => simp [hroot] at hi
    | some v => rw [← hi, hroot, Option.getD_some]

end Beside

theorem getAt?_null_eq (path : List String) :
    getAt? path null = if path = [] then some null else none := by
  cases path <;> rfl

theorem getD_getAt?_null (path : List String) : (getAt? path null).getD null = null := by
  cases path <;> rfl

theorem getD_getAt?_setAt (value : Json) {above : List String} {a b : String}
    (below rest : List String) (hab : a ≠ b) {root : Json} (h : ¬ GivesUp root above a) :
    (getAt? (above ++ b :: rest) (setAt value (above ++ a :: below) root).2).getD null =
      (getAt? (above ++ b :: rest) root).getD null := by
  by_cases hp : Pads root above a b
  · rw [getAt?_setAt_of_pads value below rest hab hp, hp.getAt?_eq_none, getD_getAt?_null,
      Option.getD_none]
  · rw [getAt?_setAt_of_not value below rest hab h hp]

def secondItem : Path := ⟨["list", "1"], by decide, by decide⟩

def thirdItem : Path := ⟨["list", "2"], by decide, by decide⟩

def shortList : Json := object [("list", array [bool true])]

/-- A value that is no array and holds none. -/
def ArrayFree (v : Json) : Prop := ∀ path items, getAt? path v ≠ some (array items)

theorem arrayFree_of_isContainer {v : Json} (h : v.isContainer = false) : ArrayFree v := by
  rintro (_ | ⟨s, path⟩) items <;> cases v <;> simp_all [Json.getAt?, isContainer]

theorem ArrayFree.getAt? {path : List String} {v w : Json} (h : ArrayFree v)
    (hw : getAt? path v = some w) : ArrayFree w := by
  intro rest items hi
  apply h (path ++ rest) items
  rw [getAt?_append, hw, Option.bind_some, hi]

theorem ArrayFree.getD_getAt? {path : List String} {v : Json} (h : ArrayFree v) :
    ArrayFree ((Json.getAt? path v).getD null) := by
  cases hw : Json.getAt? path v with
  | some w => exact h.getAt? hw
  | none =>
    intro rest items
    cases rest <;> simp [Json.getAt?]

theorem arrayFree_setAt {value : Json} (hv : ArrayFree value) {path : List String} {root : Json}
    (h : ArrayFree root) : ArrayFree (setAt value path root).2 := by
  induction path generalizing root with
  | nil => exact hv
  | cons s path ih =>
    have hroot : ∀ items, root ≠ array items := fun items hr ↦ h [] items (by rw [hr, Json.getAt?])
    rintro (_ | ⟨t, rest⟩) items
    · cases root with
      | array items => exact absurd rfl (hroot items)
      | object _ | null | bool _ | number _ | string _ => simp [setAt, Json.getAt?]
    · by_cases hst : s = t
      · subst hst
        rw [getAt?_cons_setAt_cons]
        exact ih h.getD_getAt? rest items
      · rw [getAt?_setAt_of_ne value path rest hst hroot]
        exact h (t :: rest) items

theorem get?_set_of_not_isRelatedTo {root : Json} (h : ArrayFree root) (value : Json) {p q : Path}
    (hr : ¬ p.isRelatedTo q) : (root.set p value).2.get? q = root.get? q := by
  obtain ⟨above, a, b, below, rest, hp, hq, hab⟩ := Path.exists_parting_of_not_isRelatedTo hr
  have hfree : ∀ items, (Json.getAt? above root).getD null ≠ array items :=
    fun items hi ↦ h.getD_getAt? [] items (by rw [hi, Json.getAt?])
  simp only [Json.set, Json.get?, hp, hq]
  rw [getAt?_append_setAt_append, getAt?_setAt_of_ne value below rest hab hfree, getAt?_getD_null]

theorem get?_set_self (root value : Json) (p : Path) :
    (root.set p value).2.get? p = some value := by
  have h := getAt?_append_setAt value p.segments [] root
  rwa [List.append_nil, Json.getAt?] at h

end DataBinding.Json
