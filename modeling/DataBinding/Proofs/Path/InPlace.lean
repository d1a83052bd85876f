import DataBinding.Proofs.Path.Overwrite

namespace DataBinding.Json

namespace Members

theorem insert_self {key : String} {v : Json} {ms : Members} (h : find? key ms = some v) :
    insert key v ms = ms := by
  induction ms with
  | nil => cases h
  | cons m ms ih =>
    obtain ⟨k, w⟩ := m
    rw [find?] at h
    rw [insert]
    split
    · rename_i hk
      rw [if_pos hk, Option.some.injEq] at h
      rw [h]
    · rename_i hk
      rw [if_neg hk] at h
      rw [ih h]

end Members

/-- The value at a path, and the root after `f` has changed it. Each container on the way takes back
its child, whether or not anything was found below it. -/
def modifyAt (f : Json → Json) : List String → Json → Option Json × Json
  | [], v => (some v, f v)
  | s :: path, object members =>
    match Members.find? s members with
    | some child =>
      let (found, child) := modifyAt f path child
      (found, object (Members.insert s child members))
    | none => (none, object members)
  | s :: path, array items =>
    match segmentIndex? s with
    | some i =>
      match items[i]? with
      | some child =>
        let (found, child) := modifyAt f path child
        (found, array (items.set i child))
      | none => (none, array items)
    | none => (none, array items)
  | _ :: _, v => (none, v)

def modify (root : Json) (p : Path) (f : Json → Json) : Option Json × Json :=
  modifyAt f p.segments root

section Child

variable (value : Json) {s : String} (path : List String) {child : Json}

theorem setAt_object_of_find? {members : Members} (h : Members.find? s members = some child) :
    (setAt value (s :: path) (object members)).2 =
      object (Members.insert s (setAt value path child).2 members) := by
  simp only [setAt, membersOrEmpty, h, Option.getD_some]

theorem setAt_array_of_getElem? {items : List Json} {i : Nat} (hs : segmentIndex? s = some i)
    (h : items[i]? = some child) :
    (setAt value (s :: path) (array items)).2 = array (items.set i (setAt value path child).2) := by
  have hlt : i < items.length := (List.getElem?_eq_some_iff.mp h).1
  rw [setAt_item value path hs, padTo_of_le hlt, List.getD_eq_getElem?_getD, h, Option.getD_some]

end Child

theorem replaceAt?_eq (value : Json) (path : List String) (v : Json) :
    replaceAt? value path v = (getAt? path v).map fun old ↦ (old, (setAt value path v).2) := by
  induction path generalizing v with
  | nil => rfl
  | cons s path ih =>
    cases v with
    | object members =>
      cases h : Members.find? s members with
      | none => simp [replaceAt?, getAt?, h]
      | some child =>
        rw [setAt_object_of_find? value path h]
        simp only [replaceAt?, getAt?, h, ih, Option.bind_some, Option.bind_eq_bind]
        cases getAt? path child <;> rfl
    | array items =>
      cases hs : segmentIndex? s with
      | none => simp [replaceAt?, getAt?, hs]
      | some i =>
        cases h : items[i]? with
        | none => simp [replaceAt?, getAt?, hs, h]
        | some child =>
          rw [setAt_array_of_getElem? value path hs h]
          simp only [replaceAt?, getAt?, hs, h, ih, Option.bind_some, Option.bind_eq_bind]
          cases getAt? path child <;> rfl
    | null | bool _ | number _ | string _ => rfl

theorem setAt_of_getAt? {path : List String} {v old : Json} (h : getAt? path v = some old) :
    (setAt old path v).2 = v := by
  induction path generalizing v with
  | nil =>
    cases h
    rfl
  | cons s path ih =>
    cases v with
    | object members =>
      obtain ⟨child, hchild, hold⟩ := Option.bind_eq_some_iff.mp h
      rw [setAt_object_of_find? old path hchild, ih hold, Members.insert_self hchild]
    | array items =>
      obtain ⟨i, hs, hi⟩ := Option.bind_eq_some_iff.mp h
      obtain ⟨child, hchild, hold⟩ := Option.bind_eq_some_iff.mp hi
      obtain ⟨hlt, hget⟩ := List.getElem?_eq_some_iff.mp hchild
      rw [setAt_array_of_getElem? old path hs hchild, ih hold, ← hget, List.set_getElem_self]
    | null | bool _ | number _ | string _ => cases h

/-- What is changed in place is written, and nothing else changes. -/
theorem modifyAt_eq (f : Json → Json) (path : List String) (v : Json) :
    modifyAt f path v =
      (getAt? path v, ((getAt? path v).map fun old ↦ (setAt (f old) path v).2).getD v) := by
  induction path generalizing v with
  | nil => rfl
  | cons s path ih =>
    cases v with
    | object members =>
      cases h : Members.find? s members with
      | none => simp [modifyAt, getAt?, h]
      | some child =>
        simp only [modifyAt, h, ih, getAt?, Option.bind_some]
        cases hold : getAt? path child with
        | none => simp [Members.insert_self h]
        | some old => simp [setAt_object_of_find? _ path h]
    | array items =>
      cases hs : segmentIndex? s with
      | none => simp [modifyAt, getAt?, hs]
      | some i =>
        cases h : items[i]? with
        | none => simp [modifyAt, getAt?, hs, h]
        | some child =>
          simp only [modifyAt, hs, h, ih, getAt?, Option.bind_some]
          cases hold : getAt? path child with
          | none =>
            obtain ⟨hlt, hget⟩ := List.getElem?_eq_some_iff.mp h
            simp [← hget]
          | some old => simp [setAt_array_of_getElem? _ path hs h]
    | null | bool _ | number _ | string _ => rfl

/-- Replacing a value in place finds it if and only if reading does. The root is then the one that a
write leaves, the same one if the value is the one that was there; otherwise it is unchanged. -/
theorem replace?_eq_set (root value : Json) (p : Path) :
    root.replace? p value = (root.get? p).map (fun old ↦ (old, (root.set p value).2)) ∧
      (∀ old, root.get? p = some old → (root.set p old).2 = root) ∧
      ∀ f, root.modify p f =
        match root.get? p with
        | some old => (some old, (root.set p (f old)).2)
        | none => (none, root) := by
  refine ⟨replaceAt?_eq value p.segments root, fun old hold ↦ setAt_of_getAt? hold, fun f ↦ ?_⟩
  rw [modify, modifyAt_eq, ← Json.get?]
  cases root.get? p <;> rfl

def flags : Json := object [("flags", array [bool true])]

def firstFlag : Path := ⟨["flags", "0"], by decide, by decide⟩

def secondFlag : Path := ⟨["flags", "1"], by decide, by decide⟩

theorem replace?_eq_set_flags :
    flags.get? firstFlag = some (bool true) ∧
      (flags.set firstFlag (bool true)).2 = flags ∧
      flags.replace? firstFlag null = some (bool true, (flags.set firstFlag null).2) ∧
      flags.modify secondFlag (fun _ ↦ null) = (none, flags) := by
  have hfirst : flags.get? firstFlag = some (bool true) := rfl
  have hsecond : flags.get? secondFlag = none := rfl
  obtain ⟨hreplace, hback, -⟩ := replace?_eq_set flags null firstFlag
  obtain ⟨-, -, hmodify⟩ := replace?_eq_set flags null secondFlag
  refine ⟨hfirst, hback _ hfirst, ?_, ?_⟩
  · rw [hreplace, hfirst, Option.map_some]
  · rw [hmodify, hsecond]

end DataBinding.Json
