import DataBinding.Proofs.Path.Frame

namespace DataBinding

namespace Path

def append (p q : Path) : Path where
  segments := p.segments ++ q.segments
  nonempty := List.append_ne_nil_of_left_ne_nil p.nonempty _
  isSegment s hs := (List.mem_append.mp hs).elim (p.isSegment s) (q.isSegment s)

instance : Append Path := ⟨append⟩

@[simp] theorem segments_append (p q : Path) : (p ++ q).segments = p.segments ++ q.segments := rfl

theorem isAncestorOf_iff_exists_append {p q : Path} :
    p.isAncestorOf q ↔ ∃ s : Path, q = p ++ s := by
  rw [isAncestorOf_iff]
  constructor
  · rintro ⟨⟨rest, hrest⟩, hne⟩
    have hmem : ∀ s ∈ rest, s ∈ q.segments := fun s hs ↦ hrest ▸ List.mem_append_right _ hs
    have hnil : rest ≠ [] := by
      rintro rfl
      rw [List.append_nil] at hrest
      exact hne (segments_inj.mp hrest)
    refine ⟨⟨rest, hnil, fun s hs ↦ q.isSegment s (hmem s hs)⟩, segments_inj.mp hrest.symm⟩
  · rintro ⟨s, rfl⟩
    refine ⟨List.prefix_append _ _, fun h ↦ s.nonempty ?_⟩
    simpa using congrArg Path.segments h

end Path

namespace Json

namespace Members

theorem insert_insert (key : String) (v w : Json) (ms : Members) :
    insert key w (insert key v ms) = insert key w ms := by
  induction ms with
  | nil => simp [insert]
  | cons m ms ih =>
    by_cases h : m.1 = key
    · simp [insert, h]
    · simpa [insert, h] using ih

end Members

theorem getD_getAt?_getD (o : Option Json) (p : List String) :
    (getAt? p (o.getD null)).getD null = (o.bind (getAt? p)).getD null := by
  cases o with
  | none => exact getD_getAt?_null p
  | some v => rfl

theorem padTo_of_le {n : Nat} {items : List Json} (h : n ≤ items.length) :
    padTo n items = items := by
  simp [padTo, Nat.sub_eq_zero_of_le h]

theorem setAt_item (value : Json) {s : String} (path : List String) {i : Nat}
    (hs : segmentIndex? s = some i) (items : List Json) :
    (setAt value (s :: path) (array items)).2 =
      array ((padTo (i + 1) items).set i (setAt value path (items.getD i null)).2) := by
  simp only [setAt, hs, getD_padTo (Nat.lt_succ_self i)]

theorem setAt_fst (value : Json) (p : List String) (v : Json) :
    (setAt value p v).1 = (getAt? p v).getD null := by
  induction p generalizing v with
  | nil => rfl
  | cons s p ih =>
    cases v with
    | array items =>
      cases hi : segmentIndex? s with
      | none => simp [setAt, hi, ih, getAt?, membersOrEmpty, Members.find?, getD_getAt?_null]
      | some i =>
        simp only [setAt, hi, ih, getD_padTo (Nat.lt_succ_self i), getAt?, Option.bind_some]
        rw [List.getD_eq_getElem?_getD, getD_getAt?_getD]
    | object members => simp only [setAt, ih, membersOrEmpty, getAt?, getD_getAt?_getD]
    | null | bool _ | number _ | string _ =>
      simp [setAt, ih, getAt?, membersOrEmpty, Members.find?, getD_getAt?_null]

theorem setAt_setAt (value value' : Json) (p : List String) (v : Json) :
    setAt value' p (setAt value p v).2 = (value, (setAt value' p v).2) := by
  induction p generalizing v with
  | nil => rfl
  | cons s p ih =>
    cases v with
    | array items =>
      cases hi : segmentIndex? s with
      | none =>
        simp [setAt, hi, ih, membersOrEmpty, Members.find?_insert_self, Members.insert_insert]
      | some i =>
        have hlen := lt_length_padTo i items
        -- the array has grown by the first write, and holds its value
        have hpad (new : Json) :
            padTo (i + 1) ((padTo (i + 1) items).set i new) = (padTo (i + 1) items).set i new :=
          padTo_of_le (by rw [List.length_set]; exact hlen)
        have hget (new : Json) : ((padTo (i + 1) items).set i new).getD i null = new := by
          rw [List.getD_eq_getElem?_getD, List.getElem?_set_self hlen, Option.getD_some]
        simp only [setAt, hi, hpad, hget, ih, List.set_set]
    | object members =>
      simp [setAt, membersOrEmpty, Members.find?_insert_self, Members.insert_insert, ih]
    | null | bool _ | number _ | string _ =>
      simp [setAt, ih, membersOrEmpty, Members.find?_insert_self, Members.insert_insert]

/-- What a write does to the values along its path, and what it answers. -/
theorem set_overwrites (root v w : Json) (p : Path) :
    (root.set p v).1 = (root.get? p).getD null ∧
      (root.set p v).2.get? p = some v ∧
      (∀ s, (root.set p v).2.get? (p ++ s) = v.get? s) ∧
      (∀ q, q.isAncestorOf p → ∃ s, p = q ++ s ∧
        (root.set p v).2.get? q = some (((root.get? q).getD null).set s v).2) ∧
      (root.set p v).2.set p w = (v, (root.set p w).2) := by
  refine ⟨setAt_fst v p.segments root, get?_set_self root v p, fun s ↦ ?_, fun q hq ↦ ?_, ?_⟩
  · exact getAt?_append_setAt v p.segments s.segments root
  · obtain ⟨s, rfl⟩ := Path.isAncestorOf_iff_exists_append.mp hq
    have h := getAt?_append_setAt_append v q.segments s.segments [] root
    rw [List.append_nil, getAt?] at h
    exact ⟨s, rfl, h⟩
  · exact setAt_setAt v w p.segments root

end Json

end DataBinding
