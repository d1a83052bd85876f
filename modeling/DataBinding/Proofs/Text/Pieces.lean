import DataBinding.Proofs.Text.Trim
import DataBinding.Text.Pieces
import Mathlib.Data.List.Infix

namespace DataBinding.Text

variable {c : Char} {d s : List Char}

theorem breakAt?_of_isPrefixOf (h : d.isPrefixOf s) :
    breakAt? d s = some ([], s.drop d.length) := by
  rw [breakAt?.eq_def, if_pos h]

theorem breakAt?_cons {e : Char} (h : ¬ d.isPrefixOf (e :: s)) :
    breakAt? d (e :: s) = (breakAt? d s).map fun r ↦ (e :: r.1, r.2) := by
  rw [breakAt?, if_neg h]

theorem eq_append_of_isPrefixOf {a b : List Char} (hd : d.isPrefixOf s)
    (h : breakAt? d s = some (a, b)) : s = a ++ (d ++ b) := by
  rw [breakAt?_of_isPrefixOf hd] at h
  cases h
  exact List.prefix_append_drop (List.isPrefixOf_iff_prefix.mp hd)

theorem eq_append_of_breakAt? {a b : List Char} (h : breakAt? d s = some (a, b)) :
    s = a ++ (d ++ b) := by
  induction s generalizing a with
  | nil =>
    by_cases hd : d.isPrefixOf []
    · exact eq_append_of_isPrefixOf hd h
    · rw [breakAt?, if_neg hd] at h
      cases h
  | cons e s ih =>
    by_cases hd : d.isPrefixOf (e :: s)
    · exact eq_append_of_isPrefixOf hd h
    · rw [breakAt?_cons hd] at h
      obtain ⟨r, hr, he⟩ := Option.map_eq_some_iff.mp h
      cases he
      rw [List.cons_append, ← ih hr]

theorem split_of_none (h : breakAt? (c :: d) s = none) : split c d s = [s] := by
  rw [split]
  split
  · rfl
  · rename_i hs
    rw [h] at hs
    cases hs

theorem split_of_some {a b : List Char} (h : breakAt? (c :: d) s = some (a, b)) :
    split c d s = a :: split c d b := by
  rw [split]
  split
  · rename_i hn
    rw [h] at hn
    cases hn
  · rename_i hs
    rw [h] at hs
    cases hs
    rfl

theorem split_ne_nil (c : Char) (d s : List Char) : split c d s ≠ [] := by
  cases h : breakAt? (c :: d) s with
  | none => simp [split_of_none h]
  | some r => simp [split_of_some (a := r.1) (b := r.2) h]

theorem nil_intercalate (fs : List (List Char)) : [].intercalate fs = fs.flatten := by
  induction fs with
  | nil => rfl
  | cons f fs ih =>
    by_cases h : fs = []
    · subst h
      rw [List.intercalate_singleton, List.flatten_singleton]
    · rw [List.intercalate_cons_of_ne_nil h, ih, List.append_nil, List.flatten_cons]

theorem intercalate_split (c : Char) (d s : List Char) :
    (c :: d).intercalate (split c d s) = s := by
  induction s using split.induct c d with
  | case1 s h => rw [split_of_none h, List.intercalate_singleton]
  | case2 s a b h ih =>
    rw [split_of_some h, List.intercalate_cons_of_ne_nil (split_ne_nil c d b), ih,
      eq_append_of_breakAt? h, List.append_assoc]

/-- A text without its first character is cut at the same places, unless it starts with the
delimiter. -/
theorem split_cons (c : Char) (d : List Char) (e : Char) (s : List Char) :
    split c d (e :: s) =
      if (c :: d).isPrefixOf (e :: s) then [] :: split c d ((e :: s).drop (c :: d).length)
      else (split c d s).modifyHead (e :: ·) := by
  split
  · rename_i h
    exact split_of_some (breakAt?_of_isPrefixOf h)
  · rename_i h
    have hbreak := breakAt?_cons h
    cases hs : breakAt? (c :: d) s with
    | none =>
      rw [hs] at hbreak
      rw [split_of_none hbreak, split_of_none hs]
      rfl
    | some r =>
      rw [hs] at hbreak
      rw [split_of_some hbreak, split_of_some (a := r.1) (b := r.2) hs]
      rfl

theorem split_nil (c : Char) (d : List Char) : split c d [] = [[]] := split_of_none rfl

theorem split_singleton (c : Char) (s : List Char) : split c [] s = fields c s := by
  rw [fields_eq_splitOn]
  induction s with
  | nil => exact split_nil c []
  | cons e s ih =>
    rw [split_cons, List.splitOn_cons_eq_if_modifyHead, ih]
    by_cases he : e = c
    · subst he
      simp [ih]
    · simp [he, Ne.symm he]

end DataBinding.Text
