import DataBinding.Proofs.Text.Blank
import Mathlib.Data.List.DropRight

namespace DataBinding.Text

theorem trimEnd_eq (s : List Char) : trimEnd s = s.rdropWhile isBlank := rfl

theorem trimEnd_isPrefix (s : List Char) : trimEnd s <+: s := List.rdropWhile_prefix isBlank s

theorem mem_of_mem_trim {s : List Char} {c : Char} (h : c ∈ trim s) : c ∈ s :=
  (trimStart_suffix s).subset ((trimEnd_isPrefix _).subset h)

theorem trim_trim (s : List Char) : trim (trim s) = trim s := by
  have hstart : trimStart (trim s) = trim s := by
    cases ht : trim s with
    | nil => rfl
    | cons c t =>
      -- what is first now was first before the end was trimmed
      obtain ⟨u, hu⟩ := trimEnd_isPrefix (trimStart s)
      rw [← trim, ht, List.cons_append] at hu
      exact trimStart_cons (isBlank_of_head?_trimStart (by rw [← hu]; rfl)) t
  rw [trim, hstart, trim, trimEnd_eq, trimEnd_eq, List.rdropWhile_idempotent]

theorem trimEnd_append_blank {w : List Char} (hw : Blank w) (s : List Char) :
    trimEnd (s ++ w) = trimEnd s := by
  have hrev : Blank w.reverse := fun c hc ↦ hw c (List.mem_reverse.mp hc)
  rw [trimEnd, List.reverse_append, ← trimStart, trimStart_blank hrev, trimStart, ← trimEnd]

theorem trim_blank_append {w : List Char} (hw : Blank w) (s : List Char) :
    trim (w ++ s) = trim s := by
  rw [trim, trimStart_blank hw, trim]

theorem trim_append_blank {w : List Char} (hw : Blank w) (s : List Char) :
    trim (s ++ w) = trim s := by
  by_cases hs : trimStart s = []
  · -- all of the text is white space
    obtain ⟨v, hv, he⟩ := exists_blank_append_trimStart s
    rw [hs, List.append_nil] at he
    subst he
    rw [trim, trimStart_of_blank (hv.append hw), trim, hs]
  · rw [trim, trimStart_append hs, trimEnd_append_blank hw, trim]

theorem exists_blank_append_trim (s : List Char) :
    ∃ w w', Blank w ∧ Blank w' ∧ s = w ++ (trim s ++ w') := by
  obtain ⟨w, hw, hstart⟩ := exists_blank_append_trimStart s
  obtain ⟨v, hv, hend⟩ := exists_blank_append_trimStart (trimStart s).reverse
  refine ⟨w, v.reverse, hw, fun c hc ↦ hv c (List.mem_reverse.mp hc), ?_⟩
  have htrim : trimStart s = trim s ++ v.reverse := by
    rw [← List.reverse_inj, List.reverse_append, List.reverse_reverse, trim, trimEnd,
      List.reverse_reverse, ← trimStart]
    exact hend
  rw [← htrim]
  exact hstart

def BeginsBlank (s : List Char) : Prop := s.head?.any isBlank = true

def EndsBlank (s : List Char) : Prop := s.getLast?.any isBlank = true

instance (s : List Char) : Decidable (BeginsBlank s) := inferInstanceAs (Decidable (_ = _))

instance (s : List Char) : Decidable (EndsBlank s) := inferInstanceAs (Decidable (_ = _))

theorem trimStart_eq_self_iff {s : List Char} : trimStart s = s ↔ ¬ BeginsBlank s := by
  cases s with
  | nil => simp [trimStart, BeginsBlank]
  | cons c s =>
    rw [trimStart, List.dropWhile_eq_self_iff]
    simp [BeginsBlank]

theorem trimEnd_eq_self_iff {s : List Char} : trimEnd s = s ↔ ¬ EndsBlank s := by
  rw [trimEnd_eq, List.rdropWhile_eq_self_iff]
  rcases List.eq_nil_or_concat s with rfl | ⟨s, c, rfl⟩ <;> simp [EndsBlank]

theorem not_beginsBlank_of_isPrefix {s t : List Char} (h : s <+: t) (ht : ¬ BeginsBlank t) :
    ¬ BeginsBlank s := by
  cases s with
  | nil => simp [BeginsBlank]
  | cons c s =>
    obtain ⟨u, rfl⟩ := h
    exact ht

theorem not_beginsBlank_trim (s : List Char) : ¬ BeginsBlank (trim s) :=
  not_beginsBlank_of_isPrefix (trimEnd_isPrefix _)
    (trimStart_eq_self_iff.mp (trimStart_trimStart s))

theorem trim_eq_self_iff {s : List Char} : trim s = s ↔ ¬ BeginsBlank s ∧ ¬ EndsBlank s := by
  constructor
  · intro h
    have hstart : ¬ BeginsBlank s := h ▸ not_beginsBlank_trim s
    rw [trim, trimStart_eq_self_iff.mpr hstart] at h
    exact ⟨hstart, trimEnd_eq_self_iff.mp h⟩
  · rintro ⟨hstart, hend⟩
    rw [trim, trimStart_eq_self_iff.mpr hstart, trimEnd_eq_self_iff.mpr hend]

theorem trim_isInfix (s : List Char) : trim s <:+: s :=
  (trimEnd_isPrefix _).isInfix.trans (trimStart_suffix s).isInfix

theorem trimEnd_append {t : List Char} (h : trimEnd t ≠ []) (s : List Char) :
    trimEnd (s ++ t) = s ++ trimEnd t := by
  have hrev : trimStart t.reverse ≠ [] := fun hn ↦ h (by rw [trimEnd, ← trimStart, hn]; rfl)
  rw [trimEnd, List.reverse_append, ← trimStart, trimStart_append hrev, List.reverse_append,
    List.reverse_reverse, trimStart, ← trimEnd]

section

variable {sep : Char} {s : List Char}

theorem fields_eq_splitOn (sep : Char) (s : List Char) : fields sep s = s.splitOn sep := by
  induction s with
  | nil => rfl
  | cons c s ih =>
    rw [fields, ih, List.splitOn_cons_eq_if_modifyHead]
    by_cases hc : c = sep
    · rw [if_pos hc, if_pos (beq_iff_eq.mpr hc)]
    · rw [if_neg hc, if_neg (mt beq_iff_eq.mp hc)]
      cases h : s.splitOn sep with
      | nil => exact absurd h (List.splitOn_ne_nil sep s)
      | cons f fs => rfl

theorem intercalate_fields (sep : Char) (s : List Char) : [sep].intercalate (fields sep s) = s := by
  rw [fields_eq_splitOn, List.intercalate_splitOn]

theorem fields_intercalate {fs : List (List Char)} (hne : fs ≠ []) (h : ∀ f ∈ fs, sep ∉ f) :
    fields sep ([sep].intercalate fs) = fs := by
  rw [fields_eq_splitOn, List.splitOn_intercalate sep h hne]

theorem cut_of_notMem (h : sep ∉ s) : cut sep s = (s, none) := by
  induction s with
  | nil => rfl
  | cons c s ih =>
    rw [List.mem_cons, not_or] at h
    rw [cut, if_neg (Ne.symm h.1), ih h.2]
    rfl

theorem cut_append_cons (h : sep ∉ s) (t : List Char) : cut sep (s ++ sep :: t) = (s, some t) := by
  induction s with
  | nil => rw [List.nil_append, cut, if_pos rfl]
  | cons c s ih =>
    rw [List.mem_cons, not_or] at h
    rw [List.cons_append, cut, if_neg (Ne.symm h.1), ih h.2]
    rfl

theorem fst_cut (sep : Char) (s : List Char) : (cut sep s).1 = s.takeWhile (· != sep) := by
  induction s with
  | nil => rfl
  | cons c s ih =>
    rw [cut]
    split
    · rename_i hc
      rw [List.takeWhile_cons_of_neg (by simp [hc])]
    · rename_i hc
      rw [List.takeWhile_cons_of_pos (by simpa using hc), ← ih]
      rfl

theorem notMem_fst_cut (sep : Char) (s : List Char) : sep ∉ (cut sep s).1 := by
  rw [fst_cut]
  intro h
  simpa using List.all_eq_true.mp List.all_takeWhile sep h

end

end DataBinding.Text
