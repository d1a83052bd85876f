import DataBinding.Text.Blank

namespace DataBinding.Text

def Blank (s : List Char) : Prop := ∀ c ∈ s, isBlank c

def IsWord (s : List Char) : Prop := s ≠ [] ∧ ∀ c ∈ s, isWordChar c

instance (s : List Char) : Decidable (Blank s) := List.decidableBAll (isBlank ·) s

instance (s : List Char) : Decidable (IsWord s) :=
  @instDecidableAnd _ _ inferInstance (List.decidableBAll (isWordChar ·) s)

theorem blank_nil : Blank [] := by simp [Blank]

theorem blank_space : Blank [' '] := by
  intro c hc
  rw [List.mem_singleton.mp hc]
  rfl

theorem Blank.append {s t : List Char} (hs : Blank s) (ht : Blank t) : Blank (s ++ t) := by
  intro c hc
  exact (List.mem_append.mp hc).elim (hs c) (ht c)

theorem trimStart_blank {w : List Char} (hw : Blank w) (s : List Char) :
    trimStart (w ++ s) = trimStart s :=
  List.dropWhile_append_of_pos hw

theorem trimStart_cons {c : Char} (h : isBlank c = false) (s : List Char) :
    trimStart (c :: s) = c :: s :=
  List.dropWhile_cons_of_neg (by simp [h])

theorem trimStart_of_blank {w : List Char} (hw : Blank w) : trimStart w = [] := by
  have h := trimStart_blank hw []
  rwa [List.append_nil] at h

theorem exists_blank_append_trimStart (s : List Char) : ∃ w, Blank w ∧ s = w ++ trimStart s :=
  ⟨s.takeWhile isBlank, List.all_eq_true.mp List.all_takeWhile,
    List.takeWhile_append_dropWhile.symm⟩

theorem trimStart_trimStart (s : List Char) : trimStart (trimStart s) = trimStart s := by
  obtain ⟨w, hw, hs⟩ := exists_blank_append_trimStart s
  have h := trimStart_blank hw (trimStart s)
  rw [← hs] at h
  exact h.symm

theorem trimStart_suffix (s : List Char) : trimStart s <:+ s := List.dropWhile_suffix _

theorem isBlank_of_head?_trimStart {s : List Char} {c : Char} (h : (trimStart s).head? = some c) :
    isBlank c = false := by
  have hhead := List.head?_dropWhile_not isBlank s
  rw [← trimStart, h] at hhead
  exact hhead

theorem trimStart_append {s : List Char} (h : trimStart s ≠ []) (t : List Char) :
    trimStart (s ++ t) = trimStart s ++ t := by
  rw [trimStart] at h ⊢
  rw [List.dropWhile_append, if_neg (by rwa [List.isEmpty_iff]), trimStart]

theorem toNat_of_isWordChar {c : Char} (h : isWordChar c) :
    48 ≤ c.toNat ∧ c.toNat ≤ 57 ∨ 65 ≤ c.toNat ∧ c.toNat ≤ 90 ∨ c.toNat = 95 ∨
      97 ≤ c.toNat ∧ c.toNat ≤ 122 := by
  have hword : ((c.isUpper || c.isLower) || c.isDigit || c == '_') = true := h
  simp only [Bool.or_eq_true, beq_iff_eq] at hword
  rcases hword with ((h | h) | h) | rfl
  · have hc : 65 ≤ c.toNat ∧ c.toNat ≤ 90 := of_decide_eq_true h
    omega
  · have hc : 97 ≤ c.toNat ∧ c.toNat ≤ 122 :=
      (Bool.and_eq_true_iff.mp h).imp of_decide_eq_true of_decide_eq_true
    omega
  · have hc : 48 ≤ c.toNat ∧ c.toNat ≤ 57 := Char.isDigit_iff_toNat.mp h
    omega
  · decide

theorem isBlank_of_isWordChar {c : Char} (h : isWordChar c) : isBlank c = false := by
  have hc := toNat_of_isWordChar h
  simp only [isBlank, inRanges, blankRanges, List.any_cons, List.any_nil, Bool.or_false,
    Bool.or_eq_false_iff, Bool.and_eq_false_iff, decide_eq_false_iff_not]
  omega

theorem IsWord.trimStart {s : List Char} (hs : IsWord s) (t : List Char) :
    Text.trimStart (s ++ t) = s ++ t := by
  obtain ⟨c, s, rfl⟩ := List.exists_cons_of_ne_nil hs.1
  exact trimStart_cons (isBlank_of_isWordChar (hs.2 c List.mem_cons_self)) _

theorem IsWord.append_head {s t : List Char} (hs : IsWord s) :
    ∃ c u, s ++ t = c :: u ∧ isWordChar c := by
  obtain ⟨c, s, rfl⟩ := List.exists_cons_of_ne_nil hs.1
  exact ⟨c, s ++ t, rfl, hs.2 c List.mem_cons_self⟩

theorem trim_of_forall {s : List Char} (h : ∀ c ∈ s, isBlank c = false) : trim s = s := by
  have hkeep : ∀ t : List Char, (∀ c ∈ t, isBlank c = false) → t.dropWhile isBlank = t := by
    intro t ht
    cases t with
    | nil => rfl
    | cons c t => exact trimStart_cons (ht c List.mem_cons_self) t
  rw [trim, trimEnd, trimStart, hkeep s h, hkeep s.reverse, List.reverse_reverse]
  intro c hc
  exact h c (List.mem_reverse.mp hc)

section

variable {p : Char → Bool} {s t : List Char}

theorem takeWhile_run (hs : ∀ c ∈ s, p c) (ht : ∀ c ∈ t.head?, p c = false) :
    (s ++ t).takeWhile p = s := by
  rw [List.takeWhile_append_of_pos hs]
  cases t with
  | nil => rw [List.takeWhile_nil, List.append_nil]
  | cons c t => rw [List.takeWhile_cons_of_neg (by simp [ht c rfl]), List.append_nil]

theorem dropWhile_run (hs : ∀ c ∈ s, p c) (ht : ∀ c ∈ t.head?, p c = false) :
    (s ++ t).dropWhile p = t := by
  rw [List.dropWhile_append_of_pos hs]
  cases t with
  | nil => rfl
  | cons c t => exact List.dropWhile_cons_of_neg (by simp [ht c rfl])

end

section

variable {sep : Char} {s : List Char}

theorem fields_of_notMem (h : sep ∉ s) : fields sep s = [s] := by
  induction s with
  | nil => rfl
  | cons c s ih =>
    rw [List.mem_cons, not_or] at h
    rw [fields, if_neg (Ne.symm h.1), ih h.2]

theorem mem_of_mem_fields {f : List Char} (hf : f ∈ fields sep s) : ∀ c ∈ f, c ∈ s := by
  induction s generalizing f with
  | nil =>
    rw [fields, List.mem_singleton] at hf
    simp [hf]
  | cons d s ih =>
    intro c hc
    rw [fields] at hf
    split at hf
    · rcases List.mem_cons.mp hf with rfl | hf
      · cases hc
      · exact List.mem_cons_of_mem d (ih hf c hc)
    · split at hf
      · rw [List.mem_singleton] at hf
        rw [hf, List.mem_singleton] at hc
        exact hc ▸ List.mem_cons_self
      · rename_i g gs hg
        rw [hg] at ih
        rcases List.mem_cons.mp hf with rfl | hf
        · rcases List.mem_cons.mp hc with rfl | hc
          · exact List.mem_cons_self
          · exact List.mem_cons_of_mem d (ih List.mem_cons_self c hc)
        · exact List.mem_cons_of_mem d (ih (List.mem_cons_of_mem g hf) c hc)

theorem fields_append_cons (h : sep ∉ s) (t : List Char) :
    fields sep (s ++ sep :: t) = s :: fields sep t := by
  induction s with
  | nil => rw [List.nil_append, fields, if_pos rfl]
  | cons c s ih =>
    rw [List.mem_cons, not_or] at h
    rw [List.cons_append, fields, if_neg (Ne.symm h.1), ih h.2]

end

end DataBinding.Text
