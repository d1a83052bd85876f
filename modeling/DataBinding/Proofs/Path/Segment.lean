import DataBinding.Path.Store

namespace DataBinding

theorem digit_lt {c : Char} (h : c.isDigit) : c.toNat - '0'.toNat < 10 := by
  have hc := Char.isDigit_iff_toNat.mp h
  simp only [Char.reduceToNat] at hc ⊢
  omega

theorem toDigits_digit {c : Char} (h : c.isDigit) :
    Nat.toDigits 10 (c.toNat - '0'.toNat) = [c] := by
  have hlt := digit_lt h
  have hc : c = Char.ofNat ('0'.toNat + (c.toNat - '0'.toNat)) := by
    rw [Nat.add_sub_cancel' (Char.isDigit_iff_toNat.mp h).1, Char.ofNat_toNat]
  rw [Nat.toDigits_of_lt_base hlt]
  generalize c.toNat - '0'.toNat = d at hc hlt
  subst hc
  match d, hlt with
  | 0, _ | 1, _ | 2, _ | 3, _ | 4, _ | 5, _ | 6, _ | 7, _ | 8, _ | 9, _ => rfl

theorem toDigits_append_digits {cs : List Char} (hd : cs.all Char.isDigit) {n : Nat} (hn : 0 < n) :
    Nat.toDigits 10 n ++ cs = Nat.toDigits 10 (Nat.ofDigitChars 10 cs n) := by
  induction cs generalizing n with
  | nil => simp
  | cons c cs ih =>
    rw [List.all_cons, Bool.and_eq_true] at hd
    have hstep := Nat.toDigits_append_toDigits (b := 10) (by decide) hn (digit_lt hd.1)
    rw [toDigits_digit hd.1] at hstep
    rw [Nat.ofDigitChars_cons, ← ih hd.2 (by omega), ← hstep, List.append_assoc,
      List.singleton_append]

theorem toDigits_ofDigitChars {cs : List Char} (hd : cs.all Char.isDigit) (hne : cs ≠ [])
    (hz : ∀ d rest, cs ≠ '0' :: d :: rest) : Nat.toDigits 10 (Nat.ofDigitChars 10 cs 0) = cs := by
  obtain ⟨c, cs, rfl⟩ := List.exists_cons_of_ne_nil hne
  rw [List.all_cons, Bool.and_eq_true] at hd
  rw [Nat.ofDigitChars_cons, Nat.mul_zero, Nat.zero_add]
  rcases cs with _ | ⟨d, cs⟩
  · rw [Nat.ofDigitChars_nil, toDigits_digit hd.1]
  · have hpos : 0 < c.toNat - '0'.toNat := by
      rw [Nat.pos_iff_ne_zero]
      intro h₀
      have hc : ['0'] = [c] := by
        rw [← toDigits_digit hd.1, h₀]
        rfl
      exact hz d cs (by rw [List.singleton_inj.mp hc])
    rw [← toDigits_append_digits hd.2 hpos, toDigits_digit hd.1, List.singleton_append]

theorem head?_toDigits {n : Nat} (hn : 0 < n) : (Nat.toDigits 10 n).head? ≠ some '0' := by
  induction n using Nat.base_induction 10 (by decide) with
  | single d hd =>
    rw [Nat.toDigits_of_lt_base hd, List.head?_cons]
    intro hzero
    have hval := Nat.toNat_digitChar_of_lt_ten hd
    rw [Option.some_inj.mp hzero] at hval
    change 48 = 48 + d at hval
    omega
  | digit m d hd hm ih =>
    obtain ⟨c, cs, hcs⟩ := List.exists_cons_of_ne_nil (Nat.toDigits_ne_nil (n := m) (b := 10))
    rw [← Nat.toDigits_append_toDigits (by decide) hm hd, hcs]
    rw [hcs] at ih
    exact ih hm

/-- Decimal numerals: digits from `0` to `9` and no sign, of which a zero is the first only if it is
the only one. -/
structure IsNumeral (n : Nat) (cs : List Char) : Prop where
  ne_nil : cs ≠ []
  digits : cs.all Char.isDigit
  no_leading_zero : ∀ d rest, cs ≠ '0' :: d :: rest
  value : Nat.ofDigitChars 10 cs 0 = n

theorem isNumeral_iff {n : Nat} {cs : List Char} : IsNumeral n cs ↔ cs = Nat.toDigits 10 n := by
  constructor
  · rintro ⟨hne, hd, hz, rfl⟩
    exact (toDigits_ofDigitChars hd hne hz).symm
  · rintro rfl
    have hd : (Nat.toDigits 10 n).all Char.isDigit :=
      List.all_eq_true.mpr fun c hc ↦ Nat.isDigit_of_mem_toDigits (by decide) (by decide) hc
    refine ⟨Nat.toDigits_ne_nil, hd, fun d rest hz ↦ ?_, Nat.ofDigitChars_ten_toDigits⟩
    rcases Nat.eq_zero_or_pos n with rfl | hn
    · rw [Nat.toDigits_zero] at hz
      cases hz
    · exact head?_toDigits hn (by rw [hz, List.head?_cons])

theorem segmentIndex?_eq_some_iff {s : String} {n : Nat} :
    segmentIndex? s = some n ↔ IsNumeral n s.toList ∧ n < indexLimit := by
  unfold segmentIndex?
  split
  · rename_i hnil
    exact iff_of_false nofun fun h ↦ h.1.ne_nil hnil
  · rename_i d rest hz
    exact iff_of_false nofun fun h ↦ h.1.no_leading_zero d rest hz
  · rename_i hne hz
    split
    · rename_i hd
      simp only [Option.ite_none_right_eq_some, Option.some.injEq, ← Nat.ofDigitChars_eq_foldl]
      constructor
      · rintro ⟨hlt, rfl⟩
        exact ⟨⟨hne, hd, hz, rfl⟩, hlt⟩
      · rintro ⟨⟨-, -, -, rfl⟩, hlt⟩
        exact ⟨hlt, rfl⟩
    · rename_i hd
      exact iff_of_false nofun fun h ↦ hd h.1.digits

theorem toList_of_segmentIndex? {s : String} {n : Nat} (h : segmentIndex? s = some n) :
    s.toList = Nat.toDigits 10 n :=
  isNumeral_iff.mp (segmentIndex?_eq_some_iff.mp h).1

theorem lt_of_segmentIndex? {s : String} {n : Nat} (h : segmentIndex? s = some n) :
    n < indexLimit :=
  (segmentIndex?_eq_some_iff.mp h).2

/-- Different segments never denote the same item of an array. -/
theorem segmentIndex?_injective {s t : String} {n : Nat} (hs : segmentIndex? s = some n)
    (ht : segmentIndex? t = some n) : s = t :=
  String.toList_inj.mp ((toList_of_segmentIndex? hs).trans (toList_of_segmentIndex? ht).symm)

end DataBinding
