import DataBinding.Path.Numeral
import DataBinding.Proofs.Path.Segment
import DataBinding.Proofs.Text.Offset
import Mathlib.Data.List.Basic

namespace DataBinding

namespace Index

theorem isDigit_iff {b : UInt8} : isDigit b ↔ '0'.toNat ≤ b.toNat ∧ b.toNat ≤ '9'.toNat := by
  rw [isDigit, Bool.and_eq_true, decide_eq_true_iff, decide_eq_true_iff, UInt8.le_iff_toNat_le,
    UInt8.le_iff_toNat_le]
  rfl

theorem toNat_toUInt8 {c : Char} (h : c.toNat < 0x80) : c.toUInt8.toNat = c.toNat := by
  have hmod : c.toUInt8.toNat = c.toNat % 256 := UInt32.toNat_toUInt8 c.val
  rw [hmod, Nat.mod_eq_of_lt (by omega)]

theorem isDigit_toUInt8 {c : Char} (h : c.toNat < 0x80) : isDigit c.toUInt8 = c.isDigit := by
  rw [Bool.eq_iff_iff, isDigit_iff, toNat_toUInt8 h, Char.isDigit_iff_toNat]

theorem utf8EncodeChar_of_lt {c : Char} (h : c.toNat < 0x80) :
    String.utf8EncodeChar c = [c.toUInt8] :=
  if_pos (Nat.le_of_lt_succ h)

theorem utf8EncodeChar_of_le {c : Char} (h : 0x80 ≤ c.toNat) :
    ∃ b bs, String.utf8EncodeChar c = b :: bs ∧ 0x80 ≤ b.toNat := by
  fun_cases String.utf8EncodeChar c with
  | case1 v hle => exact absurd hle (Nat.not_le.mpr h)
  | case2 | case3 | case4 => exact ⟨_, _, rfl, by rw [UInt8.toNat_ofNat']; omega⟩

theorem all_isDigit_utf8EncodeChar (c : Char) :
    (String.utf8EncodeChar c).all isDigit = c.isDigit := by
  rcases Nat.lt_or_ge c.toNat 0x80 with hlt | hle
  · rw [utf8EncodeChar_of_lt hlt, List.all_cons, List.all_nil, Bool.and_true, isDigit_toUInt8 hlt]
  · obtain ⟨b, bs, hbytes, hb⟩ := utf8EncodeChar_of_le hle
    have hnine : '9'.toNat = 57 := rfl
    rw [Bool.eq_iff_iff, hbytes, List.all_cons, Bool.and_eq_true, isDigit_iff,
      Char.isDigit_iff_toNat]
    omega

theorem bytes_eq (s : String) :
    s.toUTF8.data.toList = s.toList.flatMap String.utf8EncodeChar := by
  rw [String.toUTF8_eq_toByteArray, ← String.utf8Encode_toList, List.utf8Encode,
    List.toList_data_toByteArray]

theorem all_isDigit_bytes (s : String) :
    s.toUTF8.data.toList.all isDigit = s.toList.all Char.isDigit := by
  rw [bytes_eq, List.all_flatMap]
  exact congrArg s.toList.all (funext all_isDigit_utf8EncodeChar)

theorem bytes_of_digits {s : String} (hd : s.toList.all Char.isDigit) :
    s.toUTF8.data.toList = s.toList.map Char.toUInt8 := by
  rw [bytes_eq, List.map_eq_flatMap]
  refine List.flatMap_congr fun c hc ↦ utf8EncodeChar_of_lt (Text.toNat_lt_of_isDigit ?_)
  exact List.all_eq_true.mp hd c hc

theorem toUInt8_eq_iff {c k : Char} (hc : c.toNat < 0x80) (hk : k.toNat < 0x80) :
    c.toUInt8 = k.toUInt8 ↔ c = k := by
  rw [← UInt8.toNat_inj, toNat_toUInt8 hc, toNat_toUInt8 hk, Char.toNat_inj]

theorem fit?_eq_some_iff {n : Nat} {i : UInt64} : fit? n = some i ↔ i.toNat = n := by
  rw [fit?, Option.ite_none_right_eq_some, Option.some_inj]
  constructor
  · rintro ⟨hlt, rfl⟩
    exact UInt64.toNat_ofNat_of_lt' hlt
  · rintro rfl
    exact ⟨i.toNat_lt, UInt64.ofNat_toNat⟩

theorem fit?_toNat (i : UInt64) : fit? i.toNat = some i := fit?_eq_some_iff.mpr rfl

theorem fit?_of_le {n : Nat} (h : indexLimit ≤ n) : fit? n = none := if_neg (Nat.not_lt.mpr h)

theorem push?_toUInt8 {c : Char} (hc : c.isDigit) (n : UInt64) :
    push? n c.toUInt8 = fit? (10 * n.toNat + (c.toNat - '0'.toNat)) := by
  have hlow := Text.toNat_lt_of_isDigit hc
  have hdigit : isDigit c.toUInt8 := by rwa [isDigit_toUInt8 hlow]
  have hzero : '0'.toUInt8 ≤ c.toUInt8 := UInt8.le_iff_toNat_le.mpr (isDigit_iff.mp hdigit).1
  have hvalue : (c.toUInt8 - '0'.toUInt8).toNat = c.toNat - '0'.toNat := by
    rw [UInt8.toNat_sub_of_le _ _ hzero, toNat_toUInt8 hlow]
    rfl
  rw [push?, if_pos hdigit, hvalue, Nat.mul_comm]
  rcases Nat.lt_or_ge (10 * n.toNat) indexLimit with hlt | hle
  · rw [fit?, if_pos hlt, Option.bind_eq_bind, Option.bind_some, UInt64.toNat_ofNat_of_lt' hlt]
  · rw [fit?_of_le hle, fit?_of_le (Nat.le_add_right_of_le hle)]
    rfl

theorem le_ofDigitChars (n : Nat) (cs : List Char) : n ≤ Nat.ofDigitChars 10 cs n := by
  rw [Nat.ofDigitChars_eq_ofDigitChars_zero]
  exact Nat.le_add_right_of_le (Nat.le_mul_of_pos_left n (Nat.pow_pos (by decide)))

/-- Digits are read to the end if and only if the whole number fits. -/
theorem foldlM_push? {cs : List Char} (hd : cs.all Char.isDigit) (n : UInt64) :
    (cs.map Char.toUInt8).foldlM push? n = fit? (Nat.ofDigitChars 10 cs n.toNat) := by
  induction cs generalizing n with
  | nil => exact (fit?_toNat n).symm
  | cons c cs ih =>
    rw [List.all_cons, Bool.and_eq_true] at hd
    rw [List.map_cons, List.foldlM_cons, push?_toUInt8 hd.1, Nat.ofDigitChars_cons]
    -- what is too large now stays so, since the digits to come only add to it
    rcases Nat.lt_or_ge (10 * n.toNat + (c.toNat - '0'.toNat)) indexLimit with hlt | hle
    · rw [fit?, if_pos hlt, Option.bind_eq_bind, Option.bind_some, ih hd.2,
        UInt64.toNat_ofNat_of_lt' hlt]
    · rw [fit?_of_le hle, fit?_of_le (Nat.le_trans hle (le_ofDigitChars _ cs))]
      rfl

section Digits

variable {cs : List Char} (hd : cs.all Char.isDigit)

include hd

theorem head?_eq_iff {k : Char} (hk : k.toNat < 0x80) :
    (cs.map Char.toUInt8).head? = some k.toUInt8 ↔ cs.head? = some k := by
  cases cs with
  | nil => exact iff_of_false nofun nofun
  | cons c cs =>
    have hc : c.isDigit := (Bool.and_eq_true_iff.mp hd).1
    rw [List.map_cons, List.head?_cons, List.head?_cons, Option.some_inj, Option.some_inj,
      toUInt8_eq_iff (Text.toNat_lt_of_isDigit hc) hk]

theorem number?_digits (hne : cs ≠ []) :
    number? (cs.map Char.toUInt8) = fit? (Nat.ofDigitChars 10 cs 0) := by
  have hplus : (cs.map Char.toUInt8).head? ≠ some '+'.toUInt8 := by
    rw [Ne, head?_eq_iff hd (by decide), List.head?_eq_some_iff]
    rintro ⟨rest, rfl⟩
    cases (Bool.and_eq_true_iff.mp hd).1
  rw [number?, if_neg hplus, if_neg (mt List.map_eq_nil_iff.mp hne)]
  exact foldlM_push? hd 0

theorem all_isDigit_map : (cs.map Char.toUInt8).all isDigit := by
  rw [List.all_eq_true] at hd ⊢
  intro b hb
  obtain ⟨c, hc, rfl⟩ := List.mem_map.mp hb
  rw [isDigit_toUInt8 (Text.toNat_lt_of_isDigit (hd c hc)), hd c hc]

theorem refused_iff :
    cs.map Char.toUInt8 = [] ∨
        1 < (cs.map Char.toUInt8).length ∧ (cs.map Char.toUInt8).head? = some '0'.toUInt8 ↔
      cs = [] ∨ ∃ d rest, cs = '0' :: d :: rest := by
  rw [List.map_eq_nil_iff, List.length_map, head?_eq_iff hd (by decide)]
  refine or_congr_right ⟨fun ⟨hlen, hhead⟩ ↦ ?_, ?_⟩
  · obtain ⟨tail, rfl⟩ := List.head?_eq_some_iff.mp hhead
    obtain ⟨d, rest, rfl⟩ := List.exists_cons_of_length_pos (Nat.lt_of_succ_lt_succ hlen)
    exact ⟨d, rest, rfl⟩
  · rintro ⟨d, rest, rfl⟩
    exact ⟨Nat.succ_lt_succ rest.length.succ_pos, rfl⟩

theorem ofBytes?_digits {i : UInt64} :
    ofBytes? (cs.map Char.toUInt8) = some i ↔ IsNumeral i.toNat cs := by
  by_cases hbad : cs = [] ∨ ∃ d rest, cs = '0' :: d :: rest
  · rw [ofBytes?, if_pos ((refused_iff hd).mpr hbad)]
    refine iff_of_false nofun fun h ↦ ?_
    rcases hbad with hnil | ⟨d, rest, hz⟩
    · exact h.ne_nil hnil
    · exact h.no_leading_zero d rest hz
  · rw [ofBytes?, if_neg (mt (refused_iff hd).mp hbad), if_pos (all_isDigit_map hd)]
    simp only [not_or, not_exists] at hbad
    rw [number?_digits hd hbad.1, fit?_eq_some_iff, eq_comm]
    exact ⟨fun hval ↦ ⟨hbad.1, hd, hbad.2, hval⟩, IsNumeral.value⟩

end Digits

theorem ofBytes?_of_not {bytes : List UInt8} (h : ¬ bytes.all isDigit) : ofBytes? bytes = none := by
  rw [ofBytes?, if_neg h, ite_self]

theorem ofSegment?_eq_some_iff {s : String} {i : UInt64} :
    ofSegment? s = some i ↔ IsNumeral i.toNat s.toList := by
  rw [ofSegment?]
  by_cases hd : s.toList.all Char.isDigit
  · rw [bytes_of_digits hd, ofBytes?_digits hd]
  · rw [ofBytes?_of_not (by rwa [all_isDigit_bytes])]
    exact iff_of_false nofun fun h ↦ hd h.digits

theorem map_ofSegment? (s : String) : (ofSegment? s).map UInt64.toNat = segmentIndex? s := by
  ext n
  rw [segmentIndex?_eq_some_iff, Option.map_eq_some_iff]
  constructor
  · rintro ⟨i, hi, rfl⟩
    exact ⟨ofSegment?_eq_some_iff.mp hi, i.toNat_lt⟩
  · rintro ⟨hnum, hlt⟩
    have hn : (UInt64.ofNat n).toNat = n := UInt64.toNat_ofNat_of_lt' hlt
    exact ⟨.ofNat n, ofSegment?_eq_some_iff.mpr (hn.symm ▸ hnum), hn⟩

end Index

/-- A segment denotes a number if and only if it is the decimal numeral of this number, with no
sign, no zero in front and no other digits than those of ASCII, and the number fits in 64 bits. The
same is read from its bytes with numbers of 64 bits. No two segments denote one item of an array. -/
theorem denotes_iff_isNumeral (s : String) (n : Nat) :
    (segmentIndex? s = some n ↔ IsNumeral n s.toList ∧ n < Nat.pow 2 64) ∧
      (IsNumeral n s.toList ↔ s = toString n) ∧
      (Index.ofSegment? s).map UInt64.toNat = segmentIndex? s ∧
      ∀ t, s ≠ t → segmentIndex? s = some n → segmentIndex? t ≠ some n := by
  refine ⟨segmentIndex?_eq_some_iff, ?_, Index.map_ofSegment? s, fun t hne hs ht ↦ ?_⟩
  · rw [isNumeral_iff, Nat.toString_eq_repr, ← String.toList_inj, Nat.toList_repr]
  · exact hne (segmentIndex?_injective hs ht)

theorem denotes_iff_isNumeral_greatest :
    let greatest := "18446744073709551615"
    let next := "18446744073709551616"
    IsNumeral 18446744073709551615 greatest.toList ∧
      segmentIndex? greatest = some 18446744073709551615 ∧
      Index.ofSegment? greatest = some 18446744073709551615 ∧
      IsNumeral 18446744073709551616 next.toList ∧ segmentIndex? next = none ∧
      ∀ t, greatest ≠ t → segmentIndex? t ≠ some 18446744073709551615 := by
  intro greatest next
  obtain ⟨hiff, hnum, -, hother⟩ := denotes_iff_isNumeral greatest 18446744073709551615
  obtain ⟨-, hnext, -, -⟩ := denotes_iff_isNumeral next 18446744073709551616
  have hgreatest : IsNumeral 18446744073709551615 greatest.toList := hnum.mpr rfl
  have hindex : segmentIndex? greatest = some 18446744073709551615 :=
    hiff.mpr ⟨hgreatest, by decide⟩
  exact ⟨hgreatest, hindex, by decide, hnext.mpr rfl, by decide, fun t hne ↦ hother t hne hindex⟩

end DataBinding
