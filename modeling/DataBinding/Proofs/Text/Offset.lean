import DataBinding.Proofs.Text.Blank
import DataBinding.Text.Utf8

namespace DataBinding.Text

def bytes (s : List Char) : List Nat := s.flatMap fun c ↦ utf8Bytes c.toNat

/-- Parts a text at a byte offset; none if the offset is within a character or beyond the end. -/
def partAt? : Nat → List Char → Option (List Char × List Char)
  | 0, s => some ([], s)
  | _ + 1, [] => none
  | n + 1, c :: s =>
    if c.utf8Size ≤ n + 1 then (partAt? (n + 1 - c.utf8Size) s).map fun r ↦ (c :: r.1, r.2)
    else none

def upTo? (s : List Char) (n : Nat) : Option (List Char) := (partAt? n s).map Prod.fst

def from? (s : List Char) (n : Nat) : Option (List Char) := (partAt? n s).map Prod.snd

/-- The text between two offsets; none if they are out of order or one of them is no place to cut
at. -/
def between? (s : List Char) (first last : Nat) : Option (List Char) :=
  if first ≤ last then (upTo? s last).bind (from? · first) else none

def offset? (c : Char) (s : List Char) : Option Nat :=
  if c ∈ s then some (utf8Length (s.takeWhile (· != c))) else none

theorem utf8Length_append (s t : List Char) :
    utf8Length (s ++ t) = utf8Length s + utf8Length t := by
  induction s with
  | nil => rw [List.nil_append, utf8Length, Nat.zero_add]
  | cons c s ih => rw [List.cons_append, utf8Length, utf8Length, ih, Nat.add_assoc]

theorem partAt?_append (a b : List Char) : partAt? (utf8Length a) (a ++ b) = some (a, b) := by
  induction a with
  | nil => rw [utf8Length, List.nil_append, partAt?]
  | cons c a ih =>
    obtain ⟨n, hn⟩ : ∃ n, c.utf8Size = n + 1 :=
      Nat.exists_eq_add_one.mpr c.utf8Size_pos
    have hlen : utf8Length (c :: a) = (n + utf8Length a) + 1 := by
      rw [utf8Length, hn]
      omega
    have hrest : (n + utf8Length a) + 1 - c.utf8Size = utf8Length a := by omega
    rw [hlen, List.cons_append, partAt?, if_pos (by omega), hrest, ih]
    rfl

theorem eq_of_partAt? {n : Nat} {s a b : List Char} (h : partAt? n s = some (a, b)) :
    s = a ++ b ∧ utf8Length a = n := by
  fun_induction partAt? n s generalizing a b with
  | case1 s =>
    cases h
    exact ⟨rfl, rfl⟩
  | case2 => cases h
  | case3 n c s hle ih =>
    obtain ⟨⟨a', b'⟩, hp, he⟩ := Option.map_eq_some_iff.mp h
    obtain ⟨rfl, hlen⟩ := ih hp
    cases he
    refine ⟨rfl, ?_⟩
    rw [utf8Length, hlen]
    omega
  | case4 => cases h

theorem upTo?_append (a b : List Char) : upTo? (a ++ b) (utf8Length a) = some a := by
  rw [upTo?, partAt?_append]
  rfl

theorem from?_append (a b : List Char) : from? (a ++ b) (utf8Length a) = some b := by
  rw [from?, partAt?_append]
  rfl

theorem between?_append (a b c : List Char) :
    between? (a ++ (b ++ c)) (utf8Length a) (utf8Length a + utf8Length b) = some b := by
  rw [between?, if_pos (Nat.le_add_right _ _), ← utf8Length_append, ← List.append_assoc,
    upTo?_append, Option.bind_some, from?_append]

theorem eq_of_between? {s b : List Char} {first last : Nat} (h : between? s first last = some b) :
    ∃ a c, s = a ++ (b ++ c) ∧ first = utf8Length a ∧ last = utf8Length a + utf8Length b := by
  rw [between?] at h
  split at h
  · obtain ⟨t, ht, hb⟩ := Option.bind_eq_some_iff.mp h
    obtain ⟨⟨t', c⟩, hp, rfl⟩ := Option.map_eq_some_iff.mp ht
    obtain ⟨⟨a, b'⟩, hp', rfl⟩ := Option.map_eq_some_iff.mp hb
    obtain ⟨rfl, hlast⟩ := eq_of_partAt? hp
    obtain ⟨rfl, hfirst⟩ := eq_of_partAt? hp'
    exact ⟨a, c, List.append_assoc _ _ _, hfirst.symm, by rw [← hlast, utf8Length_append]⟩
  · cases h

theorem length_of_from? {s t : List Char} {n : Nat} (h : from? s n = some t) :
    t.length ≤ s.length ∧ (n ≠ 0 → t.length < s.length) := by
  obtain ⟨⟨a, b⟩, hp, rfl⟩ := Option.map_eq_some_iff.mp h
  obtain ⟨rfl, hlen⟩ := eq_of_partAt? hp
  rw [List.length_append]
  refine ⟨Nat.le_add_left _ _, fun hn ↦ ?_⟩
  cases a with
  | nil => exact absurd hlen.symm hn
  | cons c a => exact Nat.lt_add_of_pos_left (Nat.succ_pos _)

theorem takeWhile_append_cons {c : Char} {s : List Char} (h : c ∉ s) (t : List Char) :
    (s ++ c :: t).takeWhile (· != c) = s :=
  takeWhile_run (fun _ hd ↦ bne_iff_ne.mpr fun he ↦ h (he ▸ hd)) (by simp)

theorem offset?_append_cons {c : Char} {s : List Char} (h : c ∉ s) (t : List Char) :
    offset? c (s ++ c :: t) = some (utf8Length s) := by
  rw [offset?, if_pos (by simp), takeWhile_append_cons h]

theorem offset?_of_notMem {c : Char} {s : List Char} (h : c ∉ s) : offset? c s = none :=
  if_neg h

theorem utf8Size_eq (c : Char) :
    c.utf8Size =
      if c.toNat < 0x80 then 1 else if c.toNat < 0x800 then 2
      else if c.toNat < 0x10000 then 3 else 4 := by
  have hle : ∀ k : UInt32, c.val ≤ k ↔ c.toNat < k.toNat + 1 := fun k ↦
    UInt32.le_iff_toNat_le.trans Nat.lt_succ_iff.symm
  change (if c.val ≤ 0x7f then 1 else if c.val ≤ 0x7ff then 2
    else if c.val ≤ 0xffff then 3 else 4) = _
  simp only [hle]
  rfl

theorem utf8Size_of_lt {c : Char} (h : c.toNat < 0x80) : c.utf8Size = 1 := by
  rw [utf8Size_eq, if_pos h]

theorem utf8Bytes_of_lt {n : Nat} (h : n < 0x80) : utf8Bytes n = [n] := if_pos h

theorem utf8Bytes_of_le {n : Nat} (h : 0x80 ≤ n) : ∃ b bs, utf8Bytes n = b :: bs ∧ 0x80 ≤ b := by
  have hn : ¬ n < 0x80 := by omega
  simp only [utf8Bytes, if_neg hn]
  split
  · exact ⟨_, _, rfl, by omega⟩
  · split
    · exact ⟨_, _, rfl, by omega⟩
    · exact ⟨_, _, rfl, by omega⟩

theorem isDigit_eq (c : Char) : c.isDigit = ('0'.toNat ≤ c.toNat && c.toNat ≤ '9'.toNat) := by
  change (decide (c.val ≥ 48) && decide (c.val ≤ 57)) = _
  simp only [ge_iff_le, UInt32.le_iff_toNat_le]
  rfl

theorem toNat_lt_of_isDigit {c : Char} (h : c.isDigit) : c.toNat < 0x80 := by
  rw [isDigit_eq, Bool.and_eq_true] at h
  exact Nat.lt_of_le_of_lt (of_decide_eq_true h.2) (by decide)

theorem bytes_cons_of_lt {c : Char} (h : c.toNat < 0x80) (s : List Char) :
    bytes (c :: s) = c.toNat :: bytes s := by
  rw [bytes, List.flatMap_cons, utf8Bytes_of_lt h]
  rfl

theorem bytes_cons_of_le {c : Char} (h : 0x80 ≤ c.toNat) (s : List Char) :
    ∃ b bs, bytes (c :: s) = b :: bs ∧ 0x80 ≤ b := by
  obtain ⟨b, bs, he, hb⟩ := utf8Bytes_of_le h
  exact ⟨b, bs ++ bytes s, by rw [bytes, List.flatMap_cons, he]; rfl, hb⟩

theorem exists_bytes_cons (c : Char) (s : List Char) :
    ∃ b bs, bytes (c :: s) = b :: bs ∧ (∀ k : Char, k.toNat < 0x80 → (b = k.toNat ↔ c = k)) ∧
      ('0'.toNat ≤ b && b ≤ '9'.toNat) = c.isDigit := by
  by_cases hc : c.toNat < 0x80
  · exact ⟨c.toNat, bytes s, bytes_cons_of_lt hc s, fun k _ ↦ Char.toNat_inj, (isDigit_eq c).symm⟩
  · have hle : 0x80 ≤ c.toNat := by omega
    obtain ⟨b, bs, he, hb⟩ := bytes_cons_of_le hle s
    have hnine : '9'.toNat = 57 := rfl
    refine ⟨b, bs, he, fun k hk ↦ iff_of_false (by omega) ?_, ?_⟩
    · rintro rfl
      exact hc hk
    · rw [isDigit_eq, hnine, decide_eq_false (show ¬ b ≤ 57 by omega),
        decide_eq_false (show ¬ c.toNat ≤ 57 by omega), Bool.and_false, Bool.and_false]

theorem from?_cons_of_lt {c : Char} (h : c.toNat < 0x80) (s : List Char) :
    from? (c :: s) 1 = some s := by
  have hlen : utf8Length [c] = 1 := by rw [utf8Length, utf8Size_of_lt h]; rfl
  rw [← hlen]
  exact from?_append [c] s

end DataBinding.Text
