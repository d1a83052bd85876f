import DataBinding.Filter.Replacement
import DataBinding.Proofs.Text.Offset

namespace DataBinding.Replacement

open Pattern Text

/-- A match in its subject, from byte offset to byte offset, and so its groups. -/
structure Spans where
  subject : List Char
  first : Nat
  last : Nat
  groups : List (Option (Nat × Nat))
  names : List (String × Nat)

/-- What the match and its groups span are texts. -/
structure InSubject (m : Spans) : Prop where
  whole : (between? m.subject m.first m.last).isSome
  groups : ∀ g ∈ m.groups, ∀ span ∈ g, (between? m.subject span.1 span.2).isSome

def numbered? (m : Spans) (n : Nat) : Option (List Char) :=
  match m.groups.getD (n - 1) none with
  | some span => between? m.subject span.1 span.2
  | none => some []

def named? (m : Spans) (name : List Char) : Option (List Char) :=
  match m.names.lookup (String.ofList name) with
  | some n => numbered? m n
  | none => some []

def digits (tail : List Char) : List Nat :=
  (((bytes tail).take 2).takeWhile fun b ↦ '0'.toNat ≤ b && b ≤ '9'.toNat).map (· - '0'.toNat)

def isGroup (m : Spans) (n : Nat) : Bool := decide (1 ≤ n) && decide (n ≤ m.groups.length)

def group? (m : Spans) (tail : List Char) : Option (Nat × Nat) :=
  let two :=
    match digits tail with
    | [tens, ones] => if isGroup m (10 * tens + ones) then some (10 * tens + ones, 2) else none
    | _ => none
  two.or ((digits tail).head?.bind fun n ↦ if isGroup m n then some (n, 1) else none)

/-- What the text after a dollar sign refers to, and how many bytes that takes; no bytes if it is
no reference. -/
def reference? (m : Spans) (tail : List Char) : Option (List Char × Nat) :=
  match (bytes tail).head? with
  | none => some ([], 0)
  | some b =>
    if b = '$'.toNat then some (['$'], 1)
    else if b = '&'.toNat then (between? m.subject m.first m.last).map (·, 1)
    else if b = '\x60'.toNat then (upTo? m.subject m.first).map (·, 1)
    else if b = '\x27'.toNat then (from? m.subject m.last).map (·, 1)
    else if '0'.toNat ≤ b && b ≤ '9'.toNat then
      match group? m tail with
      | some (n, taken) => (numbered? m n).map (·, taken)
      | none => some ([], 0)
    else if b = '<'.toNat && !m.names.isEmpty then
      match offset? '>' tail with
      | some close => do
        let name ← between? tail 1 close
        return (← named? m name, close + 1)
      | none => some ([], 0)
    else some ([], 0)

def expand? (m : Spans) (rest : List Char) : Option (List Char) :=
  match offset? '$' rest with
  | none => some rest
  | some pos =>
    match upTo? rest pos, _htail : from? rest (pos + 1) with
    | some lead, some tail =>
      match reference? m tail with
      | some (t, taken) =>
        match _hafter : from? tail taken with
        | some after =>
          (expand? m after).map fun out ↦
            lead ++ (t ++ ((if taken = 0 then ['$'] else []) ++ out))
        | none => none
      | none => none
    | _, _ => none
termination_by rest.length
decreasing_by
  have htail := length_of_from? _htail
  have hafter := length_of_from? _hafter
  omega

/-- The cuts of a match in its subject give what was captured. -/
structure Located (m : Spans) (c : Captured) : Prop where
  before : upTo? m.subject m.first = some c.before
  whole : between? m.subject m.first m.last = some c.whole
  after : from? m.subject m.last = some c.after
  numbered : ∀ n, numbered? m n = some (numbered c n)
  length : m.groups.length = c.groups.length
  names : m.names = c.names

section

variable {m : Spans} {c : Captured}

theorem digits_cons {t : Char} (ht : t.isDigit) (s : List Char) :
    digits (t :: s) =
      digit t ::
        match s with
        | o :: _ => if o.isDigit then [digit o] else []
        | [] => [] := by
  rw [digits, bytes_cons_of_lt (toNat_lt_of_isDigit ht), List.take_succ_cons,
    List.takeWhile_cons_of_pos (by rwa [← isDigit_eq]), List.map_cons, digit]
  congr 1
  cases s with
  | nil => rfl
  | cons o s =>
    obtain ⟨b, bs, hb, hiff, hd⟩ := exists_bytes_cons o s
    rw [hb, List.take_succ_cons, List.take_zero]
    dsimp only
    split
    · rename_i ho
      have hbo : b = o.toNat := (hiff o (toNat_lt_of_isDigit ho)).mpr rfl
      rw [List.takeWhile_cons_of_pos (by rwa [hd]), hbo]
      rfl
    · rename_i ho
      rw [List.takeWhile_cons_of_neg (by rwa [hd])]
      rfl

theorem group?_cons (hm : m.groups.length = c.groups.length) {t : Char} (ht : t.isDigit)
    (s : List Char) : group? m (t :: s) = groupReference c (t :: s) := by
  have hgroup : isGroup m = hasGroup c := by
    funext n
    rw [isGroup, hm, hasGroup]
  rw [group?, digits_cons ht, hgroup]
  cases s with
  | nil => rfl
  | cons o s =>
    by_cases ho : o.isDigit
    · simp only [groupReference, ho, if_true, Bool.true_and]
      rfl
    · simp only [groupReference, ho, Bool.false_and]
      rfl

theorem reference?_cons (d : Char) (s : List Char) :
    reference? m (d :: s) =
      if d = '$' then some (['$'], 1)
      else if d = '&' then (between? m.subject m.first m.last).map (·, 1)
      else if d = '\x60' then (upTo? m.subject m.first).map (·, 1)
      else if d = '\x27' then (from? m.subject m.last).map (·, 1)
      else if d.isDigit then
        match group? m (d :: s) with
        | some (n, taken) => (numbered? m n).map (·, taken)
        | none => some ([], 0)
      else if d = '<' && !m.names.isEmpty then
        match offset? '>' (d :: s) with
        | some close => do
          let name ← between? (d :: s) 1 close
          return (← named? m name, close + 1)
        | none => some ([], 0)
      else some ([], 0) := by
  obtain ⟨b, bs, hb, hiff, hd⟩ := exists_bytes_cons d s
  rw [reference?, hb, List.head?_cons]
  simp only [hd, hiff '$' (by decide), hiff '&' (by decide), hiff '\x60' (by decide),
    hiff '\x27' (by decide), hiff '<' (by decide)]

theorem named?_eq (h : Located m c) (name : List Char) : named? m name = some (named c name) := by
  rw [named?, named, h.names]
  cases c.names.lookup (String.ofList name) with
  | none => rfl
  | some n => exact h.numbered n

theorem cut_name {name : List Char} (s : List Char) (h : '>' ∉ name) :
    ∃ close, offset? '>' ('<' :: (name ++ '>' :: s)) = some close ∧
      between? ('<' :: (name ++ '>' :: s)) 1 close = some name ∧
      from? ('<' :: (name ++ '>' :: s)) (close + 1) = some s := by
  have hopen : utf8Length ['<'] = 1 := rfl
  have hclose : utf8Length ['>'] = 1 := rfl
  have hnot : '>' ∉ '<' :: name := by
    rw [List.mem_cons]
    exact not_or.mpr ⟨by decide, h⟩
  refine ⟨1 + utf8Length name, ?_, between?_append ['<'] name _, ?_⟩
  · exact offset?_append_cons hnot s
  · have hcut := from?_append ('<' :: name ++ ['>']) s
    rwa [utf8Length_append, List.append_assoc] at hcut

theorem reference_cons (d : Char) (s : List Char) :
    reference c (d :: s) =
      if d = '$' then some (['$'], 1)
      else if d = '&' then some (c.whole, 1)
      else if d = '\x60' then some (c.before, 1)
      else if d = '\x27' then some (c.after, 1)
      else if d.isDigit then (groupReference c (d :: s)).map fun r ↦ (numbered c r.1, r.2)
      else if d = '<' && !c.names.isEmpty then
        let name := s.takeWhile (· != '>')
        if name.length < s.length then some (named c name, name.length + 2) else none
      else none := by
  unfold reference
  split
  · rename_i h; cases h; rfl
  · rename_i h; cases h; rfl
  · rename_i h; cases h; rfl
  · rename_i h; cases h; rfl
  · rename_i h
    cases h
    cases c.names.isEmpty <;> rfl
  · rename_i hdollar hwhole hbefore hafter hname h
    cases h
    rw [if_neg hdollar, if_neg hwhole, if_neg hbefore, if_neg hafter]
    simp only [show d ≠ '<' from hname, decide_false, Bool.false_and, Bool.false_eq_true, if_false]
  · rename_i h; cases h

/-- Both give the same text and leave the same rest of `tail`, or take none of it. -/
def Agree (tail : List Char) :
    Option (List Char × Nat) → Option (List Char × Nat) → Prop
  | some (t, n), r =>
    ∃ taken, taken ≠ 0 ∧ r = some (t, taken) ∧ from? tail taken = some (tail.drop n)
  | none, r => r = some ([], 0)

theorem Agree.ite {p : Prop} [Decidable p] {tail : List Char} {a b a' b' : Option (List Char × Nat)}
    (ha : p → Agree tail a a') (hb : ¬ p → Agree tail b b') :
    Agree tail (if p then a else b) (if p then a' else b') := by
  by_cases h : p
  · rw [if_pos h, if_pos h]
    exact ha h
  · rw [if_neg h, if_neg h]
    exact hb h

theorem agree_one {d : Char} (hd : d.toNat < 0x80) (s t : List Char) :
    Agree (d :: s) (some (t, 1)) (some (t, 1)) :=
  ⟨1, Nat.one_ne_zero, rfl, from?_cons_of_lt hd s⟩

theorem taken_of_groupReference {d : Char} {s : List Char} {n taken : Nat}
    (h : groupReference c (d :: s) = some (n, taken)) :
    taken = 1 ∨ ∃ o t, s = o :: t ∧ o.isDigit ∧ taken = 2 := by
  rw [groupReference.eq_def] at h
  rcases Option.or_eq_some_iff.mp h with h | ⟨-, h⟩
  · cases s with
    | nil => cases h
    | cons o t =>
      dsimp only at h
      split at h
      · rename_i hc
        cases h
        exact .inr ⟨o, t, rfl, (Bool.and_eq_true _ _ ▸ hc).1, rfl⟩
      · cases h
  · split at h
    · cases h
      exact .inl rfl
    · cases h

theorem agree_group (h : Located m c) {d : Char} (hd : d.isDigit) (s : List Char) :
    Agree (d :: s) ((groupReference c (d :: s)).map fun r ↦ (numbered c r.1, r.2))
      (match group? m (d :: s) with
      | some (n, taken) => (numbered? m n).map (·, taken)
      | none => some ([], 0)) := by
  have hone : utf8Length [d] = 1 := by
    rw [utf8Length, utf8Size_of_lt (toNat_lt_of_isDigit hd)]
    rfl
  rw [group?_cons h.length hd]
  cases hg : groupReference c (d :: s) with
  | none => rfl
  | some r =>
    obtain ⟨n, taken⟩ := r
    dsimp only [Option.map_some]
    rw [h.numbered, Option.map_some]
    rcases taken_of_groupReference hg with rfl | ⟨o, t, rfl, ho, rfl⟩
    · exact agree_one (toNat_lt_of_isDigit hd) s _
    · have htwo : utf8Length [d, o] = 2 := by
        rw [utf8Length, utf8Length, utf8Size_of_lt (toNat_lt_of_isDigit hd),
          utf8Size_of_lt (toNat_lt_of_isDigit ho)]
        rfl
      have hcut := from?_append [d, o] t
      rw [htwo] at hcut
      exact ⟨2, by decide, rfl, hcut⟩

theorem agree_name (h : Located m c) (s : List Char) :
    let name := s.takeWhile (· != '>')
    Agree ('<' :: s) (if name.length < s.length then some (named c name, name.length + 2) else none)
      (match offset? '>' ('<' :: s) with
      | some close => do
        let name ← between? ('<' :: s) 1 close
        return (← named? m name, close + 1)
      | none => some ([], 0)) := by
  intro name
  by_cases hmem : '>' ∈ s
  · obtain ⟨a, t, rfl, ha⟩ := List.eq_append_cons_of_mem hmem
    obtain ⟨close, hclose, hcut, hrest⟩ := cut_name t ha
    have hname : name = a := takeWhile_append_cons ha t
    have hlt : name.length < (a ++ '>' :: t).length := by
      rw [hname, List.length_append, List.length_cons]
      omega
    have hdrop : ('<' :: (a ++ '>' :: t)).drop (name.length + 2) = t := by
      rw [hname, List.drop_succ_cons, List.drop_append, List.drop_eq_nil_of_le (Nat.le_succ _)]
      simp
    rw [if_pos hlt, hclose]
    refine ⟨close + 1, Nat.succ_ne_zero _, ?_, by rw [hdrop, hrest]⟩
    dsimp only
    rw [hcut, Option.bind_eq_bind, Option.bind_some, named?_eq h, hname]
    rfl
  · have hname : name = s := by
      have hall : ∀ d ∈ s, d != '>' := fun d hd ↦ bne_iff_ne.mpr fun he ↦ hmem (he ▸ hd)
      have hrun := takeWhile_run hall (by simp : ∀ d ∈ ([] : List Char).head?, (d != '>') = false)
      rwa [List.append_nil] at hrun
    have hnot : '>' ∉ '<' :: s := by
      rw [List.mem_cons]
      exact not_or.mpr ⟨by decide, hmem⟩
    rw [if_neg (by rw [hname]; exact Nat.lt_irrefl _), offset?_of_notMem hnot]
    rfl

theorem agree_reference (h : Located m c) (tail : List Char) :
    Agree tail (reference c tail) (reference? m tail) := by
  cases tail with
  | nil => rfl
  | cons d s =>
    rw [reference_cons, reference?_cons, h.whole, h.before, h.after, h.names]
    refine .ite (fun hd ↦ agree_one (hd ▸ by decide) s _) fun _ ↦ ?_
    refine .ite (fun hd ↦ agree_one (hd ▸ by decide) s _) fun _ ↦ ?_
    refine .ite (fun hd ↦ agree_one (hd ▸ by decide) s _) fun _ ↦ ?_
    refine .ite (fun hd ↦ agree_one (hd ▸ by decide) s _) fun _ ↦ ?_
    refine .ite (fun hd ↦ agree_group h hd s) fun _ ↦ ?_
    refine .ite (fun hd ↦ ?_) fun _ ↦ rfl
    obtain rfl : d = '<' := of_decide_eq_true (Bool.and_eq_true _ _ ▸ hd).1
    exact agree_name h s

theorem expand_append {s : List Char} (hs : '$' ∉ s) (tail : List Char) :
    expand c (s ++ tail) = s ++ expand c tail := by
  induction s with
  | nil => rfl
  | cons d s ih =>
    rw [List.mem_cons, not_or] at hs
    rw [List.cons_append, expand, if_neg (Ne.symm hs.1), ih hs.2, List.cons_append]

theorem expand?_of_notMem {s : List Char} (h : '$' ∉ s) : expand? m s = some s := by
  rw [expand?, offset?_of_notMem h]

theorem expand?_append {s tail t after : List Char} {taken : Nat} (hs : '$' ∉ s)
    (ht : reference? m tail = some (t, taken)) (ha : from? tail taken = some after) :
    expand? m (s ++ '$' :: tail) = (expand? m after).map fun out ↦
      s ++ (t ++ ((if taken = 0 then ['$'] else []) ++ out)) := by
  have hone : utf8Length ['$'] = 1 := rfl
  have hlead : upTo? (s ++ '$' :: tail) (utf8Length s) = some s := upTo?_append s _
  have htail : from? (s ++ '$' :: tail) (utf8Length s + 1) = some tail := by
    have hcut := from?_append (s ++ ['$']) tail
    rwa [utf8Length_append, List.append_assoc] at hcut
  rw [expand?, offset?_append_cons hs]
  dsimp only
  split
  · rename_i lead tail' hlead' htail'
    cases hlead.symm.trans hlead'
    cases htail.symm.trans htail'
    rw [ht]
    dsimp only
    split
    · rename_i after' ha'
      cases ha.symm.trans ha'
      rfl
    · rename_i ha'
      cases ha.symm.trans ha'
  · rename_i hnone
    exact absurd htail (hnone s tail hlead)

/-- Where the match lies in its subject, every cut is one between characters, and the cuts give
the replacement text with its references resolved. -/
theorem expand?_eq (h : Located m c) (s : List Char) : expand? m s = some (expand c s) := by
  induction hn : s.length using Nat.strongRecOn generalizing s with
  | ind n ih =>
    by_cases hmem : '$' ∈ s
    · obtain ⟨lead, tail, rfl, hlead⟩ := List.eq_append_cons_of_mem hmem
      rw [List.length_append, List.length_cons] at hn
      have hagree := agree_reference h tail
      rw [expand_append hlead, expand, if_pos rfl]
      cases hr : reference c tail with
      | none =>
        rw [hr] at hagree
        rw [expand?_append hlead hagree (from?_append [] tail), ih _ (by omega) tail rfl]
        rfl
      | some r =>
        obtain ⟨t, k⟩ := r
        rw [hr] at hagree
        obtain ⟨taken, hne, ht, ha⟩ := hagree
        have hlen := (length_of_from? ha).1
        rw [expand?_append hlead ht ha, ih _ (by omega) _ rfl, if_neg hne]
        rfl
    · have hself : expand c s = s := by
        have happ := expand_append (c := c) hmem []
        rwa [List.append_nil, expand, List.append_nil] at happ
      rw [expand?_of_notMem hmem, hself]

def offset (text : Array Char) (i : Nat) : Nat :=
  utf8Length (text.toList.take i) + (i - text.size)

theorem offset_of_le {text : Array Char} {i : Nat} (hi : i ≤ text.size) :
    offset text i = utf8Length (text.toList.take i) := by
  rw [offset, Nat.sub_eq_zero_of_le hi, Nat.add_zero]

theorem slice_eq (text : Array Char) (i j : Nat) :
    slice text i j = (text.toList.drop i).take (j - i) := by
  rw [slice, Array.toList_extract, List.extract_eq_take_drop]

theorem upTo?_offset {text : Array Char} {i : Nat} (hi : i ≤ text.size) :
    upTo? text.toList (offset text i) = some (slice text 0 i) := by
  have hcut := upTo?_append (text.toList.take i) (text.toList.drop i)
  rw [List.take_append_drop, ← offset_of_le hi] at hcut
  rw [hcut, slice_eq, List.drop_zero, Nat.sub_zero]

theorem from?_offset {text : Array Char} {i : Nat} (hi : i ≤ text.size) :
    from? text.toList (offset text i) = some (slice text i text.size) := by
  have hcut := from?_append (text.toList.take i) (text.toList.drop i)
  rw [List.take_append_drop, ← offset_of_le hi] at hcut
  rw [hcut, slice_eq, List.take_of_length_le (by simp)]

theorem between?_offset {text : Array Char} {i j : Nat} (hij : i ≤ j) (hj : j ≤ text.size) :
    between? text.toList (offset text i) (offset text j) = some (slice text i j) := by
  have htake : text.toList.take j = text.toList.take i ++ slice text i j := by
    have hparts := List.take_append_drop i (text.toList.take j)
    rwa [List.take_take, Nat.min_eq_left hij, List.drop_take, ← slice_eq, eq_comm] at hparts
  have hcut := between?_append (text.toList.take i) (slice text i j) (text.toList.drop j)
  rwa [← utf8Length_append, ← List.append_assoc, ← htake, List.take_append_drop,
    ← offset_of_le hj, ← offset_of_le (Nat.le_trans hij hj)] at hcut

theorem InSubject.exists_located (h : InSubject m) : ∃ c, Located m c := by
  obtain ⟨whole, hwhole⟩ := Option.isSome_iff_exists.mp h.whole
  obtain ⟨before, after, hs, hfirst, hlast⟩ := eq_of_between? hwhole
  let text (span : Nat × Nat) := between? m.subject span.1 span.2
  -- spans count bytes, the cut match counts characters
  let c : Captured := {
    text := m.subject.toArray
    start := before.length
    stop := before.length + whole.length
    groups := m.groups.map (·.bind text)
    names := m.names }
  have hsize : c.text.size = before.length + (whole.length + after.length) := by
    rw [List.size_toArray, hs, List.length_append, List.length_append]
  have hstart : c.start ≤ c.stop := Nat.le_add_right _ _
  have hstop : c.stop ≤ c.text.size := by
    change before.length + whole.length ≤ _
    omega
  have hofirst : offset c.text c.start = m.first := by
    rw [offset_of_le (Nat.le_trans hstart hstop), hfirst]
    change utf8Length (m.subject.take before.length) = _
    rw [hs, List.take_left]
  have holast : offset c.text c.stop = m.last := by
    rw [offset_of_le hstop, hlast, ← utf8Length_append]
    change utf8Length (m.subject.take (before.length + whole.length)) = _
    rw [hs, ← List.append_assoc, ← List.length_append, List.take_left]
  refine ⟨c, ?_, ?_, ?_, fun n ↦ ?_, (List.length_map _).symm, rfl⟩
  · rw [← hofirst]
    exact upTo?_offset (Nat.le_trans hstart hstop)
  · rw [← hofirst, ← holast]
    exact between?_offset hstart hstop
  · rw [← holast]
    exact from?_offset hstop
  · rw [numbered?, numbered, List.getD_eq_getElem?_getD, List.getD_eq_getElem?_getD,
      List.getElem?_map]
    cases hg : m.groups[n - 1]? with
    | none => rfl
    | some g =>
      cases g with
      | none => rfl
      | some span =>
        obtain ⟨t, ht⟩ := Option.isSome_iff_exists.mp
          (h.groups _ (List.mem_of_getElem? hg) span rfl)
        change text span = some ((text span).getD [])
        rw [show text span = some t from ht, Option.getD_some]

end

end DataBinding.Replacement
