import DataBinding.Proofs.Path.Related
import DataBinding.Proofs.Text.Trim

namespace DataBinding.Path

open Text

variable {p q : Path}

theorem ofSegments?_eq_some_iff {segments : List String} :
    ofSegments? segments = some p ↔ p.segments = segments := by
  rw [ofSegments?]
  split
  · rw [Option.some.injEq, ← segments_inj, eq_comm]
  · rename_i h
    refine iff_of_false (Option.some_ne_none p).symm ?_
    rintro rfl
    exact h ⟨p.nonempty, p.isSegment⟩

theorem toList_join (segments : List String) :
    (join segments).toList = ['.'].intercalate (segments.map String.toList) :=
  String.toList_intercalate

theorem ofList_comp_toList : String.ofList ∘ String.toList = id :=
  funext fun _ ↦ String.ofList_toList

theorem toList_comp_ofList : String.toList ∘ String.ofList = id :=
  funext fun _ ↦ String.toList_ofList

theorem fields_text (p : Path) : fields '.' p.text.toList = p.segments.map String.toList := by
  rw [text, toList_join, fields_intercalate]
  · exact mt List.map_eq_nil_iff.mp p.nonempty
  · intro f hf
    obtain ⟨s, hs, rfl⟩ := List.mem_map.mp hf
    exact (p.isSegment s hs).2

theorem segments_eq_of_text {s : List Char} (h : p.text.toList = s) :
    p.segments = (fields '.' s).map String.ofList := by
  rw [← h, fields_text, List.map_map, ofList_comp_toList, List.map_id]

theorem text_eq_of_segments {s : List Char} (h : p.segments = (fields '.' s).map String.ofList) :
    p.text.toList = s := by
  rw [text, h, toList_join, List.map_map, toList_comp_ofList, List.map_id, intercalate_fields]

theorem key_mem (p : Path) : p.key ∈ p.segments := List.getLast_mem p.nonempty

theorem dropLast_append_key (p : Path) : p.segments.dropLast ++ [p.key] = p.segments :=
  List.dropLast_append_getLast p.nonempty

theorem parent?_eq_some_iff : p.parent? = some q ↔ q.segments = p.segments.dropLast :=
  ofSegments?_eq_some_iff

def stem (p : Path) : List Char := p.segments.dropLast.flatMap fun s ↦ s.toList ++ ['.']

theorem toList_join_concat (segments : List String) (s : String) :
    (join (segments ++ [s])).toList = (segments.flatMap fun s ↦ s.toList ++ ['.']) ++ s.toList := by
  induction segments with
  | nil => rw [List.nil_append, join, String.intercalate_singleton]; rfl
  | cons t segments ih =>
    have hne : segments ++ [s] ≠ [] := List.append_ne_nil_of_right_ne_nil _ (List.cons_ne_nil _ _)
    rw [List.cons_append, join, String.intercalate_cons_of_ne_nil hne, String.toList_append,
      String.toList_append, ← join, ih, List.flatMap_cons, List.append_assoc _ _ s.toList]
    rfl

theorem text_eq (p : Path) : p.text.toList = p.stem ++ p.key.toList := by
  rw [text, ← dropLast_append_key, toList_join_concat, stem]

theorem stem_eq (h : p.parent? = some q) : p.stem = q.text.toList ++ ['.'] := by
  rw [stem, ← parent?_eq_some_iff.mp h, ← dropLast_append_key, List.flatMap_append, text_eq, stem,
    List.append_assoc]
  simp

theorem getLast?_text (p : Path) : p.text.toList.getLast? = p.key.toList.getLast? := by
  have hkey : p.key.toList ≠ [] := (p.isSegment _ p.key_mem).1
  rw [text_eq, List.getLast?_append, List.getLast?_eq_some_getLast hkey]
  rfl

theorem endsBlank_text : EndsBlank p.text.toList ↔ EndsBlank p.key.toList := by
  rw [EndsBlank, EndsBlank, getLast?_text]

theorem getLast?_text_ne_dot (p : Path) : p.text.toList.getLast? ≠ some '.' := by
  rw [getLast?_text]
  exact fun h ↦ (p.isSegment _ p.key_mem).2 (List.mem_of_getLast? h)

theorem text_ne_nil (p : Path) : p.text.toList ≠ [] := by
  rw [text_eq]
  exact List.append_ne_nil_of_right_ne_nil _ (p.isSegment _ p.key_mem).1

theorem text_eq_or (h : q.segments <+: p.segments) :
    q = p ∨ ∃ rest, p.text.toList = q.text.toList ++ '.' :: rest := by
  obtain ⟨rest, hrest⟩ := h
  cases rest with
  | nil =>
    rw [List.append_nil] at hrest
    exact .inl (segments_inj.mp hrest)
  | cons s rest =>
    refine .inr ⟨(join (s :: rest)).toList, ?_⟩
    rw [text, text, ← hrest, join, join,
      String.intercalate_append_of_ne_nil q.nonempty (List.cons_ne_nil _ _), String.append_assoc,
      String.toList_append, String.toList_append]
    rfl

theorem exists_of_text_eq {s rest : List Char} (h : p.text.toList = s ++ '.' :: rest) :
    ∃ q : Path, q.segments <+: p.segments ∧ q.text.toList = s := by
  have hsegments : p.segments =
      (fields '.' s).map String.ofList ++ (fields '.' rest).map String.ofList := by
    rw [segments_eq_of_text h, fields_eq_splitOn, List.splitOn_append_cons_self, List.map_append,
      ← fields_eq_splitOn, ← fields_eq_splitOn]
  have hne : (fields '.' s).map String.ofList ≠ [] := by
    rw [fields_eq_splitOn]
    exact mt List.map_eq_nil_iff.mp (List.splitOn_ne_nil _ _)
  refine ⟨⟨_, hne, fun t ht ↦ p.isSegment t ?_⟩, hsegments ▸ List.prefix_append _ _,
    text_eq_of_segments rfl⟩
  rw [hsegments]
  exact List.mem_append_left _ ht

theorem text_isPrefix (h : q.segments <+: p.segments) : q.text.toList <+: p.text.toList := by
  rcases text_eq_or h with rfl | ⟨rest, hrest⟩
  · exact List.prefix_refl _
  · exact hrest ▸ List.prefix_append _ _

theorem head?_text (p : Path) :
    p.text.toList.head? = (p.segments.head p.nonempty).toList.head? := by
  have hmem := List.head_mem p.nonempty
  let top : Path := ⟨[p.segments.head p.nonempty], List.cons_ne_nil _ _,
    List.forall_mem_singleton.mpr (p.isSegment _ hmem)⟩
  have htop : top.segments <+: p.segments :=
    ⟨p.segments.tail, List.cons_head_tail p.nonempty⟩
  obtain ⟨rest, hrest⟩ := text_isPrefix htop
  have htext : top.text = p.segments.head p.nonempty := by
    change join [_] = _
    rw [join, String.intercalate_singleton]
  rw [← hrest, htext, List.head?_append, List.head?_eq_some_head (p.isSegment _ hmem).1]
  rfl

theorem beginsBlank_text :
    BeginsBlank p.text.toList ↔ BeginsBlank (p.segments.head p.nonempty).toList := by
  rw [BeginsBlank, BeginsBlank, head?_text]

theorem dropFinalDot_of_ne {s : List Char} (h : s.getLast? ≠ some '.') : dropFinalDot s = s :=
  if_neg h

theorem dropFinalDot_concat (s : List Char) : dropFinalDot (s ++ ['.']) = s := by
  rw [dropFinalDot, if_pos List.getLast?_concat, List.dropLast_concat]

theorem dropFinalDot_append {t : List Char} (h : t ≠ []) (s : List Char) :
    dropFinalDot (s ++ t) = s ++ dropFinalDot t := by
  have hlast : (s ++ t).getLast? = t.getLast? := by
    rw [List.getLast?_append, List.getLast?_eq_some_getLast h]
    rfl
  rw [dropFinalDot, dropFinalDot, hlast, List.dropLast_append_of_ne_nil h, apply_ite (s ++ ·)]

theorem dropFinalDot_isPrefix (s : List Char) : dropFinalDot s <+: s := by
  rw [dropFinalDot]
  split
  · exact List.dropLast_prefix s
  · exact List.prefix_refl s

/-- What is read is the path whose text is left of the text that was given. -/
theorem parse_eq_ok_iff {s : String} :
    parse s = .ok p ↔ p.text.toList = dropFinalDot (trim s.toList) := by
  rw [parse]
  split
  · rename_i h
    rw [h]
    exact iff_of_false nofun p.text_ne_nil
  · have hread : ofSegments? ((fields '.' (dropFinalDot (trim s.toList))).map String.ofList) =
        some p ↔ p.text.toList = dropFinalDot (trim s.toList) :=
      ofSegments?_eq_some_iff.trans ⟨text_eq_of_segments, segments_eq_of_text⟩
    rw [← hread]
    cases ofSegments? ((fields '.' (dropFinalDot (trim s.toList))).map String.ofList) with
    | none => exact iff_of_false nofun nofun
    | some q => rw [Except.ok.injEq, Option.some.injEq]

theorem parse_text_iff :
    parse p.text = .ok p ↔ ¬ BeginsBlank p.text.toList ∧ ¬ EndsBlank p.text.toList := by
  rw [parse_eq_ok_iff, ← trim_eq_self_iff]
  constructor
  · intro h
    -- nothing can have been left out, as the length is still the same
    have hbody := (dropFinalDot_isPrefix (trim p.text.toList)).length_le
    rw [← h] at hbody
    exact (trim_isInfix _).eq_of_length (Nat.le_antisymm (trim_isInfix _).length_le hbody)
  · intro h
    rw [h, dropFinalDot_of_ne p.getLast?_text_ne_dot]

/-- The segments of a path make a path, which is what is read from them with dots between them
unless white space stands first in the first segment or last in the last one. -/
theorem parse_join_iff :
    (∀ segments : List String, (∃ p, ofSegments? segments = some p) ↔
      segments ≠ [] ∧ ∀ s ∈ segments, s ≠ "" ∧ '.' ∉ s.toList) ∧
    (∀ (segments : List String) (p : Path), ofSegments? segments = some p →
      p.segments = segments ∧
        ((∃ q, parse (join segments) = .ok q ∧ q.segments = segments) ↔
          (∀ s ∈ segments.head?, ¬ BeginsBlank s.toList) ∧
            ∀ s ∈ segments.getLast?, ¬ EndsBlank s.toList)) ∧
    ∀ (s : String) (p : Path), parse s = .ok p →
      ofSegments? p.segments = some p ∧
        p.segments.map String.toList = fields '.' (dropFinalDot (trim s.toList)) := by
  refine ⟨fun segments ↦ ?_, fun segments p h ↦ ?_, fun s p h ↦ ⟨?_, ?_⟩⟩
  · have hsegment (s : String) : IsSegment s ↔ s ≠ "" ∧ '.' ∉ s.toList :=
      and_congr_left' (not_congr String.toList_eq_nil_iff)
    simp only [← hsegment]
    constructor
    · rintro ⟨p, hp⟩
      rw [← ofSegments?_eq_some_iff.mp hp]
      exact ⟨p.nonempty, p.isSegment⟩
    · rintro ⟨hne, hall⟩
      exact ⟨⟨segments, hne, hall⟩, ofSegments?_eq_some_iff.mpr rfl⟩
  · obtain rfl := ofSegments?_eq_some_iff.mp h
    refine ⟨rfl, ?_⟩
    have hread : (∃ q, parse (join p.segments) = .ok q ∧ q.segments = p.segments) ↔
        parse p.text = .ok p := by
      constructor
      · rintro ⟨q, hq, he⟩
        rwa [segments_inj.mp he] at hq
      · exact fun hp ↦ ⟨p, hp, rfl⟩
    rw [hread, parse_text_iff, beginsBlank_text, endsBlank_text]
    simp [List.head?_eq_some_head p.nonempty, List.getLast?_eq_some_getLast p.nonempty, key]
  · exact ofSegments?_eq_some_iff.mpr rfl
  · rw [← fields_text, parse_eq_ok_iff.mp h]

theorem parse_join_iff_inner :
    (∃ q, parse "first name. last name" = .ok q ∧ q.segments = ["first name", " last name"]) ∧
      ¬ ∃ q, parse " last name.first name" = .ok q ∧ q.segments = [" last name", "first name"] := by
  obtain ⟨p, hp⟩ := (parse_join_iff.1 ["first name", " last name"]).mpr (by decide)
  obtain ⟨q, hq⟩ := (parse_join_iff.1 [" last name", "first name"]).mpr (by decide)
  obtain ⟨-, hinner⟩ := parse_join_iff.2.1 _ p hp
  obtain ⟨-, houter⟩ := parse_join_iff.2.1 _ q hq
  exact ⟨hinner.mpr (by decide), fun h ↦ absurd (houter.mp h) (by decide)⟩

theorem mem_prefixes_iff : q ∈ p.prefixes ↔ q.segments <+: p.segments := by
  rw [prefixes, List.mem_filterMap]
  constructor
  · rintro ⟨n, -, hn⟩
    rw [ofSegments?_eq_some_iff.mp hn]
    exact List.take_prefix _ _
  · intro h
    obtain ⟨n, hn⟩ := Nat.exists_eq_add_one.mpr (List.length_pos_iff.mpr q.nonempty)
    refine ⟨n, List.mem_range.mpr ?_, ofSegments?_eq_some_iff.mpr ?_⟩
    · exact Nat.lt_of_lt_of_le (hn ▸ Nat.lt_succ_self n) h.length_le
    · rw [← hn]
      exact List.prefix_iff_eq_take.mp h

/-- The path that is read from a text, and what is made of it by leaving out segments at the end. -/
inductive Obtained (s : String) : Path → Prop
  | parse {p : Path} (h : parse s = .ok p) : Obtained s p
  | parent? {p q : Path} (h : Obtained s p) (hq : p.parent? = some q) : Obtained s q
  | prefixes {p q : Path} (h : Obtained s p) (hq : q ∈ p.prefixes) : Obtained s q

theorem obtained_iff {s : String} :
    Obtained s q ↔ ∃ p, Path.parse s = .ok p ∧ q.segments <+: p.segments := by
  constructor
  · intro h
    induction h with
    | @parse p h => exact ⟨p, h, List.prefix_refl _⟩
    | parent? h hq ih =>
      obtain ⟨p, hp, hle⟩ := ih
      rw [parent?_eq_some_iff.mp hq]
      exact ⟨p, hp, (List.dropLast_prefix _).trans hle⟩
    | prefixes h hq ih =>
      obtain ⟨p, hp, hle⟩ := ih
      exact ⟨p, hp, (mem_prefixes_iff.mp hq).trans hle⟩
  · rintro ⟨p, hp, hle⟩
    exact .prefixes (.parse hp) (mem_prefixes_iff.mpr hle)

theorem Obtained.not_beginsBlank {s : String} (h : Obtained s q) :
    ¬ BeginsBlank q.text.toList := by
  obtain ⟨p, hp, hle⟩ := obtained_iff.mp h
  refine not_beginsBlank_of_isPrefix (text_isPrefix hle) ?_
  rw [parse_eq_ok_iff.mp hp]
  exact not_beginsBlank_of_isPrefix (dropFinalDot_isPrefix _) (not_beginsBlank_trim _)

theorem parse_text_dot (h : ¬ BeginsBlank p.text.toList) : parse (p.text ++ ".") = .ok p := by
  have htext : (p.text ++ ".").toList = p.text.toList ++ ['.'] := String.toList_append
  have htrim : trim (p.text.toList ++ ['.']) = p.text.toList ++ ['.'] := by
    rw [trim_eq_self_iff]
    refine ⟨?_, by simp [EndsBlank]; decide⟩
    rwa [BeginsBlank, List.head?_append_of_ne_nil _ p.text_ne_nil]
  rw [parse_eq_ok_iff, htext, htrim, dropFinalDot_concat]

/-- A text without white space before it is read as the path with its key trimmed at the end, and
without the key if nothing is left of it. -/
theorem exists_parse_text (h : ¬ BeginsBlank p.text.toList) :
    ∃ q, parse p.text = .ok q ∧ q.segments =
      p.segments.dropLast ++ [String.ofList (trimEnd p.key.toList)].filter (· ≠ "") := by
  have htrim : trim p.text.toList = trimEnd (p.stem ++ p.key.toList) := by
    rw [trim, trimStart_eq_self_iff.mpr h, text_eq]
  by_cases hkey : trimEnd p.key.toList = []
  · have hblank : Blank p.key.toList := List.rdropWhile_eq_nil_iff.mp hkey
    have hdrop : p.segments.dropLast ≠ [] := by
      intro hnil
      rw [text_eq, stem, hnil, List.flatMap_nil, List.nil_append] at h
      obtain ⟨c, t, hc⟩ := List.exists_cons_of_ne_nil (p.isSegment _ p.key_mem).1
      exact h (by rw [hc]; exact hblank c (hc ▸ List.mem_cons_self))
    let above : Path :=
      ⟨p.segments.dropLast, hdrop, fun s hs ↦ p.isSegment s (List.dropLast_subset _ hs)⟩
    have hstem : p.stem = above.text.toList ++ ['.'] := stem_eq (parent?_eq_some_iff.mpr rfl)
    refine ⟨above, ?_, by simp [hkey, above]⟩
    rw [parse_eq_ok_iff, htrim, trimEnd_append_blank hblank, hstem, trimEnd_eq,
      List.rdropWhile_concat_neg isBlank _ _ (by decide), dropFinalDot_concat]
  · have hsub : trimEnd p.key.toList ⊆ p.key.toList := (trimEnd_isPrefix _).subset
    let trimmed : Path := {
      segments := p.segments.dropLast ++ [String.ofList (trimEnd p.key.toList)]
      nonempty := List.append_ne_nil_of_right_ne_nil _ (List.cons_ne_nil _ _)
      isSegment := by
        intro s hs
        rcases List.mem_append.mp hs with hs | hs
        · exact p.isSegment s (List.dropLast_subset _ hs)
        · rw [List.mem_singleton.mp hs, IsSegment, String.toList_ofList]
          exact ⟨hkey, fun hdot ↦ (p.isSegment _ p.key_mem).2 (hsub hdot)⟩ }
    have htext : trimmed.text.toList = p.stem ++ trimEnd p.key.toList := by
      rw [text, toList_join_concat, String.toList_ofList, stem]
    refine ⟨trimmed, ?_, ?_⟩
    · rw [parse_eq_ok_iff, htrim, trimEnd_append hkey, ← htext,
        dropFinalDot_of_ne trimmed.getLast?_text_ne_dot]
    · simp [trimmed, hkey]

def BlankBeforeDot (s : List Char) : Prop := ∃ c, isBlank c ∧ [c, '.'] <:+: s

theorem endsBlank_iff {s : List Char} : EndsBlank s ↔ ∃ c, isBlank c ∧ [c] <:+ s := by
  rcases List.eq_nil_or_concat' s with rfl | ⟨u, d, rfl⟩
  · refine iff_of_false nofun ?_
    rintro ⟨c, -, h⟩
    exact absurd (List.suffix_nil.mp h) (List.cons_ne_nil c [])
  · rw [EndsBlank, List.getLast?_concat]
    constructor
    · exact fun h ↦ ⟨d, h, List.suffix_append u [d]⟩
    · rintro ⟨c, hc, v, hv⟩
      obtain ⟨-, hd⟩ := List.append_inj' hv rfl
      exact List.singleton_inj.mp hd ▸ hc

theorem suffix_concat_iff {c d : Char} {s : List Char} : [c, d] <:+ s ++ [d] ↔ [c] <:+ s := by
  constructor
  · rintro ⟨v, hv⟩
    rw [List.append_cons] at hv
    exact ⟨v, List.append_cancel_right hv⟩
  · rintro ⟨v, rfl⟩
    exact ⟨v, by rw [List.append_assoc]; rfl⟩

theorem endsBlank_text_iff {s : String} (h : parse s = .ok p) :
    EndsBlank p.text.toList ↔ ∃ c, isBlank c ∧ [c, '.'] <:+ trim s.toList := by
  have htext := parse_eq_ok_iff.mp h
  by_cases hdot : (trim s.toList).getLast? = some '.'
  · obtain ⟨u, hu⟩ := List.getLast?_eq_some_iff.mp hdot
    rw [hu, dropFinalDot_concat] at htext
    simp only [htext, hu, suffix_concat_iff, endsBlank_iff]
  · rw [dropFinalDot_of_ne hdot] at htext
    rw [htext]
    refine iff_of_false (trim_eq_self_iff.mp (trim_trim _)).2 ?_
    rintro ⟨c, -, v, hv⟩
    exact hdot (by rw [← hv, List.getLast?_append]; rfl)

theorem exists_endsBlank_iff {s : String} (h : parse s = .ok p) :
    (∃ q, Obtained s q ∧ EndsBlank q.text.toList) ↔ BlankBeforeDot (trim s.toList) := by
  have htext := parse_eq_ok_iff.mp h
  have hprefix : p.text.toList <+: trim s.toList := htext ▸ dropFinalDot_isPrefix _
  constructor
  · rintro ⟨q, hq, hend⟩
    obtain ⟨p', hp', hle⟩ := obtained_iff.mp hq
    obtain rfl : p = p' := Except.ok.inj (h.symm.trans hp')
    rcases text_eq_or hle with rfl | ⟨rest, hrest⟩
    · obtain ⟨c, hc, hdot⟩ := (endsBlank_text_iff h).mp hend
      exact ⟨c, hc, hdot.isInfix⟩
    · obtain ⟨c, hc, v, hv⟩ := endsBlank_iff.mp hend
      refine ⟨c, hc, List.IsInfix.trans ⟨v, rest, ?_⟩ hprefix.isInfix⟩
      rw [hrest, ← hv]
      simp
  · rintro ⟨c, hc, u, v, huv⟩
    have hend : EndsBlank (u ++ [c]) := endsBlank_iff.mpr ⟨c, hc, List.suffix_append u [c]⟩
    rcases List.eq_nil_or_concat' v with rfl | ⟨v, d, rfl⟩
    · refine ⟨p, .parse h, (endsBlank_text_iff h).mpr ⟨c, hc, u, ?_⟩⟩
      rw [← huv, List.append_nil]
    · rw [← huv, dropFinalDot_append (List.append_ne_nil_of_right_ne_nil v (List.cons_ne_nil d [])),
        List.append_cons, List.append_assoc] at htext
      obtain ⟨q, hq, he⟩ := exists_of_text_eq htext
      exact ⟨q, obtained_iff.mpr ⟨p, h, hq⟩, he ▸ hend⟩

/-- A path that is obtained from a text is read back from its own text unless white space stands at
the end of it; then its key is read without that white space, or not at all if it holds nothing
else. With a dot behind its text it is always read back. All paths that are obtained from a text
are read back if and only if no white space stands before a dot within the text, and the one that is
read from it is if and only if there is none before a dot at its end. -/
theorem rereads_iff (s : String) :
    (∀ p, Obtained s p →
      (parse p.text = .ok p ↔ ¬ EndsBlank p.key.toList) ∧
      (∃ q, parse p.text = .ok q ∧ q.segments =
        p.segments.dropLast ++ [String.ofList (trimEnd p.key.toList)].filter (· ≠ "")) ∧
      parse (p.text ++ ".") = .ok p) ∧
    ∀ p, parse s = .ok p →
      (parse p.text = .ok p ↔ ¬ ∃ c, isBlank c ∧ [c, '.'] <:+ trim s.toList) ∧
      ((∀ q, Obtained s q → parse q.text = .ok q) ↔ ¬ BlankBeforeDot (trim s.toList)) := by
  have hread (p : Path) (hp : Obtained s p) :
      parse p.text = .ok p ↔ ¬ EndsBlank p.text.toList := by
    rw [parse_text_iff, and_iff_right hp.not_beginsBlank]
  refine ⟨fun p hp ↦ ⟨?_, ?_, ?_⟩, fun p hp ↦ ⟨?_, ?_⟩⟩
  · rw [hread p hp, endsBlank_text]
  · exact exists_parse_text hp.not_beginsBlank
  · exact parse_text_dot hp.not_beginsBlank
  · rw [hread p (.parse hp), endsBlank_text_iff hp]
  · rw [← exists_endsBlank_iff hp, not_exists]
    exact forall_congr' fun q ↦ by
      rw [not_and]
      exact forall_congr' fun hq ↦ hread q hq

namespace Spaced

def path : Path := ⟨["first name ", "last name "], by decide, by decide⟩

theorem rereads_iff_names :
    parse " first name .last name ." = .ok path ∧ parse path.text ≠ .ok path ∧
      parse (path.text ++ ".") = .ok path ∧
      ¬ ∀ q, Obtained " first name .last name ." q → parse q.text = .ok q := by
  have hread : parse " first name .last name ." = .ok path := rfl
  obtain ⟨hobtained, hparsed⟩ := rereads_iff " first name .last name ."
  obtain ⟨hself, -, hdot⟩ := hobtained path (.parse hread)
  have hblank : BlankBeforeDot (trim " first name .last name .".toList) :=
    ⟨' ', rfl, (show [' ', '.'] <:+ trim " first name .last name .".toList by decide).isInfix⟩
  exact ⟨hread, fun h ↦ hself.mp h (by decide), hdot, fun h ↦ (hparsed path hread).2.mp h hblank⟩

/-- The key is read from `a .` with white space at its end, and without it from its own text, and so
is the parent of what is read from `a .b`. -/
theorem key_not_reread :
    (∃ p, parse "a ." = .ok p ∧ p.text = "a " ∧ parse p.text ≠ .ok p) ∧
      (∃ p q, parse "a .b" = .ok p ∧ p.parent? = some q ∧ q ∈ p.prefixes ∧ q.text = "a " ∧
        parse q.text ≠ .ok q) ∧
      ¬ ∀ s p, Obtained s p → parse p.text = .ok p := by
  let a : Path := ⟨["a "], by decide, by decide⟩
  let b : Path := ⟨["a ", "b"], by decide, by decide⟩
  have ha : parse "a ." = .ok a := rfl
  have hlost : parse a.text ≠ .ok a := by decide
  exact ⟨⟨a, ha, rfl, hlost⟩, ⟨b, a, rfl, rfl, by decide, rfl, hlost⟩,
    fun h ↦ hlost (h "a ." a (.parse ha))⟩

end Spaced

end DataBinding.Path
