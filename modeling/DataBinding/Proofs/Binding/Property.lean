import DataBinding.Proofs.Binding.Grammar
import DataBinding.Proofs.Path.Text

namespace DataBinding.Binding

open Text Grammar

theorem not_dot_of_isWordChar {c : Char} (h : isWordChar c) : c ≠ '.' := by
  rintro rfl
  exact absurd h (by decide)

theorem IsWord.dot_notMem {s : List Char} (h : IsWord s) : '.' ∉ s :=
  fun hc ↦ not_dot_of_isWordChar (h.2 _ hc) rfl

theorem isSegment_of_isWord {s : List Char} (h : IsWord s) : IsSegment (String.ofList s) := by
  rw [IsSegment, String.toList_ofList]
  exact ⟨h.1, IsWord.dot_notMem h⟩

theorem fields_of_dotted {s : List Char} {segments : List String} (h : Dotted s segments) :
    (fields '.' s).map String.ofList = segments := by
  induction h with
  | word h => rw [fields_of_notMem (IsWord.dot_notMem h)]; rfl
  | dot h ht ih => rw [fields_append_cons (IsWord.dot_notMem h), List.map_cons, ih]

theorem dotted_of_fields (s : List Char) (h : ∀ f ∈ fields '.' s, IsWord f) :
    Dotted s ((fields '.' s).map String.ofList) := by
  by_cases hdot : '.' ∈ s
  · obtain ⟨a, t, rfl, ha⟩ := List.eq_append_cons_of_mem hdot
    rw [fields_append_cons ha] at h ⊢
    exact .dot (h a List.mem_cons_self)
      (dotted_of_fields t fun f hf ↦ h f (List.mem_cons_of_mem a hf))
  · rw [fields_of_notMem hdot] at h ⊢
    exact .word (h s (List.mem_singleton_self s))
termination_by s.length
decreasing_by
  rename_i he _
  simp only [he, List.length_append, List.length_cons]
  omega

theorem isPropertyChar_iff {c : Char} : isPropertyChar c ↔ isWordChar c ∨ c = '.' := by
  simp [isPropertyChar]

theorem Grammar.Dotted.isPropertyChar {s : List Char} {segments : List String}
    (h : Dotted s segments) : ∀ c ∈ s, isPropertyChar c := by
  induction h with
  | word h => exact fun c hc ↦ isPropertyChar_iff.mpr (.inl (h.2 c hc))
  | dot h ht ih =>
    intro c hc
    rcases List.mem_append.mp hc with hc | hc
    · exact isPropertyChar_iff.mpr (.inl (h.2 c hc))
    · rcases List.mem_cons.mp hc with rfl | hc
      · rfl
      · exact ih c hc

theorem Grammar.Dotted.head {s : List Char} {segments : List String} (h : Dotted s segments)
    (t : List Char) : ∃ c u, s ++ t = c :: u ∧ isWordChar c := by
  cases h with
  | word h => exact h.append_head
  | dot h =>
    rw [List.append_assoc]
    exact h.append_head

theorem Grammar.Dotted.getLast? {s : List Char} {segments : List String} (h : Dotted s segments) :
    s.getLast? ≠ some '.' := by
  induction h with
  | word h => exact fun hlast ↦ IsWord.dot_notMem h (List.mem_of_getLast? hlast)
  | @dot s t segments h ht ih =>
    obtain ⟨c, u, hu, -⟩ := ht.head []
    rw [List.append_nil] at hu
    rw [List.getLast?_append, hu, List.getLast?_cons_cons, ← hu]
    intro hlast
    cases hl : t.getLast? with
    | none => simp [hu] at hl
    | some d =>
      rw [hl] at hlast
      exact ih (hl.trans hlast)

theorem trim_of_isPropertyChar {s : List Char} (hs : ∀ c ∈ s, isPropertyChar c) : trim s = s := by
  refine trim_of_forall fun c hc ↦ ?_
  rcases isPropertyChar_iff.mp (hs c hc) with h | rfl
  · exact isBlank_of_isWordChar h
  · rfl

theorem property?_eq {s : List Char} (hne : s ≠ []) (hs : ∀ c ∈ s, isPropertyChar c) :
    property? s =
      Path.ofSegments? ((fields '.' (Path.dropFinalDot s)).map String.ofList) := by
  rw [property?, Path.parse, String.toList_ofList, trim_of_isPropertyChar hs]
  split
  · exact absurd rfl hne
  · split
    · rename_i h
      rw [h]
      rfl
    · rename_i h
      rw [h]
      rfl

theorem property?_nil : property? [] = none := rfl

theorem property_of_property? {s : List Char} {p : Path} (hs : ∀ c ∈ s, isPropertyChar c)
    (h : property? s = some p) : Property s p.segments := by
  have hne : s ≠ [] := by
    rintro rfl
    rw [property?_nil] at h
    cases h
  rw [property?_eq hne hs] at h
  have hsegments := Path.ofSegments?_eq_some_iff.mp h
  have hdrop : ∀ c ∈ Path.dropFinalDot s, isPropertyChar c :=
    fun c hc ↦ hs c ((Path.dropFinalDot_isPrefix s).subset hc)
  have hword : ∀ f ∈ fields '.' (Path.dropFinalDot s), IsWord f := by
    intro f hf
    have hseg : IsSegment (String.ofList f) :=
      p.isSegment _ (hsegments ▸ List.mem_map_of_mem hf)
    rw [IsSegment, String.toList_ofList] at hseg
    refine ⟨hseg.1, fun c hc ↦ ?_⟩
    rcases isPropertyChar_iff.mp (hdrop c (mem_of_mem_fields hf c hc)) with hc' | rfl
    · exact hc'
    · exact absurd hc hseg.2
  have hdotted := dotted_of_fields _ hword
  rw [hsegments]
  by_cases hlast : s.getLast? = some '.'
  · obtain ⟨t, rfl⟩ := List.getLast?_eq_some_iff.mp hlast
    rw [Path.dropFinalDot, if_pos hlast, List.dropLast_concat] at hdotted ⊢
    exact .dot hdotted
  · rw [Path.dropFinalDot, if_neg hlast] at hdotted ⊢
    exact .plain hdotted

theorem dropFinalDot_of_property {s : List Char} {segments : List String}
    (h : Property s segments) : Dotted (Path.dropFinalDot s) segments := by
  cases h with
  | plain h =>
    rw [Path.dropFinalDot, if_neg h.getLast?]
    exact h
  | dot h =>
    rw [Path.dropFinalDot, if_pos List.getLast?_concat, List.dropLast_concat]
    exact h

theorem Grammar.Property.isPropertyChar {s : List Char} {segments : List String}
    (h : Property s segments) : ∀ c ∈ s, isPropertyChar c := by
  cases h with
  | plain h => exact h.isPropertyChar
  | dot h =>
    intro c hc
    rcases List.mem_append.mp hc with hc | hc
    · exact h.isPropertyChar c hc
    · rw [List.mem_singleton.mp hc]
      rfl

theorem Grammar.Property.head {s : List Char} {segments : List String} (h : Property s segments)
    (t : List Char) : ∃ c u, s ++ t = c :: u ∧ isWordChar c := by
  cases h with
  | plain h => exact h.head t
  | dot h =>
    rw [List.append_assoc]
    exact h.head _

theorem Grammar.Dotted.isWord {s : List Char} {segments : List String} (h : Dotted s segments) :
    ∀ t ∈ segments, IsWord t.toList := by
  induction h with
  | word h => simpa using h
  | dot h ht ih => simpa using ⟨h, ih⟩

theorem isSegment_of_dotted {s : List Char} {segments : List String} (h : Dotted s segments) :
    segments ≠ [] ∧ ∀ t ∈ segments, IsSegment t := by
  induction h with
  | word h => simpa using isSegment_of_isWord h
  | dot h ht ih => simpa using ⟨isSegment_of_isWord h, ih.2⟩

theorem property?_of_property {s : List Char} {segments : List String} (h : Property s segments) :
    ∃ p : Path, p.segments = segments ∧ property? s = some p := by
  have hdotted := dropFinalDot_of_property h
  have hseg := isSegment_of_dotted hdotted
  have hne : s ≠ [] := by
    obtain ⟨c, u, hu, -⟩ := h.head []
    rw [List.append_nil] at hu
    simp [hu]
  refine ⟨⟨segments, hseg.1, hseg.2⟩, rfl, ?_⟩
  rw [property?_eq hne h.isPropertyChar, fields_of_dotted hdotted, Path.ofSegments?, dif_pos hseg]

end DataBinding.Binding
