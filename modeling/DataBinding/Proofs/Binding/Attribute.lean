import DataBinding.Proofs.Binding.Spelling
import DataBinding.Proofs.Text.Trim

namespace DataBinding.Binding

open Text Grammar

/-- A binding that some text of the attribute grammar gives: a path of words, and either nothing
else or the trimmed name of an attribute and two literals, of which only the second one may hold a
colon. -/
def Attributive : Binding → Prop
  | chain _ _ => False
  | content p => ∀ s ∈ p.segments, IsWord s.toList
  | attr p name truthy _ =>
    (∀ s ∈ p.segments, IsWord s.toList) ∧
      (name ≠ "" ∧ trim name.toList = name.toList ∧ ':' ∉ name.toList) ∧ ':' ∉ truthy.toList

def attributeText : Binding → String
  | attr p name truthy falsy => p.text ++ ":" ++ name ++ ":" ++ truthy ++ ":" ++ falsy
  | b => b.property.text

theorem parse_attr_eq_ok {expression : String} {b : Binding} :
    parse .attr expression = .ok b ↔ parseAttribute expression.toList = .ok b := by
  simp only [parse, Style.resolve]
  cases parseAttribute expression.toList with
  | error e => exact iff_of_false (by rintro ⟨⟩) (by rintro ⟨⟩)
  | ok c =>
    constructor
    · intro h
      cases h
      rfl
    · intro h
      cases h
      rfl

theorem property?_eq_some {s : List Char} {p : Path} :
    property? s = some p ↔ Path.parse (String.ofList s) = .ok p := by
  rw [property?]
  cases Path.parse (String.ofList s) <;> simp [Except.toOption]

theorem isWord_of_property? {s : List Char} {p : Path} (hs : ∀ c ∈ s, isPropertyChar c)
    (h : property? s = some p) : ∀ t ∈ p.segments, IsWord t.toList :=
  (dropFinalDot_of_property (property_of_property? hs h)).isWord

theorem exists_parseAttribute_iff (s : List Char) :
    (∃ b, parseAttribute s = .ok b) ↔
      (∀ c ∈ trim (cut ':' s).1, isPropertyChar c) ∧
        ∃ p, property? (trim (cut ':' s).1) = some p := by
  simp only [parseAttribute]
  split
  · rename_i hall
    rw [List.all_eq_true] at hall
    split
    · rename_i hnone
      rw [hnone]
      simp
    · rename_i p hp
      refine iff_of_true ?_ ⟨hall, p, hp⟩
      split
      · exact ⟨_, rfl⟩
      · exact ⟨_, rfl⟩
  · rename_i hall
    rw [List.all_eq_true] at hall
    exact iff_of_false (by simp) fun h ↦ hall h.1

theorem attributive_of_parseAttribute {s : List Char} {b : Binding}
    (h : parseAttribute s = .ok b) : Attributive b := by
  simp only [parseAttribute] at h
  generalize (cut ':' s).2.getD [] = rest at h
  split at h
  · rename_i hall
    split at h
    · cases h
    · rename_i p hp
      have hwords := isWord_of_property? (List.all_eq_true.mp hall) hp
      cases hname : trim (cut ':' rest).1 with
      | nil =>
        rw [hname] at h
        cases h
        exact hwords
      | cons c name =>
        rw [hname] at h
        cases h
        refine ⟨hwords, ⟨?_, ?_, ?_⟩, ?_⟩
        · simp [← String.toList_inj]
        · rw [String.toList_ofList, ← hname, trim_trim]
        · rw [String.toList_ofList, ← hname]
          exact fun hc ↦ notMem_fst_cut ':' rest (mem_of_mem_trim hc)
        · rw [String.toList_ofList]
          exact notMem_fst_cut ':' _
  · cases h

section

variable {p : Path} (hp : ∀ s ∈ p.segments, IsWord s.toList)

include hp

theorem isPropertyChar_of_mem_text : ∀ c ∈ p.text.toList, isPropertyChar c :=
  (dotted_join p.nonempty hp).isPropertyChar

theorem colon_notMem_text : ':' ∉ p.text.toList :=
  fun hc ↦ absurd (isPropertyChar_of_mem_text hp ':' hc) (by decide)

theorem property?_text : property? p.text.toList = some p := by
  obtain ⟨q, hq, hread⟩ := property?_of_property (.plain (dotted_join p.nonempty hp))
  rw [Path.segments_inj] at hq
  rwa [hq] at hread

theorem trim_text : trim p.text.toList = p.text.toList :=
  trim_of_isPropertyChar (isPropertyChar_of_mem_text hp)

theorem parseAttribute_text : parseAttribute p.text.toList = .ok (.content p) := by
  have hall := List.all_eq_true.mpr (isPropertyChar_of_mem_text hp)
  simp only [parseAttribute, cut_of_notMem (colon_notMem_text hp), trim_text hp, hall, if_true,
    property?_text hp]
  rfl

theorem parseAttribute_append {name truthy : List Char} (hname : trim name = name)
    (hne : name ≠ []) (hcolon : ':' ∉ name) (htruthy : ':' ∉ truthy) (falsy : List Char) :
    parseAttribute (p.text.toList ++ ':' :: (name ++ ':' :: (truthy ++ ':' :: falsy))) =
      .ok (.attr p (String.ofList name) (String.ofList truthy) (String.ofList falsy)) := by
  have hall := List.all_eq_true.mpr (isPropertyChar_of_mem_text hp)
  simp only [parseAttribute, cut_append_cons (colon_notMem_text hp), trim_text hp, hall, if_true,
    property?_text hp, Option.getD_some, cut_append_cons hcolon, cut_append_cons htruthy, hname]

end

theorem toList_attributeText (p : Path) (name truthy falsy : String) :
    (attributeText (.attr p name truthy falsy)).toList =
      p.text.toList ++ ':' :: (name.toList ++ ':' :: (truthy.toList ++ ':' :: falsy.toList)) := by
  simp [attributeText, String.toList_append]

theorem parseAttribute_attributeText {b : Binding} (h : Attributive b) :
    parseAttribute (attributeText b).toList = .ok b := by
  cases b with
  | chain p calls => exact h.elim
  | content p => exact parseAttribute_text h
  | attr p name truthy falsy =>
    obtain ⟨hp, ⟨hne, hname, hcolon⟩, htruthy⟩ := h
    have hne' : name.toList ≠ [] := fun h ↦ hne (String.toList_inj.mp h)
    rw [toList_attributeText, parseAttribute_append hp hname hne' hcolon htruthy]
    simp only [String.ofList_toList]

theorem guessStyle_attributeText {p : Path} {name truthy falsy : String}
    (h : '|' ∉ (attributeText (.attr p name truthy falsy)).toList) :
    guessStyle (attributeText (.attr p name truthy falsy)).toList = .attr := by
  have hcolon : ':' ∈ (attributeText (.attr p name truthy falsy)).toList := by
    rw [toList_attributeText]
    simp
  rw [guessStyle, if_neg h, if_pos hcolon]

theorem attributive_or_chain_of_parse {style : Style} {expression : String} {b : Binding}
    (h : parse style expression = .ok b) : Attributive b ∨ ∃ p calls, b = .chain p calls := by
  simp only [parse] at h
  split at h
  · cases ha : parseAttribute expression.toList with
    | error e =>
      rw [ha] at h
      cases h
    | ok b' =>
      rw [ha] at h
      cases h
      exact .inl (attributive_of_parseAttribute ha)
  · cases hc : parseChain expression.toList with
    | error e =>
      rw [hc] at h
      cases h
    | ok b' =>
      rw [hc] at h
      cases h
      obtain ⟨p, calls, rfl, -⟩ := chain_of_parseChain hc
      exact .inr ⟨p, calls, rfl⟩

/-- A text is read as an attribute binding if and only if a path of words and dots stands before its
first colon. What is read has the form of an attribute binding, and every binding of that form is
read from its text. -/
theorem parse_attr_iff :
    (∀ expression : String, (∃ b, parse .attr expression = .ok b) ↔
      ∃ head, head = trim (expression.toList.takeWhile (· != ':')) ∧ head ≠ [] ∧
        (∀ c ∈ head, isWordChar c ∨ c = '.') ∧ ∃ p, Path.parse (String.ofList head) = .ok p) ∧
    (∀ (style : Style) (expression : String) (b : Binding), parse style expression = .ok b →
      (style = .attr ∨ ∀ p calls, b ≠ .chain p calls) → Attributive b) ∧
    ∀ b, Attributive b →
      parse .attr (attributeText b) = .ok b ∧
        ∀ p name truthy falsy, b = .attr p name truthy falsy →
          '|' ∉ (attributeText b).toList → parse .auto (attributeText b) = .ok b := by
  refine ⟨fun expression ↦ ?_, fun style expression b h ↦ ?_, fun b h ↦ ⟨?_, ?_⟩⟩
  · simp only [parse_attr_eq_ok, exists_parseAttribute_iff, fst_cut, isPropertyChar_iff,
      property?_eq_some]
    constructor
    · rintro ⟨hchars, p, hp⟩
      refine ⟨_, rfl, ?_, hchars, p, hp⟩
      intro hnil
      rw [hnil] at hp
      cases hp
    · rintro ⟨head, rfl, -, hchars, hp⟩
      exact ⟨hchars, hp⟩
  · rintro (rfl | hno)
    · exact attributive_of_parseAttribute (parse_attr_eq_ok.mp h)
    · exact (attributive_or_chain_of_parse h).resolve_right fun ⟨p, calls, hb⟩ ↦ hno p calls hb
  · exact parse_attr_eq_ok.mpr (parseAttribute_attributeText h)
  · rintro p name truthy falsy rfl hbar
    have hread := parseAttribute_attributeText h
    simp only [parse, Style.resolve, guessStyle_attributeText hbar, hread]
    rfl

namespace Greeting

def titled : Binding := .attr path "title" " yes " "no: never"

theorem parse_attr_iff_titled :
    parse .attr " model.name. :\u3000title : yes :no: never" = .ok titled ∧
      attributeText titled = "model.name:title: yes :no: never" ∧
      parse .attr (attributeText titled) = .ok titled ∧
      parse .auto (attributeText titled) = .ok titled := by
  have hread : parse .attr " model.name. :\u3000title : yes :no: never" = .ok titled := rfl
  have hform := parse_attr_iff.2.1 .attr _ _ hread (.inl rfl)
  obtain ⟨hattr, hauto⟩ := parse_attr_iff.2.2 titled hform
  exact ⟨hread, rfl, hattr, hauto _ _ _ _ rfl (by decide)⟩

end Greeting

end DataBinding.Binding
