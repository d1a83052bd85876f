import DataBinding.Markup.Basic
import Mathlib.Data.List.Basic

namespace DataBinding.Markup

def specialChars : List Char := ['&', '<', '>', '"']

def entity : Char → List Char
  | '&' => "&amp;".toList
  | '<' => "&lt;".toList
  | '>' => "&gt;".toList
  | '"' => "&quot;".toList
  | c => [c]

/-- A text with the characters in `cs` written as entities. -/
def encodeOnce (cs s : List Char) : List Char := s.flatMap fun c ↦ if c ∈ cs then entity c else [c]

/-- A text with its entities read from left to right; any other ampersand stands for itself. -/
def decode : List Char → List Char
  | '&' :: 'a' :: 'm' :: 'p' :: ';' :: s => '&' :: decode s
  | '&' :: 'l' :: 't' :: ';' :: s => '<' :: decode s
  | '&' :: 'g' :: 't' :: ';' :: s => '>' :: decode s
  | '&' :: 'q' :: 'u' :: 'o' :: 't' :: ';' :: s => '"' :: decode s
  | c :: s => c :: decode s
  | [] => []

variable {c : Char} {cs : List Char}

theorem decode_cons_of_ne (h : c ≠ '&') (s : List Char) : decode (c :: s) = c :: decode s := by
  rw [decode.eq_def]
  split <;> simp_all

theorem decode_entity (h : c ∈ specialChars) (s : List Char) :
    decode (entity c ++ s) = c :: decode s := by
  simp only [specialChars, List.mem_cons, List.not_mem_nil, or_false] at h
  obtain rfl | rfl | rfl | rfl := h <;> rfl

/-- Ampersands must be among what is replaced, or those in the text could be read as entities. -/
theorem decode_encodeOnce (hcs : cs ⊆ specialChars) (hamp : '&' ∈ cs) (s : List Char) :
    decode (encodeOnce cs s) = s := by
  induction s with
  | nil => rfl
  | cons c s ih =>
    rw [encodeOnce, List.flatMap_cons, ← encodeOnce]
    by_cases hc : c ∈ cs
    · rw [if_pos hc, decode_entity (hcs hc), ih]
    · have hne : c ≠ '&' := fun h ↦ hc (h ▸ hamp)
      rw [if_neg hc, List.singleton_append, decode_cons_of_ne hne, ih]

theorem notMem_encodeOnce (hc : c ∈ cs) (hfree : c ∉ cs.flatMap entity) (s : List Char) :
    c ∉ encodeOnce cs s := by
  intro h
  obtain ⟨d, -, hd⟩ := List.mem_flatMap.mp h
  by_cases hdcs : d ∈ cs
  · rw [if_pos hdcs] at hd
    exact hfree (List.mem_flatMap.mpr ⟨d, hdcs, hd⟩)
  · rw [if_neg hdcs, List.mem_singleton] at hd
    exact hdcs (hd ▸ hc)

theorem substitute_of_notMem {t : String} {s : List Char} (h : c ∉ s) : substitute c t s = s := by
  induction s with
  | nil => rfl
  | cons d s ih =>
    rw [List.mem_cons, not_or] at h
    rw [substitute, List.flatMap_cons, if_neg (Ne.symm h.1), ← substitute, ih h.2,
      List.singleton_append]

/-- A character that none of the entities in a text holds can be replaced after the others. -/
theorem substitute_encodeOnce {t : String} (ht : entity c = t.toList) (hc : c ∉ cs)
    (hfree : c ∉ cs.flatMap entity) (s : List Char) :
    substitute c t (encodeOnce cs s) = encodeOnce (c :: cs) s := by
  rw [encodeOnce, substitute, List.flatMap_assoc, encodeOnce]
  refine List.flatMap_congr fun d _ ↦ ?_
  rw [← substitute]
  by_cases hd : d ∈ cs
  · have hnot : c ∉ entity d := fun h ↦ hfree (List.mem_flatMap.mpr ⟨d, hd, h⟩)
    rw [if_pos hd, if_pos (List.mem_cons_of_mem c hd), substitute_of_notMem hnot]
  · rw [if_neg hd, substitute, List.flatMap_singleton]
    by_cases he : d = c
    · subst he
      rw [if_pos rfl, if_pos List.mem_cons_self, ht]
    · rw [if_neg he, if_neg (fun h ↦ (List.mem_cons.mp h).elim he hd)]

theorem encodeOnce_nil (s : List Char) : encodeOnce [] s = s := by
  simp [encodeOnce]

theorem substitute_amp (s : List Char) : substitute '&' "&amp;" s = encodeOnce ['&'] s := by
  rw [← encodeOnce_nil s, substitute_encodeOnce rfl (by decide) (by decide), encodeOnce_nil]

theorem encodeText_eq (s : List Char) : encodeText s = encodeOnce ['>', '<', '&'] s := by
  rw [encodeText, substitute_amp, substitute_encodeOnce rfl (by decide) (by decide),
    substitute_encodeOnce rfl (by decide) (by decide)]

theorem encodeAttr_eq (s : List Char) : encodeAttr s = encodeOnce ['<', '"', '&'] s := by
  rw [encodeAttr, substitute_amp, substitute_encodeOnce rfl (by decide) (by decide),
    substitute_encodeOnce rfl (by decide) (by decide)]

/-- What is written for a text has no angle brackets, and what is written for an attribute value no
opening bracket and no quote. Either is the text with each of its special characters replaced once,
and reads as the text, so that different texts are written differently. -/
theorem decode_encoded (s : List Char) :
    (encodeText s = encodeOnce ['>', '<', '&'] s ∧ '<' ∉ encodeText s ∧ '>' ∉ encodeText s ∧
      decode (encodeText s) = s) ∧
    (encodeAttr s = encodeOnce ['<', '"', '&'] s ∧ '<' ∉ encodeAttr s ∧ '"' ∉ encodeAttr s ∧
      decode (encodeAttr s) = s) ∧
    encodeText.Injective ∧ encodeAttr.Injective := by
  have htext (s : List Char) : decode (encodeText s) = s := by
    rw [encodeText_eq, decode_encodeOnce (by decide) (by decide)]
  have hattr (s : List Char) : decode (encodeAttr s) = s := by
    rw [encodeAttr_eq, decode_encodeOnce (by decide) (by decide)]
  refine ⟨⟨encodeText_eq s, ?_, ?_, htext s⟩, ⟨encodeAttr_eq s, ?_, ?_, hattr s⟩,
    Function.LeftInverse.injective htext, Function.LeftInverse.injective hattr⟩
  · rw [encodeText_eq]
    exact notMem_encodeOnce (by decide) (by decide) s
  · rw [encodeText_eq]
    exact notMem_encodeOnce (by decide) (by decide) s
  · rw [encodeAttr_eq]
    exact notMem_encodeOnce (by decide) (by decide) s
  · rw [encodeAttr_eq]
    exact notMem_encodeOnce (by decide) (by decide) s

example : decode (encodeText "&lt; <".toList) = "&lt; <".toList := by decide

end DataBinding.Markup
