import DataBinding.Proofs.Binding.Attribute

namespace DataBinding.Binding

open Text Grammar

variable {s : List Char}

theorem Grammar.Clauses.of_notMem {calls : List Clause} (h : Clauses s calls) (hbar : '|' ∉ s) :
    s = [] ∧ calls = [] := by
  cases h with
  | nil => exact ⟨rfl, rfl⟩
  | cons => simp at hbar

theorem ends_of_blank {w : List Char} (hw : Blank w) : Ends w :=
  fun c hc ↦ .inr (hw c (List.mem_of_head? hc))

theorem chain_iff_of_notMem (hbar : '|' ∉ s) {segments : List String} {calls : List Clause} :
    Chain s segments calls ↔ calls = [] ∧ Property (trim s) segments := by
  constructor
  · intro h
    cases h with
    | @mk w raw t w' _ _ hw hraw _ ht hw' =>
      have hno : '|' ∉ t := fun hc ↦ hbar (by simp [hc])
      obtain ⟨rfl, rfl⟩ := ht.of_notMem hno
      refine ⟨rfl, ?_⟩
      rw [List.nil_append, trim_blank_append hw, trim_append_blank hw',
        trim_of_isPropertyChar hraw.isPropertyChar]
      exact hraw
  · rintro ⟨rfl, hraw⟩
    obtain ⟨w, w', hw, hw', hs⟩ := exists_blank_append_trim s
    have hends : Ends ([] ++ w') := ends_of_blank hw'
    rw [hs]
    exact .mk hw hraw hends .nil hw'

theorem parseChain_iff_of_notMem (hbar : '|' ∉ s) {b : Binding} :
    parseChain s = .ok b ↔ ∃ p, b = .chain p [] ∧ Property (trim s) p.segments := by
  constructor
  · intro h
    obtain ⟨p, calls, rfl, hchain⟩ := chain_of_parseChain h
    obtain ⟨rfl, hraw⟩ := (chain_iff_of_notMem hbar).mp hchain
    exact ⟨p, rfl, hraw⟩
  · rintro ⟨p, rfl, hraw⟩
    obtain ⟨q, hq, hread⟩ := parseChain_of_chain ((chain_iff_of_notMem hbar).mpr ⟨rfl, hraw⟩)
    rwa [Path.segments_inj.mp hq] at hread

theorem parseAttribute_iff_of_notMem (hcolon : ':' ∉ s) {b : Binding} :
    parseAttribute s = .ok b ↔ ∃ p, b = .content p ∧ Property (trim s) p.segments := by
  have hcut : cut ':' s = (s, none) := cut_of_notMem hcolon
  constructor
  · intro h
    simp only [parseAttribute, hcut] at h
    split at h
    · rename_i hall
      split at h
      · cases h
      · rename_i p hp
        cases h
        exact ⟨p, rfl, property_of_property? (List.all_eq_true.mp hall) hp⟩
    · cases h
  · rintro ⟨p, rfl, hraw⟩
    obtain ⟨q, hq, hread⟩ := property?_of_property hraw
    rw [Path.segments_inj.mp hq] at hread
    have hall : (trim s).all isPropertyChar = true := List.all_eq_true.mpr hraw.isPropertyChar
    simp only [parseAttribute, hcut, hall, if_true, hread]
    rfl

theorem exists_parse_error {style : Style} {text : String}
    (h : ∀ b, parse style text ≠ .ok b) : ∃ e, parse style text = .error e := by
  cases hread : parse style text with
  | error e => exact ⟨e, rfl⟩
  | ok b => exact absurd hread (h b)

end DataBinding.Binding
