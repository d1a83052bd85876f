import DataBinding.Proofs.Binding.Property

namespace DataBinding.Binding

open Text Grammar

theorem endsProperty_iff {s : List Char} : endsProperty s ↔ Ends s := by
  cases s <;> simp [endsProperty, Ends]

theorem chain_of_parseChain {s : List Char} {b : Binding} (h : parseChain s = .ok b) :
    ∃ p calls, b = .chain p calls ∧ Chain s p.segments calls := by
  obtain ⟨w, hw, hs⟩ := exists_blank_append_trimStart s
  have hsplit : s = w ++ ((trimStart s).takeWhile isPropertyChar ++
      (trimStart s).dropWhile isPropertyChar) := by
    rw [List.takeWhile_append_dropWhile]
    exact hs
  have hchars : ∀ c ∈ (trimStart s).takeWhile isPropertyChar, isPropertyChar c :=
    List.all_eq_true.mp List.all_takeWhile
  simp only [parseChain] at h
  generalize (trimStart s).takeWhile isPropertyChar = raw at h hsplit hchars
  generalize (trimStart s).dropWhile isPropertyChar = rest at h hsplit
  split at h
  · cases h
  · rename_i p hp
    split at h
    · rename_i hends
      split at h
      · rename_i calls hcalls
        obtain ⟨t, u, rfl, ht, hu⟩ := clauses_of_clauses hcalls
        cases h
        refine ⟨p, calls, rfl, ?_⟩
        rw [hsplit]
        exact .mk hw (property_of_property? hchars hp) (endsProperty_iff.mp hends) ht hu
      · cases h
    · cases h

theorem isPropertyChar_head_of_ends {s : List Char} (h : Ends s) :
    ∀ c ∈ s.head?, isPropertyChar c = false := by
  intro c hc
  rw [Bool.eq_false_iff, ne_eq, isPropertyChar_iff]
  rintro (hword | rfl)
  · rcases h c hc with rfl | hblank
    · exact absurd hword (by decide)
    · rw [isBlank_of_isWordChar hword] at hblank
      cases hblank
  · exact absurd (h '.' hc) (by decide)

theorem parseChain_of_chain {s : List Char} {segments : List String} {calls : List Clause}
    (h : Chain s segments calls) :
    ∃ p : Path, p.segments = segments ∧ parseChain s = .ok (.chain p calls) := by
  cases h with
  | @mk w raw t u _ _ hw hraw hends ht hu =>
    obtain ⟨p, hp, hread⟩ := property?_of_property hraw
    have htrim : trimStart (w ++ (raw ++ (t ++ u))) = raw ++ (t ++ u) := by
      obtain ⟨c, v, hv, hc⟩ := hraw.head (t ++ u)
      rw [trimStart_blank hw, hv, trimStart_cons (isBlank_of_isWordChar hc)]
    have hhead := isPropertyChar_head_of_ends hends
    refine ⟨p, hp, ?_⟩
    simp only [parseChain, htrim, takeWhile_run hraw.isPropertyChar hhead,
      dropWhile_run hraw.isPropertyChar hhead, hread, endsProperty_iff.mpr hends, if_true,
      clauses_append ht hu]

theorem parse_filterChain_eq_ok {expression : String} {b : Binding} :
    parse .filterChain expression = .ok b ↔ parseChain expression.toList = .ok b := by
  simp only [parse, Style.resolve]
  cases parseChain expression.toList with
  | error e => exact iff_of_false nofun nofun
  | ok c =>
    constructor
    · intro h
      cases h
      rfl
    · intro h
      cases h
      rfl

/-- A text is read as a filter chain if and only if the grammar derives it, and the result is the
path, the filters and the arguments that the derivation spells. -/
theorem parse_filterChain_iff (expression : String) :
    ((∃ b, parse .filterChain expression = .ok b) ↔
      ∃ segments calls, Chain expression.toList segments calls) ∧
    ∀ segments calls,
      (∃ p : Path, p.segments = segments ∧ parse .filterChain expression = .ok (.chain p calls)) ↔
        Chain expression.toList segments calls := by
  refine ⟨⟨?_, ?_⟩, fun segments calls ↦ ⟨?_, ?_⟩⟩
  · rintro ⟨b, hb⟩
    obtain ⟨p, calls, -, hc⟩ := chain_of_parseChain (parse_filterChain_eq_ok.mp hb)
    exact ⟨p.segments, calls, hc⟩
  · rintro ⟨segments, calls, hc⟩
    obtain ⟨p, -, hp⟩ := parseChain_of_chain hc
    exact ⟨.chain p calls, parse_filterChain_eq_ok.mpr hp⟩
  · rintro ⟨p, rfl, hp⟩
    obtain ⟨q, calls', he, hc⟩ := chain_of_parseChain (parse_filterChain_eq_ok.mp hp)
    cases he
    exact hc
  · intro hc
    obtain ⟨p, hp, hread⟩ := parseChain_of_chain hc
    exact ⟨p, hp, parse_filterChain_eq_ok.mpr hread⟩

end DataBinding.Binding
