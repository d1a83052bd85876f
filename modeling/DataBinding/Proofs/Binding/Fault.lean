import DataBinding.Proofs.Binding.Chain
import DataBinding.Proofs.Binding.Cursor

namespace DataBinding.Binding

open Text Grammar

/-- A text is over, or goes on with the same character as `r`. -/
def Resumes (r r' : List Char) : Prop := ∀ c ∈ r'.head?, r.head? = some c

theorem resumes_nil (r : List Char) : Resumes r [] := nofun

theorem Resumes.append {r r' : List Char} (h : Resumes r r') (s : List Char) :
    Resumes (s ++ r) (s ++ r') := by
  cases s with
  | nil => exact h
  | cons c s => exact fun d hd ↦ hd

theorem resumes_cons (c : Char) (r r' : List Char) : Resumes (c :: r) (c :: r') := fun _ hd ↦ hd

theorem resumes_append_left (s r : List Char) : Resumes (s ++ r) s := by
  have h := (resumes_nil r).append s
  rwa [List.append_nil] at h

theorem resumes_append_right {r : List Char} (hr : r ≠ []) (s : List Char) :
    Resumes r (r ++ s) := by
  obtain ⟨c, r, rfl⟩ := List.exists_cons_of_ne_nil hr
  exact resumes_cons c r (r ++ s)

theorem Resumes.trimStart {s r : List Char} (h : Resumes (Text.trimStart s) r) :
    Text.trimStart r = r := by
  cases r with
  | nil => rfl
  | cons c r => exact trimStart_cons (isBlank_of_head?_trimStart (h c rfl)) r

theorem ne_backslash_of_isQuote {c : Char} (h : isQuote c) : c ≠ '\\' := by
  rintro rfl
  exact absurd h (by decide)

theorem dropComma_resume {s a r : List Char} (h : dropComma (trimStart s) = a ++ r) :
    ∃ lead, s = lead ++ r ∧ ∀ r', Resumes r r' → dropComma (trimStart (lead ++ r')) = a ++ r' := by
  obtain ⟨w, hw, hs⟩ := exists_blank_append_trimStart s
  by_cases hcomma : (trimStart s).head? = some ','
  · obtain ⟨t, ht⟩ := List.head?_eq_some_iff.mp hcomma
    rw [ht] at h hs
    refine ⟨w ++ ',' :: a, ?_, fun r' _ ↦ ?_⟩
    · rw [hs, show t = a ++ r from h]
      simp only [List.append_assoc, List.cons_append]
    · rw [List.append_assoc, trimStart_blank hw, List.cons_append, trimStart_cons (by rfl)]
      rfl
  · rw [dropComma_of_head hcomma] at h
    refine ⟨w ++ a, by rw [List.append_assoc, ← h, ← hs], fun r' hr ↦ ?_⟩
    have hsame : Resumes (trimStart s) (a ++ r') := h ▸ hr.append a
    rw [List.append_assoc, trimStart_blank hw, hsame.trimStart]
    exact dropComma_of_head fun hhead ↦ hcomma (hsame ',' hhead)

theorem arguments_of_head {s : List Char} (h : ∀ c ∈ (trimStart s).head?, isQuote c = false) :
    arguments s = some ([], trimStart s) := by
  rw [arguments_eq]
  cases hs : trimStart s with
  | nil => rfl
  | cons c t =>
    rw [hs] at h
    simp [h c rfl]

theorem arguments_resume_of_head {s : List Char}
    (h : ∀ c ∈ (trimStart s).head?, isQuote c = false) :
    ∃ a, s = a ++ trimStart s ∧
      ∀ r', Resumes (trimStart s) r' → arguments (a ++ r') = some ([], r') := by
  obtain ⟨w, hw, hs⟩ := exists_blank_append_trimStart s
  refine ⟨w, hs, fun r' hr ↦ ?_⟩
  have htrim : trimStart (w ++ r') = r' := by rw [trimStart_blank hw, hr.trimStart]
  have hread : arguments (w ++ r') = some ([], trimStart (w ++ r')) :=
    arguments_of_head (by rw [htrim]; exact fun c hc ↦ h c (hr c hc))
  rwa [htrim] at hread

theorem arguments_resume {s r : List Char} {args : List String} (h : arguments s = some (args, r)) :
    ∃ a, s = a ++ r ∧ ∀ r', Resumes r r' → arguments (a ++ r') = some (args, r') := by
  fun_induction arguments s generalizing args r with
  | case1 s hs =>
    cases h
    have h := arguments_resume_of_head (s := s) (by simp [hs])
    rwa [hs] at h
  | case2 => cases h
  | case3 s q t hs hq arg u hu ih =>
    obtain ⟨x, hx, he⟩ := Option.map_eq_some_iff.mp h
    obtain ⟨a, ha, hresume⟩ := ih (show _ = some (x.1, x.2) from hx)
    obtain ⟨b, rfl, hi⟩ := inside_of_quoted hu
    obtain ⟨w, hw, hws⟩ := exists_blank_append_trimStart s
    obtain ⟨lead, rfl, hdrop⟩ := dropComma_resume ha
    cases he
    refine ⟨w ++ q :: (b ++ q :: lead), ?_, fun r' hr ↦ ?_⟩
    · rw [hws, hs]
      simp only [List.append_assoc, List.cons_append]
    · have hblank : isBlank q = false := by
        rcases isQuote_iff.mp hq with rfl | rfl <;> rfl
      rw [List.append_assoc, List.cons_append, List.append_assoc, List.cons_append, arguments_eq,
        trimStart_blank hw, trimStart_cons hblank]
      simp only [hq, if_true, quoted_of_inside (ne_backslash_of_isQuote hq) hi,
        hdrop r' hr, hresume r' hr, Option.map_some]
  | case4 s q t hs hq =>
    cases h
    have h := arguments_resume_of_head (s := s) (by rw [hs]; rintro c ⟨⟩; simpa using hq)
    rwa [hs] at h

theorem clause_cases (s : List Char) :
    (∃ rest, clause s = .error (.noName rest)) ∨
      ∃ w name t, s = w ++ (name ++ t) ∧ Blank w ∧ IsWord name ∧
        ∀ c ∈ t.head?, isWordChar c = false := by
  obtain ⟨w, hw, hs⟩ := exists_blank_append_trimStart s
  by_cases hname : (trimStart s).takeWhile isWordChar = []
  · exact .inl ⟨trimStart s, by simp only [clause, hname, List.isEmpty_nil, if_true]⟩
  · refine .inr ⟨w, (trimStart s).takeWhile isWordChar, (trimStart s).dropWhile isWordChar, ?_, hw,
      ⟨hname, List.all_eq_true.mp List.all_takeWhile⟩, fun c hc ↦ ?_⟩
    · rw [List.takeWhile_append_dropWhile]
      exact hs
    · have hhead := List.head?_dropWhile_not isWordChar (trimStart s)
      rw [hc] at hhead
      exact hhead

theorem clause_of_name {w name t : List Char} (hw : Blank w) (hname : IsWord name)
    (ht : ∀ c ∈ t.head?, isWordChar c = false) :
    clause (w ++ (name ++ t)) =
      match trimStart t with
      | ':' :: u =>
        match arguments u with
        | none => .error .unclosed
        | some (args, r) => .ok (⟨String.ofList name, args⟩, r)
      | r => .ok (⟨String.ofList name, []⟩, r) := by
  have htrim : trimStart (w ++ (name ++ t)) = name ++ t := by
    rw [trimStart_blank hw, hname.trimStart]
  have hempty : ¬ name.isEmpty := by simpa using hname.1
  simp only [clause, htrim, takeWhile_run hname.2 ht, dropWhile_run hname.2 ht]
  exact if_neg hempty

theorem clause_resume {s r : List Char} {call : Clause} (h : clause s = .ok (call, r)) :
    ∃ a, s = a ++ r ∧ ∀ r', Resumes r r' → clause (a ++ r') = .ok (call, r') := by
  rcases clause_cases s with ⟨rest, hnone⟩ | ⟨w, name, t, rfl, hw, hname, ht⟩
  · rw [hnone] at h
    cases h
  · obtain ⟨w', hw', hs⟩ := exists_blank_append_trimStart t
    rw [clause_of_name hw hname ht] at h
    split at h
    · rename_i u hu
      cases hread : arguments u with
      | none =>
        rw [hread] at h
        cases h
      | some x =>
        rw [hread] at h
        cases h
        obtain ⟨a, rfl, hresume⟩ := arguments_resume hread
        rw [hu] at hs
        refine ⟨w ++ (name ++ (w' ++ ':' :: a)), ?_, fun r' hr ↦ ?_⟩
        · rw [hs]
          simp only [List.append_assoc, List.cons_append]
        · simp only [List.append_assoc, List.cons_append]
          rw [clause_of_name hw hname (isWordChar_head_blank_append hw' (by rintro c ⟨⟩; rfl)),
            trimStart_blank hw', trimStart_cons (by rfl)]
          simp only [hresume r' hr]
    · rename_i hcolon
      cases h
      refine ⟨w ++ (name ++ w'), ?_, fun r' hr ↦ ?_⟩
      · simp only [List.append_assoc]
        rw [← hs]
      · have hsame : Resumes t (w' ++ r') := by
          have hsame := hr.append w'
          rwa [← hs] at hsame
        simp only [List.append_assoc]
        rw [clause_of_name hw hname fun c hc ↦ ht c (hsame c hc), trimStart_blank hw', hr.trimStart]
        split
        · rename_i u
          obtain ⟨v, hv⟩ := List.head?_eq_some_iff.mp (hr ':' rfl)
          exact absurd hv (hcolon v)
        · rfl

theorem of_clause_noName {s rest : List Char} (h : clause s = .error (.noName rest)) :
    rest = trimStart s ∧ ∀ c ∈ rest.head?, isWordChar c = false := by
  simp only [clause] at h
  split at h
  · rename_i hname
    cases h
    refine ⟨rfl, fun c hc ↦ ?_⟩
    obtain ⟨t, ht⟩ := List.head?_eq_some_iff.mp hc
    rw [ht] at hname
    cases hc : isWordChar c with
    | false => rfl
    | true => simp [hc] at hname
  · split at h
    · split at h <;> cases h
    · cases h

theorem clause_ne_unexpected {s rest : List Char} {c : Char} :
    clause s ≠ .error (.unexpected c rest) := by
  intro h
  simp only [clause] at h
  split at h
  · cases h
  · split at h
    · split at h <;> cases h
    · cases h

theorem clauses_cons {w t r : List Char} {call : Clause} (hw : Blank w)
    (h : clause t = .ok (call, r)) :
    clauses (w ++ '|' :: t) = (clauses r).map (call :: ·) := by
  rw [clauses_eq, trimStart_blank hw, trimStart_cons (by rfl)]
  simp only [if_true, h]
  cases clauses r <;> rfl

theorem clauses_of_blank {w : List Char} (hw : Blank w) : clauses w = .ok [] := by
  rw [clauses_eq, trimStart_of_blank hw]

theorem clauses_of_unexpected {w : List Char} {c : Char} (hw : Blank w) (hblank : isBlank c = false)
    (hc : c ≠ '|') (t : List Char) : clauses (w ++ c :: t) = .error (.unexpected c (c :: t)) := by
  rw [clauses_eq, trimStart_blank hw, trimStart_cons hblank]
  simp only [hc, if_false]

/-- Clauses stop at once: no bar begins the text, or no clause follows the bar. -/
inductive Faulty : List Char → Stop → Prop
  | unexpected {w t : List Char} {c : Char} :
      Blank w → isBlank c = false → c ≠ '|' → Faulty (w ++ c :: t) (.unexpected c (c :: t))
  | clause {w t : List Char} {stop : Stop} :
      Blank w → clause t = .error stop → Faulty (w ++ '|' :: t) stop

theorem exists_faulty {s : List Char} {stop : Stop} (h : clauses s = .error stop) :
    ∃ lead calls rest, s = lead ++ rest ∧ Faulty rest stop ∧
      ∀ rest', Resumes rest rest' → clauses (lead ++ rest') = (clauses rest').map (calls ++ ·) := by
  have hid (rest : List Char) : clauses rest = (clauses rest).map ([] ++ ·) := by
    cases clauses rest <;> rfl
  fun_induction clauses s with
  | case1 => cases h
  | case2 s t stop hstop hs =>
    cases h
    obtain ⟨w, hw, hws⟩ := exists_blank_append_trimStart s
    rw [hs] at hws
    exact ⟨[], [], s, rfl, hws ▸ .clause hw hstop, fun rest' _ ↦ hid rest'⟩
  | case3 s t call r hr stop hstop hs ih =>
    cases h
    obtain ⟨lead, calls, rest, rfl, hfaulty, hresume⟩ := ih hstop
    obtain ⟨a, rfl, hclause⟩ := clause_resume hr
    obtain ⟨w, hw, hws⟩ := exists_blank_append_trimStart s
    rw [hs] at hws
    refine ⟨w ++ '|' :: (a ++ lead), call :: calls, rest, ?_, hfaulty, fun rest' hrest ↦ ?_⟩
    · rw [hws]
      simp only [List.append_assoc, List.cons_append]
    · rw [List.append_assoc, List.cons_append, List.append_assoc,
        clauses_cons hw (hclause _ (hrest.append lead)), hresume rest' hrest]
      cases clauses rest' <;> rfl
  | case4 => cases h
  | case5 s c t hs hc =>
    cases h
    obtain ⟨w, hw, hws⟩ := exists_blank_append_trimStart s
    have hblank := isBlank_of_head?_trimStart (s := s) (by rw [hs]; rfl)
    rw [hs] at hws
    exact ⟨[], [], s, rfl, hws ▸ .unexpected hw hblank hc, fun rest' _ ↦ hid rest'⟩

theorem quoted_append {quote : Char} (hquote : quote ≠ '\\') {s t r : List Char}
    (h : quoted quote s = some (t, r)) (more : List Char) :
    quoted quote (s ++ more) = some (t, r ++ more) := by
  obtain ⟨b, rfl, hi⟩ := inside_of_quoted h
  rw [List.append_assoc, List.cons_append]
  exact quoted_of_inside hquote hi (r ++ more)

theorem quoted_closes {quote : Char} (hquote : quote ≠ '\\') {s : List Char}
    (h : quoted quote s = none) : ∃ more t, quoted quote (s ++ more) = some (t, []) := by
  fun_induction quoted quote s with
  | case1 => exact ⟨[quote], [], by rw [List.nil_append, quoted_cons hquote, if_pos rfl]⟩
  | case2 =>
    refine ⟨[quote, quote], [quote], ?_⟩
    rw [List.cons_append, List.nil_append, quoted, quoted_cons hquote, if_pos rfl]
    rfl
  | case3 c s ih =>
    obtain ⟨more, t, ht⟩ := ih (Option.map_eq_none_iff.mp h)
    refine ⟨more, c :: t, ?_⟩
    rw [List.cons_append, List.cons_append, quoted, ht]
    rfl
  | case4 => cases h
  | case5 c s hend hmore hne ih =>
    obtain ⟨more, t, ht⟩ := ih (Option.map_eq_none_iff.mp h)
    refine ⟨more, c :: t, ?_⟩
    rw [List.cons_append, quoted_cons (ne_backslash hend hmore), if_neg hne, ht]
    rfl

theorem dropComma_append {s : List Char} (hs : s ≠ []) (t : List Char) :
    dropComma (s ++ t) = dropComma s ++ t := by
  by_cases hcomma : s.head? = some ','
  · obtain ⟨u, rfl⟩ := List.head?_eq_some_iff.mp hcomma
    rfl
  · have hhead : (s ++ t).head? ≠ some ',' := by
      rwa [List.head?_append, Option.or_of_isSome (List.isSome_head?.mpr hs)]
    rw [dropComma_of_head hcomma, dropComma_of_head hhead]

theorem arguments_append_of_quote {s t : List Char} {q : Char} (hs : trimStart s = q :: t)
    (hq : isQuote q) (more : List Char) :
    arguments (s ++ more) = (quoted q (t ++ more)).bind fun x ↦
      (arguments (dropComma (trimStart x.2))).map fun y ↦ (String.ofList x.1 :: y.1, y.2) := by
  rw [arguments_eq, trimStart_append (by simp [hs]), hs, List.cons_append]
  simp only [hq, if_true]
  cases quoted q (t ++ more) <;> rfl

theorem arguments_closes {s : List Char} (h : arguments s = none) :
    ∃ more args, arguments (s ++ more) = some (args, []) := by
  fun_induction arguments s with
  | case1 => cases h
  | case2 s q t hs hq hnone =>
    obtain ⟨more, arg, hmore⟩ := quoted_closes (ne_backslash_of_isQuote hq) hnone
    refine ⟨more, [String.ofList arg], ?_⟩
    rw [arguments_append_of_quote hs hq, hmore, Option.bind_some,
      show dropComma (trimStart []) = [] from rfl, arguments_eq]
    rfl
  | case3 s q t hs hq arg u hu ih =>
    have hnone := Option.map_eq_none_iff.mp h
    obtain ⟨more, args, hmore⟩ := ih hnone
    have hrest : trimStart u ≠ [] := by
      intro hu
      rw [hu, show dropComma [] = [] from rfl, arguments_eq] at hnone
      cases hnone
    refine ⟨more, String.ofList arg :: args, ?_⟩
    rw [arguments_append_of_quote hs hq, quoted_append (ne_backslash_of_isQuote hq) hu,
      Option.bind_some, trimStart_append hrest, dropComma_append hrest, hmore]
    rfl
  | case4 => cases h

theorem clause_closes {s : List Char} (h : clause s = .error .unclosed) :
    ∃ more call, clause (s ++ more) = .ok (call, []) := by
  rcases clause_cases s with ⟨rest, hnone⟩ | ⟨w, name, t, rfl, hw, hname, ht⟩
  · rw [hnone] at h
    cases h
  · rw [clause_of_name hw hname ht] at h
    split at h
    · rename_i u hu
      cases hread : arguments u with
      | some x =>
        rw [hread] at h
        cases h
      | none =>
        obtain ⟨more, args, hmore⟩ := arguments_closes hread
        have hne : t ≠ [] := by
          rintro rfl
          cases hu
        refine ⟨more, ⟨String.ofList name, args⟩, ?_⟩
        simp only [List.append_assoc]
        rw [clause_of_name hw hname fun c hc ↦ ht c (resumes_append_right hne more c hc),
          trimStart_append (by simp [hu]), hu, List.cons_append]
        simp only [hmore]
    · cases h

/-- A fault that is not about the property stands where the clauses stop. What is before is read
alike whatever follows. -/
theorem exists_stop {s : List Char} {fault : Fault} (h : parseChain s = .error fault)
    (hfault : fault ≠ .invalidProperty) :
    ∃ p calls lead rest stop, s = lead ++ rest ∧ Faulty rest stop ∧ fault = stop.fault s ∧
      ∀ rest', Resumes rest rest' →
        parseChain (lead ++ rest') =
          match clauses rest' with
          | .ok more => .ok (.chain p (calls ++ more))
          | .error stop => .error (stop.fault (lead ++ rest')) := by
  obtain ⟨w, hw, hs⟩ := exists_blank_append_trimStart s
  have hraw : ∀ c ∈ (trimStart s).takeWhile isPropertyChar, isPropertyChar c :=
    List.all_eq_true.mp List.all_takeWhile
  have hparts : (trimStart s).takeWhile isPropertyChar ++ (trimStart s).dropWhile isPropertyChar =
      trimStart s := List.takeWhile_append_dropWhile
  simp only [parseChain] at h
  generalize (trimStart s).takeWhile isPropertyChar = raw at h hraw hparts
  generalize (trimStart s).dropWhile isPropertyChar = after at h hparts
  split at h
  · cases h
    exact absurd rfl hfault
  · rename_i p hp
    split at h
    · rename_i hends
      split at h
      · cases h
      · rename_i stop hstop
        cases h
        obtain ⟨lead, calls, rest, rfl, hfaulty, hresume⟩ := exists_faulty hstop
        refine ⟨p, calls, w ++ (raw ++ lead), rest, stop, ?_, hfaulty, rfl, fun rest' hrest ↦ ?_⟩
        · simp only [List.append_assoc]
          rw [hparts, ← hs]
        · -- no more than the next character is looked at, and that is the same one
          have hsame := hrest.append lead
          have hends' : Ends (lead ++ rest') := fun c hc ↦
            endsProperty_iff.mp hends c (hsame c hc)
          have hhead := isPropertyChar_head_of_ends hends'
          have hbegins : Resumes (trimStart s) (raw ++ (lead ++ rest')) :=
            hparts ▸ hsame.append raw
          have htrim : trimStart (w ++ (raw ++ (lead ++ rest'))) = raw ++ (lead ++ rest') := by
            rw [trimStart_blank hw, hbegins.trimStart]
          simp only [List.append_assoc]
          simp only [parseChain, htrim, takeWhile_run hraw hhead, dropWhile_run hraw hhead, hp,
            endsProperty_iff.mpr hends', if_true, hresume rest' hrest]
          cases clauses rest' <;> rfl
    · cases h
      exact absurd rfl hfault

theorem parseChain_of_unexpectedChar {s : List Char} {found : Char} {n : Nat}
    (h : parseChain s = .error (.unexpectedChar found n)) :
    ∃ before after, s = before ++ found :: after ∧ utf8Length before = n ∧
      (∃ b, parseChain before = .ok b) ∧
      ∀ after', parseChain (before ++ found :: after') = .error (.unexpectedChar found n) := by
  obtain ⟨p, calls, lead, rest, stop, rfl, hfaulty, hfault, hresume⟩ := exists_stop h nofun
  cases hfaulty with
  | clause hw hstop =>
    cases stop with
    | unexpected => exact absurd hstop clause_ne_unexpected
    | noName | unclosed => cases hfault
  | @unexpected w t c hw hblank hc =>
    cases hfault
    have hoffset (t : List Char) :
        utf8Length (lead ++ (w ++ found :: t)) - utf8Length (found :: t) =
          utf8Length (lead ++ w) := by
      rw [← List.append_assoc, utf8Length_append (lead ++ w), Nat.add_sub_cancel]
    refine ⟨lead ++ w, t, (List.append_assoc ..).symm, (hoffset t).symm,
      ⟨.chain p (calls ++ []), ?_⟩, fun after' ↦ ?_⟩
    · rw [hresume w (resumes_append_left _ _), clauses_of_blank hw]
    · rw [List.append_assoc, hresume _ ((resumes_cons found t after').append w),
        clauses_of_unexpected hw hblank hc]
      simp only [Stop.fault, hoffset]

theorem parseChain_of_expectedFilterName {s : List Char} {n : Nat}
    (h : parseChain s = .error (.expectedFilterName n)) :
    ∃ before w rest, s = before ++ '|' :: w ++ rest ∧ utf8Length (before ++ '|' :: w) = n ∧
      Blank w ∧ (∃ b, parseChain before = .ok b) ∧ ∀ c ∈ rest.head?, isWordChar c = false := by
  obtain ⟨p, calls, lead, rest, stop, rfl, hfaulty, hfault, hresume⟩ := exists_stop h nofun
  cases hfaulty with
  | unexpected => cases hfault
  | @clause w t _ hw hstop =>
    cases stop with
    | unexpected | unclosed => cases hfault
    | noName r =>
      cases hfault
      obtain ⟨rfl, hhead⟩ := of_clause_noName hstop
      obtain ⟨w', hw', ht⟩ := exists_blank_append_trimStart t
      have hparts : lead ++ (w ++ '|' :: t) = lead ++ w ++ '|' :: w' ++ trimStart t := by
        simp only [List.append_assoc, List.cons_append]
        rw [← ht]
      refine ⟨lead ++ w, w', trimStart t, hparts, ?_, hw', ⟨.chain p (calls ++ []), ?_⟩, hhead⟩
      · rw [hparts, utf8Length_append (lead ++ w ++ '|' :: w'), Nat.add_sub_cancel]
      · rw [hresume w (resumes_append_left _ _), clauses_of_blank hw]

theorem parseChain_closes {s : List Char} (h : parseChain s = .error .unclosedString) :
    ∃ more b, parseChain (s ++ more) = .ok b := by
  obtain ⟨p, calls, lead, rest, stop, rfl, hfaulty, hfault, hresume⟩ := exists_stop h nofun
  cases hfaulty with
  | unexpected => cases hfault
  | @clause w t _ hw hstop =>
    cases stop with
    | unexpected | noName => cases hfault
    | unclosed =>
      obtain ⟨more, call, hmore⟩ := clause_closes hstop
      refine ⟨more, .chain p (calls ++ [call]), ?_⟩
      rw [List.append_assoc, List.append_assoc, List.cons_append,
        hresume _ ((resumes_cons '|' t (t ++ more)).append w), clauses_cons hw hmore,
        clauses_of_blank blank_nil]
      rfl

theorem parse_filterChain_eq_error {expression : String} {e : ParseError} :
    parse .filterChain expression = .error e ↔
      parseChain expression.toList = .error e.fault ∧ e.expression = expression := by
  simp only [parse, Style.resolve]
  cases parseChain expression.toList with
  | ok b => exact iff_of_false (by rintro ⟨⟩) (by rintro ⟨⟨⟩, -⟩)
  | error fault =>
    constructor
    · intro h
      cases h
      exact ⟨rfl, rfl⟩
    · rintro ⟨hfault, rfl⟩
      cases hfault
      rfl

/-- An expression that is no filter chain is reported whole, and the cursor that finds the fault
never leaves the boundaries of characters. What stands before an unexpected character is a chain,
and with that character no text goes on to be one. A missing name is missed after a chain and a bar.
An open string can be closed. -/
theorem parse_filterChain_fault {expression : String} {e : ParseError}
    (h : parse .filterChain expression = .error e) :
    e.expression = expression ∧
    ((readChain expression.toList).run 0).run = some (.error e.fault) ∧
    (∀ found offset, e.fault = .unexpectedChar found offset →
      ∃ before, upTo? expression.toList offset = some before ∧
        (from? expression.toList offset).bind List.head? = some found ∧
        (∃ b, parse .filterChain (String.ofList before) = .ok b) ∧
        ∀ other : String, before ++ [found] <+: other.toList →
          parse .filterChain other = .error ⟨other, .unexpectedChar found offset⟩) ∧
    (∀ offset, e.fault = .expectedFilterName offset →
      ∃ before w, upTo? expression.toList offset = some (before ++ '|' :: w) ∧ Blank w ∧
        (∃ b, parse .filterChain (String.ofList before) = .ok b) ∧
        ∀ c ∈ (from? expression.toList offset).bind List.head?, isWordChar c = false) ∧
    (e.fault = .unclosedString → ∃ more b, parse .filterChain (expression ++ more) = .ok b) := by
  obtain ⟨hread, hwhole⟩ := parse_filterChain_eq_error.mp h
  refine ⟨hwhole, ?_, fun found offset hfault ↦ ?_, fun offset hfault ↦ ?_, fun hfault ↦ ?_⟩
  · rw [run_readChain, hread]
    rfl
  · rw [hfault] at hread
    obtain ⟨before, after, hs, rfl, ⟨b, hb⟩, hafter⟩ := parseChain_of_unexpectedChar hread
    rw [hs, upTo?_append, from?_append]
    refine ⟨before, rfl, rfl, ⟨b, ?_⟩, fun other hother ↦ ?_⟩
    · rwa [parse_filterChain_eq_ok, String.toList_ofList]
    · obtain ⟨after', hafter'⟩ := hother
      rw [parse_filterChain_eq_error, ← hafter', List.append_assoc]
      exact ⟨hafter after', rfl⟩
  · rw [hfault] at hread
    obtain ⟨before, w, rest, hs, rfl, hw, ⟨b, hb⟩, hhead⟩ := parseChain_of_expectedFilterName hread
    rw [hs, upTo?_append, from?_append]
    refine ⟨before, w, rfl, hw, ⟨b, ?_⟩, hhead⟩
    rwa [parse_filterChain_eq_ok, String.toList_ofList]
  · rw [hfault] at hread
    obtain ⟨more, b, hb⟩ := parseChain_closes hread
    refine ⟨String.ofList more, b, ?_⟩
    rwa [parse_filterChain_eq_ok, String.toList_append, String.toList_ofList]

theorem parse_filterChain_fault_price :
    (∀ other : String, "price\u3000| euro: '€'$".toList <+: other.toList →
      parse .filterChain other = .error ⟨other, .unexpectedChar '$' 21⟩) ∧
    (parse .filterChain "price\u3000| | round" =
        .error ⟨"price\u3000| | round", .expectedFilterName 10⟩ ∧
      ∃ before w, "price\u3000| ".toList = before ++ '|' :: w ∧ Blank w ∧
        ∃ b, parse .filterChain (String.ofList before) = .ok b) ∧
    ∃ more b, parse .filterChain ("price\u3000| euro: '€" ++ more) = .ok b := by
  have hunexpected : parse .filterChain "price\u3000| euro: '€'$" =
      .error ⟨"price\u3000| euro: '€'$", .unexpectedChar '$' 21⟩ := by
    with_unfolding_all rfl
  have hname : parse .filterChain "price\u3000| | round" =
      .error ⟨"price\u3000| | round", .expectedFilterName 10⟩ := by
    with_unfolding_all rfl
  have hopen : parse .filterChain "price\u3000| euro: '€" =
      .error ⟨"price\u3000| euro: '€", .unclosedString⟩ := by
    with_unfolding_all rfl
  refine ⟨?_, ⟨hname, ?_⟩, (parse_filterChain_fault hopen).2.2.2.2 rfl⟩
  · obtain ⟨before, hbefore, -, -, hafter⟩ :=
      (parse_filterChain_fault hunexpected).2.2.1 '$' 21 rfl
    cases hbefore
    exact hafter
  · obtain ⟨before, w, hbefore, hw, hread, -⟩ :=
      (parse_filterChain_fault hname).2.2.2.1 10 rfl
    exact ⟨before, w, Option.some.inj hbefore, hw, hread⟩

end DataBinding.Binding
