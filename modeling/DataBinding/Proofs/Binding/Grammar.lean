import DataBinding.Binding.Parser
import DataBinding.Proofs.Path.Related
import DataBinding.Proofs.Text.Blank

namespace DataBinding.Binding

open Text

namespace Grammar

inductive Dotted : List Char → List String → Prop
  | word {s : List Char} : IsWord s → Dotted s [String.ofList s]
  | dot {s t : List Char} {segments : List String} :
      IsWord s → Dotted t segments → Dotted (s ++ '.' :: t) (String.ofList s :: segments)

/-- A property may end with a dot. -/
inductive Property : List Char → List String → Prop
  | plain {s : List Char} {segments : List String} : Dotted s segments → Property s segments
  | dot {s : List Char} {segments : List String} :
      Dotted s segments → Property (s ++ ['.']) segments

/-- What stands between two quotes, and the text that it means. -/
inductive Inside (quote : Char) : List Char → List Char → Prop
  | nil : Inside quote [] []
  | plain {c : Char} {s t : List Char} :
      c ≠ '\\' → c ≠ quote → Inside quote s t → Inside quote (c :: s) (c :: t)
  | escaped {c : Char} {s t : List Char} : Inside quote s t → Inside quote ('\\' :: c :: s) (c :: t)

inductive Argument : List Char → String → Prop
  | quoted {quote : Char} {s t : List Char} :
      isQuote quote → Inside quote s t → Argument (quote :: (s ++ [quote])) (String.ofList t)

inductive Arguments : List Char → List String → Prop
  | nil : Arguments [] []
  | cons {w a w' comma s : List Char} {arg : String} {args : List String} :
      Blank w → Argument a arg → Blank w' → comma = [] ∨ comma = [','] → Arguments s args →
      Arguments (w ++ (a ++ (w' ++ (comma ++ s)))) (arg :: args)

/-- A colon announces arguments, though none need follow. -/
inductive Given : List Char → List String → Prop
  | none : Given [] []
  | some {s : List Char} {args : List String} : Arguments s args → Given (':' :: s) args

inductive Called : List Char → Clause → Prop
  | mk {w name w' s : List Char} {args : List String} :
      Blank w → IsWord name → Blank w' → Given s args →
      Called (w ++ (name ++ (w' ++ s))) ⟨String.ofList name, args⟩

inductive Clauses : List Char → List Clause → Prop
  | nil : Clauses [] []
  | cons {w s t : List Char} {call : Clause} {calls : List Clause} :
      Blank w → Called s call → Clauses t calls → Clauses (w ++ '|' :: (s ++ t)) (call :: calls)

def Ends (s : List Char) : Prop := ∀ c ∈ s.head?, c = '|' ∨ isBlank c

/-- A property, then clauses, with white space around them. -/
inductive Chain : List Char → List String → List Clause → Prop
  | mk {w p s w' : List Char} {segments : List String} {calls : List Clause} :
      Blank w → Property p segments → Ends (s ++ w') → Clauses s calls → Blank w' →
      Chain (w ++ (p ++ (s ++ w'))) segments calls

end Grammar

open Grammar

theorem quoted_cons {quote c : Char} (hc : c ≠ '\\') (s : List Char) :
    quoted quote (c :: s) =
      if c = quote then some ([], s) else (quoted quote s).map fun r ↦ (c :: r.1, r.2) := by
  rw [quoted]
  · rintro rfl
    exact absurd rfl hc
  · rintro _ _ rfl
    exact absurd rfl hc

theorem inside_of_quoted {quote : Char} {s t r : List Char} (h : quoted quote s = some (t, r)) :
    ∃ b, s = b ++ quote :: r ∧ Inside quote b t := by
  fun_induction quoted quote s generalizing t r with
  | case1 => cases h
  | case2 => cases h
  | case3 c s ih =>
    obtain ⟨x, hx, he⟩ := Option.map_eq_some_iff.mp h
    obtain ⟨b, hb, hi⟩ := ih (show _ = some (x.1, x.2) from hx)
    cases he
    exact ⟨'\\' :: c :: b, by rw [hb]; rfl, hi.escaped⟩
  | case4 s =>
    cases h
    exact ⟨[], rfl, .nil⟩
  | case5 c s hend hmore hne ih =>
    obtain ⟨x, hx, he⟩ := Option.map_eq_some_iff.mp h
    obtain ⟨b, hb, hi⟩ := ih (show _ = some (x.1, x.2) from hx)
    cases he
    have hc : c ≠ '\\' := by
      intro hc
      rcases s with _ | ⟨d, s⟩
      · exact hend hc rfl
      · exact hmore d s hc rfl
    exact ⟨c :: b, by rw [hb]; rfl, .plain hc hne hi⟩

theorem quoted_of_inside {quote : Char} (hquote : quote ≠ '\\') {b t : List Char}
    (h : Inside quote b t) (r : List Char) : quoted quote (b ++ quote :: r) = some (t, r) := by
  induction h with
  | nil => rw [List.nil_append, quoted_cons hquote, if_pos rfl]
  | plain hc hne h ih => rw [List.cons_append, quoted_cons hc, if_neg hne, ih]; rfl
  | escaped h ih => rw [List.cons_append, List.cons_append, quoted, ih]; rfl

theorem isQuote_iff {c : Char} : isQuote c ↔ c = '\x22' ∨ c = '\x27' := by
  simp [isQuote]

theorem exists_comma (s : List Char) :
    ∃ comma, (comma = [] ∨ comma = [',']) ∧ s = comma ++ dropComma s := by
  unfold dropComma
  split
  · exact ⟨[','], .inr rfl, rfl⟩
  · exact ⟨[], .inl rfl, rfl⟩

theorem dropComma_of_head {s : List Char} (h : s.head? ≠ some ',') : dropComma s = s := by
  unfold dropComma
  split
  · exact absurd rfl h
  · rfl

theorem arguments_eq (s : List Char) :
    arguments s =
      match trimStart s with
      | [] => some ([], [])
      | q :: t =>
        if isQuote q then
          match quoted q t with
          | none => none
          | some (arg, r) =>
            (arguments (dropComma (trimStart r))).map fun x ↦ (String.ofList arg :: x.1, x.2)
        else some ([], q :: t) := by
  rw [arguments]
  split
  · rename_i h
    rw [h]
  · rename_i q t h
    rw [h]
    by_cases hq : isQuote q
    · rw [if_pos hq]
      simp only [hq, if_true]
      split <;> rename_i hr <;> rw [hr]
    · simp only [hq]
      rfl

theorem arguments_trimStart (s : List Char) : arguments (trimStart s) = arguments s := by
  rw [arguments_eq, trimStart_trimStart, ← arguments_eq]

theorem arguments_of_arguments {s r : List Char} {args : List String}
    (h : arguments s = some (args, r)) : ∃ a w, s = a ++ (w ++ r) ∧ Arguments a args ∧ Blank w := by
  fun_induction arguments s generalizing args r with
  | case1 s hs =>
    obtain ⟨w, hw, he⟩ := exists_blank_append_trimStart s
    cases h
    exact ⟨[], w, by rw [hs] at he; exact he, .nil, hw⟩
  | case2 => cases h
  | case3 s q t hs hq arg u hu ih =>
    obtain ⟨x, hx, he⟩ := Option.map_eq_some_iff.mp h
    obtain ⟨a, w, ha, hargs, hw⟩ := ih (show _ = some (x.1, x.2) from hx)
    obtain ⟨b, rfl, hi⟩ := inside_of_quoted hu
    obtain ⟨v, hv, hsv⟩ := exists_blank_append_trimStart s
    obtain ⟨v', hv', huv⟩ := exists_blank_append_trimStart u
    obtain ⟨comma, hcomma, hd⟩ := exists_comma (trimStart u)
    cases he
    refine ⟨v ++ ((q :: (b ++ [q])) ++ (v' ++ (comma ++ a))), w, ?_,
      .cons hv (.quoted hq hi) hv' hcomma hargs, hw⟩
    rw [hsv, hs, huv, hd, ha]
    simp only [List.append_assoc, List.cons_append, List.nil_append]
  | case4 s q t hs hq =>
    obtain ⟨w, hw, he⟩ := exists_blank_append_trimStart s
    cases h
    exact ⟨[], w, by rw [hs] at he; exact he, .nil, hw⟩

def Stops (s : List Char) : Prop := ∀ c ∈ (trimStart s).head?, c = '|'

theorem arguments_of_stops {s : List Char} (h : Stops s) :
    arguments s = some ([], trimStart s) := by
  rw [arguments_eq]
  unfold Stops at h
  cases hs : trimStart s with
  | nil => rfl
  | cons c t =>
    rw [hs] at h
    cases h c rfl
    rfl

theorem trimStart_argument {a : List Char} {arg : String} (h : Argument a arg) (s : List Char) :
    trimStart (a ++ s) = a ++ s := by
  cases h with
  | quoted hq hi =>
    refine trimStart_cons ?_ _
    rcases isQuote_iff.mp hq with rfl | rfl <;> rfl

theorem head_trimStart_arguments {a r : List Char} {args : List String} (h : Arguments a args)
    (hr : Stops r) : (trimStart (a ++ r)).head? ≠ some ',' := by
  intro hcomma
  cases h with
  | nil => exact absurd (hr ',' hcomma) (by decide)
  | cons hw ha =>
    rw [List.append_assoc, trimStart_blank hw, List.append_assoc, trimStart_argument ha] at hcomma
    cases ha with
    | quoted hq =>
      cases hcomma
      exact absurd hq (by decide)

theorem arguments_append {a r : List Char} {args : List String} (h : Arguments a args)
    (hr : Stops r) : arguments (a ++ r) = some (args, trimStart r) := by
  induction h with
  | nil => exact arguments_of_stops hr
  | @cons w a w' comma s arg args hw ha hw' hcomma hs ih =>
    have hrest : arguments (dropComma (trimStart (w' ++ (comma ++ (s ++ r))))) =
        some (args, trimStart r) := by
      rw [trimStart_blank hw']
      rcases hcomma with rfl | rfl
      · rw [List.nil_append, dropComma_of_head (head_trimStart_arguments hs hr),
          arguments_trimStart, ih]
      · exact ih
    have htrim : trimStart (w ++ (a ++ (w' ++ (comma ++ s))) ++ r) =
        a ++ (w' ++ (comma ++ (s ++ r))) := by
      simp only [List.append_assoc]
      rw [trimStart_blank hw, trimStart_argument ha]
    cases ha with
    | @quoted q b t hq hi =>
      have hne : q ≠ '\\' := by
        rintro rfl
        exact absurd hq (by decide)
      rw [arguments_eq, htrim]
      simp only [List.cons_append, List.append_assoc, List.nil_append, hq, if_true,
        quoted_of_inside hne hi, hrest, Option.map_some]

theorem isWordChar_head_of_stops {r : List Char} (h : Stops r) :
    ∀ c ∈ r.head?, isWordChar c = false := by
  intro c hc
  rw [Bool.eq_false_iff]
  intro hword
  obtain ⟨t, rfl⟩ := List.head?_eq_some_iff.mp hc
  have hbar := h c (by rw [trimStart_cons (isBlank_of_isWordChar hword)]; rfl)
  rw [hbar] at hword
  exact absurd hword (by decide)

theorem isWordChar_head_blank_append {w s : List Char} (hw : Blank w)
    (hs : ∀ c ∈ s.head?, isWordChar c = false) : ∀ c ∈ (w ++ s).head?, isWordChar c = false := by
  intro c hc
  cases w with
  | nil => exact hs c hc
  | cons d w =>
    cases hc
    rw [Bool.eq_false_iff]
    intro hword
    have hblank := hw c List.mem_cons_self
    rw [isBlank_of_isWordChar hword] at hblank
    cases hblank

theorem called_of_clause {s r : List Char} {call : Clause} (h : clause s = .ok (call, r)) :
    ∃ b w, s = b ++ (w ++ r) ∧ Called b call ∧ Blank w := by
  obtain ⟨v, hv, hs⟩ := exists_blank_append_trimStart s
  have hsplit : s = v ++ ((trimStart s).takeWhile isWordChar ++
      (trimStart s).dropWhile isWordChar) := by
    rw [List.takeWhile_append_dropWhile]
    exact hs
  have hname : ∀ c ∈ (trimStart s).takeWhile isWordChar, isWordChar c :=
    List.all_eq_true.mp List.all_takeWhile
  simp only [clause] at h
  generalize (trimStart s).takeWhile isWordChar = name at h hsplit hname
  generalize (trimStart s).dropWhile isWordChar = rest at h hsplit
  obtain ⟨v', hv', hrest⟩ := exists_blank_append_trimStart rest
  split at h
  · cases h
  · rename_i hne
    have hword : IsWord name := ⟨by simpa using hne, hname⟩
    split at h
    · rename_i t hcolon
      split at h
      · cases h
      · rename_i args u hu
        obtain ⟨a, w, ha, hargs, hw⟩ := arguments_of_arguments hu
        cases h
        refine ⟨v ++ (name ++ (v' ++ ':' :: a)), w, ?_, .mk hv hword hv' (.some hargs), hw⟩
        rw [hcolon, ha] at hrest
        rw [hsplit, hrest]
        simp only [List.append_assoc, List.cons_append]
    · cases h
      refine ⟨v ++ (name ++ ([] ++ [])), v', ?_, .mk hv hword blank_nil .none, hv'⟩
      rw [hsplit, ← hrest]
      simp only [List.append_assoc, List.nil_append]

theorem clause_append {b r : List Char} {call : Clause} (h : Called b call) (hr : Stops r) :
    clause (b ++ r) = .ok (call, trimStart r) := by
  cases h with
  | @mk w name w' s args hw hname hw' hs =>
    have htrim : trimStart (w ++ (name ++ (w' ++ s)) ++ r) = name ++ (w' ++ (s ++ r)) := by
      simp only [List.append_assoc]
      rw [trimStart_blank hw, hname.trimStart]
    have hhead : ∀ c ∈ (w' ++ (s ++ r)).head?, isWordChar c = false := by
      refine isWordChar_head_blank_append hw' ?_
      cases hs with
      | none => exact isWordChar_head_of_stops hr
      | some hargs =>
        intro c hc
        cases hc
        rfl
    have hempty : name.isEmpty = false := by simpa using hname.1
    simp only [clause, htrim, takeWhile_run hname.2 hhead, dropWhile_run hname.2 hhead,
      trimStart_blank hw', hempty, Bool.false_eq_true, if_false]
    cases hs with
    | none =>
      rw [List.nil_append]
      split
      · rename_i t ht
        exact absurd (hr ':' (by rw [ht]; rfl)) (by decide)
      · rfl
    | @some a args hargs =>
      rw [List.cons_append, trimStart_cons (by rfl)]
      simp only [arguments_append hargs hr]

theorem clauses_eq (s : List Char) :
    clauses s =
      match trimStart s with
      | [] => .ok []
      | c :: t =>
        if c = '|' then
          match clause t with
          | .error e => .error e
          | .ok (call, r) =>
            match clauses r with
            | .error e => .error e
            | .ok calls => .ok (call :: calls)
        else .error (.unexpected c (c :: t)) := by
  rw [clauses]
  split
  · rename_i h
    rw [h]
  · rename_i c t h
    rw [h]
    by_cases hc : c = '|'
    · simp only [hc, if_true]
      split
      · rename_i hr
        rw [hr]
      · rename_i call r hr
        cases hcalls : clauses r <;> simp only [hr, hcalls]
    · simp only [hc, if_false]

theorem clauses_trimStart (s : List Char) : clauses (trimStart s) = clauses s := by
  rw [clauses_eq, trimStart_trimStart, ← clauses_eq]

theorem exists_clauses_of_blank_append {w t w' : List Char} {calls : List Clause} (hw : Blank w)
    (h : Clauses t calls) (hw' : Blank w') :
    ∃ t' u, w ++ (t ++ w') = t' ++ u ∧ Clauses t' calls ∧ Blank u := by
  cases h with
  | nil => exact ⟨[], w ++ w', rfl, .nil, hw.append hw'⟩
  | @cons v s t call calls hv hs ht =>
    refine ⟨(w ++ v) ++ '|' :: (s ++ t), w', ?_, .cons (hw.append hv) hs ht, hw'⟩
    simp only [List.append_assoc]

theorem clauses_of_clauses {s : List Char} {calls : List Clause} (h : clauses s = .ok calls) :
    ∃ t w, s = t ++ w ∧ Clauses t calls ∧ Blank w := by
  fun_induction clauses s generalizing calls with
  | case1 s hs =>
    obtain ⟨w, hw, he⟩ := exists_blank_append_trimStart s
    cases h
    rw [hs, List.append_nil] at he
    exact ⟨[], w, he, .nil, hw⟩
  | case2 => cases h
  | case3 => cases h
  | case4 s t call r hr calls' hcalls hs ih =>
    obtain ⟨v, hv, he⟩ := exists_blank_append_trimStart s
    obtain ⟨b, w, rfl, hb, hw⟩ := called_of_clause hr
    obtain ⟨t, w', rfl, ht, hw'⟩ := ih hcalls
    obtain ⟨t', u, heq, ht', hu⟩ := exists_clauses_of_blank_append hw ht hw'
    cases h
    refine ⟨v ++ '|' :: (b ++ t'), u, ?_, .cons hv hb ht', hu⟩
    rw [he, hs, heq]
    simp only [List.append_assoc, List.cons_append]
  | case5 => cases h

theorem stops_append {t w : List Char} {calls : List Clause} (h : Clauses t calls) (hw : Blank w) :
    Stops (t ++ w) := by
  unfold Stops
  cases h with
  | nil => simp [trimStart_of_blank hw]
  | cons hv =>
    rw [List.append_assoc, trimStart_blank hv, List.cons_append, trimStart_cons (by rfl)]
    rintro c ⟨⟩
    rfl

theorem clauses_append {t w : List Char} {calls : List Clause} (h : Clauses t calls)
    (hw : Blank w) : clauses (t ++ w) = .ok calls := by
  induction h with
  | nil => rw [clauses_eq, List.nil_append, trimStart_of_blank hw]
  | @cons v s t call calls hv hs ht ih =>
    have htrim : trimStart (v ++ '|' :: (s ++ t) ++ w) = '|' :: (s ++ (t ++ w)) := by
      rw [List.append_assoc, trimStart_blank hv, List.cons_append, List.append_assoc,
        trimStart_cons (by rfl)]
    rw [clauses_eq, htrim]
    simp only [if_true, clause_append hs (stops_append ht hw), clauses_trimStart, ih]

end DataBinding.Binding
