import DataBinding.Pattern.Program

namespace DataBinding.Pattern

def Instruction.targets : Instruction → List Nat
  | .char _ next | .look _ next | .save _ next => [next]
  | .split first second => [first, second]
  | .accept | .reject => []

/-- Only by noting its end does an instruction lead out of group `i`, and by noting its start it
leads into it. -/
def Instruction.Fits (i : Nat) (inside : Prop) (within : Nat → Prop) : Instruction → Prop
  | .char _ next | .look _ next => inside → within next
  | .save slot next =>
    (slot = 2 * i → within next) ∧ (inside → slot = 2 * i + 1 ∨ within next)
  | .split first second => (inside → within first) ∧ (inside → within second)
  | .accept => ¬ inside
  | .reject => True

theorem Instruction.Fits.congr {i : Nat} {inside : Prop} {within within' : Nat → Prop}
    {instruction : Instruction} (h : instruction.Fits i inside within)
    (hw : ∀ t ∈ instruction.targets, within t → within' t) :
    instruction.Fits i inside within' := by
  cases instruction with
  | char s next => exact fun hi ↦ hw next (by simp [targets]) (h hi)
  | look l next => exact fun hi ↦ hw next (by simp [targets]) (h hi)
  | save slot next =>
    have hnext := hw next (by simp [targets])
    exact ⟨fun hs ↦ hnext (h.1 hs), fun hi ↦ (h.2 hi).imp_right hnext⟩
  | split first second =>
    exact ⟨fun hi ↦ hw first (by simp [targets]) (h.1 hi),
      fun hi ↦ hw second (by simp [targets]) (h.2 hi)⟩
  | accept => exact h
  | reject => trivial

/-- The addresses of a program that are within group `i`. -/
structure Labelled (i : Nat) (p : Program) (within : Nat → Prop) : Prop where
  bounded : ∀ (a : Nat) (j : Instruction), p[a]? = some j → ∀ t ∈ j.targets, t < p.size
  fits : ∀ (a : Nat) (j : Instruction), p[a]? = some j → j.Fits i (within a) within

structure Ready (inside : Prop) (p : Program) (within : Nat → Prop) (a : Nat) : Prop where
  lt : a < p.size
  within : inside → within a

structure Extends (p : Program) (within : Nat → Prop) (p' : Program) (within' : Nat → Prop) :
    Prop where
  size_le : p.size ≤ p'.size
  iff : ∀ a < p.size, within' a ↔ within a

/-- What a part of a pattern is compiled to fits what it is put before. -/
def Grows (i : Nat) (inside : Prop) (p : Program) (within : Nat → Prop) (r : Program × Nat) :
    Prop :=
  ∃ within', Extends p within r.1 within' ∧ Labelled i r.1 within' ∧ Ready inside r.1 within' r.2

theorem of_getElem?_setIfInBounds {α : Type} {xs : Array α} {a k : Nat} {x y : α}
    (h : (xs.setIfInBounds k y)[a]? = some x) : a = k ∧ x = y ∨ a ≠ k ∧ xs[a]? = some x := by
  rw [Array.getElem?_setIfInBounds] at h
  split at h
  · rename_i hk
    split at h
    · cases h
      exact .inl ⟨hk.symm, rfl⟩
    · cases h
  · rename_i hk
    exact .inr ⟨Ne.symm hk, h⟩

section

variable {i : Nat} {inside : Prop} {p p' p'' : Program} {within within' within'' : Nat → Prop}

theorem Extends.refl (p : Program) (within : Nat → Prop) : Extends p within p within :=
  ⟨Nat.le_refl _, fun _ _ ↦ Iff.rfl⟩

theorem Extends.trans (h : Extends p within p' within') (h' : Extends p' within' p'' within'') :
    Extends p within p'' within'' :=
  ⟨Nat.le_trans h.size_le h'.size_le,
    fun a ha ↦ (h'.iff a (Nat.lt_of_lt_of_le ha h.size_le)).trans (h.iff a ha)⟩

theorem Ready.extend {a : Nat} (h : Ready inside p within a) (he : Extends p within p' within') :
    Ready inside p' within' a :=
  ⟨Nat.lt_of_lt_of_le h.lt he.size_le, fun hi ↦ (he.iff a h.lt).mpr (h.within hi)⟩

theorem Grows.of_extends {r : Program × Nat} (he : Extends p within p' within')
    (h : Grows i inside p' within' r) : Grows i inside p within r := by
  obtain ⟨w, he', hl, hr⟩ := h
  exact ⟨w, he.trans he', hl, hr⟩

theorem grows_self {next : Nat} (hl : Labelled i p within) (hr : Ready inside p within next) :
    Grows i inside p within (p, next) :=
  ⟨within, .refl p within, hl, hr⟩

namespace Program

theorem of_getElem?_push {a : Nat} {j k : Instruction} (h : (p.push k)[a]? = some j) :
    a = p.size ∧ j = k ∨ a < p.size ∧ p[a]? = some j := by
  rw [Array.getElem?_push] at h
  split at h
  · rename_i ha
    cases h
    exact .inl ⟨ha, rfl⟩
  · exact .inr ⟨(Array.getElem?_eq_some_iff.mp h).1, h⟩

theorem exists_emit {instruction : Instruction} (hl : Labelled i p within)
    (hb : ∀ t ∈ instruction.targets, t < p.size) (hf : instruction.Fits i inside within) :
    ∃ w, Extends p within (emit p instruction).1 w ∧ Labelled i (emit p instruction).1 w ∧
      p.size < (emit p instruction).1.size ∧ (w p.size ↔ inside) := by
  let w (a : Nat) : Prop := if a = p.size then inside else within a
  have hold : ∀ a < p.size, w a ↔ within a :=
    fun a ha ↦ by simp only [w, if_neg (Nat.ne_of_lt ha)]
  have hnew : w p.size ↔ inside := by simp only [w, if_true]
  have hsize : (emit p instruction).1.size = p.size + 1 := Array.size_push _
  rw [hsize]
  refine ⟨w, ⟨by rw [hsize]; exact Nat.le_succ _, hold⟩, ⟨?_, ?_⟩, Nat.lt_succ_self _, hnew⟩
  · intro a j hj t ht
    rw [hsize]
    rcases of_getElem?_push hj with ⟨-, rfl⟩ | ⟨-, hj⟩
    · exact Nat.lt_succ_of_lt (hb t ht)
    · exact Nat.lt_succ_of_lt (hl.bounded a j hj t ht)
  · intro a j hj
    rcases of_getElem?_push hj with ⟨rfl, rfl⟩ | ⟨ha, hj⟩
    · rw [hnew]
      exact hf.congr fun t ht ↦ (hold t (hb t ht)).mpr
    · rw [hold a ha]
      exact (hl.fits a j hj).congr fun t ht ↦ (hold t (hl.bounded a j hj t ht)).mpr

theorem grows_emit {instruction : Instruction} (hl : Labelled i p within)
    (hb : ∀ t ∈ instruction.targets, t < p.size) (hf : instruction.Fits i inside within) :
    Grows i inside p within (emit p instruction) := by
  obtain ⟨w, he, hl, hlt, hw⟩ := exists_emit hl hb hf
  exact ⟨w, he, hl, hlt, hw.mpr⟩

theorem fits_choice {greedy : Bool} {take leave : Nat} (ht : inside → within take)
    (hv : inside → within leave) : (choice greedy take leave).Fits i inside within := by
  cases greedy
  · exact ⟨hv, ht⟩
  · exact ⟨ht, hv⟩

theorem mem_targets_choice {greedy : Bool} {take leave t : Nat}
    (h : t ∈ (choice greedy take leave).targets) : t = take ∨ t = leave := by
  cases greedy
  · simpa [choice, Instruction.targets, or_comm] using h
  · simpa [choice, Instruction.targets] using h

theorem grows_emit_choice {greedy : Bool} {take leave : Nat} (hl : Labelled i p within)
    (ht : Ready inside p within take) (hv : Ready inside p within leave) :
    Grows i inside p within (emit p (choice greedy take leave)) := by
  refine grows_emit hl (fun t hmem ↦ ?_) (fits_choice ht.within hv.within)
  rcases mem_targets_choice hmem with rfl | rfl
  · exact ht.lt
  · exact hv.lt

theorem labelled_setIfInBounds {again : Nat} {instruction : Instruction}
    (hl : Labelled i p within) (hb : ∀ t ∈ instruction.targets, t < p.size)
    (hf : instruction.Fits i (within again) within) :
    Labelled i (p.setIfInBounds again instruction) within := by
  constructor
  · intro a j hj
    rw [Array.size_setIfInBounds]
    rcases of_getElem?_setIfInBounds hj with ⟨-, rfl⟩ | ⟨-, hj⟩
    · exact hb
    · exact hl.bounded a j hj
  · intro a j hj
    rcases of_getElem?_setIfInBounds hj with ⟨rfl, rfl⟩ | ⟨-, hj⟩
    · exact hf
    · exact hl.fits a j hj

theorem grows_compileText (cs : List Char) {next : Nat} (hl : Labelled i p within)
    (hr : Ready inside p within next) : Grows i inside p within (compileText cs next p) := by
  induction cs with
  | nil => exact grows_self hl hr
  | cons c cs ih =>
    obtain ⟨w, he, hl, hr⟩ := ih
    exact .of_extends he (grows_emit hl (List.forall_mem_singleton.mpr hr.lt) hr.within)

theorem grows_repeated {compile : Nat → Program → Program × Nat} {keep : Nat}
    (hc : ∀ {next p within}, Labelled i p within → Ready inside p within next →
      Ready inside p within keep → Grows i inside p within (compile next p))
    (n : Nat) {next : Nat} (hl : Labelled i p within) (hr : Ready inside p within next)
    (hk : Ready inside p within keep) :
    Grows i inside p within (repeated compile n next p) := by
  induction n generalizing next p within with
  | zero => exact grows_self hl hr
  | succ n ih =>
    obtain ⟨w, he, hl, hr⟩ := hc hl hr hk
    exact .of_extends he (ih hl hr (hk.extend he))

theorem grows_again {compile : Nat → Program → Program × Nat} (greedy : Bool)
    (hc : ∀ {next p within}, Labelled i p within → Ready inside p within next →
      Grows i inside p within (compile next p))
    {next : Nat} (hl : Labelled i p within) (hr : Ready inside p within next) :
    let r := compile p.size (emit p .reject).1
    let p' := r.1.setIfInBounds p.size (choice greedy r.2 next)
    ∃ within', Extends p within p' within' ∧ Labelled i p' within' ∧
      Ready inside p' within' p.size ∧ Ready inside p' within' r.2 := by
  intro r p'
  have hbounded : ∀ t ∈ Instruction.reject.targets, t < p.size := nofun
  have hfits : Instruction.reject.Fits i inside within := trivial
  obtain ⟨w, he, hl, hlt, hw⟩ := exists_emit hl hbounded hfits
  obtain ⟨w', he', hl, hinner⟩ := hc hl ⟨hlt, hw.mpr⟩
  have hagain : Ready inside r.1 w' p.size := .extend ⟨hlt, hw.mpr⟩ he'
  have hnext : Ready inside r.1 w' next := hr.extend (he.trans he')
  have hinside : w' p.size → inside := fun h ↦ hw.mp ((he'.iff _ hlt).mp h)
  have hsize : p'.size = r.1.size := Array.size_setIfInBounds
  refine ⟨w', ⟨?_, (he.trans he').iff⟩, ?_, ⟨?_, hagain.within⟩, ⟨?_, hinner.within⟩⟩
  · exact hsize ▸ (he.trans he').size_le
  · refine labelled_setIfInBounds hl (fun t ht ↦ ?_) ?_
    · rcases mem_targets_choice ht with rfl | rfl
      · exact hinner.lt
      · exact hnext.lt
    · exact fits_choice (hinner.within ∘ hinside) (hnext.within ∘ hinside)
  · exact hsize ▸ hagain.lt
  · exact hsize ▸ hinner.lt

mutual

-- the group may be the one that is captured, so what is inside changes on the way down
theorem grows_compile {i : Nat} {inside : Prop} {p : Program} {within : Nat → Prop} (r : Form)
    {next : Nat} (hl : Labelled i p within) (hr : Ready inside p within next) :
    Grows i inside p within (compile r next p) := by
  match r with
  | .empty => rw [compile]; exact grows_self hl hr
  | .text cs => rw [compile]; exact grows_compileText cs hl hr
  | .set s =>
    rw [compile]
    exact grows_emit hl (List.forall_mem_singleton.mpr hr.lt) hr.within
  | .look l =>
    rw [compile]
    exact grows_emit hl (List.forall_mem_singleton.mpr hr.lt) hr.within
  | .capture k _ r =>
    rw [compile]
    -- the end of the group and all that stands before it is within the group
    have hstop : Grows i (k = i ∨ inside) p within (emit p (.save (2 * k + 1) next)) := by
      refine grows_emit hl (List.forall_mem_singleton.mpr hr.lt) ⟨fun h ↦ ?_, fun h ↦ ?_⟩
      · omega
      · rcases h with rfl | h
        · exact .inl rfl
        · exact .inr (hr.within h)
    obtain ⟨w, he, hl, hstop⟩ := hstop
    obtain ⟨w', he', hl, hinner⟩ := grows_compile r hl hstop
    refine .of_extends (he.trans he')
      (grows_emit hl (List.forall_mem_singleton.mpr hinner.lt) ⟨fun h ↦ ?_, fun h ↦ ?_⟩)
    · exact hinner.within (.inl (by omega))
    · exact .inr (hinner.within (.inr h))
  | .concat rs => rw [compile]; exact grows_compileAll rs hl hr
  | .alternate rs => rw [compile]; exact grows_compileBranches rs hl hr
  | .loop 0 none greedy r =>
    rw [compile]
    obtain ⟨w, he, hl, hagain, hinner⟩ := grows_again greedy (grows_compile r) hl hr
    refine .of_extends he ?_
    show Grows i inside _ w (if r.consumes then (_, p.size) else emit _ (choice greedy _ next))
    split
    · exact grows_self hl hagain
    · exact grows_emit_choice hl hinner (hr.extend he)
  | .loop (least + 1) none greedy r =>
    rw [compile]
    obtain ⟨w, he, hl, -, hinner⟩ := grows_again greedy (grows_compile r) hl hr
    exact .of_extends he
      (grows_repeated (fun hl hr _ ↦ grows_compile r hl hr) least hl hinner hinner)
  | .loop least (some most) greedy r =>
    rw [compile]
    let optional (start : Nat) (p : Program) :=
      emit (compile r start p).1 (choice greedy (compile r start p).2 next)
    have hoptional {start : Nat} {p : Program} {within : Nat → Prop} (hl : Labelled i p within)
        (hr : Ready inside p within start) (hk : Ready inside p within next) :
        Grows i inside p within (optional start p) := by
      obtain ⟨w, he, hl, hinner⟩ := grows_compile r hl hr
      exact .of_extends he (grows_emit_choice hl hinner (hk.extend he))
    obtain ⟨w, he, hl, hr⟩ := grows_repeated hoptional (most - least) hl hr hr
    exact .of_extends he (grows_repeated (fun hl hr _ ↦ grows_compile r hl hr) least hl hr hr)
termination_by sizeOf r

theorem grows_compileAll {i : Nat} {inside : Prop} {p : Program} {within : Nat → Prop}
    (rs : List Form) {next : Nat} (hl : Labelled i p within) (hr : Ready inside p within next) :
    Grows i inside p within (compileAll rs next p) := by
  match rs with
  | [] => rw [compileAll]; exact grows_self hl hr
  | r :: rs =>
    rw [compileAll]
    obtain ⟨w, he, hl, hr⟩ := grows_compileAll rs hl hr
    exact .of_extends he (grows_compile r hl hr)
termination_by sizeOf rs

theorem grows_compileBranches {i : Nat} {inside : Prop} {p : Program} {within : Nat → Prop}
    (rs : List Form) {next : Nat} (hl : Labelled i p within) (hr : Ready inside p within next) :
    Grows i inside p within (compileBranches rs next p) := by
  match rs with
  | [] =>
    rw [compileBranches]
    exact grows_emit hl nofun trivial
  | [r] => rw [compileBranches]; exact grows_compile r hl hr
  | r :: r' :: rs =>
    rw [compileBranches]
    · obtain ⟨w, he, hl, hfirst⟩ := grows_compile r hl hr
      obtain ⟨w', he', hl, hsecond⟩ := grows_compileBranches (r' :: rs) hl (hr.extend he)
      have hfirst := hfirst.extend he'
      refine .of_extends (he.trans he') (grows_emit hl ?_ ⟨hfirst.within, hsecond.within⟩)
      exact List.forall_mem_cons.mpr ⟨hfirst.lt, List.forall_mem_singleton.mpr hsecond.lt⟩
    · nofun
termination_by sizeOf rs

end

theorem exists_labelled (i : Nat) (r : Form) : ∃ within, Labelled i (ofForm r).1 within := by
  let outside (_ : Nat) : Prop := False
  have haccept : ∀ (a : Nat) (j : Instruction),
      #[Instruction.accept][a]? = some j → j = .accept := by
    intro a j hj
    obtain ⟨ha, rfl⟩ := Array.getElem?_eq_some_iff.mp hj
    cases Nat.lt_one_iff.mp ha
    rfl
  have hstart : Labelled i #[.accept] outside := by
    constructor
    · intro a j hj
      rw [haccept a j hj]
      exact nofun
    · intro a j hj
      rw [haccept a j hj]
      exact not_false
  obtain ⟨w, -, hl, -⟩ := grows_compile r hstart ⟨Nat.one_pos, False.elim⟩
  exact ⟨w, hl⟩

end Program

end

theorem exists_ofForm {text : String} {pattern : Pattern} (h : compile text = .ok pattern) :
    ∃ r, pattern.program = (Program.ofForm r).1 := by
  unfold compile at h
  cases hp : parse text.toList with
  | error e => rw [hp] at h; cases h
  | ok r =>
    rw [hp] at h
    change (if r.form.isTooLarge then _ else _) = _ at h
    split at h
    · cases h
    · cases h
      exact ⟨r.form, rfl⟩

theorem exists_labelled_of_compile {text : String} {pattern : Pattern}
    (h : compile text = .ok pattern) (i : Nat) : ∃ within, Labelled i pattern.program within := by
  obtain ⟨r, hr⟩ := exists_ofForm h
  rw [hr]
  exact Program.exists_labelled i r

end DataBinding.Pattern
