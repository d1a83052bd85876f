import DataBinding.Proofs.Engine.Machine

namespace DataBinding.Engine.Machine

open StateTransition

variable {D : Type}

/-- Exactly `n` more writes may be nested. -/
def Allows (n : Nat) (s : Engine D) : Prop := s.options.maxDispatchDepth - s.depth = n

variable [Document D]

/-- On any stack, the machine comes to answer what an action gives. -/
def Answers (x : EngineM D Unit) (control : Control D) (s : Engine D) : Prop :=
  ∀ stack, Reaches step ⟨control, stack, s⟩ ⟨.answer (outcome x s), stack, after x s⟩

variable {x : EngineM D Unit} {control : Control D} {s : Engine D} {n : Nat}

theorem Answers.balanced (h : Answers x control s) :
    (after x s).options = s.options ∧ (after x s).depth = s.depth := by
  have hb := (Balanced.start control s).reaches (h [])
  exact ⟨hb.options, hb.depth⟩

theorem Answers.allows (h : Answers x control s) (hs : Allows n s) : Allows n (after x s) := by
  rw [Allows, h.balanced.1, h.balanced.2]
  exact hs

theorem Answers.resume {y : EngineM D Unit} (h : Answers x control s)
    {next : Except Error Unit → Callback D}
    (hy : Answers y (.run (next (outcome x s))) (after x s)) (stack : List (Frame D)) :
    Reaches step ⟨control, .resume next :: stack, s⟩
      ⟨.answer (outcome y (after x s)), stack, after y (after x s)⟩ :=
  (h (.resume next :: stack)).trans (.head rfl (hy stack))

theorem answers_perform
    (hw : ∀ p v (s : Engine D), Allows n s → Answers (assign n p v) (.write p v) s)
    (c : Callback D) (hs : Allows n s) : Answers (perform (assign n) c) (.run c) s := by
  intro stack
  -- on the program alone: a callback is registered here, and is only run by a write
  induction c generalizing s stack with
  | done | fail _ => exact .single rfl
  | note entry next ih => exact .head rfl (ih (s := s.record (.noted entry)) hs stack)
  | inspect next ih => exact .head rfl (ih s.view hs stack)
  | set p v next ih =>
    have hp := hw p v s hs
    rw [after_congr (run_perform_set (assign n) p v next s),
      outcome_congr (run_perform_set (assign n) p v next s)]
    exact .head rfl (hp.resume (ih _ (hp.allows hs)) stack)
  | observe p c next _ ih =>
    exact .head rfl (ih (s := { s with observers := s.observers.observe p c }) hs stack)
  | compute target value sources next ih =>
    rw [after_congr (run_perform_compute (assign n) target value sources next s),
      outcome_congr (run_perform_compute (assign n) target value sources next s)]
    by_cases hne : sources = []
    · subst hne
      exact .head rfl (ih _ hs stack)
    · cases hc : s.computed.cycleVia target sources with
      | some source =>
        have hrun := run_declare_cyclic (assign n) value hne hc
        rw [after_of_error hrun, outcome_of_error hrun]
        exact .head (congrArg some (act_compute_cyclic hne hc)) (ih _ hs stack)
      | none =>
        have hd : Declares target sources s := ⟨hne, hc⟩
        have hrun := run_declare (assign n) value hd
        have hp := hw target (value (declared target value sources s).view)
          (declared target value sources s) hs
        rw [after_congr hrun, outcome_congr hrun]
        exact .head (congrArg some (act_compute hd)) (hp.resume (ih _ (hp.allows hs)) stack)
  | scan next ih =>
    have hr := rebinds_scan s
    have hs' : Allows n (after scan s) := by
      rw [Allows, hr.options, hr.depth]
      exact hs
    rw [after_congr (run_perform_scan (assign n) next s),
      outcome_congr (run_perform_scan (assign n) next s)]
    exact .head rfl (ih _ hs' stack)
  | defineFilter f next ih =>
    exact .head rfl (ih (s := { s with filters := s.filters.define f }) hs stack)
  | edit change next ih =>
    exact .head rfl (ih (s := { s with document := change s.document }) hs stack)

theorem reaches_dispatch
    (hc : ∀ c (s : Engine D), Allows n s → Answers (perform (assign n) c) (.run c) s)
    (cs : List (Callback D)) (hs : Allows n s) (stack : List (Frame D)) :
    Reaches step ⟨.answer (.ok ()), .dispatch cs :: stack, s⟩
      ⟨.answer (outcome (cs.forM (perform (assign n))) s), stack,
        after (cs.forM (perform (assign n))) s⟩ := by
  -- the callbacks are those picked by the write: registering more does not lengthen the list
  induction cs generalizing s with
  | nil => exact .single rfl
  | cons c cs ih =>
    have h := hc c s hs
    have hrun := run_forM_cons (perform (assign n)) c cs s
    refine .head rfl ((h (.dispatch cs :: stack)).trans ?_)
    have hs' := h.allows hs
    cases hr : (perform (assign n) c).run s with
    | error e s₁ =>
      rw [hr] at hrun
      rw [after_of_error hr, outcome_of_error hr, after_of_error hrun, outcome_of_error hrun]
      exact .single rfl
    | ok u s₁ =>
      simp only [hr] at hrun
      rw [after_of_ok hr] at hs' ⊢
      rw [outcome_of_ok hr, after_congr hrun, outcome_congr hrun]
      exact ih hs'

theorem assign_of_refresh {p : Path} {v : Json} {s s₁ : Engine D}
    (hr : (refresh p).run (stored p v s) = .ok () s₁) :
    let dispatch := (s₁.observers.relatedTo p).forM (perform (assign n))
    outcome (assign (n + 1) p v) s = outcome dispatch s₁ ∧
      after (assign (n + 1) p v) s =
        { after dispatch s₁ with depth := (after dispatch s₁).depth - 1 } := by
  intro dispatch
  have hrun := run_assign n p v s
  simp only [hr] at hrun
  cases hd : dispatch.run s₁ with
  | ok u s₂ =>
    simp only [dispatch] at hd
    simp only [hd] at hrun
    exact ⟨(outcome_of_ok hrun).trans (outcome_of_ok hd).symm,
      by rw [after_of_ok hrun, after_of_ok hd]⟩
  | error e s₂ =>
    simp only [dispatch] at hd
    simp only [hd] at hrun
    exact ⟨(outcome_of_error hrun).trans (outcome_of_error hd).symm,
      by rw [after_of_error hrun, after_of_error hd]⟩

theorem answers_assign (n : Nat) (p : Path) (v : Json) {s : Engine D} (hs : Allows n s) :
    Answers (assign n p v) (.write p v) s := by
  intro stack
  induction n generalizing p v s stack with
  | zero =>
    have hle : s.options.maxDispatchDepth ≤ s.depth := Nat.le_of_sub_eq_zero hs
    exact .single (step_write_of_le hle)
  | succ n ih =>
    have hlt : s.depth < s.options.maxDispatchDepth := by
      rw [Allows] at hs
      omega
    have hstored : Allows n (stored p v s) := by
      simp only [Allows, stored] at hs ⊢
      omega
    refine .head (step_write_of_lt hlt) ?_
    -- from here on one write fewer may be nested
    cases hr : (refresh p).run (stored p v s) with
    | error e s₁ =>
      have hrun := run_assign n p v s
      simp only [hr] at hrun
      rw [after_of_error hrun, outcome_of_error hrun]
      exact .head (step_refresh_of_error hr) (.single rfl)
    | ok u s₁ =>
      have hb := rebinds_refresh p (stored p v s)
      rw [after_of_ok hr] at hb
      have hs₁ : Allows n s₁ := by
        rw [Allows, hb.options, hb.depth]
        exact hstored
      have hd := reaches_dispatch (fun c s hs ↦ answers_perform (fun p v s hs ↦ ih p v hs) c hs)
        (s₁.observers.relatedTo p) hs₁ (.leave p :: stack)
      obtain ⟨ho, ha⟩ := assign_of_refresh (n := n) hr
      rw [ho, ha]
      exact .head (step_refresh_of_ok hr) (hd.tail rfl)

theorem answers_run (c : Callback D) (s : Engine D) : Answers (run c) (.run c) s :=
  answers_perform (n := s.options.maxDispatchDepth - s.depth)
    (fun p v _ hs ↦ answers_assign _ p v hs) c rfl

/-- A program halts in every engine, whatever its callbacks write and register. -/
theorem mem_eval_start (c : Callback D) (s : Engine D) :
    ⟨.answer (outcome (run c) s), [], after (run c) s⟩ ∈ eval step (start c s) :=
  mem_eval.mpr ⟨answers_run c s [], rfl⟩

end DataBinding.Engine.Machine
