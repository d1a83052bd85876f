import DataBinding.Proofs.Engine.History
import DataBinding.Proofs.Engine.Refresh
import Mathlib.Computability.StateTransition

namespace DataBinding.Engine.Machine

open StateTransition

variable {D : Type}

/-- What waits for an outcome. -/
inductive Frame (D : Type) where
  | resume (next : Except Error Unit → Callback D)
  | dispatch (callbacks : List (Callback D))
  /-- A write to a path that was let through. -/
  | leave (p : Path)

def Frame.path? : Frame D → Option Path
  | .leave p => some p
  | _ => none

/-- The paths of the writes in progress, the innermost one first. -/
def writing (stack : List (Frame D)) : List Path := stack.filterMap Frame.path?

@[simp] theorem writing_nil : writing ([] : List (Frame D)) = [] := rfl

@[simp] theorem writing_resume (next : Except Error Unit → Callback D) (stack : List (Frame D)) :
    writing (.resume next :: stack) = writing stack := rfl

@[simp] theorem writing_dispatch (cs : List (Callback D)) (stack : List (Frame D)) :
    writing (.dispatch cs :: stack) = writing stack := rfl

@[simp] theorem writing_leave (p : Path) (stack : List (Frame D)) :
    writing (.leave p :: stack) = p :: writing stack := rfl

inductive Control (D : Type) where
  | run (c : Callback D)
  /-- To write, if the counter lets it. -/
  | write (p : Path) (v : Json)
  | refresh (p : Path)
  | answer (o : Except Error Unit)

structure Config (D : Type) where
  control : Control D
  stack : List (Frame D)
  state : Engine D

/-- The paths written to by the calls in progress, the innermost one first; one that the counter has
yet to let through is in progress too. -/
def Config.calls (k : Config D) : List Path :=
  match k.control with
  | .write p _ => p :: writing k.stack
  | _ => writing k.stack

def start (c : Callback D) (s : Engine D) : Config D := ⟨.run c, [], s⟩

def pass (o : Except Error Unit) (stack : List (Frame D)) (s : Engine D) : Frame D → Config D
  | .resume next => ⟨.run (next o), stack, s⟩
  | .dispatch cs =>
    match o, cs with
    | .ok (), c :: cs => ⟨.run c, .dispatch cs :: stack, s⟩
    | o, _ => ⟨.answer o, stack, s⟩
  | .leave _ => ⟨.answer o, stack, { s with depth := s.depth - 1 }⟩

/-- In a run from an engine `s₀`, the counter has gone up by the number of writes in progress, and
never beyond the limit. -/
structure Balanced (s₀ : Engine D) (k : Config D) : Prop where
  options : k.state.options = s₀.options
  depth : k.state.depth = s₀.depth + (writing k.stack).length
  bounded : (writing k.stack).length ≤ s₀.options.maxDispatchDepth - s₀.depth

theorem Balanced.start (control : Control D) (s : Engine D) : Balanced s ⟨control, [], s⟩ :=
  ⟨rfl, rfl, Nat.zero_le _⟩

variable {s₀ : Engine D}

theorem Balanced.keep {control : Control D} {stack stack' : List (Frame D)} {s s' : Engine D}
    (h : Balanced s₀ ⟨control, stack, s⟩) (control' : Control D) (ho : s'.options = s.options)
    (hd : s'.depth = s.depth) (hw : writing stack' = writing stack) :
    Balanced s₀ ⟨control', stack', s'⟩ where
  options := ho.trans h.options
  depth := by
    rw [hw, hd]
    exact h.depth
  bounded := by
    rw [hw]
    exact h.bounded

theorem Balanced.pass {o : Except Error Unit} {frame : Frame D} {stack : List (Frame D)}
    {s : Engine D} (h : Balanced s₀ ⟨.answer o, frame :: stack, s⟩) :
    Balanced s₀ (pass o stack s frame) := by
  cases frame with
  | resume next => exact h.keep _ rfl rfl rfl
  | dispatch cs =>
    simp only [Machine.pass]
    split
    · exact h.keep _ rfl rfl rfl
    · exact h.keep _ rfl rfl rfl
  | leave p =>
    obtain ⟨ho, hd, hb⟩ := h
    simp only [writing_leave, List.length_cons] at hd hb
    exact ⟨ho, by simp only [Machine.pass]; omega, by simp only [Machine.pass]; omega⟩

variable [Document D]

/-- One action of a program. Scanning calls nothing back and is one action. -/
def act (stack : List (Frame D)) (s : Engine D) : Callback D → Config D
  | .done => ⟨.answer (.ok ()), stack, s⟩
  | .fail e => ⟨.answer (.error e), stack, s⟩
  | .note entry next => ⟨.run next, stack, s.record (.noted entry)⟩
  | .inspect next => ⟨.run (next s.view), stack, s⟩
  | .set p v next => ⟨.write p v, .resume next :: stack, s⟩
  | .observe p c next => ⟨.run next, stack, { s with observers := s.observers.observe p c }⟩
  | .compute target value sources next =>
    if sources.isEmpty then ⟨.run (next (.ok ())), stack, s⟩
    else
      match s.computed.cycleVia target sources with
      | some source => ⟨.run (next (.error (.cyclicCompute target source))), stack, s⟩
      | none =>
        let s' := declared target value sources s
        ⟨.write target (value s'.view), .resume next :: stack, s'⟩
  | .scan next => ⟨.run (next (outcome scan s)), stack, after scan s⟩
  | .defineFilter f next => ⟨.run next, stack, { s with filters := s.filters.define f }⟩
  | .edit change next => ⟨.run next, stack, { s with document := change s.document }⟩

def step : Config D → Option (Config D)
  | ⟨.run c, stack, s⟩ => some (act stack s c)
  | ⟨.write p v, stack, s⟩ =>
    if s.depth < s.options.maxDispatchDepth then
      some ⟨.refresh p, .leave p :: stack, stored p v s⟩
    else some ⟨.answer (.error (.dispatchDepth s.options.maxDispatchDepth p)), stack, s⟩
  | ⟨.refresh p, stack, s⟩ =>
    match (refresh p).run s with
    | .ok () s => some ⟨.answer (.ok ()), .dispatch (s.observers.relatedTo p) :: stack, s⟩
    | .error e s => some ⟨.answer (.error e), stack, s⟩
  | ⟨.answer o, frame :: stack, s⟩ => some (pass o stack s frame)
  | ⟨.answer _, [], _⟩ => none

theorem Balanced.act {c : Callback D} {stack : List (Frame D)} {s : Engine D}
    (h : Balanced s₀ ⟨.run c, stack, s⟩) : Balanced s₀ (act stack s c) := by
  cases c with
  | done | fail _ | note _ _ | inspect _ | set _ _ _ | observe _ _ _ | defineFilter _ _
  | edit _ _ =>
    exact h.keep _ rfl rfl rfl
  | compute target value sources next =>
    simp only [Machine.act]
    split
    · exact h.keep _ rfl rfl rfl
    · split
      · exact h.keep _ rfl rfl rfl
      · exact h.keep _ rfl rfl rfl
  | scan next => exact h.keep _ (rebinds_scan s).options (rebinds_scan s).depth rfl

section Compute

variable {target : Path} {value : View D → Json} {sources : List Path} {s : Engine D}
  {stack : List (Frame D)} {next : Except Error Unit → Callback D}

theorem act_compute_nil :
    act stack s (.compute target value [] next) = ⟨.run (next (.ok ())), stack, s⟩ := rfl

theorem act_compute_cyclic {source : Path} (hne : sources ≠ [])
    (h : s.computed.cycleVia target sources = some source) :
    act stack s (.compute target value sources next) =
      ⟨.run (next (.error (.cyclicCompute target source))), stack, s⟩ := by
  have he : sources.isEmpty = false := by simpa using hne
  simp only [Machine.act, he, h, Bool.false_eq_true, if_false]

theorem act_compute_of_not (h : ¬ Declares target sources s) :
    ∃ o, act stack s (.compute target value sources next) = ⟨.run (next o), stack, s⟩ ∧
      (o = .ok () ∨ ∃ source, o = .error (.cyclicCompute target source)) := by
  by_cases hne : sources = []
  · subst hne
    exact ⟨_, act_compute_nil, .inl rfl⟩
  · cases hc : s.computed.cycleVia target sources with
    | none => exact absurd ⟨hne, hc⟩ h
    | some source => exact ⟨_, act_compute_cyclic hne hc, .inr ⟨source, rfl⟩⟩

theorem act_compute (h : Declares target sources s) :
    act stack s (.compute target value sources next) =
      ⟨.write target (value (declared target value sources s).view), .resume next :: stack,
        declared target value sources s⟩ := by
  have he : sources.isEmpty = false := by simpa using h.1
  simp only [Machine.act, he, h.2, Bool.false_eq_true, if_false]

end Compute

section Step

variable {p : Path} {v : Json} {stack : List (Frame D)} {s s' : Engine D} {e : Error}

theorem step_write_of_lt (h : s.depth < s.options.maxDispatchDepth) :
    step ⟨.write p v, stack, s⟩ = some ⟨.refresh p, .leave p :: stack, stored p v s⟩ := by
  simp only [step, if_pos h]

theorem step_write_of_le (h : s.options.maxDispatchDepth ≤ s.depth) :
    step ⟨.write p v, stack, s⟩ =
      some ⟨.answer (.error (.dispatchDepth s.options.maxDispatchDepth p)), stack, s⟩ := by
  simp only [step, if_neg (Nat.not_lt.mpr h)]

theorem step_refresh_of_ok (h : (refresh p).run s = .ok () s') :
    step ⟨.refresh p, stack, s⟩ =
      some ⟨.answer (.ok ()), .dispatch (s'.observers.relatedTo p) :: stack, s'⟩ := by
  simp only [step, h]

theorem step_refresh_of_error (h : (refresh p).run s = .error e s') :
    step ⟨.refresh p, stack, s⟩ = some ⟨.answer (.error e), stack, s'⟩ := by
  simp only [step, h]

theorem state_of_step_refresh {k : Config D} (hk : k ∈ step ⟨.refresh p, stack, s⟩) :
    k.state = after (refresh p) s := by
  cases hr : (refresh p).run s with
  | ok u s₁ =>
    rw [step_refresh_of_ok hr] at hk
    cases hk
    exact (after_of_ok hr).symm
  | error e s₁ =>
    rw [step_refresh_of_error hr] at hk
    cases hk
    exact (after_of_error hr).symm

theorem step_refresh_cases {k : Config D} (hk : k ∈ step ⟨.refresh p, stack, s⟩) :
    ∃ s', Rebinds s s' ∧
      (k = ⟨.answer (.ok ()), .dispatch (s'.observers.relatedTo p) :: stack, s'⟩ ∨
        ∃ e, IsRendering e ∧ k = ⟨.answer (.error e), stack, s'⟩) := by
  have hr := rebinds_refresh p s
  cases hrun : (refresh p).run s with
  | ok u s' =>
    rw [after_of_ok hrun] at hr
    rw [step_refresh_of_ok hrun] at hk
    cases hk
    exact ⟨s', hr, .inl rfl⟩
  | error e s' =>
    rw [after_of_error hrun] at hr
    rw [step_refresh_of_error hrun] at hk
    cases hk
    exact ⟨s', hr, .inr ⟨e, failsWith_refresh p s s' e hrun, rfl⟩⟩

end Step

variable {k k' : Config D}

theorem Balanced.step (h : Balanced s₀ k) (hk : k' ∈ step k) : Balanced s₀ k' := by
  obtain ⟨control, stack, s⟩ := k
  cases control with
  | run c =>
    cases hk
    exact h.act
  | write p v =>
    by_cases hlt : s.depth < s.options.maxDispatchDepth
    · rw [step_write_of_lt hlt] at hk
      cases hk
      obtain ⟨ho, hd, hb⟩ := h
      simp only at ho hd hb
      rw [ho] at hlt
      refine ⟨ho, ?_, ?_⟩
      · simp only [stored, writing_leave, List.length_cons]
        omega
      · simp only [writing_leave, List.length_cons]
        omega
    · rw [step_write_of_le (Nat.not_lt.mp hlt)] at hk
      cases hk
      exact h.keep _ rfl rfl rfl
  | refresh p =>
    -- the frame of the write stays, and counts it out when an error passes too
    obtain ⟨s', hr, rfl | ⟨e, -, rfl⟩⟩ := step_refresh_cases hk
    · exact h.keep _ hr.options hr.depth rfl
    · exact h.keep _ hr.options hr.depth rfl
  | answer o =>
    cases stack with
    | nil => cases hk
    | cons frame stack =>
      cases hk
      exact h.pass

theorem Balanced.reaches (h : Balanced s₀ k) (hk : Reaches Machine.step k k') :
    Balanced s₀ k' := by
  induction hk with
  | refl => exact h
  | tail _ hs ih => exact ih.step hs

end DataBinding.Engine.Machine
