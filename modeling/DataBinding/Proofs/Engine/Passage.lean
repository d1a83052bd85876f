import DataBinding.Proofs.Engine.Machine

namespace DataBinding.Engine.Machine

open StateTransition

variable {D : Type}

/-- The same configuration with more below it on the stack. -/
def Config.on (k : Config D) (below : List (Frame D)) : Config D :=
  { k with stack := k.stack ++ below }

theorem pass_on (below : List (Frame D)) (o : Except Error Unit)
    (stack : List (Frame D)) (s : Engine D) (frame : Frame D) :
    pass o (stack ++ below) s frame = (pass o stack s frame).on below := by
  cases frame with
  | resume next => rfl
  | dispatch cs =>
    simp only [pass]
    split <;> rfl
  | leave p => rfl

variable [Document D]

/-- The configurations on the way from one to another, the first one included and the last one
not. -/
inductive Passes : Config D → List (Config D) → Config D → Prop
  | refl (k : Config D) : Passes k [] k
  | head {k k₁ k' : Config D} {run : List (Config D)} :
      k₁ ∈ step k → Passes k₁ run k' → Passes k (k :: run) k'

section Passes

variable {k k₁ k' : Config D} {run run' : List (Config D)}

theorem Passes.trans (h : Passes k run k₁) (h' : Passes k₁ run' k') :
    Passes k (run ++ run') k' := by
  induction h with
  | refl => exact h'
  | head hs _ ih => exact .head hs (ih h')

theorem Passes.reaches (h : Passes k run k') : Reaches step k k' := by
  induction h with
  | refl => exact .refl
  | head hs _ ih => exact .head hs ih

theorem Passes.reaches_of_mem (h : Passes k run k') {k₁ : Config D} (hk : k₁ ∈ run) :
    Reaches step k k₁ := by
  induction h with
  | refl => cases hk
  | head hs _ ih =>
    rcases List.mem_cons.mp hk with rfl | hk
    · exact .refl
    · exact .head hs (ih hk)

theorem Passes.unique {o o' : Except Error Unit} {s s' : Engine D}
    (h : Passes k run ⟨.answer o, [], s⟩) (h' : Passes k run' ⟨.answer o', [], s'⟩) :
    run = run' := by
  generalize hlast : (⟨.answer o, [], s⟩ : Config D) = last at h
  induction h generalizing run' with
  | refl =>
    subst hlast
    cases h' with
    | refl => rfl
    | head hs _ => cases hs
  | head hs _ ih =>
    cases h' with
    | refl => cases hs
    | head hs' hrest =>
      cases Option.mem_unique hs hs'
      rw [ih hrest hlast]

theorem exists_passes (h : Reaches step k k') : ∃ run, Passes k run k' := by
  induction h using Relation.ReflTransGen.head_induction_on with
  | refl => exact ⟨[], .refl _⟩
  | head hs _ ih =>
    obtain ⟨run, hrun⟩ := ih
    exact ⟨_ :: run, .head hs hrun⟩

theorem Passes.isSome_step (h : Passes k run k') : ∀ k₁ ∈ run, (step k₁).isSome := by
  induction h with
  | refl => simp
  | head hs _ ih =>
    refine List.forall_mem_cons.mpr ⟨?_, ih⟩
    rw [Option.mem_def.mp hs]
    rfl

variable (below : List (Frame D))

theorem act_on (stack : List (Frame D)) (s : Engine D) (c : Callback D) :
    act (stack ++ below) s c = (act stack s c).on below := by
  cases c with
  | done | fail _ | note _ _ | inspect _ | set _ _ _ | observe _ _ _ | scan _ | defineFilter _ _
  | edit _ _ => rfl
  | compute target value sources next =>
    simp only [act]
    split
    · rfl
    · split <;> rfl

/-- A step looks no deeper into the stack than its first frame. -/
theorem step_on (h : k' ∈ step k) : k'.on below ∈ step (k.on below) := by
  obtain ⟨control, stack, s⟩ := k
  cases control with
  | run c =>
    cases h
    exact congrArg some (act_on below stack s c)
  | write p v =>
    by_cases hlt : s.depth < s.options.maxDispatchDepth
    · rw [step_write_of_lt hlt] at h
      cases h
      exact step_write_of_lt hlt
    · have hle := Nat.not_lt.mp hlt
      rw [step_write_of_le hle] at h
      cases h
      exact step_write_of_le hle
  | refresh p =>
    cases hr : (refresh p).run s with
    | ok u s' =>
      rw [step_refresh_of_ok hr] at h
      cases h
      exact step_refresh_of_ok hr
    | error e s' =>
      rw [step_refresh_of_error hr] at h
      cases h
      exact step_refresh_of_error hr
  | answer o =>
    cases stack with
    | nil => cases h
    | cons frame stack =>
      cases h
      exact congrArg some (pass_on below o stack s frame)

theorem Passes.on (h : Passes k run k') :
    Passes (k.on below) (run.map (·.on below)) (k'.on below) := by
  induction h with
  | refl => exact .refl _
  | head hs _ ih => exact .head (step_on below hs) ih

end Passes

def Config.registers : Config D → List (Path × Callback D)
  | ⟨.run (.observe q c _), _, _⟩ => [(q, c)]
  | ⟨.run (.compute target value sources _), _, s⟩ =>
    if Declares target sources s then sources.map (·, recompute target value) else []
  | _ => []

def register (o : Observers (Callback D)) (L : List (Path × Callback D)) :
    Observers (Callback D) :=
  L.foldl (fun o e ↦ o.observe e.1 e.2) o

theorem observers_of_step {k k' : Config D} (h : k' ∈ step k) :
    k'.state.observers = register k.state.observers k.registers := by
  obtain ⟨control, stack, s⟩ := k
  cases control with
  | run c =>
    cases h
    cases c with
    | done | fail _ | note _ _ | inspect _ | set _ _ _ | observe _ _ _ | defineFilter _ _
    | edit _ _ => rfl
    | scan next => exact (rebinds_scan s).observers
    | compute target value sources next =>
      by_cases hd : Declares target sources s
      · simp only [act_compute hd, Config.registers, if_pos hd, register, List.foldl_map]
        rfl
      · obtain ⟨o, ho, -⟩ : ∃ o, act stack s (.compute target value sources next) =
            ⟨.run (next o), stack, s⟩ ∧ _ := act_compute_of_not hd
        simp only [ho, Config.registers, if_neg hd]
        rfl
  | write p v =>
    by_cases hlt : s.depth < s.options.maxDispatchDepth
    · rw [step_write_of_lt hlt] at h
      cases h
      rfl
    · rw [step_write_of_le (Nat.not_lt.mp hlt)] at h
      cases h
      rfl
  | refresh p =>
    obtain ⟨s', hr, rfl | ⟨e, -, rfl⟩⟩ := step_refresh_cases h <;> exact hr.observers
  | answer o =>
    cases stack with
    | nil => cases h
    | cons frame stack =>
      cases h
      cases frame with
      | resume next | leave p => rfl
      | dispatch cs =>
        simp only [pass]
        split <;> rfl

theorem Passes.observers {k k' : Config D} {run : List (Config D)} (h : Passes k run k') :
    k'.state.observers = register k.state.observers (run.flatMap Config.registers) := by
  induction h with
  | refl => rfl
  | head hs _ ih =>
    rw [ih, observers_of_step hs, List.flatMap_cons, register, register, register,
      List.foldl_append]

end DataBinding.Engine.Machine
