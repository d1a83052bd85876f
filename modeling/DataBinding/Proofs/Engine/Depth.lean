import DataBinding.Proofs.Engine.Halting

namespace DataBinding.Engine.Machine

open StateTransition

variable {D : Type}

/-- Between calls from outside, no write is in progress. -/
structure AtRest (options : Options) (s : Engine D) : Prop where
  options_eq : s.options = options
  depth_eq : s.depth = 0

theorem AtRest.init (document : D) (options : Options) :
    AtRest options (State.init document options) := ⟨rfl, rfl⟩

variable [Document D]

/-- An engine after calls from outside, those that failed included. -/
def afterCalls (calls : List (Callback D)) (s : Engine D) : Engine D :=
  calls.foldl (fun s c ↦ after (run c) s) s

variable {options : Options} {s : Engine D} {k : Config D}

theorem AtRest.run (h : AtRest options s) (c : Callback D) :
    AtRest options (after (Engine.run c) s) := by
  have hb := (answers_run c s).balanced
  exact ⟨hb.1.trans h.options_eq, hb.2.trans h.depth_eq⟩

theorem AtRest.afterCalls (h : AtRest options s) (calls : List (Callback D)) :
    AtRest options (afterCalls calls s) := by
  induction calls generalizing s with
  | nil => exact h
  | cons c calls ih => exact ih (h.run c)

theorem AtRest.depth_of_reaches (h : AtRest options s) {c : Callback D}
    (hk : Reaches step (start c s) k) :
    k.state.options = options ∧ k.state.depth = (writing k.stack).length ∧
      (writing k.stack).length ≤ options.maxDispatchDepth := by
  obtain ⟨ho, hd, hb⟩ := (Balanced.start (.run c) s).reaches hk
  rw [h.depth_eq, Nat.zero_add] at hd
  rw [h.options_eq, h.depth_eq, Nat.sub_zero] at hb
  exact ⟨ho.trans h.options_eq, hd, hb⟩

/-- In every call on an engine that has seen any calls before, the counter is the number of the
writes that were let through and are still in progress, and stays within the limit; a write that
the limit refuses leaves the engine as it is, any other one counts from then on; and the call ends
with the counter at zero. -/
theorem depth_eq_length_writing (document : D) (options : Options) (calls : List (Callback D))
    (c : Callback D) :
    let s := afterCalls calls (State.init document options)
    (∀ k, Reaches step (start c s) k →
      k.state.depth = (writing k.stack).length ∧ k.state.depth ≤ options.maxDispatchDepth ∧
      ∀ p v, k.control = .write p v →
        if k.state.depth < options.maxDispatchDepth then
          step k = some ⟨.refresh p, .leave p :: k.stack, stored p v k.state⟩
        else
          step k = some ⟨.answer (.error (.dispatchDepth options.maxDispatchDepth p)), k.stack,
            k.state⟩) ∧
      ⟨.answer (outcome (run c) s), [], after (run c) s⟩ ∈ eval step (start c s) ∧
      (after (run c) s).depth = 0 := by
  intro s
  have hs : AtRest options s := (AtRest.init document options).afterCalls calls
  refine ⟨fun k hk ↦ ?_, mem_eval.mpr ⟨answers_run c s [], rfl⟩, (hs.run c).depth_eq⟩
  obtain ⟨ho, hd, hb⟩ := hs.depth_of_reaches hk
  refine ⟨hd, hd ▸ hb, fun p v hkw ↦ ?_⟩
  obtain ⟨control, stack, s₁⟩ := k
  cases hkw
  rw [← ho]
  split
  · rename_i hlt
    exact step_write_of_lt hlt
  · rename_i hge
    exact step_write_of_le (Nat.not_lt.mp hge)

end DataBinding.Engine.Machine
