import DataBinding.Proofs.Engine.Cascade

namespace DataBinding

namespace Callback

variable {D : Type} {path target : String} {v : Json} {value : View D → Json}
  {sources : List String} {next : Except Error Unit → Callback D}

theorem setText_cases (path : String) (v : Json) (next : Except Error Unit → Callback D) :
    setText path v next = next (.ok ()) ∨ (∃ e, setText path v next = next (.error (.path e))) ∨
      ∃ p, setText path v next = .set p v next := by
  unfold setText
  split
  · exact .inl rfl
  · split
    · exact .inr (.inl ⟨_, rfl⟩)
    · exact .inr (.inr ⟨_, rfl⟩)

theorem computeText_cases (target : String) (value : View D → Json) (sources : List String)
    (next : Except Error Unit → Callback D) :
    computeText target value sources next = next (.ok ()) ∨
      (∃ e, computeText target value sources next = next (.error (.path e))) ∨
        ∃ t ss, computeText target value sources next = .compute t value ss next := by
  unfold computeText
  split
  · exact .inl rfl
  · split
    · exact .inr (.inl ⟨_, rfl⟩)
    · exact .inr (.inl ⟨_, rfl⟩)
    · exact .inr (.inr ⟨_, _, rfl⟩)

end Callback

namespace Engine

variable {D : Type}

/-- A call from outside other than one that registers an observer. -/
inductive Request (D : Type) where
  | set (path : String) (v : Json)
  | compute (target : String) (value : View D → Json) (sources : List String)
  | scan
  | defineFilter (f : Filter)
  | edit (change : D → D)

def Request.program : Request D → Callback D
  | .set path v => .setText path v returning
  | .compute target value sources => .computeText target value sources returning
  | .scan => .scan fun
    | .ok _ => .done
    | .error e => .fail e
  | .defineFilter f => .defineFilter f .done
  | .edit change => .edit change .done

namespace Machine

open StateTransition

variable [Document D] {s : Engine D} {options : Options}

theorem contained_request (hs : Computes s) (hrest : s.depth = 0) (r : Request D) :
    Contained r.program s := by
  have hpath (e : PathError) : Admits
      (Excused s.options.maxDispatchDepth s.computed.targets.card)
      (.error (.path e) : Except Error Unit) := fun _ he ↦ by
    cases he
    trivial
  cases r with
  | set path v =>
    refine contained_of_confined hs hrest ?_
    rw [Request.program]
    rcases Callback.setText_cases path v returning with h | ⟨e, h⟩ | ⟨p, h⟩
    · rw [h]
      trivial
    · rw [h]
      exact confined_returning (hpath e)
    · rw [h]
      exact ⟨s.computed.card_downstream_le p, fun o ho ↦ confined_returning ho⟩
  | compute target value sources =>
    rw [Request.program]
    rcases Callback.computeText_cases target value sources returning with h | ⟨e, h⟩ | ⟨t, ss, h⟩
    · rw [h]
      exact contained_of_confined hs hrest trivial
    · rw [h]
      exact contained_of_confined hs hrest (confined_returning (hpath e))
    · rw [h]
      exact contained_compute t value ss hs hrest
  | scan =>
    refine contained_of_confined hs hrest fun o ho ↦ ?_
    cases o with
    | ok n => trivial
    | error e => exact ho e rfl
  | defineFilter _ | edit _ => exact contained_of_confined hs hrest trivial

theorem computes_afterCalls (hs : Computes s) (hr : AtRest options s) (past : List (Request D)) :
    Computes (afterCalls (past.map Request.program) s) := by
  induction past generalizing s with
  | nil => exact hs
  | cons r past ih => exact ih (contained_request hs hr.depth_eq r).computes (hr.run r.program)

/-- Whatever was called on an engine, as long as no observer was registered but by declarations: in
every call on it there are never more writes in progress than one and the number of targets declared
before, so that the call is not refused a write for the depth of nesting under a limit that admits
them. -/
theorem length_calls_le_targets (document : D) (options : Options) (past : List (Request D))
    (r : Request D) :
    let s := afterCalls (past.map Request.program) (State.init document options)
    (∀ k, Reaches step (start r.program s) k →
      k.calls.length ≤ 1 + s.computed.targets.card) ∧
      ⟨.answer (outcome (run r.program) s), [], after (run r.program) s⟩ ∈
        eval step (start r.program s) ∧
      (1 + s.computed.targets.card ≤ options.maxDispatchDepth →
        ∀ limit p, outcome (run r.program) s ≠ .error (.dispatchDepth limit p)) := by
  intro s
  have hr : AtRest options s := (AtRest.init document options).afterCalls _
  have hs : Computes s := computes_afterCalls (.init document options) (.init document options) past
  have hc := contained_request hs hr.depth_eq r
  refine ⟨fun k hk ↦ hc.length_calls_le hk, mem_eval.mpr ⟨answers_run _ s [], rfl⟩, fun hN ↦ ?_⟩
  rw [← hr.options_eq] at hN
  exact hc.outcome_ne hN

/-- The bound is sharp: a chain of two targets needs a limit of three. -/
example :
    let copy (target source : String) : Request Markup :=
      .compute target (fun s ↦ (s.get? source).getD .null) [source]
    let s (limit : Nat) : Engine Markup :=
      afterCalls ([copy "b" "a", copy "c" "b"].map Request.program)
        (State.init .empty { maxDispatchDepth := limit })
    (outcome (run (Request.set "a" .null).program) (s 2)).toBool = false ∧
      (outcome (run (Request.set "a" .null).program) (s 3)).toBool = true := by
  decide +kernel

end Machine

end Engine

end DataBinding
