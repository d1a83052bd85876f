import DataBinding.Proofs.Engine.Notes
import DataBinding.Proofs.Engine.Passage
import DataBinding.Proofs.Engine.Plan

namespace DataBinding.Engine

variable {D D₁ D₂ : Type}

/-- Engines that plans cannot tell apart. Their documents, filters and bindings may differ, and all
options but the limit. -/
structure Alike (s₁ : Engine D₁) (s₂ : Engine D₂) : Prop where
  data : s₁.data = s₂.data
  observers : ∃ o : Observers Plan,
    s₁.observers = o.map (Plan.program D₁) ∧ s₂.observers = o.map (Plan.program D₂)
  computed : s₁.computed = s₂.computed
  limit : s₁.options.maxDispatchDepth = s₂.options.maxDispatchDepth
  depth : s₁.depth = s₂.depth
  notes : s₁.notes = s₂.notes

/-- An engine with an empty store and with filters of its own. -/
def fresh (document : D) (filters : Filters) (options : Options) : Engine D :=
  { (State.init document options : Engine D) with filters := filters }

section Alike

variable {s₁ s₁' : Engine D₁} {s₂ s₂' : Engine D₂}

theorem alike_fresh (d₁ : D₁) (d₂ : D₂) (filters₁ filters₂ : Filters) {o₁ o₂ : Options}
    (h : o₁.maxDispatchDepth = o₂.maxDispatchDepth) :
    Alike (fresh d₁ filters₁ o₁) (fresh d₂ filters₂ o₂) :=
  ⟨rfl, ⟨∅, rfl, rfl⟩, rfl, h, rfl, rfl⟩

theorem Alike.rebinds (h : Alike s₁ s₂) (h₁ : Rebinds s₁ s₁') (h₂ : Rebinds s₂ s₂') :
    Alike s₁' s₂' where
  data := by rw [h₁.data, h₂.data, h.data]
  observers := by
    rw [h₁.observers, h₂.observers]
    exact h.observers
  computed := by rw [h₁.computed, h₂.computed, h.computed]
  limit := by rw [h₁.options, h₂.options, h.limit]
  depth := by rw [h₁.depth, h₂.depth, h.depth]
  notes := by rw [h₁.notes, h₂.notes, h.notes]

theorem Alike.note (h : Alike s₁ s₂) (entry : Json) :
    Alike (s₁.record (.noted entry)) (s₂.record (.noted entry)) :=
  ⟨h.data, h.observers, h.computed, h.limit, h.depth, congrArg (entry :: ·) h.notes⟩

theorem Alike.stored (h : Alike s₁ s₂) (p : Path) (v : Json) :
    Alike (stored p v s₁) (stored p v s₂) :=
  ⟨congrArg (fun data ↦ (data.set p v).2) h.data, h.observers, h.computed, h.limit,
    congrArg (· + 1) h.depth, h.notes⟩

theorem Alike.leave (h : Alike s₁ s₂) :
    Alike { s₁ with depth := s₁.depth - 1 } { s₂ with depth := s₂.depth - 1 } :=
  ⟨h.data, h.observers, h.computed, h.limit, congrArg (· - 1) h.depth, h.notes⟩

theorem Alike.observe (h : Alike s₁ s₂) (p : Path) (callback : Plan) :
    Alike { s₁ with observers := s₁.observers.observe p (callback.program D₁) }
      { s₂ with observers := s₂.observers.observe p (callback.program D₂) } := by
  obtain ⟨o, h₁, h₂⟩ := h.observers
  refine ⟨h.data, ⟨o.observe p callback, ?_, ?_⟩, h.computed, h.limit, h.depth, h.notes⟩
  · rw [Observers.map_observe, ← h₁]
  · rw [Observers.map_observe, ← h₂]

theorem Alike.observeAll (h : Alike s₁ s₂) (ps : List Path) (callback : Plan) :
    Alike
      { s₁ with observers := ps.foldl (fun o p ↦ o.observe p (callback.program D₁)) s₁.observers }
      { s₂ with
        observers := ps.foldl (fun o p ↦ o.observe p (callback.program D₂)) s₂.observers } := by
  induction ps generalizing s₁ s₂ with
  | nil => exact h
  | cons p ps ih => exact ih (h.observe p callback)

theorem Alike.declared (h : Alike s₁ s₂) (target : Path) (value : Json → Json)
    (sources : List Path) :
    Alike (declared target (fun s ↦ value s.data) sources s₁)
      (declared target (fun s ↦ value s.data) sources s₂) := by
  have hall := h.observeAll sources (Plan.recompute target value)
  rw [Plan.program_recompute, Plan.program_recompute] at hall
  exact ⟨hall.data, hall.observers, congrArg (·.insert target sources) h.computed, hall.limit,
    hall.depth, hall.notes⟩

theorem Alike.get? (h : Alike s₁ s₂) (path : String) : s₁.get? path = s₂.get? path := by
  rw [State.get?, State.get?, h.data]

theorem Alike.relatedTo (h : Alike s₁ s₂) (p : Path) :
    ∃ plans : List Plan, s₁.observers.relatedTo p = plans.map (Plan.program D₁) ∧
      s₂.observers.relatedTo p = plans.map (Plan.program D₂) := by
  obtain ⟨o, h₁, h₂⟩ := h.observers
  exact ⟨o.relatedTo p, by rw [h₁, Observers.relatedTo_map], by rw [h₂, Observers.relatedTo_map]⟩

end Alike

namespace Machine

inductive Frame.Alike : Frame D₁ → Frame D₂ → Prop
  | resume (next : Except Error Unit → Plan) :
      Alike (.resume fun o ↦ (next o).program D₁) (.resume fun o ↦ (next o).program D₂)
  | dispatch (plans : List Plan) :
      Alike (.dispatch (plans.map (Plan.program D₁))) (.dispatch (plans.map (Plan.program D₂)))
  | leave (p : Path) : Alike (.leave p) (.leave p)

inductive Control.Alike : Control D₁ → Control D₂ → Prop
  | run (plan : Plan) : Alike (.run (plan.program D₁)) (.run (plan.program D₂))
  | write (p : Path) (v : Json) : Alike (.write p v) (.write p v)
  | refresh (p : Path) : Alike (.refresh p) (.refresh p)
  | answer (o : Except Error Unit) : Alike (.answer o) (.answer o)

structure Config.Alike (k₁ : Config D₁) (k₂ : Config D₂) : Prop where
  control : k₁.control.Alike k₂.control
  stack : List.Forall₂ Frame.Alike k₁.stack k₂.stack
  state : Engine.Alike k₁.state k₂.state

structure Invocation (κ : Type) where
  path : Path
  callback : κ
  data : Json

def Invocation.map {κ ι : Type} (f : κ → ι) (i : Invocation κ) : Invocation ι :=
  ⟨i.path, f i.callback, i.data⟩

theorem Invocation.map_injective {κ ι : Type} {f : κ → ι} (hf : Function.Injective f) :
    Function.Injective (Invocation.map f) := by
  rintro ⟨p, c, data⟩ ⟨p', c', data'⟩ h
  simp only [map, mk.injEq] at h
  rw [h.1, hf h.2.1, h.2.2]

def Config.invocation? : Config D → Option (Invocation (Callback D))
  | ⟨.answer (.ok ()), .dispatch (c :: _) :: .leave p :: _, s⟩ => some ⟨p, c, s.data⟩
  | _ => none

def allInvocations (run : List (Config D)) : List (Invocation (Callback D)) :=
  run.filterMap Config.invocation?

theorem allInvocations_cons (k : Config D) (run : List (Config D)) :
    allInvocations (k :: run) = k.invocation?.toList ++ allInvocations run := by
  rw [allInvocations, List.filterMap_cons]
  cases k.invocation? <;> rfl

section Step

variable {k₁ k₁' : Config D₁} {k₂ k₂' : Config D₂}

theorem Config.Alike.invocation? (h : k₁.Alike k₂) :
    ∃ i : Option (Invocation Plan), k₁.invocation? = i.map (·.map (Plan.program D₁)) ∧
      k₂.invocation? = i.map (·.map (Plan.program D₂)) := by
  obtain ⟨control₁, stack₁, s₁⟩ := k₁
  obtain ⟨control₂, stack₂, s₂⟩ := k₂
  obtain ⟨hc, hf, hs⟩ := h
  simp only at hc hf hs
  cases hc with
  | run plan | write p v | refresh p => exact ⟨none, rfl, rfl⟩
  | answer o =>
    cases o with
    | error e => exact ⟨none, rfl, rfl⟩
    | ok u =>
      cases hf with
      | nil => exact ⟨none, rfl, rfl⟩
      | cons hframe hrest =>
        cases hframe with
        | resume next | leave p => exact ⟨none, rfl, rfl⟩
        | dispatch plans =>
          cases plans with
          | nil => exact ⟨none, rfl, rfl⟩
          | cons plan plans =>
            cases hrest with
            | nil => exact ⟨none, rfl, rfl⟩
            | cons hbelow _ =>
              cases hbelow with
              | resume next | dispatch plans => exact ⟨none, rfl, rfl⟩
              | leave p =>
                refine ⟨some ⟨p, plan, s₁.data⟩, rfl, ?_⟩
                rw [hs.data]
                rfl

theorem Config.Alike.pass {frame₁ : Frame D₁} {frame₂ : Frame D₂} {stack₁ : List (Frame D₁)}
    {stack₂ : List (Frame D₂)} {s₁ : Engine D₁} {s₂ : Engine D₂} (o : Except Error Unit)
    (hframe : frame₁.Alike frame₂) (hf : List.Forall₂ Frame.Alike stack₁ stack₂)
    (hs : Engine.Alike s₁ s₂) :
    Config.Alike (pass o stack₁ s₁ frame₁) (pass o stack₂ s₂ frame₂) := by
  cases hframe with
  | resume next => exact ⟨.run (next o), hf, hs⟩
  | leave p => exact ⟨.answer o, hf, hs.leave⟩
  | dispatch plans =>
    cases o with
    | error e => cases plans <;> exact ⟨.answer _, hf, hs⟩
    | ok u =>
      cases plans with
      | nil => exact ⟨.answer _, hf, hs⟩
      | cons plan plans => exact ⟨.run plan, .cons (.dispatch plans) hf, hs⟩

/-- Bringing the document up to date does not fail. -/
def Config.Calm [Document D] (k : Config D) : Prop :=
  match k.control with
  | .refresh p => Succeeds (Engine.refresh p) k.state
  | _ => True

instance [Document D] (k : Config D) : Decidable k.Calm :=
  match k with
  | ⟨.refresh p, _, s⟩ => inferInstanceAs (Decidable (Succeeds (Engine.refresh p) s))
  | ⟨.run _, _, _⟩ | ⟨.write _ _, _, _⟩ | ⟨.answer _, _, _⟩ => isTrue trivial

variable [Document D₁] [Document D₂]

theorem Config.Alike.act (plan : Plan) {stack₁ : List (Frame D₁)} {stack₂ : List (Frame D₂)}
    {s₁ : Engine D₁} {s₂ : Engine D₂} (hf : List.Forall₂ Frame.Alike stack₁ stack₂)
    (hs : Engine.Alike s₁ s₂) :
    Config.Alike (act stack₁ s₁ (plan.program D₁)) (act stack₂ s₂ (plan.program D₂)) := by
  cases plan with
  | done => exact ⟨.answer _, hf, hs⟩
  | fail e => exact ⟨.answer _, hf, hs⟩
  | note entry next => exact ⟨.run next, hf, hs.note entry⟩
  | read next =>
    simp only [Plan.program, Machine.act, State.view, hs.data]
    exact ⟨.run (next s₂.data), hf, hs⟩
  | set p v next => exact ⟨.write p v, .cons (.resume next) hf, hs⟩
  | observe p callback next => exact ⟨.run next, hf, hs.observe p callback⟩
  | compute target value sources next =>
    by_cases hne : sources = []
    · subst hne
      exact ⟨.run (next (.ok ())), hf, hs⟩
    · have hg := hs.computed
      cases hc : s₂.computed.cycleVia target sources with
      | some source =>
        rw [Plan.program, Plan.program, act_compute_cyclic hne hc, act_compute_cyclic hne (hg ▸ hc)]
        exact ⟨.run (next _), hf, hs⟩
      | none =>
        have hd := hs.declared target value sources
        have h₁ : Declares target sources s₁ := ⟨hne, hg ▸ hc⟩
        have h₂ : Declares target sources s₂ := ⟨hne, hc⟩
        rw [Plan.program, Plan.program, act_compute h₁, act_compute h₂]
        simp only [State.view, hd.data]
        exact ⟨.write target _, .cons (.resume next) hf, hd⟩

theorem step_refresh_of_calm [Document D] {p : Path} {stack : List (Frame D)} {s : Engine D}
    {k : Config D} (hc : Config.Calm ⟨.refresh p, stack, s⟩)
    (hk : k ∈ step ⟨.refresh p, stack, s⟩) :
    ∃ s', Rebinds s s' ∧
      k = ⟨.answer (.ok ()), .dispatch (s'.observers.relatedTo p) :: stack, s'⟩ := by
  obtain ⟨_, s', hr⟩ := hc
  have hb := rebinds_refresh p s
  rw [after_of_ok hr] at hb
  rw [step_refresh_of_ok hr] at hk
  exact ⟨s', hb, (Option.mem_some.mp hk).symm⟩

theorem Config.Alike.step (h : k₁.Alike k₂) (hc₁ : k₁.Calm) (hc₂ : k₂.Calm) (h₁ : k₁' ∈ step k₁)
    (h₂ : k₂' ∈ step k₂) : k₁'.Alike k₂' := by
  obtain ⟨control₁, stack₁, s₁⟩ := k₁
  obtain ⟨control₂, stack₂, s₂⟩ := k₂
  obtain ⟨hc, hf, hs⟩ := h
  simp only at hc hf hs
  cases hc with
  | run plan =>
    cases h₁
    cases h₂
    exact .act plan hf hs
  | write p v =>
    by_cases hlt : s₁.depth < s₁.options.maxDispatchDepth
    · rw [step_write_of_lt hlt] at h₁
      rw [hs.depth, hs.limit] at hlt
      rw [step_write_of_lt hlt] at h₂
      cases h₁
      cases h₂
      exact ⟨.refresh p, .cons (.leave p) hf, hs.stored p v⟩
    · have hle := Nat.not_lt.mp hlt
      rw [step_write_of_le hle, hs.limit] at h₁
      rw [hs.depth, hs.limit] at hle
      rw [step_write_of_le hle] at h₂
      cases h₁
      cases h₂
      exact ⟨.answer _, hf, hs⟩
  | refresh p =>
    obtain ⟨s₁', hb₁, rfl⟩ := step_refresh_of_calm hc₁ h₁
    obtain ⟨s₂', hb₂, rfl⟩ := step_refresh_of_calm hc₂ h₂
    have hs' := hs.rebinds hb₁ hb₂
    obtain ⟨plans, ht₁, ht₂⟩ := hs'.relatedTo p
    rw [ht₁, ht₂]
    exact ⟨.answer _, .cons (.dispatch plans) hf, hs'⟩
  | answer o =>
    cases hf with
    | nil => cases h₁
    | cons hframe hf =>
      cases h₁
      cases h₂
      exact .pass o hframe hf hs

/-- Runs that start alike and come to their ends end alike, with the same outcome, and have made the
same invocations. -/
theorem Config.Alike.passes {run₁ : List (Config D₁)} {run₂ : List (Config D₂)}
    {o₁ o₂ : Except Error Unit} {s₁ : Engine D₁} {s₂ : Engine D₂} (h : k₁.Alike k₂)
    (hr₁ : Passes k₁ run₁ ⟨.answer o₁, [], s₁⟩) (hr₂ : Passes k₂ run₂ ⟨.answer o₂, [], s₂⟩)
    (hc₁ : ∀ k ∈ run₁, k.Calm) (hc₂ : ∀ k ∈ run₂, k.Calm) :
    o₁ = o₂ ∧ Engine.Alike s₁ s₂ ∧ ∃ made : List (Invocation Plan),
      allInvocations run₁ = made.map (·.map (Plan.program D₁)) ∧
        allInvocations run₂ = made.map (·.map (Plan.program D₂)) := by
  generalize hk₁ : (⟨.answer o₁, [], s₁⟩ : Config D₁) = last at hr₁
  induction hr₁ generalizing k₂ run₂ with
  | refl k =>
    subst hk₁
    obtain ⟨control₂, stack₂, s₂'⟩ := k₂
    obtain ⟨hc, hf, hs⟩ := h
    cases hc
    cases hf
    -- nothing is left to do on the other side
    cases hr₂ with
    | refl => exact ⟨rfl, hs, [], rfl, rfl⟩
    | head hstep _ => cases hstep
  | @head k _ _ _ hs₁ _ ih =>
    cases hr₂ with
    | refl =>
      obtain ⟨control₁, stack₁, s₁'⟩ := k
      obtain ⟨hc, hf, hs⟩ := h
      cases hc
      cases hf
      cases hs₁
    | head hs₂ hr₂ =>
      obtain ⟨hk₁', hrest₁⟩ := List.forall_mem_cons.mp hc₁
      obtain ⟨hk₂', hrest₂⟩ := List.forall_mem_cons.mp hc₂
      obtain ⟨ho, hs, made, hm₁, hm₂⟩ :=
        ih (h.step hk₁' hk₂' hs₁ hs₂) hr₂ hrest₁ hrest₂ hk₁
      obtain ⟨i, hi₁, hi₂⟩ := h.invocation?
      refine ⟨ho, hs, i.toList ++ made, ?_, ?_⟩
      · rw [allInvocations_cons, hi₁, hm₁]
        cases i <;> rfl
      · rw [allInvocations_cons, hi₂, hm₂]
        cases i <;> rfl

end Step

end Machine

end DataBinding.Engine
