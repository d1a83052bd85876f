import DataBinding.Engine.Dispatch
import DataBinding.Proofs.Engine.Bindings

namespace DataBinding.Engine

variable {D α : Type}

def after (x : EngineM D α) (s : Engine D) : Engine D :=
  match x.run s with
  | .ok _ s => s
  | .error _ s => s

/-- What an action that is tried gives to the rest of a program. -/
def outcome (x : EngineM D α) (s : Engine D) : Except Error α :=
  match x.run s with
  | .ok a _ => .ok a
  | .error e _ => .error e

theorem after_congr {x y : EngineM D α} {s s' : Engine D}
    (h : x.run s = y.run s') : after x s = after y s' := by
  rw [after, after, h]

theorem after_of_ok {x : EngineM D α} {s s' : Engine D} {a : α} (h : x.run s = .ok a s') :
    after x s = s' := by
  rw [after, h]

theorem after_of_error {x : EngineM D α} {s s' : Engine D} {e : Error} (h : x.run s = .error e s') :
    after x s = s' := by
  rw [after, h]

theorem outcome_congr {x y : EngineM D α} {s s' : Engine D} (h : x.run s = y.run s') :
    outcome x s = outcome y s' := by
  rw [outcome, outcome, h]

theorem outcome_of_ok {x : EngineM D α} {s s' : Engine D} {a : α} (h : x.run s = .ok a s') :
    outcome x s = .ok a := by
  rw [outcome, h]

theorem outcome_of_error {x : EngineM D α} {s s' : Engine D} {e : Error}
    (h : x.run s = .error e s') : outcome x s = .error e := by
  rw [outcome, h]

def Succeeds (x : EngineM D α) (s : Engine D) : Prop := ∃ a s', x.run s = .ok a s'

instance (x : EngineM D α) (s : Engine D) : Decidable (Succeeds x s) :=
  match h : x.run s with
  | .ok a s' => isTrue ⟨a, s', h⟩
  | .error e s' => isFalse fun hs ↦ by
    obtain ⟨a, s'', hs⟩ := hs
    rw [h] at hs
    cases hs

theorem run_attempt (x : EngineM D α) (s : Engine D) :
    x.attempt.run s =
      match x.run s with
      | .ok a s => .ok (.ok a) s
      | .error e s => .ok (.error e) s := rfl

theorem run_forM_cons {ε σ : Type} (f : α → EStateM ε σ Unit) (a : α) (l : List α) (s : σ) :
    ((a :: l).forM f).run s =
      match (f a).run s with
      | .ok () s => (l.forM f).run s
      | .error e s => .error e s := by
  change (f a >>= fun _ ↦ l.forM f).run s = _
  rw [EStateM.run_bind]
  cases (f a).run s <;> rfl

theorem of_run_forM_cons {f : α → EngineM D Unit} {a : α} {l : List α} {s s' : Engine D}
    (h : ((a :: l).forM f).run s = .ok () s') :
    ∃ s₁, (f a).run s = .ok () s₁ ∧ (l.forM f).run s₁ = .ok () s' := by
  rw [run_forM_cons] at h
  cases hf : (f a).run s with
  | ok u s₁ =>
    rw [hf] at h
    exact ⟨s₁, rfl, h⟩
  | error e s₁ =>
    rw [hf] at h
    cases h

theorem after_forM {I : Engine D → Prop} {f : α → EngineM D Unit}
    (hf : ∀ a s, I s → I (after (f a) s)) (l : List α) (s : Engine D) (hs : I s) :
    I (after (l.forM f) s) := by
  induction l generalizing s with
  | nil => exact hs
  | cons a l ih =>
    have ha := hf a s hs
    rw [after, run_forM_cons]
    cases hr : (f a).run s with
    | error e s₁ =>
      rw [after_of_error hr] at ha
      exact ha
    | ok u s₁ =>
      rw [after_of_ok hr] at ha
      exact ih s₁ ha

/-- A declaration is made if there are sources and none of them closes a cycle. -/
def Declares (target : Path) (sources : List Path) (s : Engine D) : Prop :=
  sources ≠ [] ∧ s.computed.cycleVia target sources = none

instance (target : Path) (sources : List Path) (s : Engine D) :
    Decidable (Declares target sources s) := inferInstanceAs (Decidable (_ ∧ _))

section Declare

variable (write : Path → Json → EngineM D Unit) (target : Path) (value : View D → Json)

theorem run_declare_nil (s : Engine D) : (declare write target value []).run s = .ok () s := rfl

variable {target} {sources : List Path} {s : Engine D}

theorem run_declare_cyclic {source : Path} (hne : sources ≠ [])
    (h : s.computed.cycleVia target sources = some source) :
    (declare write target value sources).run s = .error (.cyclicCompute target source) s := by
  have he : sources.isEmpty = false := by simpa using hne
  simp only [declare, he, Bool.false_eq_true, if_false, EStateM.run_bind, EStateM.run_get, h]
  rfl

theorem run_declare (h : Declares target sources s) :
    (declare write target value sources).run s =
      (write target (value (declared target value sources s).view)).run
        (declared target value sources s) := by
  have he : sources.isEmpty = false := by simpa using h.1
  simp only [declare, he, Bool.false_eq_true, if_false, EStateM.run_bind, EStateM.run_get, h.2]
  rfl

theorem after_declare_of_not (h : ¬ Declares target sources s) :
    after (declare write target value sources) s = s := by
  by_cases hne : sources = []
  · subst hne
    rfl
  · cases hc : s.computed.cycleVia target sources with
    | none => exact absurd ⟨hne, hc⟩ h
    | some source => exact after_of_error (run_declare_cyclic write value hne hc)

theorem declares_of_run_declare {s' : Engine D} (hne : sources ≠ [])
    (h : (declare write target value sources).run s = .ok () s') : Declares target sources s := by
  refine ⟨hne, ?_⟩
  cases hc : s.computed.cycleVia target sources with
  | none => rfl
  | some source =>
    rw [run_declare_cyclic write value hne hc] at h
    cases h

end Declare

def filtered (b : Option (ElementIn D)) (s : Engine D) : Engine D :=
  match b with
  | some b => { s with document := b.document, journal := b.writes.map .wrote ++ s.journal }
  | none => s

variable [Document D]

theorem run_applyFilters (el : ElementId) (chain : List Clause) (v : Option Json) (s : Engine D) :
    (applyFilters el chain v).run s =
      match (Clause.applyAll s.filters chain v).run (some ⟨s.document, el, []⟩) with
      | .ok out b => .ok out (filtered b s)
      | .error e b => .error (.filter e) (filtered b s) := rfl

theorem run_render_chain (i : Nat) (el : ElementId) (p : Path) (calls : List Clause)
    (s : Engine D) :
    (render i el (.chain p calls)).run s =
      match (applyFilters el calls (s.data.get? p)).run s with
      | .ok out s => .ok () (wrote i (.html el out.display) s)
      | .error e s => .error e s := by
  simp only [render, EStateM.run_bind, EStateM.run_get, Binding.property]
  cases (applyFilters el calls (s.data.get? p)).run s <;> rfl

theorem run_render_content (i : Nat) (el : ElementId) (p : Path) (s : Engine D) :
    (render i el (.content p)).run s =
      .ok () (wrote i (.html el (Json.displayOption (s.data.get? p))) s) := rfl

def attrText (b : Binding) (truthy falsy : String) (v : Option Json) : String :=
  if b.hasLiterals then (if Json.isTruthy v then truthy else falsy) else Json.displayOption v

theorem run_render_attr (i : Nat) (el : ElementId) (p : Path) (name truthy falsy : String)
    (s : Engine D) :
    (render i el (.attr p name truthy falsy)).run s =
      .ok () (wrote i (.attr el name
        (attrText (.attr p name truthy falsy) truthy falsy (s.data.get? p))) s) := rfl

theorem run_bind_none {name : String} {el : ElementId} {s : Engine D}
    (h : Document.attribute? s.document el name = none) : (bind name el).run s = .ok () s := by
  simp only [bind, EStateM.run_bind, EStateM.run_get, h]
  rfl

theorem run_bind_some {name expression : String} {el : ElementId} {s : Engine D}
    (h : Document.attribute? s.document el name = some expression) :
    (bind name el).run s =
      match Binding.parse s.options.style expression with
      | .error e => .error (.binding e) s
      | .ok b =>
        match (render s.bindings.size el b).run s with
        | .ok () s => .ok () { s with bindings := s.bindings.push el b }
        | .error e s => .error e s := by
  simp only [bind, EStateM.run_bind, EStateM.run_get, h]
  cases Binding.parse s.options.style expression with
  | error e => rfl
  | ok b =>
    simp only [EStateM.run_bind]
    cases (render s.bindings.size el b).run s <;> rfl

theorem of_run_bind {name : String} {el : ElementId} {s s' : Engine D}
    (h : (bind name el).run s = .ok () s') :
    (Document.attribute? s.document el name = none ∧ s' = s) ∨
      ∃ expression b s₁, Document.attribute? s.document el name = some expression ∧
        Binding.parse s.options.style expression = .ok b ∧
        (render s.bindings.size el b).run s = .ok () s₁ ∧
        s' = { s₁ with bindings := s₁.bindings.push el b } := by
  cases ha : Document.attribute? s.document el name with
  | none =>
    rw [run_bind_none ha] at h
    cases h
    exact .inl ⟨rfl, rfl⟩
  | some expression =>
    rw [run_bind_some ha] at h
    cases hp : Binding.parse s.options.style expression with
    | error e =>
      rw [hp] at h
      cases h
    | ok b =>
      simp only [hp] at h
      cases hr : (render s.bindings.size el b).run s with
      | error e s₁ =>
        rw [hr] at h
        cases h
      | ok u s₁ =>
        rw [hr] at h
        cases h
        exact .inr ⟨expression, b, s₁, rfl, hp, hr, rfl⟩

theorem run_scan (s : Engine D) :
    scan.run s =
      match ((Document.elementsWith s.document s.options.bindingAttribute).forM
        (bind s.options.bindingAttribute)).run { s with bindings := .empty } with
      | .ok () s => .ok s.bindings.size { s with bindings := { s.bindings with built := true } }
      | .error e s => .error e s := by
  simp only [scan, EStateM.run_bind, EStateM.run_get, EStateM.run_set]
  cases ((Document.elementsWith s.document s.options.bindingAttribute).forM
    (bind s.options.bindingAttribute)).run { s with bindings := .empty } <;> rfl

theorem of_run_scan {s s' : Engine D} {n : Nat} (h : scan.run s = .ok n s') :
    ∃ s₁, ((Document.elementsWith s.document s.options.bindingAttribute).forM
        (bind s.options.bindingAttribute)).run { s with bindings := .empty } = .ok () s₁ ∧
      n = s₁.bindings.size ∧ s' = { s₁ with bindings := { s₁.bindings with built := true } } := by
  rw [run_scan] at h
  cases hl : ((Document.elementsWith s.document s.options.bindingAttribute).forM
      (bind s.options.bindingAttribute)).run { s with bindings := .empty } with
  | error e s₁ =>
    rw [hl] at h
    cases h
  | ok u s₁ =>
    rw [hl] at h
    cases h
    exact ⟨s₁, rfl, rfl, rfl⟩

theorem run_refresh_built {s : Engine D} (h : s.bindings.built) (p : Path) :
    (refresh p).run s =
      ((s.bindings.relatedTo p).forM fun (i, el, b) ↦ render i el b).run s := by
  simp only [refresh, EStateM.run_bind, EStateM.run_get, h, if_pos]

theorem run_refresh_affected {s : Engine D} (h : s.bindings.Indexed) (hb : s.bindings.built)
    (p : Path) :
    (refresh p).run s =
      ((s.bindings.affected p).forM fun (i, el, b) ↦ render i el b).run s := by
  rw [run_refresh_built hb, h.relatedTo_eq]

theorem run_refresh_unbuilt {s : Engine D} (h : s.bindings.built = false) (p : Path) :
    (refresh p).run s =
      match scan.run s with
      | .ok _ s => .ok () s
      | .error e s => .error e s := by
  simp only [refresh, EStateM.run_bind, EStateM.run_get, h, Bool.false_eq_true, if_false]
  change EStateM.map (fun _ ↦ ()) scan s = _
  simp only [EStateM.map, EStateM.run]
  cases scan s <;> rfl

theorem of_run_refresh_unbuilt {s s' : Engine D} (hb : s.bindings.built = false) {p : Path}
    (h : (refresh p).run s = .ok () s') : ∃ n, scan.run s = .ok n s' := by
  rw [run_refresh_unbuilt hb] at h
  cases hs : scan.run s with
  | error e s₁ =>
    rw [hs] at h
    cases h
  | ok n s₁ =>
    rw [hs] at h
    cases h
    exact ⟨n, rfl⟩

theorem run_store (run : Callback D → EngineM D Unit) (p : Path) (v : Json) (s : Engine D) :
    (store run p v).run s =
      match (refresh p).run { s with data := (s.data.set p v).2 } with
      | .ok () s => ((s.observers.relatedTo p).forM run).run s
      | .error e s => .error e s := by
  simp only [store, EStateM.run_bind, EStateM.run_modify]
  cases (refresh p).run { s with data := (s.data.set p v).2 } <;> rfl

theorem run_assign_zero (p : Path) (v : Json) (s : Engine D) :
    (assign 0 p v).run s = .error (.dispatchDepth s.options.maxDispatchDepth p) s := rfl

theorem run_assign_succ (n : Nat) (p : Path) (v : Json) (s : Engine D) :
    (assign (n + 1) p v).run s =
      match (store (perform (assign n)) p v).run { s with depth := s.depth + 1 } with
      | .ok () s => .ok () { s with depth := s.depth - 1 }
      | .error e s => .error e { s with depth := s.depth - 1 } := by
  simp only [assign, EStateM.run_bind, EStateM.run_modify, run_attempt]
  cases (store (perform (assign n)) p v).run { s with depth := s.depth + 1 } <;> rfl

variable (write : Path → Json → EngineM D Unit)

theorem run_perform_inspect (next : View D → Callback D) (s : Engine D) :
    (perform write (.inspect next)).run s = (perform write (next s.view)).run s := rfl

theorem run_perform_set (p : Path) (v : Json) (next : Except Error Unit → Callback D)
    (s : Engine D) :
    (perform write (.set p v next)).run s =
      (perform write (next (outcome (write p v) s))).run (after (write p v) s) := by
  simp only [perform, EStateM.run_bind, run_attempt, outcome, after]
  cases (write p v).run s <;> rfl

theorem run_perform_compute (target : Path) (value : View D → Json) (sources : List Path)
    (next : Except Error Unit → Callback D) (s : Engine D) :
    (perform write (.compute target value sources next)).run s =
      (perform write (next (outcome (declare write target value sources) s))).run
        (after (declare write target value sources) s) := by
  simp only [perform, EStateM.run_bind, run_attempt, outcome, after]
  cases (declare write target value sources).run s <;> rfl

theorem run_perform_scan (next : Except Error Nat → Callback D) (s : Engine D) :
    (perform write (.scan next)).run s =
      (perform write (next (outcome scan s))).run (after scan s) := by
  simp only [perform, EStateM.run_bind, run_attempt, outcome, after]
  cases scan.run s <;> rfl

end DataBinding.Engine
