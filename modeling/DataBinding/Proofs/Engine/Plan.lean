import DataBinding.Proofs.Engine.Cascade

namespace DataBinding

/-- A program of actions on the store. Callbacks that otherwise do the same are told apart by the
notes that they leave. -/
inductive Plan where
  | done
  | fail (e : Error)
  | note (entry : Json) (next : Plan)
  | read (next : Json → Plan)
  | set (path : Path) (value : Json) (next : Except Error Unit → Plan)
  | observe (path : Path) (callback : Plan) (next : Plan)
  | compute (target : Path) (value : Json → Json) (sources : List Path)
      (next : Except Error Unit → Plan)

namespace Plan

open Callback (isBlankText)

def program (D : Type) : Plan → Callback D
  | done => .done
  | fail e => .fail e
  | note entry next => .note entry (next.program D)
  | read next => .inspect fun s ↦ (next s.data).program D
  | set p v next => .set p v fun o ↦ (next o).program D
  | observe p callback next => .observe p (callback.program D) (next.program D)
  | compute target value sources next =>
    .compute target (fun s ↦ value s.data) sources fun o ↦ (next o).program D

/-- Different plans are different programs, over documents of which there is one. -/
theorem program_injective {D : Type} [Nonempty D] : Function.Injective (program D) := by
  -- every store is the data of some view
  have hview (data : Json) : ∃ s : View D, s.data = data := by
    obtain ⟨d⟩ := ‹Nonempty D›
    exact ⟨{ (State.init d {} : View D) with data := data }, rfl⟩
  have hread {α : Type} {f g : Json → α} (h : (fun s : View D ↦ f s.data) = fun s ↦ g s.data) :
      f = g := by
    funext data
    obtain ⟨s, rfl⟩ := hview data
    exact congrFun h s
  intro a b h
  induction a generalizing b with
  | done =>
    cases b with
    | done => rfl
    | _ => cases h
  | fail e =>
    cases b with
    | fail e' =>
      cases h
      rfl
    | _ => cases h
  | note entry next ih =>
    cases b with
    | note entry' next' =>
      obtain ⟨rfl, hn⟩ := Callback.note.inj h
      rw [ih hn]
    | _ => cases h
  | read next ih =>
    cases b with
    | read next' =>
      have hn : (fun data ↦ (next data).program D) = fun data ↦ (next' data).program D :=
        hread (Callback.inspect.inj h)
      exact congrArg read (funext fun data ↦ ih data (congrFun hn data))
    | _ => cases h
  | set p v next ih =>
    cases b with
    | set p' v' next' =>
      obtain ⟨rfl, rfl, hn⟩ := Callback.set.inj h
      exact congrArg (set p v) (funext fun o ↦ ih o (congrFun hn o))
    | _ => cases h
  | observe p c next ihc ih =>
    cases b with
    | observe p' c' next' =>
      obtain ⟨rfl, hc, hn⟩ := Callback.observe.inj h
      rw [ihc hc, ih hn]
    | _ => cases h
  | compute target value sources next ih =>
    cases b with
    | compute target' value' sources' next' =>
      obtain ⟨rfl, hv, rfl, hn⟩ := Callback.compute.inj h
      rw [hread hv]
      exact congrArg (compute target value' sources) (funext fun o ↦ ih o (congrFun hn o))
    | _ => cases h

def returning : Except Error Unit → Plan
  | .ok () => .done
  | .error e => .fail e

def recompute (target : Path) (value : Json → Json) : Plan :=
  .read fun data ↦ .set target (value data) returning

def valueAt (path : String) (data : Json) : Option Json :=
  (Path.parse path).toOption.bind data.get?

def getText (path : String) (next : Option Json → Plan) : Plan :=
  .read fun data ↦ next (valueAt path data)

def setText (path : String) (v : Json) (next : Except Error Unit → Plan) : Plan :=
  if isBlankText path then next (.ok ())
  else
    match Path.parse path with
    | .error e => next (.error (.path e))
    | .ok p => .set p v next

def observeText (path : String) (callback : Plan) (next : Except Error Unit → Plan) : Plan :=
  if isBlankText path then next (.ok ())
  else
    match Path.parse path with
    | .error e => next (.error (.path e))
    | .ok p => .observe p callback (next (.ok ()))

def computeText (target : String) (value : Json → Json) (sources : List String)
    (next : Except Error Unit → Plan) : Plan :=
  if isBlankText target then next (.ok ())
  else
    match Path.parse target, (sources.filter (!isBlankText ·)).mapM Path.parse with
    | .error e, _ | .ok _, .error e => next (.error (.path e))
    | .ok t, .ok ss => .compute t value ss next

section Program

variable {D : Type}

@[simp] theorem program_returning (o : Except Error Unit) :
    (returning o).program D = Engine.returning o := by
  cases o <;> rfl

@[simp] theorem program_recompute (target : Path) (value : Json → Json) :
    (recompute target value).program D = Engine.recompute target fun s ↦ value s.data := by
  simp only [recompute, program, program_returning]
  rfl

theorem program_getText (path : String) (next : Option Json → Plan) :
    (getText path next).program D = .inspect fun s ↦ (next (s.get? path)).program D := rfl

theorem program_setText (path : String) (v : Json) (next : Except Error Unit → Plan) :
    (setText path v next).program D = Callback.setText path v fun o ↦ (next o).program D := by
  unfold setText Callback.setText
  split
  · rfl
  · cases Path.parse path <;> rfl

theorem program_observeText (path : String) (callback : Plan) (next : Except Error Unit → Plan) :
    (observeText path callback next).program D =
      Callback.observeText path (callback.program D) fun o ↦ (next o).program D := by
  unfold observeText Callback.observeText
  split
  · rfl
  · cases Path.parse path <;> rfl

theorem program_computeText (target : String) (value : Json → Json) (sources : List String)
    (next : Except Error Unit → Plan) :
    (computeText target value sources next).program D =
      Callback.computeText target (fun s ↦ value s.data) sources fun o ↦ (next o).program D := by
  unfold computeText Callback.computeText
  split
  · rfl
  · cases Path.parse target with
    | error e => rfl
    | ok t => cases (sources.filter (!isBlankText ·)).mapM Path.parse <;> rfl

end Program

end Plan

end DataBinding
