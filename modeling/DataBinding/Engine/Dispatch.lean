import DataBinding.Engine.Rendering

namespace DataBinding.Engine

variable {D : Type} [Document D]

def recompute (target : Path) (value : View D → Json) : Callback D :=
  .inspect fun s ↦ .set target (value s) fun
    | .ok () => .done
    | .error e => .fail e

def declared (target : Path) (value : View D → Json) (sources : List Path) (s : Engine D) :
    Engine D :=
  { s with
    computed := s.computed.insert target sources
    observers := sources.foldl (fun o p ↦ o.observe p (recompute target value)) s.observers }

/-- Declares a computed property and computes it for the first time. Without sources there is
nothing to declare. -/
def declare (assign : Path → Json → EngineM D Unit) (target : Path) (value : View D → Json)
    (sources : List Path) : EngineM D Unit := do
  if sources.isEmpty then return
  match (← get).computed.cycleVia target sources with
  | some source => throw (.cyclicCompute target source)
  | none =>
    modify (declared target value sources)
    assign target (value (← get).view)

def perform (assign : Path → Json → EngineM D Unit) : Callback D → EngineM D Unit
  | .done => return
  | .fail e => throw e
  | .note entry next => do
    modify (·.record (.noted entry))
    perform assign next
  | .inspect next => do perform assign (next (← get).view)
  | .set p v next => do perform assign (next (← (assign p v).attempt))
  | .observe p callback next => do
    modify fun s ↦ { s with observers := s.observers.observe p callback }
    perform assign next
  | .compute target value sources next => do
    perform assign (next (← (declare assign target value sources).attempt))
  | .scan next => do perform assign (next (← EngineM.attempt scan))
  | .defineFilter f next => do
    modify fun s ↦ { s with filters := s.filters.define f }
    perform assign next
  | .edit change next => do
    modify fun s ↦ { s with document := change s.document }
    perform assign next

/-- Stores a value, brings the document up to date, then runs the callbacks that are triggered as
things stand then, up to the first one that fails. -/
def store (run : Callback D → EngineM D Unit) (p : Path) (v : Json) : EngineM D Unit := do
  modify fun s ↦ { s with data := (s.data.set p v).2 }
  refresh p
  ((← get).observers.relatedTo p).forM run

/-- Writes to a path while at most `remaining` further writes may be in progress at once. -/
def assign : Nat → Path → Json → EngineM D Unit
  | 0, p, _ => do throw (.dispatchDepth (← get).options.maxDispatchDepth p)
  | remaining + 1, p, v => do
    modify fun s ↦ { s with depth := s.depth + 1 }
    let outcome ← (store (perform (assign remaining)) p v).attempt
    modify fun s ↦ { s with depth := s.depth - 1 }
    EngineM.ofExcept outcome

def run (c : Callback D) : EngineM D Unit := do
  let s ← get
  perform (assign (s.options.maxDispatchDepth - s.depth)) c

end Engine

namespace Callback

variable {D : Type}

def isBlankText (s : String) : Bool := (Text.trim s.toList).isEmpty

def setText (path : String) (v : Json) (next : Except Error Unit → Callback D) : Callback D :=
  if isBlankText path then next (.ok ())
  else
    match Path.parse path with
    | .error e => next (.error (.path e))
    | .ok p => .set p v next

def observeText (path : String) (callback : Callback D)
    (next : Except Error Unit → Callback D) : Callback D :=
  if isBlankText path then next (.ok ())
  else
    match Path.parse path with
    | .error e => next (.error (.path e))
    | .ok p => .observe p callback (next (.ok ()))

def computeText (target : String) (value : View D → Json) (sources : List String)
    (next : Except Error Unit → Callback D) : Callback D :=
  if isBlankText target then next (.ok ())
  else
    match Path.parse target, (sources.filter (!isBlankText ·)).mapM Path.parse with
    | .error e, _ | .ok _, .error e => next (.error (.path e))
    | .ok t, .ok ss => .compute t value ss next

end Callback

end DataBinding
