import DataBinding.Markup.OfJson
import DataBinding.Engine.Bindings
import DataBinding.Engine.Dependencies
import DataBinding.Engine.Observers
import DataBinding.Engine.Options
import DataBinding.Filter.Builtin
import DataBinding.Json.Inspect
import DataBinding.Path.Store

namespace DataBinding

inductive Error where
  | path (e : PathError)
  | binding (e : Binding.ParseError)
  | filter (e : FilterError)
  | cyclicCompute (target via : Path)
  | dispatchDepth (limit : Nat) (path : Path)
deriving Repr

def Error.message : Error → String
  | path e => e.message
  | binding e => e.message
  | filter e => e.message
  | cyclicCompute target via =>
    "compute can't handle cyclic references (" ++ target.text ++ " via " ++ via.text ++ ")"
  | dispatchDepth limit p =>
    "dispatch depth limit " ++ toString limit ++ " exceeded while setting '" ++ p.text ++ "'"

/-- What an engine does that can be seen from outside. -/
inductive Event where
  | wrote (w : Write)
  | noted (entry : Json)
deriving Repr

/-- An engine over documents `D` whose observers are callbacks `κ`. -/
structure State (D κ : Type) where
  data : Json
  observers : Observers κ
  filters : Filters
  bindings : Bindings
  computed : Dependencies
  document : D
  options : Options
  depth : Nat
  journal : List Event
  /-- The writes that bindings made, each with the position of its binding, the last one first. -/
  shown : List (Nat × Write)

namespace State

variable {D κ : Type}

def init (document : D) (options : Options) : State D κ where
  data := .object []
  observers := ∅
  filters := if options.defaultFilters then .builtin else ∅
  bindings := ∅
  computed := ∅
  document := document
  options := options
  depth := 0
  journal := []
  shown := []

/-- The engine as it shows itself to callbacks and computed properties: without the callbacks. -/
def view (s : State D κ) : State D Unit :=
  { s with observers := s.observers.map fun _ ↦ () }

def get? (s : State D κ) (path : String) : Option Json :=
  (Path.parse path).toOption.bind s.data.get?

def lastShown? (s : State D κ) (position : Nat) : Option Write := s.shown.lookup position

def record (s : State D κ) (e : Event) : State D κ := { s with journal := e :: s.journal }

def inspect (s : State D κ) (document : String) : String :=
  "Tight \x7b data: " ++ s.data.inspect ++ ", observers: " ++ s.observers.inspect ++
    ", bindings: " ++ toString s.bindings.size ++ ", computed: " ++ toString s.computed.size ++
    ", document: " ++ document ++ ", options: " ++ s.options.inspect ++ " \x7d"

end State

abbrev View (D : Type) := State D Unit

/-- A program of engine actions. Actions that can fail give their outcome to the rest of the
program. -/
inductive Callback (D : Type) where
  | done
  | fail (e : Error)
  | note (entry : Json) (next : Callback D)
  | inspect (next : View D → Callback D)
  | set (path : Path) (value : Json) (next : Except Error Unit → Callback D)
  | observe (path : Path) (callback : Callback D) (next : Callback D)
  | compute (target : Path) (value : View D → Json) (sources : List Path)
      (next : Except Error Unit → Callback D)
  | scan (next : Except Error Nat → Callback D)
  | defineFilter (f : Filter) (next : Callback D)
  | edit (change : D → D) (next : Callback D)

instance {D : Type} : Inhabited (Callback D) := ⟨.done⟩

abbrev Engine (D : Type) := State D (Callback D)

/-- Actions on an engine. What was done before a failure stays done. -/
abbrev EngineM (D : Type) := EStateM Error (Engine D)

namespace EngineM

variable {D α : Type}

/-- Runs an action and gives its outcome instead of failing. -/
def attempt (x : EngineM D α) : EngineM D (Except Error α) := fun s ↦
  match x.run s with
  | .ok a s => .ok (.ok a) s
  | .error e s => .ok (.error e) s

def ofExcept : Except Error α → EngineM D α
  | .ok a => pure a
  | .error e => throw e

end EngineM

end DataBinding
