import DataBinding.Filter.Clause
import DataBinding.Json.Print
import DataBinding.Pattern.Basic

namespace DataBinding

inductive FilterError where
  | argumentCount (filter : String) (arity : Arity) (given : Nat)
  | unknownFilter (filter : String)
  | execution (filter : String) (source : FilterError)
  | notString
  | notArray
  | noElement
  | pattern (e : Pattern.PatternError)
  | thrown (message : String)
  | missingArgument (index : Nat)
deriving DecidableEq, Repr

namespace FilterError

def message : FilterError → String
  | argumentCount filter arity given =>
    "filter '" ++ filter ++ "' needs " ++ arity.text ++ " (given " ++ toString given ++ ")"
  | unknownFilter filter => "filter '" ++ filter ++ "' is not defined"
  | execution filter source => "filter '" ++ filter ++ "' returned error: " ++ source.message
  | notString => "NOT_STRING"
  | notArray => "NOT_ARRAY"
  | noElement => "filter needs a bound element"
  | pattern e => "invalid pattern: " ++ e.message
  | thrown message => message
  | missingArgument index => "argument " ++ toString index ++ " is missing"

end FilterError

class FilterTarget (E : Type) where
  attribute? : E → String → Option String
  setAttribute : E → String → String → E
  innerHtml : E → String

/-- A filter's dealings with the bound element, and what it answers. -/
inductive Script where
  | done (result : Except FilterError Json)
  | readAttribute (name : String) (next : Option String → Script)
  | setAttribute (name value : String) (next : Script)
  | innerHtml (next : String → Script)

namespace Script

variable {E : Type} [FilterTarget E]

def run : Script → EStateM FilterError (Option E) Json
  | done (.ok v) => pure v
  | done (.error e) => throw e
  | readAttribute name next => do
    match ← get with
    | none => throw .noElement
    | some e => (next (FilterTarget.attribute? e name)).run
  | setAttribute name value next => do
    match ← get with
    | none => throw .noElement
    | some e =>
      set (some (FilterTarget.setAttribute e name value))
      next.run
  | innerHtml next => do
    match ← get with
    | none => throw .noElement
    | some e => (next (FilterTarget.innerHtml e)).run

end Script

structure Filter where
  name : String
  arity : Arity
  script : Json → List String → Script

def Arity.boundText : Option Nat → String
  | none => "None"
  | some n => "Some(" ++ toString n ++ ")"

def Arity.debug : Arity → String
  | any => "Any"
  | exactly n => "Fixed(" ++ toString n ++ ")"
  | between least most => "Range(" ++ toString least ++ ", " ++ boundText most ++ ")"

structure Filters where
  filters : List Filter

namespace Filters

def empty : Filters := ⟨[]⟩

instance : EmptyCollection Filters := ⟨empty⟩

def find? (r : Filters) (name : String) : Option Filter :=
  r.filters.find? (·.name == name)

def contains (r : Filters) (name : String) : Bool := (r.find? name).isSome

def insert (r : Filters) (f : Filter) : Filters :=
  ⟨r.filters.filter (·.name != f.name) ++ [f]⟩

def define (r : Filters) (f : Filter) : Filters :=
  if f.name.isEmpty then r else r.insert f

def names (r : Filters) : List String :=
  (r.filters.map Filter.name).mergeSort fun a b ↦ decide (a ≤ b)

end Filters

def Arity.check (arity : Arity) (filter : String) (given : Nat) : Except FilterError Unit :=
  if arity.accepts given then .ok () else .error (.argumentCount filter arity given)

namespace Clause

variable {E : Type} [FilterTarget E] (r : Filters)

/-- Names the filter that an error came from. -/
def wrap (name : String) (x : EStateM FilterError (Option E) Json) :
    EStateM FilterError (Option E) Json :=
  tryCatch x fun e ↦ throw (.execution name e)

def apply (v : Json) (call : Clause) : EStateM FilterError (Option E) Json := do
  match r.find? call.name with
  | none => throw (.unknownFilter call.name)
  | some f =>
    match f.arity.check f.name call.args.length with
    | .error e => throw e
    | .ok () => wrap call.name (f.script v.orBlank call.args).run

/-- Applies filters from left to right. A missing value is taken as `null`, and a result `null`
becomes the empty string. -/
def applyAll (chain : List Clause) (v : Option Json) :
    EStateM FilterError (Option E) Json := do
  return (← chain.foldlM (apply r) (v.getD .null)).orBlank

end Clause

end DataBinding
