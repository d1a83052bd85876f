import DataBinding.Filter.Basic
import DataBinding.Filter.Replacement
import DataBinding.Text.Case
import DataBinding.Text.Pieces

namespace DataBinding.Filter

abbrev Result := Except FilterError Json

def argument (args : List String) (i : Nat) : Except FilterError String :=
  match args[i]? with
  | some a => .ok a
  | none => .error (.missingArgument i)

def expectString : Json → Except FilterError String
  | .string s => .ok s
  | _ => .error .notString

def expectArray : Json → Except FilterError (List Json)
  | .array vs => .ok vs
  | _ => .error .notArray

def ofFunction (name : String) (arity : Arity) (f : Json → List String → Result) : Filter :=
  ⟨name, arity, fun v args ↦ .done (f v args)⟩

def onText (f : List Char → List Char) (v : Json) : Result := do
  return .string (String.ofList (f (← expectString v).toList))

def attrText (v : Json) (args : List String) : Except FilterError String :=
  if args.length = 3 then
    if Json.isTruthy (some v) then argument args 1 else argument args 2
  else .ok v.display

/-- Sets an attribute and answers the content as it is, so that rendering changes nothing else. -/
def attrScript (v : Json) (args : List String) : Script :=
  match attrText v args, argument args 0 with
  | .ok text, .ok name => .setAttribute name text (.innerHtml fun html ↦ .done (.ok (.string html)))
  | .error e, _ | _, .error e => .done (.error e)

def attr : Filter := ⟨"attr", .between 1 (some 3), attrScript⟩

def upcase : Filter := ofFunction "upcase" (.exactly 0) fun v _ ↦ onText Text.uppercase v

def downcase : Filter := ofFunction "downcase" (.exactly 0) fun v _ ↦ onText Text.lowercase v

/-- Replaces every match of a pattern that an engine compiles and finds. -/
def replaceOver {ρ : Type} (searcher : Pattern.Searcher ρ) : Filter :=
  ofFunction "replace" (.exactly 2) fun v args ↦ do
    let s ← expectString v
    let pattern ← (searcher.compile (← argument args 0)).mapError .pattern
    let replacement := (← argument args 1).toList
    return .string (String.ofList
      (searcher.replaceAll pattern (fun c ↦ Replacement.expand c replacement) s.toList))

def replace : Filter := replaceOver Pattern.searcher

def replaceFirst : Filter :=
  ofFunction "replaceFirst" (.exactly 2) fun v args ↦ do
    let s ← expectString v
    let found ← argument args 0
    let replacement ← argument args 1
    return .string (String.ofList (Text.replaceFirst found.toList replacement.toList s.toList))

def pieces (s delimiter : List Char) : List (List Char) :=
  match delimiter with
  | [] => s.map ([·])
  | c :: d => Text.split c d s

def split : Filter :=
  ofFunction "split" (.exactly 1) fun v args ↦ do
    let s ← expectString v
    let delimiter ← argument args 0
    return .array ((pieces s.toList delimiter.toList).map fun p ↦ .string (String.ofList p))

def join : Filter :=
  ofFunction "join" (.exactly 1) fun v args ↦ do
    let vs ← expectArray v
    let delimiter ← argument args 0
    return .string (String.ofList (delimiter.toList.intercalate (vs.map Json.render)))

def firstOf : Json → Json
  | .array (v :: _) => v
  | .string s => (s.toList.head?.map fun c ↦ Json.string (String.ofList [c])).getD .null
  | _ => .null

def lastOf : Json → Json
  | .array vs => vs.getLast?.getD .null
  | .string s => (s.toList.getLast?.map fun c ↦ Json.string (String.ofList [c])).getD .null
  | _ => .null

def first : Filter := ofFunction "first" (.exactly 0) fun v _ ↦ .ok (firstOf v)

def last : Filter := ofFunction "last" (.exactly 0) fun v _ ↦ .ok (lastOf v)

def builtinOver {ρ : Type} (searcher : Pattern.Searcher ρ) : List Filter :=
  [attr, upcase, downcase, replaceOver searcher, replaceFirst, split, join, first, last]

def builtin : List Filter := builtinOver Pattern.searcher

end DataBinding.Filter

namespace DataBinding.Filters

def builtinOver {ρ : Type} (searcher : Pattern.Searcher ρ) : Filters :=
  (Filter.builtinOver searcher).foldl insert empty

def builtin : Filters := builtinOver Pattern.searcher

end DataBinding.Filters
