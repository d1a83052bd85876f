import DataBinding.Binding.Basic
import DataBinding.Json.Decode
import DataBinding.Json.Print
import DataBinding.Text.Quoted

namespace DataBinding

structure Options where
  bindingAttribute : String := "data-binding"
  style : Binding.Style := .auto
  defaultFilters : Bool := true
  maxDispatchDepth : Nat := 64
deriving DecidableEq, Repr

namespace Options

open Json

def styleNamed? (name : String) : Option Binding.Style :=
  match name with
  | "auto" => some .auto
  | "filterChain" => some .filterChain
  | "attribute" => some .attr
  | _ => none

def styleName : Binding.Style → String
  | .auto => "auto"
  | .filterChain => "filterChain"
  | .attr => "attribute"

def readString : Tree → Option String
  | .string s => decodeString s
  | _ => none

def readBool : Tree → Option Bool
  | .bool b => some b
  | _ => none

def readNat : Tree → Option Nat
  | .number n =>
    match n.number with
    | some (.integer (.ofNat k)) => some k
    | _ => none
  | _ => none

def readStyle : Tree → Option Binding.Style
  | .string s => (decodeString s).bind styleNamed?
  | .object [(key, .null)] => (decodeString key).bind styleNamed?
  | _ => none

inductive Key where
  | bindingAttribute
  | style
  | defaultFilters
  | maxDispatchDepth
deriving DecidableEq, Repr

def Key.all : List Key := [bindingAttribute, style, defaultFilters, maxDispatchDepth]

def Key.named? (name : String) : Option Key :=
  match name with
  | "bindingAttribute" => some bindingAttribute
  | "syntax" => some style
  | "defaultFilters" => some defaultFilters
  | "maxDispatchDepth" => some maxDispatchDepth
  | _ => none

def put (o : Options) (key : Key) (t : Tree) : Option Options :=
  match key with
  | .bindingAttribute => (readString t).map ({ o with bindingAttribute := · })
  | .style => (readStyle t).map ({ o with style := · })
  | .defaultFilters => (readBool t).map ({ o with defaultFilters := · })
  | .maxDispatchDepth => (readNat t).map ({ o with maxDispatchDepth := · })

/-- Options by key. Other keys are skipped, whatever they hold; no option comes twice. -/
def readMembers (o : Options) (seen : List Key) : List (List Piece × Tree) → Option Options
  | [] => some o
  | (name, t) :: ms => do
    match Key.named? (← decodeString name) with
    | none => readMembers o seen ms
    | some key =>
      if key ∈ seen then none else readMembers (← o.put key t) (key :: seen) ms

def readItems (o : Options) : List Key → List Tree → Option Options
  | _, [] => some o
  | [], _ :: _ => none
  | key :: keys, t :: ts => do readItems (← o.put key t) keys ts

def ofTree? : Tree → Option Options
  | .object members => readMembers {} [] members
  | .array items => readItems {} Key.all items
  | _ => none

def parse? (text : String) : Option Options := (Tree.read text.toList).bind ofTree?

def toJson (o : Options) : Json :=
  .object
    [("bindingAttribute", .string o.bindingAttribute), ("syntax", .string (styleName o.style)),
     ("defaultFilters", .bool o.defaultFilters),
     ("maxDispatchDepth", .number (.integer o.maxDispatchDepth))]

def inspect (o : Options) : String :=
  "Options \x7b binding_attribute: " ++ Text.quote o.bindingAttribute ++ ", syntax: " ++
    (match o.style with
    | .auto => "Auto"
    | .filterChain => "FilterChain"
    | .attr => "Attribute") ++ ", default_filters: " ++
    (if o.defaultFilters then "true" else "false") ++ ", max_dispatch_depth: " ++
    toString o.maxDispatchDepth ++ " \x7d"

end Options

end DataBinding
