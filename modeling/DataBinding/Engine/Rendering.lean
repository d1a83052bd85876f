import DataBinding.Binding.Parser
import DataBinding.Engine.Basic

namespace DataBinding

/-- An element of a document as filters see it, with the writes they make, the last one first. -/
structure ElementIn (D : Type) where
  document : D
  element : ElementId
  writes : List Write

instance {D : Type} [Document D] : FilterTarget (ElementIn D) where
  attribute? b name := Document.attribute? b.document b.element name
  setAttribute b name value :=
    let w := Write.attr b.element name value
    { b with document := w.apply b.document, writes := w :: b.writes }
  innerHtml b := Document.innerHtml b.document b.element

namespace Engine

variable {D : Type} [Document D]

def wrote (position : Nat) (w : Write) (s : Engine D) : Engine D :=
  { s with document := w.apply s.document, shown := (position, w) :: s.shown }.record (.wrote w)

def write (position : Nat) (w : Write) : EngineM D Unit := modify (wrote position w)

def applyFilters (el : ElementId) (chain : List Clause) (v : Option Json) :
    EngineM D Json := fun s ↦
  let result := (Clause.applyAll s.filters chain v).run (some ⟨s.document, el, []⟩)
  let after (b : Option (ElementIn D)) : Engine D :=
    match b with
    | some b => { s with document := b.document, journal := b.writes.map .wrote ++ s.journal }
    | none => s
  match result with
  | .ok v b => .ok v (after b)
  | .error e b => .error (.filter e) (after b)

def render (position : Nat) (el : ElementId) (b : Binding) : EngineM D Unit := do
  let v := (← get).data.get? b.property
  match b with
  | .chain _ filters =>
    let out ← applyFilters el filters v
    write position (.html el out.display)
  | .content _ => write position (.html el (Json.displayOption v))
  | .attr _ name truthy falsy =>
    let text :=
      if b.hasLiterals then (if Json.isTruthy v then truthy else falsy) else Json.displayOption v
    write position (.attr el name text)

def bind (name : String) (el : ElementId) : EngineM D Unit := do
  let s ← get
  match Document.attribute? s.document el name with
  | none => return
  | some expression =>
    match Binding.parse s.options.style expression with
    | .error e => throw (.binding e)
    | .ok b =>
      render s.bindings.size el b
      modify fun s ↦ { s with bindings := s.bindings.push el b }

/-- Scans the document for bindings, shows each one and answers their number. A scan that fails
leaves the index unbuilt. -/
def scan : EngineM D Nat := do
  let s ← get
  let name := s.options.bindingAttribute
  set { s with bindings := Bindings.empty }
  (Document.elementsWith s.document name).forM (bind name)
  modify fun s ↦ { s with bindings := { s.bindings with built := true } }
  return (← get).bindings.size

/-- Shows the bindings that a write to `p` affects. The first time, the document is scanned. -/
def refresh (p : Path) : EngineM D Unit := do
  let s ← get
  if s.bindings.built then (s.bindings.relatedTo p).forM fun (i, el, b) ↦ render i el b
  else discard scan

end Engine

end DataBinding
