import DataBinding.Markup.Basic
import DataBinding.Json.Print

namespace DataBinding

inductive MarkupError where
  | invalidTag
  | misplacedAttributes
  | textOutsideElement
deriving DecidableEq, Repr

def MarkupError.message : MarkupError → String
  | invalidTag => "JsonML element must start with a tag name"
  | misplacedAttributes => "JsonML attributes must follow the tag"
  | textOutsideElement => "JsonML text must be inside an element"

namespace Markup

def attrsOf (members : Json.Members) : List (String × String) :=
  members.map fun (k, v) ↦ (k, v.display)

/-- Appends an element and gives the parent of its children; an empty tag appends nothing. -/
def openElement (d : Markup) (parent : Option ElementId) (tag : String)
    (attrs : List (String × String)) : Option ElementId × Markup :=
  if tag.isEmpty then (parent, d)
  else
    let (id, d) := d.appendElement parent tag attrs
    (some id, d)

def buildText (d : Markup) (parent : Option ElementId) (v : Json) : Except MarkupError Markup :=
  match parent with
  | some p => .ok (d.appendText p v.display)
  | none => .error .textOutsideElement

mutual

/-- Appends what a value describes under `parent`. -/
def build : Json → Option ElementId → Markup → Except MarkupError Markup
  | .null, _, d => .ok d
  | .object _, _, _ => .error .misplacedAttributes
  | .array (.string tag :: .object members :: children), parent, d =>
    let (parent, d) := d.openElement parent tag (attrsOf members)
    buildAll children parent d
  | .array (.string tag :: .null :: children), parent, d =>
    let (parent, d) := d.openElement parent tag []
    buildAll children parent d
  | .array (.string tag :: children), parent, d =>
    let (parent, d) := d.openElement parent tag []
    buildAll children parent d
  | .array _, _, _ => .error .invalidTag
  | .bool b, parent, d => d.buildText parent (.bool b)
  | .number n, parent, d => d.buildText parent (.number n)
  | .string s, parent, d => d.buildText parent (.string s)

def buildAll : List Json → Option ElementId → Markup → Except MarkupError Markup
  | [], _, d => .ok d
  | v :: vs, parent, d => do
    let d ← build v parent d
    buildAll vs parent d

end

def ofJson (v : Json) : Except MarkupError Markup := build v none empty

end Markup

end DataBinding
