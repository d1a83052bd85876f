import DataBinding.Document

namespace DataBinding

namespace Markup

inductive Child where
  | text (s : String)
  /-- Markup, written out as it is. -/
  | html (s : String)
  | element (el : ElementId)
deriving DecidableEq, Repr

def Child.element? : Child → Option ElementId
  | element el => some el
  | _ => none

structure Node where
  tag : String
  attrs : List (String × String)
  children : List Child
  parent : Option ElementId
  attached : Bool
deriving DecidableEq, Repr

def substitute (c : Char) (replacement : String) (s : List Char) : List Char :=
  s.flatMap fun d ↦ if d = c then replacement.toList else [d]

def encodeText (s : List Char) : List Char :=
  substitute '>' "&gt;" (substitute '<' "&lt;" (substitute '&' "&amp;" s))

def encodeAttr (s : List Char) : List Char :=
  substitute '<' "&lt;" (substitute '"' "&quot;" (substitute '&' "&amp;" s))

def voidElements : List String :=
  ["area", "base", "br", "col", "embed", "hr", "img", "input", "link", "meta", "source", "track",
   "wbr"]

def putAttr (name value : String) : List (String × String) → List (String × String)
  | [] => [(name, value)]
  | (k, v) :: attrs => if k = name then (k, value) :: attrs else (k, v) :: putAttr name value attrs

def attrsHtml (attrs : List (String × String)) : List Char :=
  attrs.flatMap fun (k, v) ↦ ' ' :: (k.toList ++ ('=' :: '"' :: (encodeAttr v.toList ++ ['"'])))

def Child.toHtml (elementHtml : ElementId → List Char) : Child → List Char
  | text s => encodeText s.toList
  | html s => s.toList
  | element el => elementHtml el

end Markup

open Markup in
/-- A table of elements, and those at the top. Elements that were removed stay in the table: queries
skip them, but they can still be read and written. -/
structure Markup where
  nodes : List Node
  roots : List ElementId
deriving DecidableEq, Repr

namespace Markup

def empty : Markup := ⟨[], []⟩

def size (d : Markup) : Nat := d.nodes.length

def node? (d : Markup) (el : ElementId) : Option Node := d.nodes[el]?

def modifyNode (d : Markup) (el : ElementId) (f : Node → Node) : Markup :=
  { d with nodes := d.nodes.modify el f }

def isAttached (d : Markup) (el : ElementId) : Bool := (d.node? el).any (·.attached)

def tag? (d : Markup) (el : ElementId) : Option String := (d.node? el).map (·.tag)

def appendChild (d : Markup) (parent : ElementId) (c : Child) : Markup :=
  d.modifyNode parent fun node ↦ { node with children := node.children ++ [c] }

/-- Appends an element under `parent`, or at the top; its number comes first. Under a parent that
does not exist it comes to the top without being attached. -/
def appendElement (d : Markup) (parent : Option ElementId) (tag : String)
    (attrs : List (String × String)) : ElementId × Markup :=
  let id := d.size
  let node : Node := ⟨tag, attrs, [], parent, parent.all d.isAttached⟩
  let d := { d with nodes := d.nodes ++ [node] }
  match parent.filter fun p ↦ decide (p < d.size) with
  | some p => (id, d.appendChild p (.element id))
  | none => (id, { d with roots := d.roots ++ [id] })

def appendText (d : Markup) (parent : ElementId) (s : String) : Markup :=
  d.appendChild parent (.text s)

def childElements (d : Markup) (el : ElementId) : List ElementId :=
  ((d.node? el).map fun node ↦ node.children.filterMap Child.element?).getD []

/-- Marks an element and what is below it, down to `depth` levels, as not attached. -/
def detachTo : Nat → ElementId → Markup → Markup
  | 0, _, d => d
  | depth + 1, el, d =>
    (d.childElements el).foldl (fun d child ↦ detachTo depth child d)
      (d.modifyNode el ({ · with attached := false }))

def detach (d : Markup) (el : ElementId) : Markup := detachTo d.size el d

def orphan (d : Markup) (el : ElementId) : Markup :=
  d.modifyNode el ({ · with parent := none })

/-- Takes an element with all that is below it out of the document. -/
def remove (d : Markup) (el : ElementId) : Markup :=
  match d.node? el with
  | none => d
  | some node =>
    let d :=
      match node.parent with
      | some p => d.modifyNode p fun node ↦
          { node with children := node.children.filter (· != Child.element el) }
      | none => { d with roots := d.roots.filter (· != el) }
    (d.orphan el).detach el

/-- An element and those below it, down to `depth` levels, in preorder. -/
def subtreeTo (d : Markup) : Nat → ElementId → List ElementId
  | 0, _ => []
  | depth + 1, el =>
    match d.node? el with
    | none => []
    | some _ => el :: (d.childElements el).flatMap (subtreeTo d depth)

def preorder (d : Markup) : List ElementId := d.roots.flatMap (d.subtreeTo d.size)

def outerHtmlTo (d : Markup) : Nat → ElementId → List Char
  | 0, _ => []
  | depth + 1, el =>
    match d.node? el with
    | none => []
    | some node =>
      let tag := node.tag.toList
      '<' :: (tag ++ (attrsHtml node.attrs ++
        if node.children.isEmpty && voidElements.contains node.tag then [' ', '/', '>']
        else '>' :: (node.children.flatMap (Child.toHtml (outerHtmlTo d depth)) ++
          ('<' :: '/' :: (tag ++ ['>'])))))

def outerHtml (d : Markup) (el : ElementId) : String := String.ofList (d.outerHtmlTo d.size el)

def innerHtml (d : Markup) (el : ElementId) : String :=
  String.ofList <|
    match d.node? el with
    | none => []
    | some node => node.children.flatMap (Child.toHtml (d.outerHtmlTo d.size))

def toHtml (d : Markup) : String := String.ofList (d.roots.flatMap (d.outerHtmlTo d.size))

def attribute? (d : Markup) (el : ElementId) (name : String) : Option String := do
  (← d.node? el).attrs.lookup name

def setAttribute (d : Markup) (el : ElementId) (name value : String) : Markup :=
  d.modifyNode el fun node ↦ { node with attrs := putAttr name value node.attrs }

def elementsWith (d : Markup) (name : String) : List ElementId :=
  d.preorder.filter fun el ↦ (d.node? el).any fun node ↦ node.attrs.any (·.1 == name)

def findById? (d : Markup) (id : String) : Option ElementId :=
  d.preorder.find? fun el ↦ d.attribute? el "id" == some id

/-- Replaces the content of an element by markup. Writing the markup that is already there keeps
the elements in it; otherwise they are taken out of the document. -/
def setInnerHtml (d : Markup) (el : ElementId) (html : String) : Markup :=
  if d.innerHtml el = html then d
  else
    let old := d.childElements el
    let content := if html.isEmpty then [] else [Child.html html]
    let d := d.modifyNode el ({ · with children := content })
    old.foldl (fun d child ↦ (d.orphan child).detach child) d

instance : Document Markup where
  elementsWith := elementsWith
  attribute? := attribute?
  setAttribute := setAttribute
  innerHtml := innerHtml
  setInnerHtml := setInnerHtml

end Markup

end DataBinding
