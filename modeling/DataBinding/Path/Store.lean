import DataBinding.Json.Basic
import DataBinding.Path.Basic

namespace DataBinding

def indexLimit : Nat := Nat.pow 2 64

/-- The array index that a segment denotes: a decimal numeral without leading zeros. -/
def segmentIndex? (segment : String) : Option Nat :=
  match segment.toList with
  | [] => none
  | '0' :: _ :: _ => none
  | cs =>
    if cs.all Char.isDigit then
      let n := cs.foldl (fun n c ↦ 10 * n + (c.toNat - '0'.toNat)) 0
      if n < indexLimit then some n else none
    else none

namespace Json

def getAt? : List String → Json → Option Json
  | [], v => some v
  | s :: path, object members => (Members.find? s members).bind (getAt? path)
  | s :: path, array items =>
    (segmentIndex? s).bind fun i ↦ (items[i]?).bind (getAt? path)
  | _ :: _, _ => none

/-- The value at a path and the root with `value` in its place; nothing is created. -/
def replaceAt? (value : Json) : List String → Json → Option (Json × Json)
  | [], old => some (old, value)
  | s :: path, object members => do
    let (old, new) ← replaceAt? value path (← Members.find? s members)
    return (old, object (Members.insert s new members))
  | s :: path, array items => do
    let i ← segmentIndex? s
    let (old, new) ← replaceAt? value path (← items[i]?)
    return (old, array (items.set i new))
  | _ :: _, _ => none

/-- An array with at least `n` items. -/
def padTo (n : Nat) (items : List Json) : List Json :=
  items ++ List.replicate (n - items.length) null

def membersOrEmpty : Json → Members
  | object members => members
  | _ => []

/-- Writes `value` at a path, and answers the value that was there, `null` if there was none.
An array addressed by an index grows with `null`; any other value that cannot hold the next
segment is given up for an empty object. -/
def setAt (value : Json) : List String → Json → Json × Json
  | [], old => (old, value)
  | s :: path, v =>
    match v, segmentIndex? s with
    | array items, some i =>
      let items := padTo (i + 1) items
      let (old, new) := setAt value path (items.getD i null)
      (old, array (items.set i new))
    | v, _ =>
      let members := v.membersOrEmpty
      let (old, new) := setAt value path ((Members.find? s members).getD null)
      (old, object (Members.insert s new members))

def get? (root : Json) (p : Path) : Option Json := getAt? p.segments root

def set (root : Json) (p : Path) (value : Json) : Json × Json := setAt value p.segments root

def replace? (root : Json) (p : Path) (value : Json) : Option (Json × Json) :=
  replaceAt? value p.segments root

end Json

end DataBinding
