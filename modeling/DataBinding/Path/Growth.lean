import DataBinding.Path.Store

namespace DataBinding

/-- What stops a write. -/
inductive WriteFault where
  | overflow
  | outOfRange (index length : Nat)
  | notObject
deriving DecidableEq, Repr

namespace Json

def resize (n : Nat) (items : List Json) : List Json :=
  items.take n ++ List.replicate (n - items.length) null

/-- An array that is to hold an item at `i`; `checks` says whether sums are checked. -/
def grow (checks : Bool) (i : UInt64) (items : List Json) : Except WriteFault (List Json) :=
  if i.toNat < items.length then .ok items
  else if checks && i + 1 == 0 then .error .overflow
  else .ok (resize (i + 1).toNat items)

def itemAt (i : UInt64) (items : List Json) : Except WriteFault Json :=
  match items[i.toNat]? with
  | some item => .ok item
  | none => .error (.outOfRange i.toNat items.length)

def toObject : Json → Json
  | object members => object members
  | _ => object []

def expectObject : Json → Except WriteFault Members
  | object members => .ok members
  | _ => .error .notObject

/-- The value that a segment addresses in a container, made to hold it, and the container with
another value there. -/
def slot (checks : Bool) (s : String) (v : Json) : Except WriteFault (Json × (Json → Json)) :=
  match v, segmentIndex? s with
  | array items, some n => do
    let i := UInt64.ofNat n
    let items ← grow checks i items
    return (← itemAt i items, fun new ↦ array (items.set i.toNat new))
  | v, _ => do
    let members ← expectObject v.toObject
    return ((Members.find? s members).getD null, fun new ↦ object (Members.insert s new members))

def writeAt (checks : Bool) (value : Json) : List String → Json → Except WriteFault (Json × Json)
  | [], old => .ok (old, value)
  | s :: path, v => do
    let (child, put) ← slot checks s v
    let (old, new) ← writeAt checks value path child
    return (old, put new)

/-- Writes `value` at `p` as `set` does, if nothing stops it. -/
def write (checks : Bool) (root : Json) (p : Path) (value : Json) :
    Except WriteFault (Json × Json) :=
  writeAt checks value p.segments root

end Json

end DataBinding
