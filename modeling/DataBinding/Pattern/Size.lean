import DataBinding.Pattern.Form
import DataBinding.Text.Utf8
import Std.Data.HashMap

namespace DataBinding.Pattern

open Text

inductive Direction where
  | forwards
  | backwards
deriving DecidableEq, Repr

structure Layout where
  states : Nat
  listed : Nat
  isOpen : Bool

namespace Layout

def init : Layout := ⟨0, 0, false⟩

def size (l : Layout) : Nat := 32 * l.states + l.listed

def limit : Nat := 10 * Nat.pow 2 20

def isTooLarge (l : Layout) : Bool := decide (limit < l.size)

def step (l : Layout) : Layout := ⟨l.states + 1, l.listed, false⟩

def steps (l : Layout) (n : Nat) : Layout := ⟨l.states + n, l.listed, false⟩

def branch (l : Layout) (ranges : Nat) : Layout := ⟨l.states + 1, l.listed + 8 * ranges, false⟩

def choice (l : Layout) (alternatives : Nat) : Layout :=
  ⟨l.states + 1, l.listed + 4 * alternatives, false⟩

def goOn (l : Layout) : Layout := ⟨l.states, l.listed + if l.isOpen then 4 else 0, false⟩

def leaveOpen (l : Layout) : Layout := { l with isOpen := true }

def copies (f : Layout → Layout) : Nat → Layout → Layout
  | 0, l => l
  | n + 1, l => if l.isTooLarge then l else copies f n (f l.goOn)

end Layout

inductive ByteTree where
  | node (edges : List (ByteRange × ByteTree))

namespace ByteTree

/-- Puts together what starts alike, down to some depth. -/
def ofSequences : Nat → List (List ByteRange) → ByteTree
  | 0, _ => node []
  | n + 1, sequences =>
    node ((sequences.splitBy fun a b ↦ a.head? == b.head?).filterMap fun group ↦
      match group with
      | (r :: _) :: _ => some (r, ofSequences n (group.map List.tail))
      | _ => none)

abbrev Numbers := Std.HashMap (List (ByteRange × Nat)) Nat

mutual

def number : ByteTree → Numbers → Numbers × Nat
  | node [], known => (known, 0)
  | node (e :: es), known =>
    let (known, edges) := numberEdges (e :: es) known
    match known[edges]? with
    | some n => (known, n)
    | none => (known.insert edges (known.size + 1), known.size + 1)

def numberEdges : List (ByteRange × ByteTree) → Numbers → Numbers × List (ByteRange × Nat)
  | [], known => (known, [])
  | (r, t) :: es, known =>
    let (known, n) := t.number known
    let (known, edges) := numberEdges es known
    (known, (r, n) :: edges)

end

end ByteTree

/-- A machine for a set that reads forwards shares states wherever what follows is alike. -/
def Layout.setForwards (s : CharSet) (l : Layout) : Layout :=
  let (known, _) := (ByteTree.ofSequences 4 s.byteSequences).number ∅
  known.fold (fun l edges _ ↦ l.branch edges.length) l.step

/-- A state that reads a range of bytes and goes on at another state. -/
structure Suffix where
  next : Nat
  bytes : ByteRange
deriving DecidableEq

def Suffix.slot (s : Suffix) : Nat :=
  let mix (h : UInt64) (n : Nat) := (h ^^^ n.toUInt64) * 1099511628211
  (mix (mix (mix 14695981039346656037 s.next) s.bytes.first) s.bytes.last).toNat % 1000

/-- Suffixes with the numbers of their states, each in its place. A later one takes the place of an
earlier one. -/
structure Suffixes where
  states : Nat
  slots : Array (Option (Suffix × Nat))

namespace Suffixes

/-- The state that reads a range of bytes and goes on at `next`: one that is remembered, or a new
one. -/
def find (m : Suffixes) (next : Nat) (bytes : ByteRange) : Suffixes × Nat :=
  let suffix : Suffix := ⟨next, bytes⟩
  match (m.slots[suffix.slot]?).join.filter (decide <| ·.1 = suffix) with
  | some (_, n) => (m, n)
  | none =>
    (⟨m.states + 1, m.slots.setIfInBounds suffix.slot (some (suffix, m.states))⟩, m.states)

def extend (last : Nat) (m : Suffixes) (sequence : List ByteRange) : Suffixes :=
  (sequence.foldl (fun (m, next) bytes ↦ m.find next bytes) (m, last)).1

end Suffixes

def Layout.setBackwards (s : CharSet) (l : Layout) : Layout :=
  let sequences := s.byteSequences
  let l := (l.choice sequences.length).step
  let m : Suffixes := ⟨l.states, Array.replicate 1000 none⟩
  l.steps ((sequences.foldl (Suffixes.extend (l.states - 1)) m).states - l.states)

def Layout.set (direction : Direction) (s : CharSet) (l : Layout) : Layout :=
  if s.isEmpty then l.step
  else if s.isAscii then l.step.branch s.ranges.length
  else
    match direction with
    | .forwards => l.setForwards s
    | .backwards => l.setBackwards s

/-- Texts by their first bytes. A text that ends at a node closes what the node has by then: later
texts start anew, so that an earlier text goes before a later one. -/
inductive TextTree where
  | node (closed : List (List (Nat × TextTree))) (active : List (Nat × TextTree))

namespace TextTree

def add : List Nat → TextTree → TextTree
  | [], node closed active => node (closed ++ [active]) []
  | b :: bs, node closed active =>
    if active.any (·.1 == b) then
      node closed (active.map fun (c, t) ↦ if c == b then (c, add bs t) else (c, t))
    else node closed (active ++ [(b, add bs (node [] []))])

def isLeaf : TextTree → Bool
  | node closed active => closed.all List.isEmpty && active.isEmpty

mutual

def lay : TextTree → Layout → Layout
  | node closed active, l =>
    let l := layGroup active (layClosed closed l)
    l.choice (closed.length + ((closed ++ [active]).filter (!·.isEmpty)).length)

def layClosed : List (List (Nat × TextTree)) → Layout → Layout
  | [], l => l
  | edges :: rest, l => layClosed rest (layGroup edges l)

def layGroup : List (Nat × TextTree) → Layout → Layout
  | [], l => l
  | (b, t) :: edges, l =>
    let l := layEdges ((b, t) :: edges) l
    if edges.isEmpty then l.step else l.branch (edges.length + 1)

def layEdges : List (Nat × TextTree) → Layout → Layout
  | [], l => l
  | (_, t) :: edges, l => layEdges edges (if t.isLeaf then l else t.lay l)

end

end TextTree

def Direction.bytes (direction : Direction) (cs : List Char) : List Nat :=
  let bytes := cs.flatMap fun c ↦ utf8Bytes c.toNat
  match direction with
  | .forwards => bytes
  | .backwards => bytes.reverse

def Form.texts? (rs : List Form) : Option (List (List Char)) :=
  rs.mapM fun
    | .text cs => some cs
    | _ => none

def Layout.texts (direction : Direction) (texts : List (List Char)) (l : Layout) : Layout :=
  (texts.foldl (fun t cs ↦ t.add (direction.bytes cs)) (TextTree.node [] [])).lay l.step

mutual

def Form.lay (direction : Direction) : Form → Layout → Layout
  | .empty, l | .look _, l => l.step
  | .text cs, l => l.steps (direction.bytes cs).length
  | .set s, l => l.set direction s
  | .capture _ _ r, l =>
    match direction with
    | .forwards => (r.lay direction l.step).goOn.step
    | .backwards => r.lay direction l
  | .loop 0 (some 1) _ r, l => (r.lay direction (l.choice 2)).goOn.step
  | .loop 0 none _ r, l =>
    if r.consumes then (r.lay direction (l.choice 1)).goOn.leaveOpen
    else (((r.lay direction l).goOn.choice 2).choice 2).step
  | .loop least none _ r, l =>
    ((Layout.copies (r.lay direction) least l).goOn.choice 1).leaveOpen
  | .loop least (some most) _ r, l =>
    let l := if least == 0 then l.step else Layout.copies (r.lay direction) least l
    if least == most then l
    else (Layout.copies (fun l ↦ r.lay direction (l.choice 2)) (most - least) l.goOn.step).goOn
  | .concat rs, l =>
    match direction with
    | .forwards => Form.layAll direction rs l
    | .backwards => Form.layReversed direction rs l
  | .alternate rs, l =>
    match Form.texts? rs with
    | some texts => l.texts direction texts
    | none => Form.layBranches direction rs.length rs l

def Form.layAll (direction : Direction) : List Form → Layout → Layout
  | [], l => l
  | r :: rs, l => Form.layAll direction rs (r.lay direction l.goOn)

def Form.layReversed (direction : Direction) : List Form → Layout → Layout
  | [], l => l
  | r :: rs, l => r.lay direction (Form.layReversed direction rs l).goOn

/-- Lays out alternatives. The choice among them and the state that they end in come after the
second one. -/
def Form.layBranches (direction : Direction) (count : Nat) : List Form → Layout → Layout
  | [], l => l
  | [r], l => (r.lay direction l).goOn
  | r :: s :: rs, l =>
    Form.layMore direction rs
      ((s.lay direction (r.lay direction l).goOn).goOn.choice count).step

def Form.layMore (direction : Direction) : List Form → Layout → Layout
  | [], l => l
  | r :: rs, l => Form.layMore direction rs (r.lay direction l).goOn

end

def Form.isAnchored (direction : Direction) (r : Form) : Bool :=
  match direction with
  | .forwards => r.startsWith .textStart
  | .backwards => r.endsWith .textEnd

/-- The whole machine: what skips the text before a match, the match, and the state that accepts. -/
def Form.machine (direction : Direction) (r : Form) : Layout :=
  let skip :=
    if r.isAnchored direction then Layout.init.step
    else (((Layout.init.choice 1).step).branch 1).leaveOpen
  (Form.lay direction (.capture 0 none r) skip.goOn).goOn.step

def Form.isTooLarge (r : Form) : Bool :=
  (r.machine .forwards).isTooLarge || (r.machine .backwards).isTooLarge

end DataBinding.Pattern
