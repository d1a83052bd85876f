import DataBinding.Path.Basic

namespace DataBinding

/-- The first sibling's key and entries, what is below it, and the siblings after it. -/
inductive Trie (α : Type) where
  | nil
  | branch (key : String) (entries : List α) (below next : Trie α)
deriving Repr, Inhabited

namespace Trie

variable {α : Type}

def singleton (x : α) : List String → Trie α
  | [] => nil
  | [key] => branch key [x] nil nil
  | key :: rest => branch key [] (singleton x rest) nil

def insert (x : α) : List String → Trie α → Trie α
  | [], t => t
  | path, nil => singleton x path
  | key :: rest, branch k xs below next =>
    if key = k then
      match rest with
      | [] => branch k (xs ++ [x]) below next
      | _ => branch k xs (insert x rest below) next
    else if key < k then
      match singleton x (key :: rest) with
      | branch k' xs' below' _ => branch k' xs' below' (branch k xs below next)
      | nil => branch k xs below next
    else branch k xs below (insert x (key :: rest) next)

def toList : Trie α → List α
  | nil => []
  | branch _ xs below next => xs ++ (below.toList ++ next.toList)

/-- The entries at one key and the trie below it. -/
def child? (key : String) : Trie α → Option (List α × Trie α)
  | nil => none
  | branch k xs below next => if key = k then some (xs, below) else child? key next

def node? : List String → Trie α → Option (List α × Trie α)
  | [], _ => none
  | [key], t => t.child? key
  | key :: rest, t => (t.child? key).bind fun n ↦ node? rest n.2

def above : List String → Trie α → List α
  | [], _ => []
  | [_], _ => []
  | key :: rest, t =>
    match t.child? key with
    | some (xs, below) => xs ++ above rest below
    | none => []

end Trie

/-- Entries by path, with their number. -/
structure PathMap (α : Type) where
  trie : Trie α
  size : Nat
deriving Repr, Inhabited

namespace PathMap

variable {α : Type}

def empty : PathMap α := ⟨.nil, 0⟩

instance : EmptyCollection (PathMap α) := ⟨empty⟩

def isEmpty (t : PathMap α) : Bool := t.size == 0

def insert (t : PathMap α) (p : Path) (x : α) : PathMap α :=
  ⟨t.trie.insert x p.segments, t.size + 1⟩

def exact (t : PathMap α) (p : Path) : List α :=
  ((t.trie.node? p.segments).map Prod.fst).getD []

def ancestors (t : PathMap α) (p : Path) : List α := t.trie.above p.segments

def descendants (t : PathMap α) (p : Path) : List α :=
  ((t.trie.node? p.segments).map fun n ↦ n.2.toList).getD []

def related (t : PathMap α) (p : Path) : List α :=
  t.ancestors p ++ ((t.trie.node? p.segments).map fun n ↦ n.1 ++ n.2.toList).getD []

end PathMap

end DataBinding
