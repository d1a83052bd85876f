import DataBinding.Binding.Basic
import DataBinding.Document
import DataBinding.Path.Trie

namespace DataBinding

structure Bindings where
  bound : List (ElementId × Binding)
  positions : PathMap Nat
  built : Bool
deriving Repr

namespace Bindings

def empty : Bindings := ⟨[], ∅, false⟩

instance : EmptyCollection Bindings := ⟨empty⟩

def size (t : Bindings) : Nat := t.bound.length

def isEmpty (t : Bindings) : Bool := t.bound.isEmpty

def push (t : Bindings) (el : ElementId) (b : Binding) : Bindings :=
  { t with
    bound := t.bound ++ [(el, b)]
    positions := t.positions.insert b.property t.bound.length }

/-- The bound elements that a write to `p` affects, with their positions, in the order of their
discovery. -/
def relatedTo (t : Bindings) (p : Path) : List (Nat × ElementId × Binding) :=
  ((t.positions.related p).mergeSort fun a b ↦ decide (a ≤ b)).filterMap fun i ↦
    (t.bound[i]?).map (i, ·)

end Bindings

end DataBinding
