import DataBinding.Path.Trie
import DataBinding.Text.Quoted

namespace DataBinding

structure Observers (κ : Type) where
  entries : List (Path × List κ)
  positions : PathMap Nat

namespace Observers

variable {κ : Type}

def empty : Observers κ := ⟨[], ∅⟩

instance : EmptyCollection (Observers κ) := ⟨empty⟩

def isEmpty (o : Observers κ) : Bool := o.entries.isEmpty

def observe (o : Observers κ) (p : Path) (callback : κ) : Observers κ :=
  match o.entries.findIdx? (·.1 == p) with
  | some i => { o with entries := o.entries.modify i fun e ↦ (e.1, e.2 ++ [callback]) }
  | none => ⟨o.entries ++ [(p, [callback])], o.positions.insert p o.entries.length⟩

def inOrder (positions : List Nat) : List Nat :=
  positions.mergeSort fun a b ↦ decide (a ≤ b)

/-- The callbacks to run after a write to `p`: those of `p`, of its ancestors and of its
descendants. -/
def relatedTo (o : Observers κ) (p : Path) : List κ :=
  ((inOrder (o.positions.related p)).filterMap (o.entries[·]?)).flatMap (·.2)

def count (o : Observers κ) (p : Path) : Nat :=
  ((o.entries.lookup p).map List.length).getD 0

def map {ι : Type} (f : κ → ι) (o : Observers κ) : Observers ι :=
  ⟨o.entries.map fun e ↦ (e.1, e.2.map f), o.positions⟩

def counts (o : Observers κ) : List (Path × Nat) := o.entries.map fun e ↦ (e.1, e.2.length)

def inspect (o : Observers κ) : String :=
  "\x7b" ++ String.intercalate ", "
    (o.counts.map fun (p, n) ↦ Text.quote p.text ++ ": " ++ toString n) ++ "\x7d"

end Observers

end DataBinding
