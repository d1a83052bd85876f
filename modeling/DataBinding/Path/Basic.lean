import DataBinding.Text.Blank

namespace DataBinding

/-- What a path text can lack. -/
inductive PathError where
  | empty
  /-- The text, trimmed, in which a segment is empty. -/
  | emptySegment (path : String)
deriving DecidableEq, Repr

def PathError.message : PathError → String
  | empty => "path is empty"
  | emptySegment path => "empty segment in path '" ++ path ++ "'"

/-- A segment is not empty and holds no dot. -/
def IsSegment (s : String) : Prop := s.toList ≠ [] ∧ '.' ∉ s.toList

instance (s : String) : Decidable (IsSegment s) := inferInstanceAs (Decidable (_ ∧ _))

structure Path where
  segments : List String
  nonempty : segments ≠ []
  isSegment : ∀ s ∈ segments, IsSegment s
deriving DecidableEq

namespace Path

def ofSegments? (segments : List String) : Option Path :=
  if h : segments ≠ [] ∧ ∀ s ∈ segments, IsSegment s then some ⟨segments, h.1, h.2⟩ else none

def join (segments : List String) : String := String.intercalate "." segments

def text (p : Path) : String := join p.segments

instance : ToString Path := ⟨text⟩

instance : Repr Path := ⟨fun p _ ↦ repr p.text⟩

def dropFinalDot (s : List Char) : List Char :=
  if s.getLast? = some '.' then s.dropLast else s

/-- Reads a path: white space around it is dropped, and so is one dot at its end. -/
def parse (s : String) : Except PathError Path :=
  match Text.trim s.toList with
  | [] => .error .empty
  | t =>
    match ofSegments? ((Text.fields '.' (dropFinalDot t)).map String.ofList) with
    | some p => .ok p
    | none => .error (.emptySegment (String.ofList t))

def length (p : Path) : Nat := p.segments.length

/-- The last segment, the key that a write assigns. -/
def key (p : Path) : String := p.segments.getLast p.nonempty

def prefixes (p : Path) : List Path :=
  (List.range p.length).filterMap fun n ↦ ofSegments? (p.segments.take (n + 1))

def parent? (p : Path) : Option Path := ofSegments? p.segments.dropLast

def isStrictPrefix (a b : List String) : Bool :=
  decide (a.length < b.length) && b.take a.length == a

def isAncestorOf (p q : Path) : Bool := isStrictPrefix p.segments q.segments

def isDescendantOf (p q : Path) : Bool := q.isAncestorOf p

/-- The paths are equal or one is an ancestor of the other: a write to one can change what is
read at the other. -/
def isRelatedTo (p q : Path) : Bool :=
  let n := min p.length q.length
  p.segments.take n == q.segments.take n

instance : Ord Path := ⟨fun p q ↦ compare p.segments q.segments⟩

end Path

end DataBinding
