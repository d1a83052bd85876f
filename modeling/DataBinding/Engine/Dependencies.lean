import DataBinding.Path.Basic

namespace DataBinding

structure Dependencies where
  edges : List (Path × List Path)
deriving DecidableEq, Repr

namespace Dependencies

def empty : Dependencies := ⟨[]⟩

instance : EmptyCollection Dependencies := ⟨empty⟩

def size (g : Dependencies) : Nat := g.edges.length

def isEmpty (g : Dependencies) : Bool := g.edges.isEmpty

def insert (g : Dependencies) (target : Path) (sources : List Path) : Dependencies :=
  ⟨g.edges ++ [(target, sources)]⟩

def sources (g : Dependencies) (target : Path) : List Path :=
  (g.edges.filter (·.1 == target)).flatMap (·.2)

def related? (sources : List Path) (p : Path) : Option Path := sources.find? (·.isRelatedTo p)

structure Frontier where
  seen : List Path
  pending : List Path

/-- Adds the targets that a write to `written` recomputes; stops at one that is related to a
source. -/
def follow (sources : List Path) (written : Path) :
    List (Path × List Path) → Frontier → Except Path Frontier
  | [], f => .ok f
  | (computed, inputs) :: edges, f =>
    if computed ∈ f.seen ∨ ¬ inputs.any (·.isRelatedTo written) then
      follow sources written edges f
    else
      match related? sources computed with
      | some source => .error source
      | none => follow sources written edges ⟨computed :: f.seen, computed :: f.pending⟩

/-- Bounds the targets still to be looked at: those pending, and the edges to targets not seen. -/
def Frontier.rank (edges : List (Path × List Path)) (f : Frontier) : Nat :=
  edges.countP (fun x ↦ decide (x.1 ∉ f.seen)) + f.pending.length

theorem Frontier.rank_push {edges : List (Path × List Path)} {f : Frontier}
    {e : Path × List Path} (he : e ∈ edges) (hs : e.1 ∉ f.seen) :
    Frontier.rank edges ⟨e.1 :: f.seen, e.1 :: f.pending⟩ ≤ f.rank edges := by
  have hlt : edges.countP (fun x ↦ decide (x.1 ∉ e.1 :: f.seen)) <
      edges.countP (fun x ↦ decide (x.1 ∉ f.seen)) := by
    obtain ⟨before, after, rfl⟩ := List.append_of_mem he
    have hmono (l : List (Path × List Path)) : l.countP (fun x ↦ decide (x.1 ∉ e.1 :: f.seen)) ≤
        l.countP (fun x ↦ decide (x.1 ∉ f.seen)) :=
      List.countP_mono_left fun x _ hx ↦ by simp_all
    have h₁ := hmono before
    have h₂ := hmono after
    simp only [List.countP_append, List.countP_cons, List.mem_cons, true_or, not_true_eq_false,
      decide_false, hs, not_false_eq_true, decide_true] at h₁ h₂ ⊢
    simp only [Bool.false_eq_true, ↓reduceIte]
    omega
  simp only [Frontier.rank, List.length_cons]
  omega

theorem rank_of_follow {sources : List Path} {written : Path} {g edges : List (Path × List Path)}
    {f f' : Frontier} (hsub : edges ⊆ g) (h : follow sources written edges f = .ok f') :
    f'.rank g ≤ f.rank g := by
  induction edges generalizing f with
  | nil =>
    simp only [follow, Except.ok.injEq] at h
    subst h
    exact Nat.le_refl _
  | cons e edges ih =>
    obtain ⟨he, hsub⟩ := List.cons_subset.mp hsub
    simp only [follow] at h
    split at h
    · exact ih hsub h
    · rename_i hnew
      split at h
      · cases h
      · exact Nat.le_trans (ih hsub h) (Frontier.rank_push he fun hs ↦ hnew (.inl hs))

def explore (g : Dependencies) (sources : List Path) (f : Frontier) : Option Path :=
  match _hp : f.pending with
  | [] => none
  | written :: pending =>
    match _hf : follow sources written g.edges { f with pending } with
    | .error source => some source
    | .ok f' => explore g sources f'
termination_by f.rank g.edges
decreasing_by
  have h := rank_of_follow (List.Subset.refl _) _hf
  simp only [Frontier.rank, _hp, List.length_cons] at h ⊢
  omega

/-- The source that closes a cycle if `target` is declared with these sources. -/
def cycleVia (g : Dependencies) (target : Path) (sources : List Path) : Option Path :=
  match related? sources target with
  | some source => some source
  | none => explore g sources ⟨[target], [target]⟩

end Dependencies

end DataBinding
