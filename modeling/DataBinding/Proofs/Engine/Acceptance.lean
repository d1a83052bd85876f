import DataBinding.Proofs.Engine.Cycle

namespace DataBinding.Dependencies

open Relation

def declare? (g : Dependencies) (target : Path) (sources : List Path) : Option Dependencies :=
  match g.cycleVia target sources with
  | some _ => none
  | none => some (g.insert target sources)

/-- Declares properties in turn, up to the first one that is refused. -/
def declareAll? (g : Dependencies) (declarations : List (Path × List Path)) :
    Option Dependencies :=
  declarations.foldlM (fun g d ↦ g.declare? d.1 d.2) g

/-- The graph of declared targets: `y` has a source that is related to `x`. -/
def Arc (declarations : List (Path × List Path)) (x y : Path) : Prop :=
  (∃ sources, (x, sources) ∈ declarations) ∧
    ∃ sources, (y, sources) ∈ declarations ∧ ∃ s ∈ sources, s.isRelatedTo x

/-- No write comes back to a path that it recomputes. -/
def Acyclic (g : Dependencies) : Prop := ∀ x, ¬ TransGen g.Feeds x x

variable {g : Dependencies} {target : Path} {sources : List Path}

theorem feeds_insert {x y : Path} :
    (g.insert target sources).Feeds x y ↔ g.Feeds x y ∨ (y = target ∧ Touches sources x) := by
  simp only [Feeds, insert, List.mem_append, List.mem_singleton, Prod.mk.injEq, or_and_right,
    exists_or, and_assoc, exists_and_left, exists_eq_left, Touches]

theorem cycleVia_eq_none_iff :
    g.cycleVia target sources = none ↔
      ∀ x, ReflTransGen g.Feeds target x → ¬ Touches sources x := by
  unfold cycleVia
  split
  · rename_i s hs
    have ht : Touches sources target := by
      rw [← related?_isSome_iff, hs]
      rfl
    exact ⟨fun h ↦ absurd h (by simp), fun h ↦ absurd ht (h target .refl)⟩
  · rename_i hn
    have ht := (related?_eq_none_iff sources target).mp hn
    rw [← Option.not_isSome_iff_eq_none, explore_isSome_iff (.init ht)]
    simp only [not_exists, not_and]

theorem reach_of_insert {x y : Path}
    (hc : ∀ z, ReflTransGen g.Feeds target z → ¬ Touches sources z)
    (hx : ReflTransGen g.Feeds target x) (h : TransGen (g.insert target sources).Feeds x y) :
    TransGen g.Feeds x y := by
  induction h with
  | single h => exact .single ((feeds_insert.mp h).resolve_right fun hn ↦ hc _ hx hn.2)
  | tail _ h ih =>
    have hb := hx.trans ih.to_reflTransGen
    exact ih.tail ((feeds_insert.mp h).resolve_right fun hn ↦ hc _ hb hn.2)

theorem reach_or_through_target {x y : Path} (h : TransGen (g.insert target sources).Feeds x y) :
    TransGen g.Feeds x y ∨ ReflTransGen (g.insert target sources).Feeds target y := by
  induction h with
  | single h =>
    rcases feeds_insert.mp h with h | ⟨rfl, -⟩
    · exact .inl (.single h)
    · exact .inr .refl
  | tail _ h ih =>
    rcases ih with ih | ih
    · rcases feeds_insert.mp h with h | ⟨rfl, -⟩
      · exact .inl (ih.tail h)
      · exact .inr .refl
    · exact .inr (ih.tail h)

/-- A declaration is accepted exactly when it keeps the graph free of cycles: a new cycle passes
through its target, and the search starts there. -/
theorem Acyclic.insert_iff (hg : g.Acyclic) :
    (g.insert target sources).Acyclic ↔ g.cycleVia target sources = none := by
  rw [cycleVia_eq_none_iff]
  constructor
  · intro ha x hx ht
    have hmono : g.Feeds ≤ (g.insert target sources).Feeds :=
      fun _ _ h ↦ feeds_insert.mpr (.inl h)
    have hx' := ReflTransGen.mono hmono _ _ hx
    exact ha target (.tail' hx' (feeds_insert.mpr (.inr ⟨rfl, ht⟩)))
  · intro hc x hx
    rcases reach_or_through_target hx with hold | hthrough
    · exact hg x hold
    · have hreach : ReflTransGen g.Feeds target x := by
        rcases reflTransGen_iff_eq_or_transGen.mp hthrough with rfl | h
        · exact .refl
        · exact (reach_of_insert hc .refl h).to_reflTransGen
      exact hg x (reach_of_insert hc hreach hx)

theorem Acyclic.of_append {edges more : List (Path × List Path)} (h : Acyclic ⟨edges ++ more⟩) :
    Acyclic ⟨edges⟩ := by
  intro x hx
  refine h x (TransGen.mono (fun a b ⟨inputs, hm, hr⟩ ↦ ?_) _ _ hx)
  exact ⟨inputs, List.mem_append_left _ hm, hr⟩

theorem acyclic_empty : Acyclic ∅ := by
  intro x hx
  obtain ⟨_, -, _, hm, -⟩ := TransGen.tail'_iff.mp hx
  exact absurd hm List.not_mem_nil

theorem isSome_declareAll?_iff_acyclic (hg : g.Acyclic) (declarations : List (Path × List Path)) :
    (g.declareAll? declarations).isSome ↔ Acyclic ⟨g.edges ++ declarations⟩ := by
  induction declarations generalizing g with
  | nil => simpa [declareAll?] using hg
  | cons d declarations ih =>
    have hsplit : g.edges ++ d :: declarations = (g.insert d.1 d.2).edges ++ declarations := by
      simp [insert]
    rw [hsplit, declareAll?, List.foldlM_cons, declare?]
    cases hc : g.cycleVia d.1 d.2 with
    | some source =>
      -- the cycle that is refused stays one, whatever would be declared after it
      have hcyclic : ¬ (g.insert d.1 d.2).Acyclic := by
        rw [hg.insert_iff, hc]
        exact Option.some_ne_none source
      simp only [Option.bind_eq_bind, Option.bind_none, Option.isSome_none, Bool.false_eq_true,
        false_iff]
      exact fun h ↦ hcyclic h.of_append
    | none => exact ih (hg.insert_iff.mpr hc)

theorem acyclic_iff_arc (declarations : List (Path × List Path)) :
    Acyclic ⟨declarations⟩ ↔ ∀ x, ¬ TransGen (Arc declarations) x x := by
  have hfeeds {x y : Path} (h : Arc declarations x y) : Feeds ⟨declarations⟩ x y := h.2
  have hdeclared {x y : Path} (h : TransGen (Feeds ⟨declarations⟩) x y) :
      ∃ sources, (y, sources) ∈ declarations := by
    obtain ⟨_, -, inputs, hm, -⟩ := TransGen.tail'_iff.mp h
    exact ⟨inputs, hm⟩
  have harc {x y : Path} (hx : ∃ sources, (x, sources) ∈ declarations)
      (h : TransGen (Feeds ⟨declarations⟩) x y) : TransGen (Arc declarations) x y := by
    induction h with
    | single h => exact .single ⟨hx, h⟩
    | tail hb h ih => exact ih.tail ⟨hdeclared hb, h⟩
  constructor
  · exact fun h x hx ↦ h x (TransGen.mono (fun _ _ ↦ hfeeds) _ _ hx)
  · exact fun h x hx ↦ h x (harc (hdeclared hx) hx)

theorem acyclic_congr {edges edges' : List (Path × List Path)} (h : edges.Perm edges') :
    Acyclic ⟨edges⟩ ↔ Acyclic ⟨edges'⟩ := by
  have he : Feeds ⟨edges⟩ = Feeds ⟨edges'⟩ := by
    funext x y
    simp only [Feeds, h.mem_iff]
  simp only [Acyclic, he]

/-- Declarations made in turn are all accepted exactly when no chain of targets in which each one
feeds the next comes back to its start; their order does not matter. -/
theorem isSome_declareAll?_iff (declarations : List (Path × List Path)) :
    ((declareAll? ∅ declarations).isSome ↔ ∀ x, ¬ TransGen (Arc declarations) x x) ∧
      ∀ reordered, declarations.Perm reordered →
        (declareAll? ∅ reordered).isSome = (declareAll? ∅ declarations).isSome := by
  have hiff (l : List (Path × List Path)) : (declareAll? ∅ l).isSome ↔ Acyclic ⟨l⟩ :=
    isSome_declareAll?_iff_acyclic acyclic_empty l
  refine ⟨(hiff declarations).trans (acyclic_iff_arc declarations), fun reordered h ↦ ?_⟩
  rw [Bool.eq_iff_iff, hiff, hiff, acyclic_congr h]

def loop : List (Path × List Path) :=
  let a : Path := ⟨["a"], by decide, by decide⟩
  let b : Path := ⟨["b"], by decide, by decide⟩
  let c : Path := ⟨["c"], by decide, by decide⟩
  let part : Path := ⟨["b", "value"], by decide, by decide⟩
  [(b, [a]), (c, [part]), (a, [c])]

theorem isSome_declareAll?_loop :
    loop.Perm loop.reverse ∧ (declareAll? ∅ loop).isSome = false ∧
      (declareAll? ∅ loop.reverse).isSome = false ∧ ¬ ∀ x, ¬ TransGen (Arc loop) x x := by
  have hrefused : (declareAll? ∅ loop).isSome = false := by decide +kernel
  have hperm : loop.Perm loop.reverse := (List.reverse_perm loop).symm
  obtain ⟨hiff, hreorder⟩ := isSome_declareAll?_iff loop
  refine ⟨hperm, hrefused, (hreorder _ hperm).trans hrefused, fun h ↦ ?_⟩
  rw [hiff.mpr h] at hrefused
  cases hrefused

end DataBinding.Dependencies
