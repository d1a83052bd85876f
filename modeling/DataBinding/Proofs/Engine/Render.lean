import DataBinding.Proofs.Engine.Run
import DataBinding.Proofs.Filter.Chain

namespace DataBinding

namespace Json

theorem displayOption_getD (v : Option Json) :
    displayOption (some (v.getD null)) = displayOption v := by
  cases v <;> rfl

theorem isTruthy_getD (v : Option Json) : isTruthy (some (v.getD null)) = isTruthy v := by
  cases v <;> rfl

theorem displayOption_congr {v w : Option Json} (h : v.getD null = w.getD null) :
    displayOption v = displayOption w := by
  rw [← displayOption_getD, h, displayOption_getD]

theorem isTruthy_congr {v w : Option Json} (h : v.getD null = w.getD null) :
    isTruthy v = isTruthy w := by
  rw [← isTruthy_getD, h, isTruthy_getD]

end Json

def Binding.calls : Binding → List Clause
  | chain _ filters => filters
  | content _ | attr _ _ _ _ => []

namespace Engine

variable {D : Type}

/-- Only the document has changed, by writes that are recorded. -/
def Redraws (s s' : Engine D) : Prop :=
  ∃ document shown, ∃ writes : List Write,
    s' = { s with
      document := document, shown := shown, journal := writes.map .wrote ++ s.journal }

theorem Redraws.refl (s : Engine D) : Redraws s s := ⟨_, _, [], rfl⟩

theorem Redraws.trans {s s' s'' : Engine D} (h : Redraws s s') (h' : Redraws s' s'') :
    Redraws s s'' := by
  obtain ⟨_, _, writes, rfl⟩ := h
  obtain ⟨document, shown, writes', rfl⟩ := h'
  exact ⟨document, shown, writes' ++ writes, by simp only [List.map_append, List.append_assoc]⟩

theorem Redraws.bindings {s s' : Engine D} (h : Redraws s s') : s'.bindings = s.bindings := by
  obtain ⟨_, _, _, rfl⟩ := h
  rfl

theorem redraws_filtered (b : Option (ElementIn D)) (s : Engine D) :
    Redraws s (filtered b s) ∧ (filtered b s).shown = s.shown := by
  cases b with
  | none => exact ⟨.refl s, rfl⟩
  | some b => exact ⟨⟨_, _, b.writes, rfl⟩, rfl⟩

/-- Two engines agree about a binding: about the value that it shows, a missing one taken as
`null`, and about the filters that it names. -/
structure Agrees (s s' : Engine D) (b : Binding) : Prop where
  value : (s.data.get? b.property).getD .null = (s'.data.get? b.property).getD .null
  filters : ∀ call ∈ b.calls, s.filters.find? call.name = s'.filters.find? call.name

theorem Agrees.trans {s s' s'' : Engine D} {b : Binding} (h : Agrees s s' b)
    (h' : Agrees s' s'' b) : Agrees s s'' b :=
  ⟨h.value.trans h'.value, fun call hc ↦ (h.filters call hc).trans (h'.filters call hc)⟩

theorem Redraws.agrees {s s' : Engine D} (h : Redraws s s') (b : Binding) : Agrees s s' b := by
  obtain ⟨_, _, _, rfl⟩ := h
  exact ⟨rfl, fun _ _ ↦ rfl⟩

variable [Document D]

theorem redraws_wrote (i : Nat) (w : Write) (s : Engine D) : Redraws s (wrote i w s) :=
  ⟨_, _, [w], rfl⟩

theorem redraws_applyFilters (el : ElementId) (chain : List Clause) (v : Option Json)
    (s : Engine D) :
    Redraws s (after (applyFilters el chain v) s) ∧
      (after (applyFilters el chain v) s).shown = s.shown := by
  rw [after, run_applyFilters]
  cases (Clause.applyAll s.filters chain v).run (some (ElementIn.mk s.document el [])) with
  | ok out b => exact redraws_filtered b s
  | error e b => exact redraws_filtered b s

theorem redraws_render (i : Nat) (el : ElementId) (b : Binding) (s : Engine D) :
    Redraws s (after (render i el b) s) := by
  cases b with
  | content p | attr p _ _ _ => exact redraws_wrote i _ s
  | chain p calls =>
    have h := (redraws_applyFilters el calls (s.data.get? p) s).1
    rw [after, run_render_chain]
    rw [after] at h
    cases hf : (applyFilters el calls (s.data.get? p)).run s with
    | ok out s₁ =>
      rw [hf] at h
      exact h.trans (redraws_wrote i _ s₁)
    | error e s₁ =>
      rw [hf] at h
      exact h

/-- Rendering a binding succeeds and writes `w` for it in the end. -/
def Draws (s : Engine D) (i : Nat) (el : ElementId) (b : Binding) (w : Write) : Prop :=
  ∃ s', (render i el b).run s = .ok () s' ∧ s'.shown = (i, w) :: s.shown

theorem exists_draws {s s' : Engine D} {i : Nat} {el : ElementId} {b : Binding}
    (h : (render i el b).run s = .ok () s') :
    ∃ w, Draws s i el b w ∧ s'.shown = (i, w) :: s.shown := by
  suffices hw : ∃ w, s'.shown = (i, w) :: s.shown by
    obtain ⟨w, hw⟩ := hw
    exact ⟨w, ⟨s', h, hw⟩, hw⟩
  cases b with
  | content p =>
    rw [run_render_content] at h
    cases h
    exact ⟨_, rfl⟩
  | attr p name truthy falsy =>
    rw [run_render_attr] at h
    cases h
    exact ⟨_, rfl⟩
  | chain p calls =>
    have hsh := (redraws_applyFilters el calls (s.data.get? p) s).2
    rw [run_render_chain] at h
    rw [after] at hsh
    cases hf : (applyFilters el calls (s.data.get? p)).run s with
    | ok out s₁ =>
      rw [hf] at h hsh
      cases h
      exact ⟨.html el out.display, congrArg _ hsh⟩
    | error e s₁ =>
      rw [hf] at h
      cases h

theorem Draws.isSome_find? {s : Engine D} {i : Nat} {el : ElementId} {b : Binding} {w : Write}
    (h : Draws s i el b w) : ∀ call ∈ b.calls, (s.filters.find? call.name).isSome := by
  obtain ⟨s', hrun, -⟩ := h
  cases b with
  | content p | attr p _ _ _ => exact fun _ hc ↦ absurd hc List.not_mem_nil
  | chain p calls =>
    rw [run_render_chain, run_applyFilters] at hrun
    cases hall : (Clause.applyAll s.filters calls (s.data.get? p)).run
        (some (ElementIn.mk s.document el [])) with
    | ok out e => exact Clause.isSome_find?_of_run_applyAll hall
    | error e _ =>
      rw [hall] at hrun
      cases hrun

theorem wrote_injective {i j : Nat} {w w' : Write} {s s' : Engine D}
    (h : (wrote i w s).shown = (j, w') :: s'.shown) : w = w' := by
  simp only [wrote, State.record, List.cons.injEq, Prod.mk.injEq] at h
  exact h.1.2

theorem attrText_congr {b : Binding} {truthy falsy : String} {v w : Option Json}
    (h : v.getD .null = w.getD .null) : attrText b truthy falsy v = attrText b truthy falsy w := by
  rw [attrText, attrText, Json.displayOption_congr h, Json.isTruthy_congr h]

/-- An engine that agrees about a binding of pure filters makes the same write for it, and nothing
else happens. -/
theorem Draws.run_render {s s' : Engine D} {i j : Nat} {el : ElementId} {b : Binding} {w : Write}
    (h : Draws s i el b w) (ha : Agrees s s' b) (hp : s'.filters.PureOn b.calls) :
    (render j el b).run s' = .ok () (wrote j w s') := by
  obtain ⟨s₁, hrun, hw⟩ := h
  obtain ⟨hv, hf⟩ := ha
  cases b with
  | content p =>
    rw [Binding.property] at hv
    rw [run_render_content] at hrun ⊢
    cases hrun
    rw [← wrote_injective hw, Json.displayOption_congr hv]
  | attr p name truthy falsy =>
    rw [Binding.property] at hv
    rw [run_render_attr] at hrun ⊢
    cases hrun
    rw [← wrote_injective hw, attrText_congr hv]
  | chain p calls =>
    rw [Binding.property] at hv
    rw [Binding.calls] at hf hp
    obtain ⟨result, hall⟩ :=
      Clause.run_applyAll_of_pureOn (E := ElementIn D) hp (s'.data.get? p)
    rw [run_render_chain, run_applyFilters] at hrun ⊢
    rw [Clause.applyAll_congr hf hv, hall] at hrun
    rw [hall]
    cases result with
    | error e => cases hrun
    | ok out =>
      cases hrun
      exact wrote_injective hw ▸ rfl

end Engine

end DataBinding
