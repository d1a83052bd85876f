import DataBinding.Proofs.Engine.Render

namespace DataBinding.Engine

variable {D : Type}

/-- Only the index of the bindings has changed, and the document, by writes that are recorded. -/
def Rebinds (s s' : Engine D) : Prop :=
  ∃ bindings document shown, ∃ writes : List Write,
    s' = { s with
      bindings := bindings, document := document, shown := shown
      journal := writes.map .wrote ++ s.journal }

theorem Rebinds.refl (s : Engine D) : Rebinds s s := ⟨_, _, _, [], rfl⟩

theorem rebinds_bindings (bindings : Bindings) (s : Engine D) :
    Rebinds s { s with bindings := bindings } := ⟨_, _, _, [], rfl⟩

theorem Rebinds.trans {s s' s'' : Engine D} (h : Rebinds s s') (h' : Rebinds s' s'') :
    Rebinds s s'' := by
  obtain ⟨_, _, _, writes, rfl⟩ := h
  obtain ⟨bindings, document, shown, writes', rfl⟩ := h'
  exact ⟨bindings, document, shown, writes' ++ writes,
    by simp only [List.map_append, List.append_assoc]⟩

theorem Rebinds.data {s s' : Engine D} (h : Rebinds s s') : s'.data = s.data := by
  obtain ⟨_, _, _, _, rfl⟩ := h
  rfl

theorem Rebinds.observers {s s' : Engine D} (h : Rebinds s s') : s'.observers = s.observers := by
  obtain ⟨_, _, _, _, rfl⟩ := h
  rfl

theorem Rebinds.filters {s s' : Engine D} (h : Rebinds s s') : s'.filters = s.filters := by
  obtain ⟨_, _, _, _, rfl⟩ := h
  rfl

theorem Rebinds.computed {s s' : Engine D} (h : Rebinds s s') : s'.computed = s.computed := by
  obtain ⟨_, _, _, _, rfl⟩ := h
  rfl

theorem Rebinds.options {s s' : Engine D} (h : Rebinds s s') : s'.options = s.options := by
  obtain ⟨_, _, _, _, rfl⟩ := h
  rfl

theorem Rebinds.depth {s s' : Engine D} (h : Rebinds s s') : s'.depth = s.depth := by
  obtain ⟨_, _, _, _, rfl⟩ := h
  rfl

theorem Redraws.rebinds {s s' : Engine D} (h : Redraws s s') : Rebinds s s' := by
  obtain ⟨_, _, writes, rfl⟩ := h
  exact ⟨_, _, _, writes, rfl⟩

theorem Rebinds.forM {α : Type} {f : α → EngineM D Unit}
    (hf : ∀ a s, Rebinds s (after (f a) s)) (l : List α) (s : Engine D) :
    Rebinds s (after (l.forM f) s) :=
  after_forM (fun a s₁ h ↦ h.trans (hf a s₁)) l s (.refl s)

variable [Document D]

theorem rebinds_bind (name : String) (el : ElementId) (s : Engine D) :
    Rebinds s (after (bind name el) s) := by
  cases ha : Document.attribute? s.document el name with
  | none =>
    rw [after_of_ok (run_bind_none ha)]
    exact .refl s
  | some expression =>
    rw [after, run_bind_some ha]
    cases hp : Binding.parse s.options.style expression with
    | error e => exact .refl s
    | ok b =>
      have hd := redraws_render s.bindings.size el b s
      simp only
      cases hr : (render s.bindings.size el b).run s with
      | error e s₁ =>
        rw [after_of_error hr] at hd
        exact hd.rebinds
      | ok u s₁ =>
        rw [after_of_ok hr] at hd
        exact hd.rebinds.trans (rebinds_bindings _ s₁)

theorem rebinds_scan (s : Engine D) : Rebinds s (after scan s) := by
  have hl := Rebinds.forM (rebinds_bind s.options.bindingAttribute)
    (Document.elementsWith s.document s.options.bindingAttribute) { s with bindings := .empty }
  have hs := rebinds_bindings .empty s
  rw [after] at hl ⊢
  rw [run_scan]
  cases hr : ((Document.elementsWith s.document s.options.bindingAttribute).forM
      (bind s.options.bindingAttribute)).run { s with bindings := .empty } with
  | error e s₁ =>
    rw [hr] at hl
    exact hs.trans hl
  | ok u s₁ =>
    rw [hr] at hl
    exact (hs.trans hl).trans (rebinds_bindings _ s₁)

theorem rebinds_refresh (p : Path) (s : Engine D) : Rebinds s (after (refresh p) s) := by
  cases hb : s.bindings.built with
  | true =>
    rw [after_congr (run_refresh_built hb p)]
    exact .forM (fun (i, el, b) s ↦ (redraws_render i el b s).rebinds) _ s
  | false =>
    have hs := rebinds_scan s
    rw [after] at hs ⊢
    rw [run_refresh_unbuilt hb]
    cases hr : scan.run s <;> simpa only [hr] using hs

/-- A failure that comes from the document: from the text of a binding or from a filter. -/
def IsRendering : Error → Prop
  | .binding _ | .filter _ => True
  | _ => False

def FailsWith {α : Type} (E : Error → Prop) (x : EngineM D α) : Prop :=
  ∀ s s' e, x.run s = .error e s' → E e

omit [Document D] in
theorem FailsWith.outcome {α : Type} {E : Error → Prop} {x : EngineM D α} (hx : FailsWith E x)
    {s : Engine D} {e : Error} (h : outcome x s = .error e) : E e := by
  cases hr : x.run s with
  | ok a s' =>
    rw [outcome_of_ok hr] at h
    cases h
  | error e' s' =>
    rw [outcome_of_error hr] at h
    cases h
    exact hx s s' e hr

omit [Document D] in
theorem FailsWith.forM {α : Type} {E : Error → Prop} {f : α → EngineM D Unit}
    (hf : ∀ a, FailsWith E (f a)) (l : List α) : FailsWith E (l.forM f) := by
  intro s s' e h
  induction l generalizing s with
  | nil => cases h
  | cons a l ih =>
    rw [run_forM_cons] at h
    cases hr : (f a).run s with
    | error e₁ s₁ =>
      rw [hr] at h
      cases h
      exact hf a s s' e hr
    | ok u s₁ =>
      rw [hr] at h
      exact ih s₁ h

theorem failsWith_render (i : Nat) (el : ElementId) (b : Binding) :
    FailsWith (D := D) IsRendering (render i el b) := by
  intro s s' e h
  cases b with
  | content p | attr p _ _ _ => cases h
  | chain p calls =>
    rw [run_render_chain, run_applyFilters] at h
    cases hf : (Clause.applyAll s.filters calls (s.data.get? p)).run
        (some (ElementIn.mk s.document el [])) with
    | ok out b =>
      rw [hf] at h
      cases h
    | error e₁ b =>
      rw [hf] at h
      cases h
      trivial

theorem failsWith_bind (name : String) (el : ElementId) :
    FailsWith (D := D) IsRendering (bind name el) := by
  intro s s' e h
  cases ha : Document.attribute? s.document el name with
  | none =>
    rw [run_bind_none ha] at h
    cases h
  | some expression =>
    rw [run_bind_some ha] at h
    cases hp : Binding.parse s.options.style expression with
    | error e₁ =>
      rw [hp] at h
      cases h
      trivial
    | ok b =>
      simp only [hp] at h
      cases hr : (render s.bindings.size el b).run s with
      | ok u s₁ =>
        rw [hr] at h
        cases h
      | error e₁ s₁ =>
        rw [hr] at h
        cases h
        exact failsWith_render _ el b s s' e hr

theorem failsWith_scan : FailsWith (D := D) IsRendering scan := by
  intro s s' e h
  rw [run_scan] at h
  cases hl : ((Document.elementsWith s.document s.options.bindingAttribute).forM
      (bind s.options.bindingAttribute)).run { s with bindings := .empty } with
  | ok u s₁ =>
    rw [hl] at h
    cases h
  | error e₁ s₁ =>
    rw [hl] at h
    cases h
    exact FailsWith.forM (failsWith_bind _) _ _ s' e hl

theorem failsWith_refresh (p : Path) : FailsWith (D := D) IsRendering (refresh p) := by
  intro s s' e h
  cases hb : s.bindings.built with
  | true =>
    rw [run_refresh_built hb p] at h
    exact FailsWith.forM (fun (i, el, b) ↦ failsWith_render i el b) _ s s' e h
  | false =>
    rw [run_refresh_unbuilt hb] at h
    cases hr : scan.run s with
    | ok n s₁ =>
      rw [hr] at h
      cases h
    | error e₁ s₁ =>
      rw [hr] at h
      cases h
      exact failsWith_scan s s' e hr

end DataBinding.Engine
