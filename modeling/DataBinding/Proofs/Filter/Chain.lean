import DataBinding.Filter.Basic

namespace DataBinding

/-- A filter that computes its result from the value and its arguments alone. -/
def Filter.IsPure (f : Filter) : Prop := ∀ v args, ∃ result, f.script v args = .done result

namespace Filters

def PureOn (r : Filters) (chain : List Clause) : Prop :=
  ∀ call ∈ chain, ∀ f, r.find? call.name = some f → f.IsPure

theorem find?_define_of_ne {name : String} {f : Filter} (h : name ≠ f.name) (r : Filters) :
    (r.define f).find? name = r.find? name := by
  unfold define
  split
  · rfl
  · have hsame : (fun g : Filter ↦ decide (g.name != f.name ∧ g.name == name)) =
        (·.name == name) := by
      funext g
      by_cases hg : g.name = name <;> simp [hg, h]
    have hf : (f.name == name) = false := by simpa using h.symm
    simp only [find?, insert, List.find?_append, List.find?_filter, hsame, List.find?_singleton, hf,
      Bool.false_eq_true, if_false, Option.or_none]

end Filters

namespace Clause

variable {E : Type} [FilterTarget E] {r r' : Filters}

theorem apply_congr {call : Clause} (h : r.find? call.name = r'.find? call.name) (v : Json) :
    apply (E := E) r v call = apply r' v call := by
  simp only [apply, h]

theorem foldlM_apply_congr {chain : List Clause}
    (h : ∀ call ∈ chain, r.find? call.name = r'.find? call.name) (v : Json) :
    chain.foldlM (apply (E := E) r) v = chain.foldlM (apply r') v := by
  induction chain generalizing v with
  | nil => rfl
  | cons call chain ih =>
    obtain ⟨hcall, hchain⟩ := List.forall_mem_cons.mp h
    simp only [List.foldlM_cons, apply_congr hcall, ih hchain]

/-- A chain sees the value, missing or `null`, and the filters that it names. -/
theorem applyAll_congr {chain : List Clause}
    (h : ∀ call ∈ chain, r.find? call.name = r'.find? call.name) {v w : Option Json}
    (hv : v.getD .null = w.getD .null) :
    applyAll (E := E) r chain v = applyAll r' chain w := by
  simp only [applyAll, hv, foldlM_apply_congr h]

theorem run_foldlM_cons (call : Clause) (chain : List Clause) (v : Json) (b : Option E) :
    ((call :: chain).foldlM (apply r) v).run b =
      match (apply r v call).run b with
      | .ok w b => (chain.foldlM (apply r) w).run b
      | .error e b => .error e b := by
  rw [List.foldlM_cons, EStateM.run_bind]
  cases (apply r v call).run b <;> rfl

theorem run_applyAll (chain : List Clause) (v : Option Json) (b : Option E) :
    (applyAll r chain v).run b =
      match (chain.foldlM (apply r) (v.getD .null)).run b with
      | .ok w b => .ok w.orBlank b
      | .error e b => .error e b := by
  rw [applyAll, EStateM.run_bind]
  cases (chain.foldlM (apply r) (v.getD .null)).run b <;> rfl

theorem isSome_find?_of_run_apply {call : Clause} {v w : Json} {b b' : Option E}
    (h : (apply r v call).run b = .ok w b') : (r.find? call.name).isSome := by
  cases hf : r.find? call.name with
  | some f => rfl
  | none =>
    rw [apply, hf] at h
    cases h

theorem isSome_find?_of_run_foldlM {chain : List Clause} {v w : Json} {b b' : Option E}
    (h : (chain.foldlM (apply r) v).run b = .ok w b') :
    ∀ call ∈ chain, (r.find? call.name).isSome := by
  induction chain generalizing v b with
  | nil => simp
  | cons call chain ih =>
    rw [run_foldlM_cons] at h
    cases happ : (apply r v call).run b with
    | error e b₁ =>
      rw [happ] at h
      cases h
    | ok u b₁ =>
      rw [happ] at h
      exact List.forall_mem_cons.mpr ⟨isSome_find?_of_run_apply happ, ih h⟩

theorem isSome_find?_of_run_applyAll {chain : List Clause} {v : Option Json} {w : Json}
    {b b' : Option E} (h : (applyAll r chain v).run b = .ok w b') :
    ∀ call ∈ chain, (r.find? call.name).isSome := by
  rw [run_applyAll] at h
  cases hfold : (chain.foldlM (apply r) (v.getD .null)).run b with
  | ok u b₁ => exact isSome_find?_of_run_foldlM hfold
  | error e b₁ =>
    rw [hfold] at h
    cases h

theorem run_apply_of_script {call : Clause} {f : Filter} {v w : Json}
    (hf : r.find? call.name = some f) (hc : f.arity.accepts call.args.length)
    (hs : f.script v.orBlank call.args = .done (.ok w)) (b : Option E) :
    (apply r v call).run b = .ok w b := by
  simp only [apply, hf, Arity.check, hc, if_true, hs]
  rfl

theorem run_applyAll_of_script {call : Clause} {f : Filter} {v : Option Json} {w : Json}
    (hf : r.find? call.name = some f) (hc : f.arity.accepts call.args.length)
    (hs : f.script (v.getD .null).orBlank call.args = .done (.ok w)) (b : Option E) :
    (applyAll r [call] v).run b = .ok w.orBlank b := by
  rw [run_applyAll, run_foldlM_cons, run_apply_of_script hf hc hs]
  rfl

def answer {σ : Type} (result : Except FilterError Json) (s : σ) :
    EStateM.Result FilterError σ Json :=
  match result with
  | .ok v => .ok v s
  | .error e => .error e s

theorem run_apply_of_isPure {call : Clause}
    (h : ∀ f, r.find? call.name = some f → f.IsPure) (v : Json) :
    ∃ result, ∀ b : Option E, (apply r v call).run b = answer result b := by
  cases hf : r.find? call.name with
  | none => exact ⟨.error (.unknownFilter call.name), fun b ↦ by rw [apply, hf]; rfl⟩
  | some f =>
    obtain ⟨result, hscript⟩ := h f hf v.orBlank call.args
    cases hc : f.arity.check f.name call.args.length with
    | error e => exact ⟨.error e, fun b ↦ by simp only [apply, hf, hc]; rfl⟩
    | ok u =>
      cases result with
      | ok w => exact ⟨.ok w, fun b ↦ by simp only [apply, hf, hc, hscript]; rfl⟩
      | error e =>
        exact ⟨.error (.execution call.name e), fun b ↦ by simp only [apply, hf, hc, hscript]; rfl⟩

theorem run_foldlM_of_pureOn {chain : List Clause} (h : r.PureOn chain) (v : Json) :
    ∃ result, ∀ b : Option E, (chain.foldlM (apply r) v).run b = answer result b := by
  induction chain generalizing v with
  | nil => exact ⟨.ok v, fun b ↦ rfl⟩
  | cons call chain ih =>
    obtain ⟨hcall, hchain⟩ := List.forall_mem_cons.mp h
    obtain ⟨result, happ⟩ := run_apply_of_isPure (E := E) hcall v
    cases result with
    | error e => exact ⟨.error e, fun b ↦ by rw [run_foldlM_cons, happ]; rfl⟩
    | ok w =>
      obtain ⟨result', hrest⟩ := ih hchain w
      exact ⟨result', fun b ↦ by rw [run_foldlM_cons, happ, ← hrest]; rfl⟩

/-- A chain of pure filters gives the same result for every element, and leaves it as it is. -/
theorem run_applyAll_of_pureOn {chain : List Clause} (h : r.PureOn chain) (v : Option Json) :
    ∃ result, ∀ b : Option E, (applyAll r chain v).run b = answer result b := by
  obtain ⟨result, hfold⟩ := run_foldlM_of_pureOn (E := E) h (v.getD .null)
  cases result with
  | ok w => exact ⟨.ok w.orBlank, fun b ↦ by rw [run_applyAll, hfold]; rfl⟩
  | error e => exact ⟨.error e, fun b ↦ by rw [run_applyAll, hfold]; rfl⟩

end Clause

end DataBinding
