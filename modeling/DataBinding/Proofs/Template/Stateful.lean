import DataBinding.Proofs.Filter.Handlers
import DataBinding.Proofs.Template.Rescan

namespace DataBinding

open Relation

namespace Clause

variable {E τ : Type} [FilterTarget E]

def scriptsBeside (f : Filter) : Handler (Option E × τ) :=
  fun v args (b, t) ↦ mapState (·, t) ((scripts f v args).run b)

/-- Handlers do what the filters of another registry do; what becomes of their own state is left
open. -/
def Follows (handlers : Filter → Handler (Option E × τ)) (r r' : Filters) (chain : List Clause) :
    Prop :=
  ∀ v b t, ∃ t', (applyAllWith handlers r chain v).run (b, t) =
    mapState (·, t') ((applyAll r' chain v).run b)

theorem follows_scriptsBeside (r : Filters) (chain : List Clause) :
    Follows (scriptsBeside : Filter → Handler (Option E × τ)) r r chain := by
  intro v b t
  refine ⟨t, ?_⟩
  rw [applyAll_eq_applyAllWith]
  have hbeside : ∀ f v args (b : Option E), mapState (·, t) ((scripts f v args).run b) =
      (scriptsBeside f v args).run (b, t) := fun f v args b ↦ rfl
  exact (mapState_run_applyAllWith r hbeside chain v b).symm

/-- The filters that a chain names compute their results from the value and the arguments alone and
let the element be, whatever they do to a state of their own. -/
def Computes (handlers : Filter → Handler (Option E × τ))
    (results : Filter → Json → List String → Except FilterError Json) (r : Filters)
    (chain : List Clause) : Prop :=
  ∀ call ∈ chain, ∀ f, r.find? call.name = some f → ∀ v b t, ∃ t',
    (handlers f v call.args).run (b, t) = answer (results f v call.args) (b, t')

end Clause

namespace Filters

variable (results : Filter → Json → List String → Except FilterError Json)

def computing (r : Filters) : Filters :=
  ⟨r.filters.map fun f ↦ .ofFunction f.name f.arity (results f)⟩

theorem find?_computing (r : Filters) (name : String) :
    (r.computing results).find? name =
      (r.find? name).map fun f ↦ .ofFunction f.name f.arity (results f) := by
  rw [find?, computing, List.find?_map]
  rfl

theorem pureOn_computing (r : Filters) (chain : List Clause) :
    (r.computing results).PureOn chain := by
  intro call _ f hf v args
  rw [find?_computing, Option.map_eq_some_iff] at hf
  obtain ⟨g, -, rfl⟩ := hf
  exact ⟨results g v args, rfl⟩

end Filters

namespace Clause

variable {E τ : Type} [FilterTarget E] {handlers : Filter → Handler (Option E × τ)}
  {results : Filter → Json → List String → Except FilterError Json} {r : Filters}
  {call : Clause} {chain : List Clause}

theorem run_scripts_computing (f : Filter) (v : Json) (args : List String) (b : Option E) :
    (scripts (.ofFunction f.name f.arity (results f)) v args).run b =
      answer (results f v args) b := by
  change (Script.done (results f v args)).run.run b = _
  cases results f v args <;> rfl

theorem Computes.run_applyWith (h : Computes handlers results r [call]) (v : Json) (b : Option E)
    (t : τ) :
    ∃ t', (applyWith handlers r v call).run (b, t) =
      mapState (·, t') ((applyWith scripts (r.computing results) v call).run b) := by
  rw [Clause.run_applyWith, Clause.run_applyWith, Filters.find?_computing]
  cases hf : r.find? call.name with
  | none => exact ⟨t, rfl⟩
  | some f =>
    let g : Filter := .ofFunction f.name f.arity (results f)
    have hsame : g.arity.check g.name call.args.length = f.arity.check f.name call.args.length :=
      rfl
    rw [Option.map_some]
    cases hc : f.arity.check f.name call.args.length with
    | error e => exact ⟨t, by simp only [g, hc, hsame, mapState]⟩
    | ok u =>
      obtain ⟨t', ht⟩ := h call List.mem_cons_self f hf v.orBlank b t
      refine ⟨t', ?_⟩
      simp only [g, hc, hsame, ht, run_scripts_computing]
      cases results f v.orBlank call.args <;> rfl

theorem Computes.run_foldlM (h : Computes handlers results r chain) (v : Json) (b : Option E)
    (t : τ) :
    ∃ t', (chain.foldlM (applyWith handlers r) v).run (b, t) =
      mapState (·, t') ((chain.foldlM (applyWith scripts (r.computing results)) v).run b) := by
  induction chain generalizing v b t with
  | nil => exact ⟨t, rfl⟩
  | cons call chain ih =>
    obtain ⟨hcall, hchain⟩ := List.forall_mem_cons.mp h
    obtain ⟨t₁, h₁⟩ := Computes.run_applyWith (List.forall_mem_singleton.mpr hcall) v b t
    rw [run_foldlM_applyWith_cons, run_foldlM_applyWith_cons, h₁]
    cases (applyWith scripts (r.computing results) v call).run b with
    | ok w b => exact ih hchain w b t₁
    | error e b => exact ⟨t₁, rfl⟩

theorem Computes.follows (h : Computes handlers results r chain) :
    Follows handlers r (r.computing results) chain := by
  intro v b t
  obtain ⟨t', ht⟩ := h.run_foldlM (v.getD .null) b t
  refine ⟨t', ?_⟩
  rw [applyAll_eq_applyAllWith, run_applyAllWith, run_applyAllWith, ht]
  cases (chain.foldlM (applyWith scripts (r.computing results)) (v.getD .null)).run b <;> rfl

end Clause

namespace Engine

section

variable {D τ α : Type}

abbrev StatefulM (D τ : Type) := EStateM Error (Engine D × τ)

def beside (x : EngineM D α) : StatefulM D τ α := fun (s, t) ↦
  match x.run s with
  | .ok a s => .ok a (s, t)
  | .error e s => .error e (s, t)

/-- What an action comes to in an engine with other filters, which leave `t`. -/
def underFilters (r : Filters) (t : τ) :
    EStateM.Result Error (Engine D) α → EStateM.Result Error (Engine D × τ) α
  | .ok a s => .ok a ({ s with filters := r }, t)
  | .error e s => .error e ({ s with filters := r }, t)

/-- With the filters `r` in their place, one action comes to what the other one does, whatever
becomes of the state of the filters. -/
def Imitates (r : Filters) (x : StatefulM D τ α) (y : EngineM D α) (s : Engine D) : Prop :=
  ∀ t, ∃ t', x.run ({ s with filters := r }, t) = underFilters r t' (y.run s)

variable (handlers : Filter → Handler (Option (ElementIn D) × τ))

def applyFiltersWith (el : ElementId) (chain : List Clause) (v : Option Json) :
    StatefulM D τ Json := fun (s, t) ↦
  match (Clause.applyAllWith handlers s.filters chain v).run (some ⟨s.document, el, []⟩, t) with
  | .ok out (b, t) => .ok out (filtered b s, t)
  | .error e (b, t) => .error (.filter e) (filtered b s, t)

theorem run_applyFiltersWith (el : ElementId) (chain : List Clause) (v : Option Json)
    (s : Engine D) (t : τ) :
    (applyFiltersWith handlers el chain v).run (s, t) =
      match (Clause.applyAllWith handlers s.filters chain v).run (some ⟨s.document, el, []⟩, t) with
      | .ok out (b, t) => .ok out (filtered b s, t)
      | .error e (b, t) => .error (.filter e) (filtered b s, t) := rfl

variable [Document D]

def renderWith (position : Nat) (el : ElementId) (b : Binding) : StatefulM D τ Unit := do
  let v := (← get).1.data.get? b.property
  match b with
  | .chain _ filters =>
    let out ← applyFiltersWith handlers el filters v
    beside (write position (.html el out.display))
  | .content _ | .attr _ _ _ _ => beside (render position el b)

def bindWith (name : String) (el : ElementId) : StatefulM D τ Unit := do
  let (s, _) ← get
  match Document.attribute? s.document el name with
  | none => return
  | some expression =>
    match Binding.parse s.options.style expression with
    | .error e => throw (.binding e)
    | .ok b =>
      renderWith handlers s.bindings.size el b
      modify fun (s, t) ↦ ({ s with bindings := s.bindings.push el b }, t)

/-- `scan` with any handlers. -/
def scanWith : StatefulM D τ Nat := do
  let (s, t) ← get
  let name := s.options.bindingAttribute
  set ({ s with bindings := Bindings.empty }, t)
  (Document.elementsWith s.document name).forM (bindWith handlers name)
  modify fun (s, t) ↦ ({ s with bindings := { s.bindings with built := true } }, t)
  return (← get).1.bindings.size

theorem run_renderWith_chain (i : Nat) (el : ElementId) (p : Path) (calls : List Clause)
    (s : Engine D) (t : τ) :
    (renderWith handlers i el (.chain p calls)).run (s, t) =
      match (applyFiltersWith handlers el calls (s.data.get? p)).run (s, t) with
      | .ok out (s, t) => .ok () (wrote i (.html el out.display) s, t)
      | .error e s => .error e s := by
  simp only [renderWith, EStateM.run_bind, EStateM.run_get, Binding.property]
  cases (applyFiltersWith handlers el calls (s.data.get? p)).run (s, t) <;> rfl

theorem run_bindWith_none {name : String} {el : ElementId} {s : Engine D}
    (h : Document.attribute? s.document el name = none) (t : τ) :
    (bindWith handlers name el).run (s, t) = .ok () (s, t) := by
  simp only [bindWith, EStateM.run_bind, EStateM.run_get, h]
  rfl

theorem run_bindWith_some {name expression : String} {el : ElementId} {s : Engine D}
    (h : Document.attribute? s.document el name = some expression) (t : τ) :
    (bindWith handlers name el).run (s, t) =
      match Binding.parse s.options.style expression with
      | .error e => .error (.binding e) (s, t)
      | .ok b =>
        match (renderWith handlers s.bindings.size el b).run (s, t) with
        | .ok () (s, t) => .ok () ({ s with bindings := s.bindings.push el b }, t)
        | .error e s => .error e s := by
  simp only [bindWith, EStateM.run_bind, EStateM.run_get, h]
  cases Binding.parse s.options.style expression with
  | error e => rfl
  | ok b =>
    simp only [EStateM.run_bind]
    cases (renderWith handlers s.bindings.size el b).run (s, t) <;> rfl

theorem run_scanWith (s : Engine D) (t : τ) :
    (scanWith handlers).run (s, t) =
      match ((Document.elementsWith s.document s.options.bindingAttribute).forM
        (bindWith handlers s.options.bindingAttribute)).run ({ s with bindings := .empty }, t) with
      | .ok () (s, t) =>
        .ok s.bindings.size ({ s with bindings := { s.bindings with built := true } }, t)
      | .error e s => .error e s := by
  simp only [scanWith, EStateM.run_bind, EStateM.run_get, EStateM.run_set]
  cases ((Document.elementsWith s.document s.options.bindingAttribute).forM
    (bindWith handlers s.options.bindingAttribute)).run ({ s with bindings := .empty }, t) <;> rfl

variable {handlers} {r : Filters} {s : Engine D}

theorem imitates_applyFilters {chain : List Clause}
    (h : Clause.Follows handlers r s.filters chain) (el : ElementId) (v : Option Json) :
    Imitates r (applyFiltersWith handlers el chain v) (applyFilters el chain v) s := by
  intro t
  obtain ⟨t', ht⟩ := h v (some ⟨s.document, el, []⟩) t
  have hfiltered (b : Option (ElementIn D)) :
      filtered b { s with filters := r } = { filtered b s with filters := r } := by
    cases b <;> rfl
  refine ⟨t', ?_⟩
  rw [run_applyFiltersWith, run_applyFilters]
  dsimp only
  rw [ht]
  cases (Clause.applyAll s.filters chain v).run (some (ElementIn.mk s.document el [])) with
  | ok out b => simp only [Clause.mapState, underFilters, hfiltered]
  | error e b => simp only [Clause.mapState, underFilters, hfiltered]

theorem imitates_render {b : Binding} (h : Clause.Follows handlers r s.filters b.calls)
    (i : Nat) (el : ElementId) : Imitates r (renderWith handlers i el b) (render i el b) s := by
  intro t
  cases b with
  | content p | attr p name truthy falsy => exact ⟨t, rfl⟩
  | chain p calls =>
    have hcalls : Clause.Follows handlers r s.filters calls := h
    obtain ⟨t', ht⟩ := imitates_applyFilters hcalls el (s.data.get? p) t
    refine ⟨t', ?_⟩
    rw [run_render_chain, run_renderWith_chain]
    dsimp only
    rw [ht]
    cases (applyFilters el calls (s.data.get? p)).run s <;> rfl

def FollowsAt (handlers : Filter → Handler (Option (ElementIn D) × τ)) (r : Filters)
    (name : String) (el : ElementId) (s : Engine D) : Prop :=
  ∀ expression b, Document.attribute? s.document el name = some expression →
    Binding.parse s.options.style expression = .ok b →
    Clause.Follows handlers r s.filters b.calls

theorem imitates_bind {name : String} {el : ElementId} (h : FollowsAt handlers r name el s) :
    Imitates r (bindWith handlers name el) (bind name el) s := by
  intro t
  cases ha : Document.attribute? s.document el name with
  | none =>
    rw [run_bind_none ha, run_bindWith_none (s := { s with filters := r }) handlers ha]
    exact ⟨t, rfl⟩
  | some expression =>
    rw [run_bind_some ha, run_bindWith_some (s := { s with filters := r }) handlers ha]
    dsimp only
    cases hp : Binding.parse s.options.style expression with
    | error e => exact ⟨t, rfl⟩
    | ok b =>
      obtain ⟨t', ht⟩ := imitates_render (h expression b ha hp) s.bindings.size el t
      refine ⟨t', ?_⟩
      dsimp only
      rw [ht]
      cases (render s.bindings.size el b).run s <;> rfl

theorem imitates_forM_bind {I : Engine D → Prop} {name : String} {els : List ElementId}
    (hI : ∀ el ∈ els, ∀ s, I s → FollowsAt handlers r name el s ∧
      ∀ s', (bind name el).run s = .ok () s' → I s')
    (hs : I s) : Imitates r (els.forM (bindWith handlers name)) (els.forM (bind name)) s := by
  intro t
  induction els generalizing s t with
  | nil => exact ⟨t, rfl⟩
  | cons el els ih =>
    obtain ⟨hel, hels⟩ := List.forall_mem_cons.mp hI
    obtain ⟨hfollows, hkeeps⟩ := hel s hs
    obtain ⟨t₁, h₁⟩ := imitates_bind hfollows t
    rw [run_forM_cons, run_forM_cons, h₁]
    cases hb : (bind name el).run s with
    | ok u s₁ => exact ih hels (hkeeps s₁ hb) t₁
    | error e s₁ => exact ⟨t₁, rfl⟩

theorem imitates_scan {I : Engine D → Prop}
    (hI : ∀ el ∈ Document.elementsWith s.document s.options.bindingAttribute, ∀ s₁, I s₁ →
      FollowsAt handlers r s.options.bindingAttribute el s₁ ∧
        ∀ s', (bind s.options.bindingAttribute el).run s₁ = .ok () s' → I s')
    (hs : I { s with bindings := .empty }) : Imitates r (scanWith handlers) scan s := by
  intro t
  obtain ⟨t', ht⟩ := imitates_forM_bind hI hs t
  refine ⟨t', ?_⟩
  rw [run_scan, run_scanWith]
  dsimp only
  rw [ht]
  cases ((Document.elementsWith s.document s.options.bindingAttribute).forM
    (bind s.options.bindingAttribute)).run { s with bindings := .empty } <;> rfl

theorem run_scanWith_scriptsBeside (s : Engine D) :
    (scanWith Clause.scriptsBeside).run (s, ()) =
      match scan.run s with
      | .ok n s => .ok n (s, ())
      | .error e s => .error e (s, ()) := by
  have hfilters := (rebinds_scan s).filters
  have hkeeps (el : ElementId) (s₁ : Engine D) (hs₁ : s₁.filters = s.filters) :
      FollowsAt (Clause.scriptsBeside : Filter → Handler (Option (ElementIn D) × Unit)) s.filters
        s.options.bindingAttribute el s₁ ∧
        ∀ s', (bind s.options.bindingAttribute el).run s₁ = .ok () s' → s'.filters = s.filters := by
    refine ⟨fun _ b _ _ ↦ ?_, fun s' hb ↦ ?_⟩
    · rw [hs₁]
      exact Clause.follows_scriptsBeside s.filters b.calls
    · have hr : Rebinds s₁ s' := after_of_ok hb ▸ rebinds_bind _ el s₁
      exact hr.filters.trans hs₁
  obtain ⟨⟨⟩, ht⟩ := imitates_scan (s := s) (fun el _ s₁ ↦ hkeeps el s₁) rfl ()
  change (scanWith Clause.scriptsBeside).run ({ s with filters := s.filters }, ()) = _
  rw [ht]
  cases h : scan.run s with
  | ok n s' =>
    rw [after_of_ok h] at hfilters
    rw [← hfilters]
    rfl
  | error e s' =>
    rw [after_of_error h] at hfilters
    rw [← hfilters]
    rfl

end

section

open Markup

variable {τ : Type} {handlers : Filter → Handler (Option (ElementIn Markup) × τ)}
  {results : Filter → Json → List String → Except FilterError Json} {s s' : Engine Markup}
  {r : Filters} {o : Options} {n : Nat} {t t' : τ}

/-- The filters of all bindings compute their results from the value and the arguments alone, none of
the bindings writes the attribute that bindings are read from, and none replaces content that
another one stands in. -/
structure Steady (handlers : Filter → Handler (Option (ElementIn Markup) × τ))
    (results : Filter → Json → List String → Except FilterError Json) (r : Filters) (o : Options)
    (d : Markup) : Prop where
  computes : ∀ e ∈ d.bound o, Clause.Computes handlers results r e.2.calls
  target : ∀ e ∈ d.bound o, e.2.target? ≠ some o.bindingAttribute
  apart : ∀ e ∈ d.bound o, e.2.isContent → ∀ e' ∈ d.bound o, ¬ TransGen d.Contains e.1 e'.1

theorem Steady.undisturbed {d : Markup} (h : Steady handlers results r o d) :
    d.Undisturbed (r.computing results) o :=
  ⟨fun e _ ↦ r.pureOn_computing results e.2.calls, h.target, h.apart⟩

theorem Steady.imitates_scan (h : Steady handlers results r s.options s.document) :
    Imitates r (scanWith handlers) scan { s with filters := r.computing results } := by
  let I (s₁ : Engine Markup) : Prop :=
    ∃ done, Progress s.document s.options (r.computing results) done s₁
  refine Engine.imitates_scan (I := I) (fun el hel s₁ ↦ ?_) ?_
  · rintro ⟨done, hs₁⟩
    refine ⟨fun expression b ha hp ↦ ?_, fun s' hb ↦
      ⟨_, (hs₁.of_run_bind h.undisturbed hel hb).2⟩⟩
    have hfound : s.document.found? s.options el = some (el, b) := by
      rw [← hs₁.found?_eq]
      exact found?_of_parse ha (hs₁.options ▸ hp)
    rw [hs₁.filters]
    exact (h.computes (el, b) (mem_bound_iff.mpr ⟨hel, hfound⟩)).follows
  · exact ⟨[], rfl, rfl, rfl, .refl _ _ _, List.forall_mem_nil _, List.forall_mem_nil _⟩

theorem Steady.of_progress {d : Markup} {done : List (ElementId × Binding)}
    (h : Steady handlers results r o d) (hs : Progress d o (r.computing results) done s)
    (hread : ∀ el ∈ d.elementsWith o.bindingAttribute, d.Readable o el) :
    Steady handlers results r o s.document := by
  have hu := hs.undisturbed h.undisturbed hread
  exact ⟨hs.bound_eq h.undisturbed hread ▸ h.computes, hu.target, hu.apart⟩

/-- Scanning a document a second time finds the same bindings and changes nothing, whatever the
filters in use keep in a state of their own. Scanning with the filters' scripts, which keep nothing,
is such a scan. -/
theorem rescanWith_eq (h : Steady handlers results s.filters s.options s.document)
    (hrun : (scanWith handlers).run (s, t) = .ok n (s', t')) :
    (∃ s'' t'', (scanWith handlers).run (s', t') = .ok n (s'', t'') ∧
      s''.bindings = s'.bindings ∧ s''.document = s'.document) ∧
    ∀ {D : Type} [Document D] (s : Engine D), (scanWith Clause.scriptsBeside).run (s, ()) =
      match scan.run s with
      | .ok n s => .ok n (s, ())
      | .error e s => .error e (s, ()) := by
  refine ⟨?_, fun s ↦ run_scanWith_scriptsBeside s⟩
  obtain ⟨t₁, ht⟩ := h.imitates_scan t
  rw [show ({ s with filters := s.filters } : Engine Markup) = s from rfl, hrun] at ht
  cases hscan : scan.run { s with filters := s.filters.computing results } with
  | error e s₁ =>
    rw [hscan] at ht
    cases ht
  | ok m s₁ =>
    rw [hscan] at ht
    cases ht
    obtain ⟨s₂, hagain, hbindings, hdocument⟩ := rescan_eq h.undisturbed hscan
    obtain ⟨hread, s₃, hs₃, -, rfl⟩ := progress_of_run_scan h.undisturbed hscan
    -- the scan with the results of the filters goes on from the state that it left
    let s₁ : Engine Markup := { s₃ with bindings := { s₃.bindings with built := true } }
    have hfilters : s₁.filters = s.filters.computing results := hs₃.filters
    have hs₁ : { s₁ with filters := s.filters.computing results } = s₁ := by rw [← hfilters]
    have hoptions : s₁.options = s.options := hs₃.options
    have hsteady : Steady handlers results s.filters s₁.options s₁.document :=
      hoptions ▸ h.of_progress (s := s₃) hs₃ hread
    obtain ⟨t₂, ht₂⟩ := hsteady.imitates_scan t'
    rw [hs₁, hagain] at ht₂
    exact ⟨_, t₂, ht₂, hbindings, hdocument⟩

end

def stateAfter {ε σ α : Type} (x : EStateM ε σ α) (s : σ) : σ :=
  match x.run s with
  | .ok _ s | .error _ s => s

def Yields {ε σ α : Type} (x : EStateM ε σ α) (s : σ) (a : α) : Prop :=
  x.run s = .ok a (stateAfter x s)

instance {ε σ α : Type} [DecidableEq α] (x : EStateM ε σ α) (s : σ) (a : α) :
    Decidable (Yields x s a) :=
  match h : x.run s with
  | .ok a' s' => decidable_of_iff (a' = a) (by simp [Yields, stateAfter, h])
  | .error e s' => isFalse (by simp [Yields, h])

def notice : Json :=
  .array [.string "div",
    .array [.string "p", .object [("data-binding", .string "name | upcase")],
      .array [.string "b", .string "nobody"]],
    .array [.string "a", .object [("data-binding", .string "home:href")], .string "more"]]

def noticeMarkup : Markup where
  nodes := [⟨"div", [], [.element 1, .element 3], none, true⟩,
    ⟨"p", [("data-binding", "name | upcase")], [.element 2], some 0, true⟩,
    ⟨"b", [], [.text "nobody"], some 1, true⟩,
    ⟨"a", [("data-binding", "home:href")], [.text "more"], some 0, true⟩]
  roots := [0]

def noticeEngine : Engine Markup :=
  { State.init noticeMarkup {} with
    data := .object [("name", .string "Ann"), ("home", .string "/ann")] }

def tallying (f : Filter) : Handler (Option (ElementIn Markup) × Nat) :=
  fun v args (b, n) ↦ Clause.mapState (·, n + 1) ((Clause.scripts f v args).run b)

def detached (f : Filter) (v : Json) (args : List String) : Except FilterError Json :=
  match (Clause.scripts f v args).run (none : Option (ElementIn Markup)) with
  | .ok w _ => .ok w
  | .error e _ => .error e

theorem computes_tallying {r : Filters} {chain : List Clause} (h : r.PureOn chain) :
    Clause.Computes tallying detached r chain := by
  intro call hc f hf v b n
  obtain ⟨result, hscript⟩ := h call hc f hf v call.args
  refine ⟨n + 1, ?_⟩
  change Clause.mapState (·, n + 1) ((f.script v call.args).run.run b) =
    Clause.answer (detached f v call.args) (b, n + 1)
  rw [detached, Clause.scripts, hscript]
  cases result <;> rfl

theorem steady_notice :
    Steady tallying detached noticeEngine.filters noticeEngine.options noticeMarkup := by
  have hd : Markup.ofJson notice = .ok noticeMarkup := rfl
  have hf := (Markup.Built.ofJson hd).forest
  have hplain : ∀ e ∈ noticeMarkup.bound {}, ∀ call ∈ e.2.calls, call.name ≠ "attr" := by
    decide +kernel
  have hbelow : ∀ e ∈ noticeMarkup.bound {}, e.2.isContent → ∀ e' ∈ noticeMarkup.bound {},
      e'.1 ∉ (noticeMarkup.childElements e.1).flatMap noticeMarkup.subtree := by decide +kernel
  exact ⟨fun e he ↦ computes_tallying (Filters.pureOn_builtin (hplain e he)), by decide +kernel,
    fun e he hc e' he' hb ↦ hbelow e he hc e' he' (hf.mem_below_iff.mpr hb)⟩

theorem rescanWith_eq_notice :
    let e := stateAfter (scanWith tallying) (noticeEngine, 0)
    Steady tallying detached noticeEngine.filters noticeEngine.options noticeMarkup ∧
      (scanWith tallying).run (noticeEngine, 0) = .ok 2 e ∧ e.2 = 1 ∧
      e.1.document.toHtml = "<div><p data-binding=\"name | upcase\">ANN</p>" ++
        "<a data-binding=\"home:href\" href=\"/ann\">more</a></div>" ∧
      ∃ s n, (scanWith tallying).run e = .ok 2 (s, n) ∧ s.bindings = e.1.bindings ∧
        s.document = e.1.document := by
  intro e
  have hrun : Yields (scanWith tallying) (noticeEngine, 0) 2 := by decide +kernel
  have hcount : e.2 = 1 := by decide +kernel
  have hhtml : e.1.document.toHtml = "<div><p data-binding=\"name | upcase\">ANN</p>" ++
      "<a data-binding=\"home:href\" href=\"/ann\">more</a></div>" := by decide +kernel
  exact ⟨steady_notice, hrun, hcount, hhtml, (rescanWith_eq steady_notice hrun).1⟩

def counting (_ : Filter) : Handler (Option (ElementIn Markup) × Nat) :=
  fun _ _ (b, n) ↦ .ok (.string (toString n)) (b, n + 1)

def nestedMarkup : Markup where
  nodes := [⟨"p", [("data-binding", "name | upcase")], [.element 1], none, true⟩,
    ⟨"b", [("data-binding", "name")], [], some 0, true⟩]
  roots := [0]

/-- A filter that counts lets the element be, and yet a second scan shows something else. A chain
that has bound elements in its content takes them away from the second scan. -/
theorem rescan_differs :
    (let e := stateAfter (scanWith counting) (noticeEngine, 0)
    let e' := stateAfter (scanWith counting) e
    (∀ f v args b n, ∃ w, (counting f v args).run (b, n) = .ok w (b, n + 1)) ∧
      (∀ e ∈ noticeMarkup.bound {}, e.2.target? ≠ some "data-binding") ∧
      (∀ e ∈ noticeMarkup.bound {}, e.2.isContent → ∀ e' ∈ noticeMarkup.bound {},
        ¬ TransGen noticeMarkup.Contains e.1 e'.1) ∧
      (scanWith counting).run (noticeEngine, 0) = .ok 2 e ∧
      (scanWith counting).run e = .ok 2 e' ∧ e'.1.document ≠ e.1.document) ∧
    let s : Engine Markup := State.init nestedMarkup {}
    (∀ e ∈ nestedMarkup.bound {}, e.2.calls = [] → nestedMarkup.childElements e.1 = []) ∧
      scan.run s = .ok 2 (stateAfter scan s) ∧
      scan.run (stateAfter scan s) = .ok 1 (stateAfter scan (stateAfter scan s)) := by
  have hrun : Yields (scanWith counting) (noticeEngine, 0) 2 := by decide +kernel
  have hagain :
      Yields (scanWith counting) (stateAfter (scanWith counting) (noticeEngine, 0)) 2 := by
    decide +kernel
  have hnested : Yields scan (State.init nestedMarkup {} : Engine Markup) 2 := by decide +kernel
  have hfewer : Yields scan (stateAfter scan (State.init nestedMarkup {} : Engine Markup)) 1 := by
    decide +kernel
  exact ⟨⟨fun _ _ _ _ n ↦ ⟨.string (toString n), rfl⟩, steady_notice.target, steady_notice.apart,
    hrun, hagain, by decide +kernel⟩, by decide +kernel, hnested, hfewer⟩

end Engine

end DataBinding
