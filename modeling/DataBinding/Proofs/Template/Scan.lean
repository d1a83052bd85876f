import DataBinding.Proofs.Engine.Refresh
import DataBinding.Proofs.Engine.Sync
import DataBinding.Proofs.Filter.Safety
import DataBinding.Proofs.Template.Shown

namespace DataBinding

theorem Filter.isPure_ofFunction (name : String) (arity : Arity)
    (f : Json → List String → Filter.Result) : (Filter.ofFunction name arity f).IsPure :=
  fun v args ↦ ⟨f v args, rfl⟩

theorem Filter.isPure_of_mem_builtin {f : Filter} (hf : f ∈ Filter.builtin)
    (hne : f.name ≠ "attr") : f.IsPure := by
  simp only [Filter.builtin, Filter.builtinOver, List.mem_cons, List.not_mem_nil, or_false] at hf
  rcases hf with rfl | rfl | rfl | rfl | rfl | rfl | rfl | rfl | rfl
  · exact absurd rfl hne
  all_goals exact Filter.isPure_ofFunction _ _ _

theorem Filters.pureOn_builtin {chain : List Clause} (h : ∀ call ∈ chain, call.name ≠ "attr") :
    Filters.builtin.PureOn chain := by
  intro call hc f hf
  have hmem := Filters.mem_of_mem_builtin (List.mem_of_find?_eq_some hf)
  have hname : f.name = call.name := by simpa using List.find?_some hf
  exact Filter.isPure_of_mem_builtin hmem (hname ▸ h call hc)

namespace Binding

/-- The text that a binding shows of a store, apart from any element. -/
def text (root : Json) : Binding → Except FilterError String
  | chain p calls =>
    match (Clause.applyAll .builtin calls (root.get? p)).run (none : Option (ElementIn Markup)) with
    | .ok v _ => .ok v.display
    | .error e _ => .error e
  | content p => .ok (Json.displayOption (root.get? p))
  | attr p name truthy falsy =>
    .ok (Engine.attrText (attr p name truthy falsy) truthy falsy (root.get? p))

def textD (b : Binding) (root : Json) : String := (b.text root).toOption.getD ""

def Shows (root : Json) (b : Binding) : Prop := ∃ t, b.text root = .ok t

theorem Shows.toOption_text {root : Json} {b : Binding} (h : b.Shows root) :
    (b.text root).toOption = some (b.textD root) := by
  obtain ⟨t, ht⟩ := h
  rw [textD, ht]
  rfl

def Plain (b : Binding) : Prop := ∀ call ∈ b.calls, call.name ≠ "attr"

theorem text_congr {root root' : Json} {b : Binding}
    (h : (root.get? b.property).getD .null = (root'.get? b.property).getD .null) :
    b.text root = b.text root' := by
  cases b with
  | chain p calls =>
    rw [property] at h
    rw [text, Clause.applyAll_congr (fun _ _ ↦ rfl) h, text]
  | content p =>
    rw [property] at h
    rw [text, text, Json.displayOption_congr h]
  | attr p name truthy falsy =>
    rw [property] at h
    rw [text, text, Engine.attrText_congr h]

end Binding

def shown (root : Json) (l : List (ElementId × Binding)) : List (ElementId × String) :=
  l.map fun e ↦ (e.1, e.2.textD root)

theorem shown_append (root : Json) (l l' : List (ElementId × Binding)) :
    shown root (l ++ l') = shown root l ++ shown root l' := List.map_append

namespace Engine

variable {α β : Type} {s s' : Engine Markup}

theorem run_render {b : Binding} (hf : s.filters = .builtin) (hb : b.Plain) (i : Nat)
    (el : ElementId) :
    (render i el b).run s =
      match b.text s.data with
      | .ok t => .ok () (wrote i (b.write el t) s)
      | .error e => .error (.filter e) s := by
  cases b with
  | content p => rfl
  | attr p name truthy falsy => rfl
  | chain p calls =>
    obtain ⟨result, hall⟩ := Clause.run_applyAll_of_pureOn (E := ElementIn Markup)
      (Filters.pureOn_builtin hb) (s.data.get? p)
    rw [Binding.calls] at hall
    rw [run_render_chain, run_applyFilters, hf, hall, Binding.text, hall]
    cases result <;> rfl

/-- An action succeeds exactly if `P` holds, and leads to `Q` then. -/
structure Goes (x : EngineM Markup α) (s : Engine Markup) (P : Prop) (Q : Engine Markup → Prop) :
    Prop where
  succeeds_iff : Succeeds x s ↔ P
  leads : ∀ a s', x.run s = .ok a s' → Q s'

namespace Goes

variable {x : EngineM Markup α} {P P' : Prop} {Q Q' : Engine Markup → Prop}

theorem bind {y : α → EngineM Markup β} (hx : Goes x s P Q)
    (hy : ∀ a s', Q s' → Goes (y a) s' P' Q') : Goes (x >>= y) s (P ∧ P') Q' := by
  have hsucceeds := hx.succeeds_iff
  constructor
  · rw [← hsucceeds, Succeeds]
    simp only [EStateM.run_bind]
    cases hr : x.run s with
    | error e s₁ =>
      constructor
      · rintro ⟨b, s', h⟩
        cases h
      · rintro ⟨⟨a, s', h⟩, -⟩
        rw [hr] at h
        cases h
    | ok a s₁ =>
      rw [← (hy a s₁ (hx.leads a s₁ hr)).succeeds_iff]
      exact (and_iff_right ⟨a, s₁, hr⟩).symm
  · intro b s' h
    rw [EStateM.run_bind] at h
    cases hr : x.run s with
    | error e s₁ =>
      rw [hr] at h
      cases h
    | ok a s₁ =>
      rw [hr] at h
      exact (hy a s₁ (hx.leads a s₁ hr)).leads b s' h

theorem mono (h : Goes x s P Q) (hP : P ↔ P') (hQ : ∀ s', Q s' → Q' s') : Goes x s P' Q' :=
  ⟨h.succeeds_iff.trans hP, fun a s' hr ↦ hQ s' (h.leads a s' hr)⟩

theorem pure (a : α) (hQ : Q s) : Goes (Pure.pure a : EngineM Markup α) s True Q :=
  ⟨⟨fun _ ↦ trivial, fun _ ↦ ⟨a, s, rfl⟩⟩, fun b s' h ↦ by
    cases h
    exact hQ⟩

theorem modify {f : Engine Markup → Engine Markup} (hQ : Q (f s)) :
    Goes (modify f : EngineM Markup Unit) s True Q :=
  ⟨⟨fun _ ↦ trivial, fun _ ↦ ⟨(), f s, rfl⟩⟩, fun u s' h ↦ by
    cases h
    exact hQ⟩

theorem congr {y : EngineM Markup α} (h : x.run s = y.run s) (hy : Goes y s P Q) :
    Goes x s P Q := by
  have hsucceeds := hy.succeeds_iff
  rw [Succeeds, ← h] at hsucceeds
  exact ⟨hsucceeds, fun a s' hr ↦ hy.leads a s' (h ▸ hr)⟩

theorem throw (e : Error) : Goes (MonadExcept.throw e : EngineM Markup α) s False Q :=
  ⟨⟨fun ⟨_, _, h⟩ ↦ (nomatch h), False.elim⟩, fun _ _ h ↦ nomatch h⟩

end Goes

variable {d₀ : Markup} {L : List (ElementId × Binding)} {ws : List (ElementId × String)}

theorem goes_render (hs : Markup.Shows d₀ L ws s.document) (hi : Markup.Independent d₀ L)
    {el : ElementId} {b : Binding} (he : (el, b) ∈ L) (hf : s.filters = .builtin) (hb : b.Plain)
    (i : Nat) :
    Goes (render i el b) s (b.Shows s.data) fun s' ↦
      Redraws s s' ∧ Markup.Shows d₀ L (ws ++ shown s.data [(el, b)]) s'.document := by
  have hrun := run_render (s := s) hf hb i el
  constructor
  · rw [Succeeds, Binding.Shows, hrun]
    cases b.text s.data with
    | error e => exact ⟨fun ⟨_, _, h⟩ ↦ (nomatch h), fun ⟨_, h⟩ ↦ nomatch h⟩
    | ok t => exact ⟨fun _ ↦ ⟨t, rfl⟩, fun _ ↦ ⟨_, _, rfl⟩⟩
  · intro u s' h
    rw [hrun] at h
    cases ht : b.text s.data with
    | error e =>
      rw [ht] at h
      cases h
    | ok t =>
      rw [ht] at h
      cases h
      have hshown : shown s.data [(el, b)] = [(el, t)] := by
        simp [shown, Binding.textD, ht, Except.toOption]
      rw [hshown]
      exact ⟨redraws_wrote i _ s, hs.apply hi he t⟩

theorem goes_forM_render (hi : Markup.Independent d₀ L) {l : List (Nat × ElementId × Binding)}
    (hl : ∀ e ∈ l, e.2 ∈ L ∧ e.2.2.Plain) (hs : Markup.Shows d₀ L ws s.document)
    (hf : s.filters = .builtin) :
    Goes (l.forM fun (i, el, b) ↦ render i el b) s
      (∀ e ∈ l.map Prod.snd, e.2.Shows s.data) fun s' ↦
        Redraws s s' ∧ Markup.Shows d₀ L (ws ++ shown s.data (l.map Prod.snd)) s'.document := by
  induction l generalizing s ws with
  | nil =>
    refine (Goes.pure () ?_).mono (by simp) fun _ h ↦ h
    exact ⟨.refl s, by simpa [shown] using hs⟩
  | cons e l ih =>
    obtain ⟨i, el, b⟩ := e
    obtain ⟨⟨he, hb⟩, hl⟩ := List.forall_mem_cons.mp hl
    rw [List.map_cons, List.forall_mem_cons]
    refine (goes_render hs hi he hf hb i).bind fun u s₁ ⟨hr, hs₁⟩ ↦ ?_
    have hdata := hr.rebinds.data
    have hfilters := hr.rebinds.filters
    refine (ih hl hs₁ (hfilters.trans hf)).mono (by rw [hdata]) fun s' ⟨hr', hs'⟩ ↦ ?_
    rw [hdata, List.append_assoc, ← shown_append] at hs'
    exact ⟨hr.trans hr', hs'⟩

end Engine

namespace Markup

def found? (o : Options) (d : Markup) (el : ElementId) : Option (ElementId × Binding) := do
  let expression ← d.attribute? el o.bindingAttribute
  let b ← (Binding.parse o.style expression).toOption
  return (el, b)

/-- The bindings that a scan finds. -/
def bound (o : Options) (d : Markup) : List (ElementId × Binding) :=
  (d.elementsWith o.bindingAttribute).filterMap (d.found? o)

def Readable (o : Options) (d : Markup) (el : ElementId) : Prop :=
  ∀ expression, d.attribute? el o.bindingAttribute = some expression →
    ∃ b, Binding.parse o.style expression = .ok b

theorem filterMap_found?_cons (o : Options) (d : Markup) (el : ElementId) (els : List ElementId) :
    (el :: els).filterMap (d.found? o) = (d.found? o el).toList ++ els.filterMap (d.found? o) := by
  rw [List.filterMap_cons]
  cases d.found? o el <;> rfl

theorem fst_of_found? {o : Options} {d : Markup} {el : ElementId} {e : ElementId × Binding}
    (h : d.found? o el = some e) : e.1 = el := by
  simp only [found?, Option.bind_eq_bind, Option.bind_eq_some_iff, Option.pure_def,
    Option.some.injEq] at h
  obtain ⟨_, _, _, _, rfl⟩ := h
  rfl

end Markup

namespace Engine

variable {d₀ : Markup} {L : List (ElementId × Binding)} {ws : List (ElementId × String)}
  {o : Options} {s : Engine Markup}

theorem goes_bind_of_parse (hi : Markup.Independent d₀ L) {el : ElementId} {b : Binding}
    {name expression : String} (he : (el, b) ∈ L) (hb : b.Plain)
    (hs : Markup.Shows d₀ L ws s.document) (hf : s.filters = .builtin)
    (ha : Document.attribute? s.document el name = some expression)
    (hp : Binding.parse s.options.style expression = .ok b) :
    Goes (bind name el) s (b.Shows s.data) fun s' ↦
      Rebinds s s' ∧ s'.bindings.bound = s.bindings.bound ++ [(el, b)] ∧
        Markup.Shows d₀ L (ws ++ shown s.data [(el, b)]) s'.document := by
  let push (s : Engine Markup) : Engine Markup := { s with bindings := s.bindings.push el b }
  have hrun : (bind name el).run s =
      (do render s.bindings.size el b; modify push : EngineM Markup Unit).run s := by
    simp only [run_bind_some ha, hp, EStateM.run_bind]
    cases (render s.bindings.size el b).run s <;> rfl
  have hrender := goes_render hs hi he hf hb s.bindings.size
  refine .congr hrun ((hrender.bind fun u s₁ ⟨hr, hs₁⟩ ↦ .modify ?_).mono (by simp) fun _ h ↦ h)
  refine ⟨hr.rebinds.trans (rebinds_bindings _ s₁), ?_, hs₁⟩
  simp only [push, Bindings.push, hr.bindings]

theorem goes_bind (hi : Markup.Independent d₀ L) {el : ElementId}
    (hL : ∀ e, d₀.found? o el = some e → e ∈ L ∧ e.2.Plain)
    (hs : Markup.Shows d₀ L ws s.document) (hel : Markup.textsOf el ws = [])
    (ho : s.options = o) (hf : s.filters = .builtin) :
    Goes (bind o.bindingAttribute el) s
      (d₀.Readable o el ∧ ∀ e ∈ (d₀.found? o el).toList, e.2.Shows s.data) fun s' ↦
        Rebinds s s' ∧ s'.bindings.bound = s.bindings.bound ++ (d₀.found? o el).toList ∧
          Markup.Shows d₀ L (ws ++ shown s.data (d₀.found? o el).toList) s'.document := by
  subst ho
  have hattr : Document.attribute? s.document el s.options.bindingAttribute =
      d₀.attribute? el s.options.bindingAttribute := hs.attribute?_of_textsOf_eq_nil hel _
  cases ha : d₀.attribute? el s.options.bindingAttribute with
  | none =>
    have hfound : d₀.found? s.options el = none := by
      rw [Markup.found?, ha]
      rfl
    rw [ha] at hattr
    rw [hfound]
    refine .congr (y := Pure.pure ()) (run_bind_none hattr) ((Goes.pure () ?_).mono ?_ fun _ h ↦ h)
    · exact ⟨.refl s, by simp, by simpa [shown] using hs⟩
    · refine ⟨fun _ ↦ ⟨fun _ h ↦ ?_, nofun⟩, fun _ ↦ trivial⟩
      rw [ha] at h
      cases h
  | some expression =>
    have hattr := hattr.trans ha
    cases hp : Binding.parse s.options.style expression with
    | error e =>
      have hthrow : (bind s.options.bindingAttribute el).run s =
          (throw (.binding e) : EngineM Markup Unit).run s := by
        rw [run_bind_some hattr, hp]
        rfl
      refine .congr hthrow ((Goes.throw _).mono ?_ fun _ h ↦ h)
      refine ⟨False.elim, fun ⟨h, _⟩ ↦ ?_⟩
      obtain ⟨b, hb⟩ := h expression ha
      rw [hp] at hb
      cases hb
    | ok b =>
      have hfound : d₀.found? s.options el = some (el, b) := by
        rw [Markup.found?, ha]
        simp [hp, Except.toOption]
      have hreadable : d₀.Readable s.options el := fun e he ↦ by
        rw [ha, Option.some.injEq] at he
        exact ⟨b, he ▸ hp⟩
      obtain ⟨he, hb⟩ := hL _ hfound
      rw [hfound]
      refine (goes_bind_of_parse hi he hb hs hf hattr hp).mono ?_ fun _ h ↦ h
      simp [hreadable]

theorem goes_forM_bind (hi : Markup.Independent d₀ L) {els : List ElementId}
    (hL : ∀ el ∈ els, ∀ e, d₀.found? o el = some e → e ∈ L ∧ e.2.Plain) (hnodup : els.Nodup)
    (hs : Markup.Shows d₀ L ws s.document) (hels : ∀ el ∈ els, Markup.textsOf el ws = [])
    (ho : s.options = o) (hf : s.filters = .builtin) :
    Goes (els.forM (bind o.bindingAttribute)) s
      ((∀ el ∈ els, d₀.Readable o el) ∧ ∀ e ∈ els.filterMap (d₀.found? o), e.2.Shows s.data)
      fun s' ↦ Rebinds s s' ∧
        s'.bindings.bound = s.bindings.bound ++ els.filterMap (d₀.found? o) ∧
        Markup.Shows d₀ L (ws ++ shown s.data (els.filterMap (d₀.found? o))) s'.document := by
  induction els generalizing s ws with
  | nil =>
    refine (Goes.pure () ?_).mono (by simp) fun _ h ↦ h
    exact ⟨.refl s, by simp, by simpa [shown] using hs⟩
  | cons el els ih =>
    obtain ⟨hel, hels⟩ := List.forall_mem_cons.mp hels
    obtain ⟨hLel, hL⟩ := List.forall_mem_cons.mp hL
    obtain ⟨hmem, hnodup⟩ := List.nodup_cons.mp hnodup
    rw [Markup.filterMap_found?_cons]
    refine Goes.mono (P := (d₀.Readable o el ∧ ∀ e ∈ (d₀.found? o el).toList, e.2.Shows s.data) ∧
        ((∀ el ∈ els, d₀.Readable o el) ∧
          ∀ e ∈ els.filterMap (d₀.found? o), e.2.Shows s.data)) ?_ ?_ fun _ h ↦ h
    · refine (goes_bind hi hLel hs hel ho hf).bind fun u s₁ ⟨hr, hb, hs₁⟩ ↦ ?_
      refine (ih hL hnodup hs₁ ?_ (hr.options.trans ho) (hr.filters.trans hf)).mono
        (by rw [hr.data]) fun s' ⟨hr', hb', hs'⟩ ↦ ?_
      · -- the element just bound does not come again
        intro x hx
        rw [Markup.textsOf_append, hels x hx, List.nil_append]
        cases hfound : d₀.found? o el with
        | none => rfl
        | some e =>
          have hne : el ≠ x := fun h ↦ hmem (h ▸ hx)
          simp [Markup.textsOf, shown, Markup.fst_of_found? hfound, hne]
      · rw [hr.data, List.append_assoc, ← shown_append] at hs'
        exact ⟨hr.trans hr', by rw [hb', hb, List.append_assoc], hs'⟩
    · rw [List.forall_mem_cons, List.forall_mem_append]
      exact and_and_and_comm

/-- A scan finds the bindings of a document and shows a text for each one, if there is one. -/
theorem goes_scan (hd : d₀.Forest) (hi : Markup.Independent d₀ (d₀.bound o))
    (hplain : ∀ e ∈ d₀.bound o, e.2.Plain)
    (hnodup : (d₀.elementsWith o.bindingAttribute).Nodup) (hs : s.document = d₀)
    (ho : s.options = o) (hf : s.filters = .builtin) :
    Goes scan s
      ((∀ el ∈ d₀.elementsWith o.bindingAttribute, d₀.Readable o el) ∧
        ∀ e ∈ d₀.bound o, e.2.Shows s.data)
      fun s' ↦ Rebinds s s' ∧ (Synced s' ∧ s'.bindings.built) ∧
        s'.bindings.bound = d₀.bound o ∧
        Markup.Shows d₀ (d₀.bound o) (shown s.data (d₀.bound o)) s'.document := by
  subst hs ho
  have hfound : ∀ el ∈ s.document.elementsWith s.options.bindingAttribute, ∀ e,
      s.document.found? s.options el = some e →
        e ∈ s.document.bound s.options ∧ e.2.Plain := fun el hel e he ↦
    have hmem : e ∈ s.document.bound s.options := List.mem_filterMap.mpr ⟨el, hel, he⟩
    ⟨hmem, hplain e hmem⟩
  have hshows : s.document.Shows (s.document.bound s.options) [] s.document := .nil hd
  have hloop := goes_forM_bind (s := { s with bindings := .empty }) hi hfound hnodup hshows
    (fun _ _ ↦ rfl) rfl hf
  constructor
  · refine Iff.trans ⟨?_, ?_⟩ hloop.succeeds_iff
    · rintro ⟨n, s', h⟩
      obtain ⟨s₁, hl, -⟩ := of_run_scan h
      exact ⟨(), s₁, hl⟩
    · rintro ⟨u, s₁, hl⟩
      have hl : ((Document.elementsWith s.document s.options.bindingAttribute).forM
          (bind s.options.bindingAttribute)).run { s with bindings := .empty } = .ok u s₁ := hl
      rw [Succeeds, run_scan, hl]
      exact ⟨_, _, rfl⟩
  · intro n s' h
    have hsynced := synced_of_run_scan h
    obtain ⟨s₁, hl, -, rfl⟩ := of_run_scan h
    obtain ⟨hr, hb, hs₁⟩ := hloop.leads () s₁ hl
    exact ⟨((rebinds_bindings .empty s).trans hr).trans (rebinds_bindings _ s₁), hsynced, hb, hs₁⟩

end Engine

end DataBinding
