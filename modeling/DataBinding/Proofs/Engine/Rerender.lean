import DataBinding.Proofs.Engine.Index
import DataBinding.Proofs.Filter.Handlers

namespace DataBinding

def Write.element : Write → ElementId
  | attr el _ _ => el
  | html el _ => el

namespace Engine

variable {D : Type}

/-- What rendering a binding writes to its element. -/
structure Rendering where
  entry : Nat × ElementId × Binding
  byFilters : List Write
  shown? : Option Write
  own : ∀ w ∈ byFilters ++ shown?.toList, w.element = entry.2.1

namespace Rendering

def writes (r : Rendering) : List Write := r.byFilters ++ r.shown?.toList

def shows (r : Rendering) : List (Nat × Write) := r.shown?.toList.map (r.entry.1, ·)

end Rendering

variable [Document D]

/-- The engine after writes to the document, some of which show bindings. -/
def inscribed (ws : List Write) (shows : List (Nat × Write)) (s : Engine D) : Engine D :=
  { s with
    document := ws.foldl Write.apply s.document
    journal := ws.reverse.map .wrote ++ s.journal
    shown := shows.reverse ++ s.shown }

theorem inscribed_append (ws ws' : List Write) (shows shows' : List (Nat × Write))
    (s : Engine D) :
    inscribed (ws ++ ws') (shows ++ shows') s = inscribed ws' shows' (inscribed ws shows s) := by
  simp only [inscribed, List.foldl_append, List.reverse_append, List.map_append,
    List.append_assoc]

theorem wrote_inscribed (i : Nat) (w : Write) (ws : List Write) (s : Engine D) :
    wrote i w (inscribed ws [] s) = inscribed (ws ++ [w]) [(i, w)] s :=
  (inscribed_append ws [w] [] [(i, w)] s).symm

structure Handled (d : D) (el : ElementId) (b : ElementIn D) : Prop where
  element : b.element = el
  document : b.document = b.writes.reverse.foldl Write.apply d
  own : ∀ w ∈ b.writes, w.element = el

theorem Handled.setAttribute {d : D} {el : ElementId} {b : ElementIn D} (h : Handled d el b)
    (name value : String) : Handled d el (FilterTarget.setAttribute b name value) where
  element := h.element
  document := by
    simp only [FilterTarget.setAttribute, List.reverse_cons, List.foldl_append, ← h.document]
    rfl
  own := List.forall_mem_cons.mpr ⟨h.element, h.own⟩

theorem exists_inscribed_applyFilters (el : ElementId) (chain : List Clause) (v : Option Json)
    (s : Engine D) :
    ∃ ws, after (applyFilters el chain v) s = inscribed ws [] s ∧ ∀ w ∈ ws, w.element = el := by
  -- the filters run against a copy of the element, which notes its writes, the last one first
  obtain ⟨b, hb, hhandled⟩ := Clause.final_run_applyAll (P := Handled s.document el)
    (fun _ name value h ↦ h.setAttribute name value) s.filters chain v ⟨s.document, el, []⟩
    ⟨rfl, rfl, List.forall_mem_nil _⟩
  have hafter : filtered (some b) s = inscribed b.writes.reverse [] s := by
    simp only [filtered, inscribed, hhandled.document, List.reverse_reverse, List.reverse_nil,
      List.nil_append]
  refine ⟨b.writes.reverse, ?_, fun w hw ↦ hhandled.own w (List.mem_reverse.mp hw)⟩
  rw [after, run_applyFilters, ← hafter]
  cases hr : (Clause.applyAll s.filters chain v).run (some (ElementIn.mk s.document el [])) with
  | ok out b' =>
    rw [hr] at hb
    exact congrArg (filtered · s) hb
  | error e b' =>
    rw [hr] at hb
    exact congrArg (filtered · s) hb

/-- In an engine, rendering a binding makes these writes and does nothing else. -/
structure Renders (s : Engine D) (r : Rendering) (o : Except Error Unit) : Prop where
  outcome_eq : outcome (render r.entry.1 r.entry.2.1 r.entry.2.2) s = o
  after_eq : after (render r.entry.1 r.entry.2.1 r.entry.2.2) s = inscribed r.writes r.shows s
  shown : r.shown?.isSome ↔ o = .ok ()

theorem renders_shown {s : Engine D} {i : Nat} {el : ElementId} {b : Binding} {w : Write}
    (hw : w.element = el) (h : (render i el b).run s = .ok () (wrote i w s)) :
    ∃ r o, r.entry = (i, el, b) ∧ Renders s r o := by
  refine ⟨⟨(i, el, b), [], some w, fun w' hw' ↦ ?_⟩, .ok (), rfl, outcome_of_ok h, ?_,
    iff_of_true rfl rfl⟩
  · rwa [List.mem_singleton.mp hw']
  · exact (after_of_ok h).trans (wrote_inscribed i w [] s)

theorem exists_renders (i : Nat) (el : ElementId) (b : Binding) (s : Engine D) :
    ∃ r o, r.entry = (i, el, b) ∧ Renders s r o := by
  cases b with
  | content p => exact renders_shown rfl (run_render_content i el p s)
  | attr p name truthy falsy => exact renders_shown rfl (run_render_attr i el p name truthy falsy s)
  | chain p calls =>
    obtain ⟨ws, hws, hown⟩ := exists_inscribed_applyFilters el calls (s.data.get? p) s
    have hrun := run_render_chain i el p calls s
    cases hf : (applyFilters el calls (s.data.get? p)).run s with
    | ok out s₁ =>
      rw [after_of_ok hf] at hws
      subst hws
      rw [hf] at hrun
      refine ⟨⟨(i, el, .chain p calls), ws, some (.html el out.display), ?_⟩, .ok (), rfl,
        outcome_of_ok hrun, ?_, iff_of_true rfl rfl⟩
      · exact List.forall_mem_append.mpr ⟨hown, List.forall_mem_singleton.mpr rfl⟩
      · exact (after_of_ok hrun).trans (wrote_inscribed i _ ws s)
    | error e s₁ =>
      rw [after_of_error hf] at hws
      subst hws
      rw [hf] at hrun
      refine ⟨⟨(i, el, .chain p calls), ws, none, ?_⟩, .error e, rfl, outcome_of_error hrun, ?_,
        iff_of_false Bool.false_ne_true (by simp)⟩
      · simpa using hown
      · rw [after_of_error hrun]
        exact congrArg (inscribed · [] s) (List.append_nil ws).symm

/-- Bindings are rendered in their order, and none after one that fails. -/
inductive RendersAll :
    List (Nat × ElementId × Binding) → List Rendering → Except Error Unit → Engine D → Prop
  | done (s : Engine D) : RendersAll [] [] (.ok ()) s
  | next {l : List (Nat × ElementId × Binding)} {r : Rendering} {rs : List Rendering}
      {o : Except Error Unit} {s : Engine D} :
      Renders s r (.ok ()) → RendersAll l rs o (inscribed r.writes r.shows s) →
      RendersAll (r.entry :: l) (r :: rs) o s
  | stop (l : List (Nat × ElementId × Binding)) {r : Rendering} {e : Error} {s : Engine D} :
      Renders s r (.error e) → RendersAll (r.entry :: l) [r] (.error e) s

section RendersAll

variable {l : List (Nat × ElementId × Binding)} {rs : List Rendering} {o : Except Error Unit}
  {s : Engine D}

theorem RendersAll.cut (h : RendersAll l rs o s) :
    (∀ r ∈ rs, r.shown?.isSome) ∧ rs.map (·.entry) = l ∧ o = .ok () ∨
      ∃ before r rest e, rs = before ++ [r] ∧ (∀ r ∈ before, r.shown?.isSome) ∧ r.shown? = none ∧
        l = before.map (·.entry) ++ r.entry :: rest ∧ o = .error e := by
  induction h with
  | done s => exact .inl ⟨List.forall_mem_nil _, rfl, rfl⟩
  | @next l r rs o s hr _ ih =>
    have hshown := hr.shown.mpr rfl
    rcases ih with ⟨hall, rfl, rfl⟩ | ⟨before, r', rest, e, rfl, hbefore, hnone, rfl, rfl⟩
    · exact .inl ⟨List.forall_mem_cons.mpr ⟨hshown, hall⟩, rfl, rfl⟩
    · exact .inr ⟨r :: before, r', rest, e, rfl, List.forall_mem_cons.mpr ⟨hshown, hbefore⟩,
        hnone, rfl, rfl⟩
  | @stop l r e s hr =>
    have hnone : r.shown? = none := by simpa using hr.shown
    exact .inr ⟨[], r, l, e, rfl, List.forall_mem_nil _, hnone, rfl, rfl⟩

theorem exists_rendersAll (l : List (Nat × ElementId × Binding)) (s : Engine D) :
    ∃ rs, RendersAll l rs (outcome (l.forM fun (i, el, b) ↦ render i el b) s) s ∧
      after (l.forM fun (i, el, b) ↦ render i el b) s =
        inscribed (rs.flatMap (·.writes)) (rs.flatMap (·.shows)) s := by
  induction l generalizing s with
  | nil => exact ⟨[], .done s, rfl⟩
  | cons entry l ih =>
    obtain ⟨i, el, b⟩ := entry
    obtain ⟨r, o, hentry, hr⟩ := exists_renders i el b s
    rw [← hentry]
    have hrun := run_forM_cons (fun (i, el, b) ↦ render (D := D) i el b) r.entry l s
    have ho := hr.outcome_eq
    have hs := hr.after_eq
    cases hf : (render r.entry.1 r.entry.2.1 r.entry.2.2).run s with
    | ok u s₁ =>
      rw [outcome_of_ok hf] at ho
      rw [after_of_ok hf] at hs
      subst ho hs
      obtain ⟨rs, hrs, hend⟩ := ih (inscribed r.writes r.shows s)
      simp only [hf] at hrun
      refine ⟨r :: rs, ?_, ?_⟩
      · rw [outcome_congr hrun]
        exact .next hr hrs
      · rw [after_congr hrun, hend, ← inscribed_append, List.flatMap_cons, List.flatMap_cons]
    | error e s₁ =>
      rw [outcome_of_error hf] at ho
      rw [after_of_error hf] at hs
      subst ho hs
      simp only [hf] at hrun
      refine ⟨[r], ?_, ?_⟩
      · rw [outcome_of_error hrun]
        exact .stop l hr
      · rw [after_of_error hrun, List.flatMap_singleton, List.flatMap_singleton]

end RendersAll

namespace Machine

open StateTransition

/-- Once the document has been scanned, bringing it up to date with a path renders the bindings that
show related paths, in order of their discovery, up to the first one that fails. All that happens is
that these write to their elements. -/
theorem refresh_renders_related {document : D} {options : Options} {c : Callback D}
    {k : Config D} (h : Reaches step (start c (State.init document options)) k)
    (hb : k.state.bindings.built) (p : Path) :
    let s := k.state
    let o := outcome (refresh p) s
    let s' := after (refresh p) s
    ∃ rs : List Rendering, RendersAll (s.bindings.affected p) rs o s ∧
      ((∀ r ∈ rs, r.shown?.isSome) ∧ rs.map (·.entry) = s.bindings.affected p ∧ o = .ok () ∨
        ∃ before r rest e, rs = before ++ [r] ∧ (∀ r ∈ before, r.shown?.isSome) ∧
          r.shown? = none ∧ s.bindings.affected p = before.map (·.entry) ++ r.entry :: rest ∧
          o = .error e) ∧
      (∀ r ∈ rs, ∀ w ∈ r.writes, w.element = r.entry.2.1) ∧
      s' = inscribed (rs.flatMap (·.writes)) (rs.flatMap (·.shows)) s ∧
      s'.data = s.data ∧ s'.bindings = s.bindings ∧ s'.observers = s.observers := by
  intro s o s'
  obtain ⟨run, hrun⟩ := exists_passes h
  have hrefresh := run_refresh_affected hrun.indexed hb p
  obtain ⟨rs, hrs, hend⟩ := exists_rendersAll (s.bindings.affected p) s
  rw [← outcome_congr hrefresh] at hrs
  rw [← after_congr hrefresh] at hend
  exact ⟨rs, hrs, hrs.cut, fun r _ ↦ r.own, hend, (congrArg State.data hend :),
    (congrArg State.bindings hend :), (congrArg State.observers hend :)⟩

def user : Path := ⟨["user"], by decide, by decide⟩

def profile : Markup :=
  ⟨[⟨"p", [("data-binding", "user.name")], [], none, true⟩,
    ⟨"p", [("data-binding", "user | upcase")], [], none, true⟩,
    ⟨"p", [("data-binding", "title")], [], none, true⟩,
    ⟨"p", [("data-binding", "user.age")], [], none, true⟩], [0, 1, 2, 3]⟩

def introducing : Callback Markup :=
  .scan fun _ ↦ .set user (.object [("name", .string "Ann")]) fun _ ↦ .done

theorem refresh_renders_related_profile :
    ∃ k, Reaches step (start introducing (State.init profile {})) k ∧ k.state.bindings.built ∧
      ∃ (before : List Rendering) (r : Rendering) (rest : List Nat),
        before.map (·.entry.1) ++ r.entry.1 :: rest = [0, 1, 3] ∧ r.shown? = none ∧
        after (refresh user) k.state =
          inscribed ((before ++ [r]).flatMap (·.writes)) ((before ++ [r]).flatMap (·.shows))
            k.state := by
  let s := after scan (State.init profile {} : Engine Markup)
  let k : Config Markup :=
    ⟨.refresh user, [.leave user, .resume fun _ ↦ .done],
      stored user (.object [("name", .string "Ann")]) s⟩
  have hlt : s.depth < s.options.maxDispatchDepth := by decide +kernel
  have hrun : Passes (start introducing (State.init profile {})) _ k :=
    .head rfl (.head rfl (.head (step_write_of_lt hlt) (.refl k)))
  have hb : k.state.bindings.built := by decide +kernel
  have hpositions : (k.state.bindings.affected user).map (·.1) = [0, 1, 3] := by decide +kernel
  have hfails : (outcome (refresh user) k.state).toBool = false := by
    rw [outcome_congr (run_refresh_affected hrun.indexed hb user)]
    decide +kernel
  obtain ⟨rs, -, hcut, -, hend, -⟩ := refresh_renders_related hrun.reaches hb user
  rcases hcut with ⟨-, -, hok⟩ | ⟨before, r, rest, e, rfl, -, hnone, haffected, -⟩
  · rw [hok] at hfails
    cases hfails
  · refine ⟨k, hrun.reaches, hb, before, r, rest.map (·.1), ?_, hnone, hend⟩
    rw [← hpositions, haffected, List.map_append, List.map_map]
    rfl

end Machine

end Engine

end DataBinding
