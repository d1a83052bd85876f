import DataBinding.Proofs.Engine.Equivalent
import DataBinding.Proofs.Filter.Handlers
import DataBinding.Proofs.Markup.Face
import DataBinding.Proofs.Markup.Loop

namespace DataBinding

namespace Json

theorem display_string (s : String) : (string s).display = s := String.ofList_toList

theorem isTruthy_orBlank (v : Json) : isTruthy (some v.orBlank) = isTruthy (some v) := by
  cases v <;> rfl

end Json

/-- Every content that a script asks for is read to its end. -/
def Script.Ends (el : ElementId) : Script → Markup → Prop
  | done _, _ => True
  | readAttribute name next, d => (next (d.attribute? el name)).Ends el d
  | setAttribute name value next, d => next.Ends el (d.setAttribute el name value)
  | innerHtml next, d => d.ReadsInner el (d.innerHtml el) ∧ (next (d.innerHtml el)).Ends el d

def Clause.Ends (r : Filters) : List Clause → Json → ElementIn Markup → Prop
  | [], _, _ => True
  | call :: chain, v, b =>
    (∀ f, r.find? call.name = some f → f.arity.accepts call.args.length →
      (f.script v.orBlank call.args).Ends b.element b.document) ∧
    ∀ w b', (apply r v call).run (some b) = .ok w (some b') → Clause.Ends r chain w b'

namespace Markup

/-- Elements that are taken out of a document, one after the other, are marked by the loop. -/
inductive DetachesAll : Markup → List ElementId → Markup → Prop
  | nil {d : Markup} : DetachesAll d [] d
  | cons {d d₁ d' : Markup} {el : ElementId} {els : List ElementId} :
      Detaches (d.orphan el) [el] d₁ → DetachesAll d₁ els d' → DetachesAll d (el :: els) d'

theorem contains_setAttribute (d : Markup) (el : ElementId) (name value : String) :
    (d.setAttribute el name value).Contains = d.Contains := by
  funext p x
  rw [Contains, setAttribute, childElements_modifyNode fun _ ↦ by rfl, Contains]

end Markup

/-- Content is compared with what is read of the element to the end; if it is other content, the
loop marks the elements that it replaces. -/
def Write.Ends (d : Markup) : Write → Prop
  | attr _ _ _ => True
  | html el content => d.ReadsInner el (d.innerHtml el) ∧
      (d.innerHtml el ≠ content →
        (d.modifyNode el ({ · with children := Markup.content content })).DetachesAll
          (d.childElements el) (d.setInnerHtml el content))

namespace Engine

theorem find?_builtin_attr : Filters.builtin.find? "attr" = some Filter.attr := rfl

section

variable {args : List String} {name text : String} {v : Option Json}

structure AttrCall (v : Option Json) (args : List String) (name text : String) : Prop where
  check : Filter.attr.arity.check "attr" args.length = .ok ()
  name : Filter.argument args 0 = .ok name
  text : Filter.attrText (v.getD .null).orBlank args = .ok text

theorem attrCall_value (v : Option Json) (name : String) :
    AttrCall v [name] name (Json.displayOption v) where
  check := rfl
  name := rfl
  text := by
    rw [Filter.attrText, if_neg (by simp), Json.display_orBlank, ← Json.displayOption_getD]
    rfl

theorem attrCall_literals (v : Option Json) (name truthy falsy : String) :
    AttrCall v [name, truthy, falsy] name (if Json.isTruthy v then truthy else falsy) where
  check := rfl
  name := rfl
  text := by
    rw [Filter.attrText, if_pos (by rfl), Json.isTruthy_orBlank, Json.isTruthy_getD]
    cases Json.isTruthy v <;> rfl

theorem AttrCall.script_eq (h : AttrCall v args name text) :
    Filter.attr.script (v.getD .null).orBlank args =
      .setAttribute name text (.innerHtml fun html ↦ .done (.ok (.string html))) := by
  simp only [Filter.attr, Filter.attrScript, h.text, h.name]

theorem run_scripts_attr {E : Type} [FilterTarget E] (h : AttrCall v args name text) (e : E) :
    (Clause.scripts Filter.attr (v.getD .null).orBlank args).run (some e) =
      .ok (.string (FilterTarget.innerHtml (FilterTarget.setAttribute e name text)))
        (some (FilterTarget.setAttribute e name text)) := by
  rw [Clause.scripts, h.script_eq]
  simp only [Script.run, EStateM.run_bind, EStateM.run_get, EStateM.run_set]
  rfl

theorem run_applyAll_attr {E : Type} [FilterTarget E] (h : AttrCall v args name text) (e : E) :
    (Clause.applyAll .builtin [⟨"attr", args⟩] v).run (some e) =
      .ok (.string (FilterTarget.innerHtml (FilterTarget.setAttribute e name text)))
        (some (FilterTarget.setAttribute e name text)) := by
  have hcheck : Filter.attr.arity.check Filter.attr.name args.length = .ok () := h.check
  rw [Clause.applyAll_eq_applyAllWith, Clause.run_applyAllWith, Clause.run_foldlM_applyWith_cons,
    Clause.run_applyWith]
  simp only [find?_builtin_attr, hcheck, run_scripts_attr h]
  rfl

end

/-- Showing a binding ends, whether with an error or not: its filters end, and so does the write. -/
def Ends (s : Engine Markup) (el : ElementId) : Binding → Prop
  | .chain p calls =>
    Clause.Ends s.filters calls ((s.data.get? p).getD .null) ⟨s.document, el, []⟩ ∧
      ∀ out s', (applyFilters el calls (s.data.get? p)).run s = .ok out s' →
        (Write.html el out.display).Ends s'.document
  | .content p => (Write.html el (Json.displayOption (s.data.get? p))).Ends s.document
  | .attr _ _ _ _ => True

/-- Showing either binding ends without an error, and leaves the document the same. -/
def LeaveAlike (s : Engine Markup) (i : Nat) (el : ElementId) (b b' : Binding) : Prop :=
  s.Ends el b ∧ s.Ends el b' ∧
    ∃ s₁ s₂, (render i el b).run s = .ok () s₁ ∧ (render i el b').run s = .ok () s₂ ∧
      s₁.document = s₂.document

section

variable {s : Engine Markup} (hs : s.filters = .builtin) (i : Nat) (el : ElementId) (p : Path)
  {args : List String} {name text : String}
include hs

theorem run_applyFilters_attr (h : AttrCall (s.data.get? p) args name text) :
    ∃ s', (applyFilters el [⟨"attr", args⟩] (s.data.get? p)).run s =
        .ok (.string ((s.document.setAttribute el name text).innerHtml el)) s' ∧
      s'.document = s.document.setAttribute el name text := by
  rw [run_applyFilters, hs, run_applyAll_attr h]
  exact ⟨_, rfl, rfl⟩

theorem run_render_attrFilter (h : AttrCall (s.data.get? p) args name text) :
    ∃ s', (render i el (.chain p [⟨"attr", args⟩])).run s = .ok () s' ∧
      s'.document = s.document.setAttribute el name text := by
  obtain ⟨s₁, hrun, hdoc⟩ := run_applyFilters_attr hs el p h
  rw [run_render_chain, hrun]
  refine ⟨_, rfl, ?_⟩
  rw [Json.display_string, ← hdoc]
  exact Markup.setInnerHtml_of_eq rfl

theorem ends_attrFilter_iff (hd : s.document.Grove) (h : AttrCall (s.data.get? p) args name text) :
    s.Ends el (.chain p [⟨"attr", args⟩]) ↔ ¬ s.document.Contains el el := by
  obtain ⟨s', hrun, hdoc⟩ := run_applyFilters_attr hs el p h
  have hlinked : (s.document.setAttribute el name text).Linked :=
    (hd.apply (.setAttribute el name text)).linked
  have hreads : (s.document.setAttribute el name text).ReadsInner el
      ((s.document.setAttribute el name text).innerHtml el) ↔ ¬ s.document.Contains el el := by
    rw [hlinked.readsInner_iff, Markup.contains_setAttribute, and_iff_left rfl]
  constructor
  · rintro ⟨⟨hends, -⟩, -⟩
    have hfilter := hends Filter.attr (hs ▸ find?_builtin_attr) (Clause.accepts_of_check h.check)
    rw [h.script_eq] at hfilter
    exact hreads.mp hfilter.1
  · intro hown
    have hread := hreads.mpr hown
    refine ⟨⟨fun f hf _ ↦ ?_, fun _ _ _ ↦ trivial⟩, fun out s₁ hout ↦ ?_⟩
    · rw [hs, find?_builtin_attr] at hf
      cases hf
      rw [h.script_eq]
      exact ⟨hread, trivial⟩
    · rw [hrun] at hout
      cases hout
      rw [Json.display_string, hdoc]
      -- the content that is written is the one that was read, and replaces nothing
      exact ⟨hread, fun hne ↦ absurd rfl hne⟩

variable (hd : s.document.Grove) (hown : ¬ s.document.Contains el el)
include hd hown

theorem leaveAlike_of_attrCall {truthy falsy : String}
    (h : AttrCall (s.data.get? p) args name
      (attrText (.attr p name truthy falsy) truthy falsy (s.data.get? p))) :
    LeaveAlike s i el (.attr p name truthy falsy) (.chain p [⟨"attr", args⟩]) := by
  obtain ⟨s', hrun, hdoc⟩ := run_render_attrFilter hs i el p h
  exact ⟨trivial, (ends_attrFilter_iff hs el p hd h).mpr hown, _, s',
    run_render_attr i el p name truthy falsy s, hrun, hdoc.symm⟩

end

/-- An attribute binding leaves a document as the filter does that sets the same attribute: without
literals to the text of the value, and with two literals, not both empty, to one of them. Both end,
whatever edits have led to the document, unless the element stands in its own list. -/
theorem render_attr_alike {s : Engine Markup} (hs : s.filters = .builtin)
    {allowed : Markup → Markup.Edit → Prop} (hd : Markup.Reached allowed s.document)
    {el : ElementId} (hown : ¬ s.document.Contains el el) (i : Nat) (p : Path) (name : String) :
    LeaveAlike s i el (.attr p name "" "") (.chain p [⟨"attr", [name]⟩]) ∧
      ∀ truthy falsy, truthy ≠ "" ∨ falsy ≠ "" →
        LeaveAlike s i el (.attr p name truthy falsy)
          (.chain p [⟨"attr", [name, truthy, falsy]⟩]) := by
  refine ⟨?_, fun truthy falsy hne ↦ ?_⟩
  · exact leaveAlike_of_attrCall hs i el p hd.grove hown (attrCall_value (s.data.get? p) name)
  · have hliterals : (Binding.attr p name truthy falsy).hasLiterals = true := by
      simpa [Binding.hasLiterals, ← Decidable.not_and_iff_not_or_not] using hne
    apply leaveAlike_of_attrCall hs i el p hd.grove hown
    rw [attrText, if_pos hliterals]
    exact attrCall_literals (s.data.get? p) name truthy falsy

namespace Lamp

def lit : Path := ⟨["lit"], by decide, by decide⟩

def document : Markup := (Markup.Edit.appendElement none "img" [("class", "lamp")]).apply .empty

def engine : Engine Markup :=
  { State.init document {} with data := .object [("lit", .array [])] }

theorem render_attr_alike_lamp :
    engine.filters = .builtin ∧ Markup.Reached (fun _ _ ↦ True) document ∧
      ¬ document.Contains 0 0 ∧ ¬ document.Contains 7 7 ∧
      LeaveAlike engine 0 0 (.attr lit "class" "" "") (.chain lit [⟨"attr", ["class"]⟩]) ∧
      LeaveAlike engine 0 0 (.attr lit "class" "" "off")
        (.chain lit [⟨"attr", ["class", "", "off"]⟩]) ∧
      LeaveAlike engine 0 7 (.attr lit "title" "on" "")
        (.chain lit [⟨"attr", ["title", "on", ""]⟩]) := by
  have hs : engine.filters = .builtin := rfl
  have hd : Markup.Reached (fun _ _ ↦ True) engine.document :=
    .edit (e := .appendElement none "img" [("class", "lamp")]) .empty trivial
  have hown : 0 ∉ document.childElements 0 := by decide +kernel
  have hmissing : 7 ∉ document.childElements 7 := by decide +kernel
  exact ⟨hs, hd, hown, hmissing, (render_attr_alike hs hd hown 0 lit "class").1,
    (render_attr_alike hs hd hown 0 lit "class").2 "" "off" (by decide),
    (render_attr_alike hs hd hmissing 0 lit "title").2 "on" "" (by decide)⟩

end Lamp

/-- At an element in its own list the binding ends, but the filter never comes to the end of the
content that it reads. -/
theorem attrFilter_never_ends :
    let s : Engine Markup := State.init Markup.Mirror.document {}
    Markup.Reached (fun _ _ ↦ True) s.document ∧ s.filters = .builtin ∧
      s.Ends 1 (.attr Lamp.lit "class" "" "") ∧
      (¬ ∃ html, (s.document.setAttribute 1 "class" "").ReadsInner 1 html) ∧
      ¬ s.Ends 1 (.chain Lamp.lit [⟨"attr", ["class"]⟩]) ∧
      ¬ ∀ i, LeaveAlike s i 1 (.attr Lamp.lit "class" "" "")
        (.chain Lamp.lit [⟨"attr", ["class"]⟩]) := by
  intro s
  have hd : Markup.Reached (fun _ _ ↦ True) s.document := Markup.Mirror.reached_document
  have hnot : ¬ s.Ends 1 (.chain Lamp.lit [⟨"attr", ["class"]⟩]) := fun h ↦
    (ends_attrFilter_iff rfl 1 Lamp.lit hd.grove (attrCall_value _ "class")).mp h
      Markup.Mirror.contains_one
  refine ⟨hd, rfl, trivial, ?_, hnot, fun h ↦ hnot (h 0).2.1⟩
  rintro ⟨html, hhtml⟩
  have hlinked := (hd.grove.apply (.setAttribute 1 "class" "")).linked
  refine (hlinked.readsInner_iff.mp hhtml).1 ?_
  rw [Markup.Edit.apply, Markup.contains_setAttribute]
  exact Markup.Mirror.contains_one

end Engine

end DataBinding
