import DataBinding.Proofs.Markup.Walk
import DataBinding.Proofs.Template.Fill
import Mathlib

namespace DataBinding

open Markup

namespace Engine

variable {d₀ : Markup} {L : List (ElementId × Binding)} {e : ElementId × Binding}

theorem textsOf_shown_of_notMem {el : ElementId} (root : Json)
    (h : el ∉ L.map Prod.fst) : textsOf el (shown root L) = [] := by
  rw [textsOf, List.map_eq_nil_iff, List.filter_eq_nil_iff]
  intro w hw
  obtain ⟨e, he, rfl⟩ := List.mem_map.mp hw
  have hne : e.1 ≠ el := fun heq ↦ h (heq ▸ List.mem_map_of_mem he)
  simpa using hne

theorem textsOf_shown (root : Json) (h : (L.map Prod.fst).Nodup) (he : e ∈ L) :
    textsOf e.1 (shown root L) = [e.2.textD root] := by
  obtain ⟨before, after, rfl⟩ := List.append_of_mem he
  rw [List.map_append, List.map_cons] at h
  have hnot := (List.nodup_middle.mp h).notMem
  rw [List.mem_append, not_or] at hnot
  have hmiddle : shown root (e :: after) = (e.1, e.2.textD root) :: shown root after := rfl
  rw [shown_append, textsOf_append, textsOf_shown_of_notMem root hnot.1, hmiddle,
    ← List.singleton_append, textsOf_append, textsOf_shown_of_notMem root hnot.2]
  simp [textsOf]

theorem textsOf_shown_reading (root : Json) (hi : Independent d₀ L) (he : e ∈ L) (key : String) :
    textsOf e.1 (shown root (reading L key)) =
      if e.2.property.member = key then [e.2.textD root] else [] := by
  split
  · rename_i hkey
    refine textsOf_shown root (hi.nodup.sublist (List.filter_sublist.map _)) ?_
    exact List.mem_filter.mpr ⟨he, decide_eq_true hkey⟩
  · rename_i hkey
    refine textsOf_shown_of_notMem root fun hmem ↦ ?_
    obtain ⟨e', he', hel⟩ := List.mem_map.mp hmem
    obtain ⟨he', hread⟩ := List.mem_filter.mp he'
    rw [hi.eq he' he hel] at hread
    exact hkey (of_decide_eq_true hread)

theorem textsOf_flatMap {α : Type} (el : ElementId) (l : List α)
    (f : α → List (ElementId × String)) :
    textsOf el (l.flatMap f) = l.flatMap fun a ↦ textsOf el (f a) := by
  induction l with
  | nil => rfl
  | cons a l ih => rw [List.flatMap_cons, textsOf_append, ih, List.flatMap_cons]

theorem flatMap_member {α : Type} (key : String) (x : α) {ms : Json.Members}
    (h : (ms.map Prod.fst).Nodup) :
    (ms.flatMap fun m ↦ if key = m.1 then [x] else []) =
      if (Json.Members.find? key ms).isSome then [x] else [] := by
  induction ms with
  | nil => rfl
  | cons m ms ih =>
    obtain ⟨k, v⟩ := m
    rw [List.map_cons, List.nodup_cons] at h
    rw [List.flatMap_cons, ih h.2, Json.Members.find?]
    by_cases hk : key = k
    · subst hk
      have hnone : Json.Members.find? key ms = none := by
        refine Option.eq_none_iff_forall_not_mem.mpr fun w hw ↦ h.1 ?_
        exact List.mem_map.mpr ⟨_, (Json.Members.find?_eq_some_iff h.2).mp hw, rfl⟩
      simp [hnone]
    · simp [hk, Ne.symm hk]

theorem textsOf_showing (hi : Independent d₀ L) (he : e ∈ L) {members : Json.Members}
    (h : (members.map Prod.fst).Nodup) :
    textsOf e.1 (showing L members) =
      e.2.textD (.object []) ::
        if (Json.Members.find? e.2.property.member members).isSome then
          [e.2.textD (.object members)]
        else [] := by
  rw [showing, textsOf_append, textsOf_shown _ hi.nodup he, textsOf_flatMap,
    ← flatMap_member _ _ h, List.singleton_append]
  simp only [textsOf_shown_reading _ hi he]

theorem Fillable.shows_full {members : Json.Members} (h : Fillable d₀ members)
    (hnodup : (members.map Prod.fst).Nodup) (he : e ∈ d₀.bound {}) :
    e.2.Shows (.object members) := by
  cases hfind : Json.Members.find? e.2.property.member members with
  | none =>
    have hsame : e.2.text (.object members) = e.2.text (.object []) :=
      Binding.text_object_congr hfind
    rw [Binding.Shows, hsame]
    exact h.shows_empty e he
  | some v =>
    have hmem := (Json.Members.find?_eq_some_iff hnodup).mp hfind
    exact h.shows_read _ hmem e (List.mem_filter.mpr ⟨he, decide_eq_true rfl⟩)

theorem text_perm {members members' : Json.Members} (hnodup : (members.map Prod.fst).Nodup)
    (hperm : members'.Perm members) (b : Binding) :
    b.text (.object members') = b.text (.object members) :=
  Binding.text_object_congr (Json.Members.find?_perm hnodup hperm)

theorem Fillable.perm {members members' : Json.Members} (h : Fillable d₀ members)
    (hnodup : (members.map Prod.fst).Nodup) (hperm : members'.Perm members) :
    Fillable d₀ members' where
  readable := h.readable
  shows_empty := h.shows_empty
  shows_read m hm e he := by
    rw [Binding.Shows, text_perm hnodup hperm]
    exact h.shows_read m (hperm.mem_iff.mp hm) e he

theorem textsOf_showing_perm (hi : Independent d₀ L) (he : e ∈ L) {members members' : Json.Members}
    (hnodup : (members.map Prod.fst).Nodup) (hperm : members'.Perm members) :
    textsOf e.1 (showing L members') = textsOf e.1 (showing L members) := by
  have hnodup' : (members'.map Prod.fst).Nodup := (hperm.map Prod.fst).nodup_iff.mpr hnodup
  rw [textsOf_showing hi he hnodup', textsOf_showing hi he hnodup,
    Json.Members.find?_perm hnodup hperm, Binding.textD, Binding.textD, Binding.textD,
    text_perm hnodup hperm]

end Engine

namespace Template

open Engine

/-- A void element holds empty texts and nothing else, and its binding shows some text without the
data and none with it. -/
def Empties (d : Markup) (members : Json.Members) (e : ElementId × Binding) : Prop :=
  e.2.isContent ∧ (d.tag? e.1).any voidElements.contains ∧
    (d.node? e.1).any (!·.children.isEmpty) ∧ d.innerHtml e.1 = "" ∧
    (e.2.text (.object [])).toOption ≠ some "" ∧ (e.2.text (.object members)).toOption = some ""

instance (d : Markup) (members : Json.Members) (e : ElementId × Binding) :
    Decidable (Empties d members e) := inferInstanceAs (Decidable (_ ∧ _))

def below (d : Markup) (el : ElementId) : List ElementId := (d.childElements el).flatMap d.subtree

theorem map_fst_filterMap_sublist {f : ElementId → Option (ElementId × Binding)}
    (hf : ∀ el e, f el = some e → e.1 = el) {els : List ElementId} :
    ((els.filterMap f).map Prod.fst).Sublist els := by
  induction els with
  | nil => exact .slnil
  | cons el els ih =>
    rw [List.filterMap_cons]
    cases h : f el with
    | none => exact ih.cons el
    | some e =>
      rw [List.map_cons, hf el e h]
      exact ih.cons_cons el

theorem independent_bound {t : Json} {d : Markup} (hd : ofJson t = .ok d)
    (h : ∀ e ∈ d.bound {}, e.2.isContent → ∀ e' ∈ d.bound {}, e'.1 ∉ below d e.1) :
    Independent d (d.bound {}) := by
  have hf := (Built.ofJson hd).forest
  constructor
  · refine List.Nodup.sublist ?_ (hf.nodup_elementsWith ({} : Options).bindingAttribute)
    exact map_fst_filterMap_sublist fun el e he ↦ fst_of_found? he
  · intro e he hc e' he' hbelow
    exact h e he hc e' he' (hf.mem_below_iff.mpr hbelow)

theorem nodup_of_readJson {data : String} {members : Json.Members}
    (h : readJson data = .ok (.object members)) : (members.map Prod.fst).Nodup := by
  rw [readJson] at h
  cases hp : Json.parse? data.toList with
  | none =>
    rw [hp] at h
    cases h
  | some v =>
    rw [hp] at h
    cases h
    exact Json.nodup_of_parse? hp

theorem render_eq_ok_iff {template data : String} {t : Json} {members : Json.Members} {d : Markup}
    (ht : readJson template = .ok t) (hdata : readJson data = .ok (.object members))
    (hd : ofJson t = .ok d) {html : String} :
    render template data = .ok html ↔
      ∃ u s, (Engine.run (fill members)).run (State.init d {}) = .ok u s ∧
        s.document.toHtml = html := by
  simp only [render, ht, hdata, hd, Bind.bind, Except.bind, Except.mapError]
  cases (Engine.run (fill members)).run (State.init d {}) with
  | error e s =>
    constructor
    · intro h
      cases h
    · rintro ⟨u, s', h, -⟩
      cases h
  | ok u s =>
    constructor
    · intro h
      cases h
      exact ⟨u, s, rfl, rfl⟩
    · rintro ⟨u', s', h, rfl⟩
      cases h
      rfl

theorem sameEnd_showing {d : Markup} {members : Json.Members} {e : ElementId × Binding}
    {node : Node} (hi : Independent d (d.bound {})) (hfill : Fillable d members)
    (hnodup : (members.map Prod.fst).Nodup) (he : e ∈ d.bound {}) (hnode : d.node? e.1 = some node)
    (hkept : ¬ Empties d members e) :
    SameEnd node (d.innerHtml e.1) e.2 (textsOf e.1 (showing (d.bound {}) members))
      [e.2.textD (.object members)] := by
  rw [textsOf_showing hi he hnodup]
  cases hfind : Json.Members.find? e.2.property.member members with
  | none =>
    have hsame : e.2.text (.object members) = e.2.text (.object []) :=
      Binding.text_object_congr hfind
    rw [Binding.textD, Binding.textD, hsame]
    exact .refl _ _ _ _
  | some v =>
    refine sameEnd_of_first (fun hnone ↦ ?_) fun hc hvoid hne hinner hfirst hlast ↦ ?_
    · rw [innerHtml_of_node? hnode, hnone]
      rfl
    · refine hkept ⟨hc, ?_, ?_, hinner, ?_, ?_⟩
      · simpa [tag?, hnode] using hvoid
      · simpa [hnode] using hne
      · rw [(hfill.shows_empty e he).toOption_text]
        simpa using hfirst
      · exact (hfill.shows_full hnodup he).toOption_text.trans (congrArg some hlast)

/-- Filling a template gives the markup of one scan with all of the data in the store, unless an
element is void, holds empty texts only, and shows something without the data and nothing with it;
and it gives the same markup for every order of the data. -/
theorem render_eq_scan {template data : String} {t : Json} {members : Json.Members} {d : Markup}
    {html : String} (ht : readJson template = .ok t) (hdata : readJson data = .ok (.object members))
    (hd : ofJson t = .ok d) (hkeys : ∀ m ∈ members, IsKey m.1)
    (hplain : ∀ e ∈ d.bound {}, ∀ call ∈ e.2.calls, call.name ≠ "attr")
    (hbelow : ∀ e ∈ d.bound {}, e.2.isContent → ∀ e' ∈ d.bound {}, e'.1 ∉ below d e.1)
    (h : render template data = .ok html) :
    ((∀ e ∈ d.bound {}, ¬ Empties d members e) →
      ∃ n s, Engine.scan.run { State.init d {} with data := .object members } = .ok n s ∧
        s.document.toHtml = html) ∧
    ∀ data' members', readJson data' = .ok (.object members') → members'.Perm members →
      render template data' = .ok html := by
  have hf := (Built.ofJson hd).forest
  have hi := independent_bound hd hbelow
  have hels := hf.nodup_elementsWith ({} : Options).bindingAttribute
  have hnodup := nodup_of_readJson hdata
  have hgoes := goes_fill hf hi hplain hels hnodup hkeys
  obtain ⟨u, s, hrun, rfl⟩ := (render_eq_ok_iff ht hdata hd).mp h
  have hfill := hgoes.succeeds_iff.mp ⟨u, s, hrun⟩
  have hshows := hgoes.leads u s hrun
  constructor
  · intro hkept
    have hscan := goes_scan (s := { State.init d {} with data := .object members }) hf hi hplain
      hels rfl rfl rfl
    obtain ⟨n, s', hrun'⟩ :=
      hscan.succeeds_iff.mpr ⟨hfill.readable, fun e he ↦ hfill.shows_full hnodup he⟩
    obtain ⟨-, -, -, hshows'⟩ := hscan.leads n s' hrun'
    refine ⟨n, s', hrun', hshows.toHtml_eq hshows' hi fun e he node hnode ↦ ?_⟩
    rw [textsOf_shown _ hi.nodup he]
    exact sameEnd_showing hi hfill hnodup he hnode (hkept e he)
  · intro data' members' hdata' hperm
    have hgoes' := goes_fill hf hi hplain hels (nodup_of_readJson hdata')
      fun m hm ↦ hkeys m (hperm.mem_iff.mp hm)
    obtain ⟨u', s', hrun'⟩ := hgoes'.succeeds_iff.mpr (hfill.perm hnodup hperm)
    refine (render_eq_ok_iff ht hdata' hd).mpr ⟨u', s', hrun', ?_⟩
    refine hshows.toHtml_eq (hgoes'.leads u' s' hrun') hi fun e he node _ ↦ ?_
    rw [textsOf_showing_perm hi he hnodup hperm]
    exact .refl _ _ _ _

theorem ok_of_toOption {ε α : Type} {x : Except ε α} {a : α} (h : x.toOption = some a) :
    x = .ok a := by
  cases x with
  | error e => cases h
  | ok b => exact congrArg Except.ok (Option.some.inj h)

def card : Json :=
  .array [.string "p", .object [("data-binding", .string "city:title")],
    .array [.string "b", .object [("data-binding", .string "name | upcase")], .string "nobody"],
    .array [.string "br"]]

def cardText : String :=
  "[\"p\", \x7b\"data-binding\": \"city:title\"\x7d, " ++
    "[\"b\", \x7b\"data-binding\": \"name | upcase\"\x7d, \"nobody\"], [\"br\"]]"

def cardMarkup : Markup where
  nodes := [⟨"p", [("data-binding", "city:title")], [.element 1, .element 2], none, true⟩,
    ⟨"b", [("data-binding", "name | upcase")], [.text "nobody"], some 0, true⟩,
    ⟨"br", [], [], some 0, true⟩]
  roots := [0]

def person : Json.Members := [("name", .string "Ann"), ("city", .string "Rome")]

def personText : String := "\x7b\"name\": \"Ann\", \"city\": \"Rome\"\x7d"

def reversedText : String := "\x7b\"city\": \"Rome\", \"name\": \"Ann\"\x7d"

def cardHtml : String :=
  "<p data-binding=\"city:title\" title=\"Rome\">" ++
    "<b data-binding=\"name | upcase\">ANN</b><br /></p>"

theorem readJson_card : readJson cardText = .ok card := by cbv

theorem readJson_person : readJson personText = .ok (.object person) := by cbv

theorem readJson_reversed : readJson reversedText = .ok (.object person.reverse) := by cbv

theorem ofJson_card : ofJson card = .ok cardMarkup := by cbv

theorem render_eq_scan_card :
    (∃ n s, Engine.scan.run { State.init cardMarkup {} with data := .object person } = .ok n s ∧
        s.document.toHtml = cardHtml) ∧
      render cardText reversedText = .ok cardHtml := by
  have hrender : render cardText personText = .ok cardHtml := ok_of_toOption (by decide +kernel)
  obtain ⟨hscan, horder⟩ := render_eq_scan readJson_card readJson_person ofJson_card
    (by decide +kernel) (by decide +kernel) (by decide +kernel) hrender
  exact ⟨hscan (by decide +kernel),
    horder _ _ readJson_reversed (List.reverse_perm person)⟩

def lineBreak : Json :=
  .array [.string "br", .object [("data-binding",
    .string "a | replaceFirst: \"\", \"x\" | replaceFirst: \"xx\", \"\"")], .string ""]

def lineBreakText : String :=
  "[\"br\", \x7b\"data-binding\": \"a | replaceFirst: \\\"\\\", \\\"x\\\" | replaceFirst: " ++
    "\\\"xx\\\", \\\"\\\"\"\x7d, \"\"]"

def lineBreakMarkup : Markup where
  nodes := [⟨"br", [("data-binding", "a | replaceFirst: \"\", \"x\" | replaceFirst: \"xx\", \"\"")],
    [.text ""], none, true⟩]
  roots := [0]

def mark : Json.Members := [("a", .string "x")]

def markText : String := "\x7b\"a\": \"x\"\x7d"

/-- What is shown before the data is there takes the place of the empty text for good, so that the
line break is closed at once, which it is not after one scan. -/
theorem render_ne_scan :
    readJson lineBreakText = .ok lineBreak ∧
      readJson markText = .ok (.object mark) ∧
      ofJson lineBreak = .ok lineBreakMarkup ∧ (∀ m ∈ mark, IsKey m.1) ∧
      (∀ e ∈ lineBreakMarkup.bound {}, ∀ call ∈ e.2.calls, call.name ≠ "attr") ∧
      (∀ e ∈ lineBreakMarkup.bound {}, e.2.isContent →
        ∀ e' ∈ lineBreakMarkup.bound {}, e'.1 ∉ below lineBreakMarkup e.1) ∧
      ∃ html, render lineBreakText markText = .ok html ∧
        ¬ ∃ n s, Engine.scan.run { State.init lineBreakMarkup {} with data := .object mark } =
          .ok n s ∧ s.document.toHtml = html := by
  let marked : Engine Markup := { State.init lineBreakMarkup {} with data := .object mark }
  have hdoc : (after Engine.scan marked).document.toHtml =
        "<br data-binding=\"a | replaceFirst: &quot;&quot;, &quot;x&quot; | replaceFirst: " ++
          "&quot;xx&quot;, &quot;&quot;\"></br>" := by decide +kernel
  refine ⟨by cbv, by cbv, by cbv, by decide +kernel, by decide +kernel, by decide +kernel,
    "<br data-binding=\"a | replaceFirst: &quot;&quot;, &quot;x&quot; | replaceFirst: " ++
      "&quot;xx&quot;, &quot;&quot;\" />", ok_of_toOption (by decide +kernel), ?_⟩
  rintro ⟨n, s, hrun, hhtml⟩
  rw [after_of_ok hrun, hhtml] at hdoc
  exact absurd hdoc (by decide +kernel)

end Template

end DataBinding
