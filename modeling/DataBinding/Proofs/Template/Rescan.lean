import DataBinding.Proofs.Markup.Content
import DataBinding.Proofs.Markup.Tag
import DataBinding.Proofs.Template.Scan

namespace DataBinding

def Binding.target? : Binding → Option String
  | attr _ name _ _ => some name
  | chain _ _ | content _ => none

namespace Markup

open Relation

variable {d d' : Markup} {el el' x : ElementId} {b b' : Binding} {text text' name : String}
  {L : List (ElementId × Binding)}

def Settled (d : Markup) (el : ElementId) (text : String) : Binding → Prop
  | .attr _ name _ _ => ∀ f ∈ d.face? el, putAttr name text f.attrs = f.attrs
  | .chain _ _ | .content _ => d.innerHtml el = text

theorem settled_apply_write (hel : el < d.size) (b : Binding) (text : String) :
    ((b.write el text).apply d).Settled el text b := by
  cases b with
  | attr p name truthy falsy =>
    intro f hf
    have hface : (d.setAttribute el name text).face? el = some f := hf
    rw [face?_setAttribute, if_pos rfl, Option.map_eq_some_iff] at hface
    obtain ⟨f₀, -, rfl⟩ := hface
    exact putAttr_putAttr name text text f₀.attrs
  | chain p calls | content p => exact innerHtml_setInnerHtml hel text

theorem Settled.apply_write_eq (h : d.Settled el text b) : (b.write el text).apply d = d := by
  cases b with
  | attr p name truthy falsy =>
    change d.setAttribute el name text = d
    rw [Markup.setAttribute, modifyNode]
    congr 1
    refine List.ext_getElem? fun i ↦ ?_
    rw [List.getElem?_modify]
    split
    · rename_i hi
      subst hi
      cases hnode : d.nodes[el]? with
      | none => rfl
      | some node =>
        have hattrs : putAttr name text node.attrs = node.attrs :=
          h node.face (face?_of_node? hnode)
        simp [hattrs]
    · simp
  | chain p calls | content p => exact setInnerHtml_of_eq h

/-- A text stays where it is shown while something else is shown in another element, unless that
stands in content that is shown. -/
theorem Settled.apply_write (h : d.Settled el text b) (hne : el ≠ el')
    (hapart : b.isContent → ¬ TransGen d.Contains el el') (b' : Binding) (text' : String) :
    ((b'.write el' text').apply d).Settled el text b := by
  have hinner (hc : b.isContent) :
      ((b'.write el' text').apply d).innerHtml el = d.innerHtml el := by
    refine (html_congr (Binding.size_apply_write b' el' text' d) fun y hy ↦ ?_).1
    refine Binding.face?_apply_write_of_ne b' text' ?_
    rintro rfl
    rcases reflTransGen_iff_eq_or_transGen.mp hy with heq | hbelow
    · exact hne heq.symm
    · exact hapart hc hbelow
  cases b with
  | attr p name truthy falsy =>
    intro f hf
    rw [Binding.face?_apply_write_of_ne b' text' hne] at hf
    exact h f hf
  | chain p calls | content p => exact (hinner rfl).trans h

theorem lookup_putAttr_of_ne {name' : String} (hne : name' ≠ name) (value : String)
    (attrs : List (String × String)) :
    (putAttr name' value attrs).lookup name = attrs.lookup name := by
  induction attrs with
  | nil => rw [putAttr, List.lookup_cons, beq_false_of_ne (Ne.symm hne)]
  | cons kv attrs ih =>
    obtain ⟨k, v⟩ := kv
    rw [putAttr]
    split
    · rename_i hk
      have hother : (name == k) = false := beq_false_of_ne (hk ▸ Ne.symm hne)
      rw [List.lookup_cons, List.lookup_cons, hother]
    · rw [List.lookup_cons, List.lookup_cons, ih]

structure Overwrites (L : List (ElementId × Binding)) (name : String) (d d' : Markup) : Prop where
  size : d'.size = d.size
  roots : d'.roots = d.roots
  attribute? : ∀ x, d'.attribute? x name = d.attribute? x name
  childElements : ∀ x, d'.childElements x = d.childElements x ∨
    d'.childElements x = [] ∧ ∃ e ∈ L, e.2.isContent ∧ e.1 = x

theorem Overwrites.refl (L : List (ElementId × Binding)) (name : String) (d : Markup) :
    Overwrites L name d d := ⟨rfl, rfl, fun _ ↦ rfl, fun _ ↦ .inl rfl⟩

theorem attribute?_apply_write (hb : b.target? ≠ some name) (el : ElementId) (text : String)
    (d : Markup) (x : ElementId) :
    ((b.write el text).apply d).attribute? x name = d.attribute? x name := by
  rw [attribute?_eq_face?, attribute?_eq_face?]
  cases b with
  | attr p name' truthy falsy =>
    have hne : name' ≠ name := fun h ↦ hb (congrArg some h)
    change ((d.setAttribute el name' text).face? x).bind _ = _
    rw [face?_setAttribute]
    split
    · rw [Option.bind_map]
      exact congrArg _ (funext fun f ↦ lookup_putAttr_of_ne hne text f.attrs)
    · rfl
  | chain p calls | content p =>
    change ((d.setInnerHtml el text).face? x).bind _ = _
    rw [face?_setInnerHtml]
    split
    · rw [Option.bind_map]
      rfl
    · rfl

theorem childElements_setInnerHtml (d : Markup) (el : ElementId) (text : String) (x : ElementId) :
    (d.setInnerHtml el text).childElements x = d.childElements x ∨
      (d.setInnerHtml el text).childElements x = [] ∧ el = x := by
  by_cases hsame : d.innerHtml el = text
  · exact .inl (by rw [setInnerHtml_of_eq hsame])
  · rw [setInnerHtml_of_ne hsame, childElements_release]
    by_cases hx : x = el
    · refine .inr ⟨?_, hx.symm⟩
      rw [childElements_eq, node?_modifyNode, if_pos hx]
      cases d.node? x with
      | none => rfl
      | some node => exact childElements_content text
    · exact .inl (childElements_modifyNode_of_ne hx d _)

theorem childElements_apply_write (b : Binding) (el : ElementId) (text : String) (d : Markup)
    (x : ElementId) :
    ((b.write el text).apply d).childElements x = d.childElements x ∨
      ((b.write el text).apply d).childElements x = [] ∧ b.isContent ∧ el = x := by
  cases b with
  | attr p name truthy falsy =>
    exact .inl (congrFun (childElements_modifyNode (fun _ ↦ by rfl) d el) x)
  | chain p calls | content p =>
    exact (childElements_setInnerHtml d el text x).imp_right fun ⟨hnil, hx⟩ ↦ ⟨hnil, rfl, hx⟩

namespace Overwrites

theorem apply_write (h : Overwrites L name d d') {e : ElementId × Binding} (he : e ∈ L)
    (ht : e.2.target? ≠ some name) (text : String) :
    Overwrites L name d ((e.2.write e.1 text).apply d') where
  size := (Binding.size_apply_write e.2 e.1 text d').trans h.size
  roots := (Binding.roots_apply_write e.2 e.1 text d').trans h.roots
  attribute? x := (attribute?_apply_write ht e.1 text d' x).trans (h.attribute? x)
  childElements x := by
    rcases childElements_apply_write e.2 e.1 text d' x with hsame | ⟨hnil, hc, hx⟩
    · rw [hsame]
      exact h.childElements x
    · exact .inr ⟨hnil, e, he, hc, hx⟩

theorem contains (h : Overwrites L name d d') {p : ElementId} (hc : d'.Contains p x) :
    d.Contains p x := by
  rcases h.childElements p with hsame | ⟨hnil, -⟩
  · rw [Contains, hsame] at hc
    exact hc
  · rw [Contains, hnil] at hc
    cases hc

end Overwrites

theorem below_of_mem_subtreeTo {n : Nat} (h : x ∈ d.subtreeTo n el) :
    ReflTransGen d.Contains el x := by
  induction n generalizing el with
  | zero => cases h
  | succ n ih =>
    rw [subtreeTo] at h
    cases hnode : d.node? el with
    | none =>
      rw [hnode] at h
      cases h
    | some node =>
      simp only [hnode, List.mem_cons, List.mem_flatMap] at h
      rcases h with rfl | ⟨c, hc, hx⟩
      · exact .refl
      · exact .head hc (ih hx)

theorem Overwrites.filter_subtreeTo (h : Overwrites L name d d') {P : ElementId → Bool} {n : Nat}
    (hP : ∀ e ∈ L, e.2.isContent → ∀ y ∈ d.subtreeTo n el, P y → ¬ TransGen d.Contains e.1 y) :
    (d'.subtreeTo n el).filter P = (d.subtreeTo n el).filter P := by
  induction n generalizing el with
  | zero => rfl
  | succ n ih =>
    rw [subtreeTo] at hP
    rw [subtreeTo, subtreeTo]
    by_cases hel : el < d.size
    · obtain ⟨node, hnode⟩ := exists_node?_of_lt hel
      obtain ⟨node', hnode'⟩ := exists_node?_of_lt (h.size.symm ▸ hel)
      simp only [hnode, List.mem_cons, List.mem_flatMap] at hP
      simp only [hnode, hnode', List.filter_cons]
      have hbelow : ((d'.childElements el).flatMap (d'.subtreeTo n)).filter P =
          ((d.childElements el).flatMap (d.subtreeTo n)).filter P := by
        rcases h.childElements el with hsame | ⟨hnil, e, he, hc, rfl⟩
        · rw [hsame, List.filter_flatMap, List.filter_flatMap]
          refine List.flatMap_congr fun c hmem ↦ ih fun e he hc y hy ↦ ?_
          exact hP e he hc y (.inr ⟨c, hmem, hy⟩)
        · -- what was below is gone, and `P` held of none of it
          rw [hnil, List.flatMap_nil, List.filter_nil, eq_comm, List.filter_eq_nil_iff]
          intro y hy hPy
          obtain ⟨c, hmem, hy⟩ := List.mem_flatMap.mp hy
          refine hP e he hc y (.inr ⟨c, hmem, hy⟩) hPy ?_
          exact TransGen.head' hmem (below_of_mem_subtreeTo hy)
      rw [hbelow]
    · have hle := Nat.not_lt.mp hel
      rw [node?_eq_none_of_le hle, node?_eq_none_of_le (h.size.symm ▸ hle)]

theorem Overwrites.elementsWith_eq (h : Overwrites L name d d')
    (hapart : ∀ e ∈ L, e.2.isContent → ∀ y ∈ d.elementsWith name, ¬ TransGen d.Contains e.1 y) :
    d'.elementsWith name = d.elementsWith name := by
  rw [elementsWith_eq_filter] at hapart
  rw [elementsWith_eq_filter, elementsWith_eq_filter, preorder, preorder, h.roots, h.size,
    List.filter_flatMap, List.filter_flatMap]
  simp only [h.attribute?]
  refine List.flatMap_congr fun r hr ↦ h.filter_subtreeTo fun e he hc y hy hname ↦ ?_
  refine hapart e he hc y (List.mem_filter.mpr ⟨?_, hname⟩)
  exact List.mem_flatMap.mpr ⟨r, hr, hy⟩

theorem mem_bound_iff {o : Options} {e : ElementId × Binding} :
    e ∈ d.bound o ↔ e.1 ∈ d.elementsWith o.bindingAttribute ∧ d.found? o e.1 = some e := by
  rw [bound, List.mem_filterMap]
  constructor
  · rintro ⟨el, hel, he⟩
    obtain rfl := fst_of_found? he
    exact ⟨hel, he⟩
  · rintro ⟨hel, he⟩
    exact ⟨e.1, hel, he⟩

theorem lt_size_of_attribute? {value : String} (h : d.attribute? el name = some value) :
    el < d.size := by
  obtain ⟨node, hnode, -⟩ := Option.bind_eq_some_iff.mp h
  exact lt_size_of_node? hnode

theorem found?_of_parse {o : Options} {expression : String}
    (ha : d.attribute? el o.bindingAttribute = some expression)
    (hp : Binding.parse o.style expression = .ok b) : d.found? o el = some (el, b) := by
  rw [found?, ha]
  simp [hp, Except.toOption]

theorem found?_of_none {o : Options} (ha : d.attribute? el o.bindingAttribute = none) :
    d.found? o el = none := by
  rw [found?, ha]
  rfl

theorem found?_congr {o : Options}
    (ha : d'.attribute? el o.bindingAttribute = d.attribute? el o.bindingAttribute) :
    d'.found? o el = d.found? o el := by
  rw [found?, ha, found?]

/-- The filters of all bindings are pure, none of the bindings writes the attribute that bindings
are read from, and none replaces content that another one stands in. -/
structure Undisturbed (r : Filters) (o : Options) (d : Markup) : Prop where
  pure : ∀ e ∈ d.bound o, r.PureOn e.2.calls
  target : ∀ e ∈ d.bound o, e.2.target? ≠ some o.bindingAttribute
  apart : ∀ e ∈ d.bound o, e.2.isContent → ∀ e' ∈ d.bound o, ¬ TransGen d.Contains e.1 e'.1

end Markup

namespace Engine

open Markup Relation

variable {s s' t : Engine Markup} {d₀ : Markup} {o : Options} {r : Filters} {i : Nat}
  {el : ElementId} {b : Binding} {e : ElementId × Binding} {done : List (ElementId × Binding)}

theorem Draws.exists_text {w : Write} (h : Draws s i el b w) : ∃ text, w = b.write el text := by
  obtain ⟨s', hrun, hw⟩ := h
  cases b with
  | content p =>
    rw [run_render_content] at hrun
    cases hrun
    exact ⟨_, (wrote_injective hw).symm⟩
  | attr p name truthy falsy =>
    rw [run_render_attr] at hrun
    cases hrun
    exact ⟨_, (wrote_injective hw).symm⟩
  | chain p calls =>
    rw [run_render_chain] at hrun
    cases hf : (applyFilters el calls (s.data.get? p)).run s with
    | ok out s₁ =>
      rw [hf] at hrun
      cases hrun
      exact ⟨out.display, (wrote_injective hw).symm⟩
    | error e s₁ =>
      rw [hf] at hrun
      cases hrun

/-- A binding shows a text, and rendering it again shows that very text. -/
def Fixed (s : Engine Markup) (e : ElementId × Binding) : Prop :=
  ∃ text, s.document.Settled e.1 text e.2 ∧
    ∃ i s₀, Draws s₀ i e.1 e.2 (e.2.write e.1 text) ∧ Agrees s₀ s e.2

theorem Fixed.of_eq (h : Fixed s e) (hdoc : t.document = s.document) (hd : t.data = s.data)
    (hf : t.filters = s.filters) : Fixed t e := by
  obtain ⟨text, hset, i, s₀, hdraws, ha⟩ := h
  exact ⟨text, hdoc ▸ hset, i, s₀, hdraws, ha.trans ⟨by rw [hd], fun _ _ ↦ by rw [hf]⟩⟩

theorem Fixed.run_render (h : Fixed s e) (hp : s.filters.PureOn e.2.calls) (j : Nat) :
    ∃ w, (render j e.1 e.2).run s = .ok () (wrote j w s) ∧ w.apply s.document = s.document := by
  obtain ⟨text, hset, i, s₀, hdraws, ha⟩ := h
  exact ⟨_, hdraws.run_render ha hp, hset.apply_write_eq⟩

theorem fixed_of_run_render (h : (render i el b).run s = .ok () s')
    (hp : s.filters.PureOn b.calls) (hel : el < s.document.size) :
    ∃ text, s' = wrote i (b.write el text) s ∧ Fixed s' (el, b) := by
  obtain ⟨w, hdraws, -⟩ := exists_draws h
  obtain ⟨text, rfl⟩ := hdraws.exists_text
  have hrun := hdraws.run_render ⟨rfl, fun _ _ ↦ rfl⟩ hp (j := i)
  rw [h] at hrun
  cases hrun
  exact ⟨text, rfl, text, settled_apply_write hel b text, i, s, hdraws,
    (redraws_wrote i _ s).agrees b⟩

theorem Fixed.wrote (h : Fixed s e) (hne : e.1 ≠ el)
    (hapart : e.2.isContent → ¬ TransGen s.document.Contains e.1 el) (text : String) :
    Fixed (wrote i (b.write el text) s) e := by
  obtain ⟨text', hset, j, s₀, hdraws, ha⟩ := h
  exact ⟨text', hset.apply_write hne hapart b text, j, s₀, hdraws,
    ha.trans ((redraws_wrote i _ s).agrees e.2)⟩

def pushed (t : Bindings) (l : List (ElementId × Binding)) : Bindings :=
  l.foldl (fun t e ↦ t.push e.1 e.2) t

theorem pushed_append (t : Bindings) (l l' : List (ElementId × Binding)) :
    pushed t (l ++ l') = pushed (pushed t l) l' :=
  List.foldl_append

/-- A scan of a document has come to some bindings, which are fixed from then on. -/
structure Progress (d₀ : Markup) (o : Options) (r : Filters) (done : List (ElementId × Binding))
    (s : Engine Markup) : Prop where
  options : s.options = o
  filters : s.filters = r
  bindings : s.bindings = pushed .empty done
  overwrites : Overwrites (d₀.bound o) o.bindingAttribute d₀ s.document
  bound : ∀ e ∈ done, e ∈ d₀.bound o
  fixed : ∀ e ∈ done, Fixed s e

theorem Progress.fixed_wrote (hs : Progress d₀ o r done s) (hu : d₀.Undisturbed r o)
    (hmem : (el, b) ∈ d₀.bound o) {text : String}
    (hfixed : Fixed (wrote i (b.write el text) s) (el, b)) :
    ∀ e ∈ done, Fixed (wrote i (b.write el text) s) e := by
  intro e he
  have hbound := hs.bound e he
  by_cases heq : e.1 = el
  · -- the element is listed twice, with one and the same binding
    have hfound := (mem_bound_iff.mp hbound).2
    rw [heq, (mem_bound_iff.mp hmem).2, Option.some.injEq] at hfound
    exact hfound ▸ hfixed
  · refine (hs.fixed e he).wrote heq (fun hc hbelow ↦ hu.apart e hbound hc _ hmem ?_) text
    exact hbelow.lift id fun _ _ hstep ↦ hs.overwrites.contains hstep

theorem Progress.push (hs : Progress d₀ o r done s) (hu : d₀.Undisturbed r o)
    (hmem : (el, b) ∈ d₀.bound o) {text : String}
    (hfixed : Fixed (wrote i (b.write el text) s) (el, b)) :
    Progress d₀ o r (done ++ [(el, b)])
      { wrote i (b.write el text) s with bindings := s.bindings.push el b } where
  options := hs.options
  filters := hs.filters
  bindings := by
    rw [pushed_append, ← hs.bindings]
    rfl
  overwrites := hs.overwrites.apply_write hmem (hu.target _ hmem) text
  bound := List.forall_mem_append.mpr ⟨hs.bound, List.forall_mem_singleton.mpr hmem⟩
  fixed := by
    have hdone := hs.fixed_wrote hu hmem hfixed
    refine List.forall_mem_append.mpr ⟨fun e he ↦ ?_, List.forall_mem_singleton.mpr ?_⟩
    · exact (hdone e he).of_eq rfl rfl rfl
    · exact hfixed.of_eq rfl rfl rfl

theorem Progress.of_run_bind (hs : Progress d₀ o r done s) (hu : d₀.Undisturbed r o)
    (hel : el ∈ d₀.elementsWith o.bindingAttribute)
    (h : (bind o.bindingAttribute el).run s = .ok () s') :
    d₀.Readable o el ∧ Progress d₀ o r (done ++ (d₀.found? o el).toList) s' := by
  have hattr := hs.overwrites.attribute? el
  rcases Engine.of_run_bind h with ⟨hnone, rfl⟩ | ⟨expression, b, s₁, hsome, hp, hrun, rfl⟩
  · have hnone := hattr.symm.trans hnone
    refine ⟨fun expression hsome ↦ ?_, by simpa [found?_of_none hnone] using hs⟩
    rw [hnone] at hsome
    cases hsome
  · have hel₀ := hattr.symm.trans hsome
    rw [hs.options] at hp
    have hfound := found?_of_parse hel₀ hp
    have hmem : (el, b) ∈ d₀.bound o := mem_bound_iff.mpr ⟨hel, hfound⟩
    obtain ⟨text, rfl, hfixed⟩ := fixed_of_run_render hrun (hs.filters.symm ▸ hu.pure _ hmem)
      (lt_size_of_attribute? hsome)
    refine ⟨fun expression' hsome' ↦ ?_, ?_⟩
    · rw [hel₀, Option.some.injEq] at hsome'
      exact ⟨b, hsome' ▸ hp⟩
    · rw [hfound]
      exact hs.push hu hmem hfixed

theorem Progress.of_run_forM_bind {els : List ElementId} (hs : Progress d₀ o r done s)
    (hu : d₀.Undisturbed r o) (hels : ∀ el ∈ els, el ∈ d₀.elementsWith o.bindingAttribute)
    (h : (els.forM (bind o.bindingAttribute)).run s = .ok () s') :
    (∀ el ∈ els, d₀.Readable o el) ∧ Progress d₀ o r (done ++ els.filterMap (d₀.found? o)) s' := by
  induction els generalizing s done with
  | nil =>
    cases h
    exact ⟨List.forall_mem_nil _, by simpa using hs⟩
  | cons el els ih =>
    obtain ⟨hel, hels⟩ := List.forall_mem_cons.mp hels
    obtain ⟨s₁, hb, h⟩ := of_run_forM_cons h
    obtain ⟨hread, hs₁⟩ := hs.of_run_bind hu hel hb
    obtain ⟨hreads, hs'⟩ := ih hs₁ hels h
    refine ⟨List.forall_mem_cons.mpr ⟨hread, hreads⟩, ?_⟩
    rwa [List.append_assoc, ← filterMap_found?_cons] at hs'

theorem Progress.elementsWith_eq (hs : Progress d₀ o r done s) (hu : d₀.Undisturbed r o)
    (hread : ∀ el ∈ d₀.elementsWith o.bindingAttribute, d₀.Readable o el) :
    s.document.elementsWith o.bindingAttribute = d₀.elementsWith o.bindingAttribute := by
  refine hs.overwrites.elementsWith_eq fun e he hc y hy ↦ ?_
  obtain ⟨-, value, hy'⟩ := mem_elementsWith_iff.mp hy
  have hsome := attribute?_eq_some_iff.mpr hy'
  obtain ⟨b, hp⟩ := hread y hy value hsome
  have hmem : (y, b) ∈ d₀.bound o := mem_bound_iff.mpr ⟨hy, found?_of_parse hsome hp⟩
  exact hu.apart e he hc _ hmem

theorem run_bind_of_fixed (hr : t.document.Readable t.options el)
    (hfix : ∀ e, t.document.found? t.options el = some e →
      Fixed t e ∧ t.filters.PureOn e.2.calls) :
    ∃ t', (bind t.options.bindingAttribute el).run t = .ok () t' ∧ t'.document = t.document ∧
      t'.bindings = pushed t.bindings (t.document.found? t.options el).toList := by
  cases ha : t.document.attribute? el t.options.bindingAttribute with
  | none =>
    refine ⟨t, run_bind_none ha, rfl, ?_⟩
    rw [found?_of_none ha]
    rfl
  | some expression =>
    obtain ⟨b, hp⟩ := hr expression ha
    have hfound := found?_of_parse ha hp
    obtain ⟨hfixed, hpure⟩ := hfix _ hfound
    obtain ⟨w, hrun, hw⟩ := hfixed.run_render hpure t.bindings.size
    refine ⟨{ wrote t.bindings.size w t with bindings := t.bindings.push el b }, ?_, hw, ?_⟩
    · rw [run_bind_some ha, hp]
      simp only [hrun]
      rfl
    · rw [hfound]
      rfl

theorem run_forM_bind_of_fixed {d : Markup} {els : List ElementId} (hd : t.document = d)
    (ho : t.options = o) (hread : ∀ el ∈ els, d.Readable o el)
    (hfix : ∀ e ∈ els.filterMap (d.found? o), Fixed t e ∧ t.filters.PureOn e.2.calls) :
    ∃ t', (els.forM (bind o.bindingAttribute)).run t = .ok () t' ∧ t'.document = d ∧
      t'.bindings = pushed t.bindings (els.filterMap (d.found? o)) := by
  induction els generalizing t with
  | nil => exact ⟨t, rfl, hd, rfl⟩
  | cons el els ih =>
    subst hd ho
    rw [filterMap_found?_cons] at hfix ⊢
    obtain ⟨hfixel, hfixels⟩ := List.forall_mem_append.mp hfix
    obtain ⟨hel, hels⟩ := List.forall_mem_cons.mp hread
    obtain ⟨t₁, hb, hdoc, hbind⟩ :=
      run_bind_of_fixed hel fun e he ↦ hfixel e (Option.mem_toList.mpr he)
    have hr : Rebinds t t₁ := after_of_ok hb ▸ rebinds_bind _ el t
    have hfix₁ (e : ElementId × Binding) (he : e ∈ els.filterMap (t.document.found? t.options)) :
        Fixed t₁ e ∧ t₁.filters.PureOn e.2.calls :=
      ⟨(hfixels e he).1.of_eq hdoc hr.data hr.filters, hr.filters.symm ▸ (hfixels e he).2⟩
    obtain ⟨t', hl, hdoc', hbind'⟩ := ih hdoc hr.options hels hfix₁
    refine ⟨t', ?_, hdoc', ?_⟩
    · rw [run_forM_cons, hb]
      exact hl
    · rw [hbind', hbind, pushed_append]

theorem progress_of_run_scan {n : Nat} (hu : s.document.Undisturbed s.filters s.options)
    (h : scan.run s = .ok n s') :
    (∀ el ∈ s.document.elementsWith s.options.bindingAttribute,
      s.document.Readable s.options el) ∧
    ∃ s₁, Progress s.document s.options s.filters (s.document.bound s.options) s₁ ∧
      n = s₁.bindings.size ∧ s' = { s₁ with bindings := { s₁.bindings with built := true } } := by
  obtain ⟨s₁, hl, rfl, rfl⟩ := of_run_scan h
  have hstart : Progress s.document s.options s.filters [] { s with bindings := .empty } :=
    ⟨rfl, rfl, rfl, .refl _ _ _, List.forall_mem_nil _, List.forall_mem_nil _⟩
  obtain ⟨hread, hs₁⟩ := hstart.of_run_forM_bind hu (fun _ hel ↦ hel) hl
  exact ⟨hread, s₁, hs₁, rfl, rfl⟩

section

variable (hs : Progress d₀ o r done s) (hu : d₀.Undisturbed r o)
  (hread : ∀ el ∈ d₀.elementsWith o.bindingAttribute, d₀.Readable o el)
include hs

theorem Progress.found?_eq : s.document.found? o = d₀.found? o :=
  funext fun el ↦ found?_congr (hs.overwrites.attribute? el)

include hu hread

theorem Progress.bound_eq : s.document.bound o = d₀.bound o := by
  rw [Markup.bound, hs.found?_eq, hs.elementsWith_eq hu hread, Markup.bound]

theorem Progress.undisturbed : s.document.Undisturbed r o := by
  have hbound := hs.bound_eq hu hread
  refine ⟨hbound ▸ hu.pure, hbound ▸ hu.target, fun e he hc e' he' hbelow ↦ ?_⟩
  rw [hbound] at he he'
  refine hu.apart e he hc e' he' ?_
  exact hbelow.lift id fun _ _ hstep ↦ hs.overwrites.contains hstep

end

/-- Scanning a document a second time finds the same bindings and changes nothing. -/
theorem rescan_eq {n : Nat} (hu : s.document.Undisturbed s.filters s.options)
    (h : scan.run s = .ok n s') :
    ∃ s'', scan.run s' = .ok n s'' ∧ s''.bindings = s'.bindings ∧ s''.document = s'.document := by
  obtain ⟨hread, s₁, hs₁, rfl, rfl⟩ := progress_of_run_scan hu h
  have hreadable (el : ElementId) (hel : el ∈ s.document.elementsWith s.options.bindingAttribute) :
      s₁.document.Readable s.options el := fun expression hsome ↦
    hread el hel expression ((hs₁.overwrites.attribute? el).symm.trans hsome)
  have hfix (e : ElementId × Binding) (he : e ∈ s.document.bound s.options) :
      Fixed { s₁ with bindings := .empty } e ∧ s₁.filters.PureOn e.2.calls :=
    ⟨(hs₁.fixed e he).of_eq rfl rfl rfl, hs₁.filters.symm ▸ hu.pure e he⟩
  obtain ⟨t, hrun, hdoc, hbind⟩ := run_forM_bind_of_fixed (t := { s₁ with bindings := .empty }) rfl
    hs₁.options hreadable (hs₁.found?_eq.symm ▸ hfix)
  have hbindings : t.bindings = s₁.bindings := by
    rw [hbind, hs₁.found?_eq, hs₁.bindings]
    rfl
  refine ⟨{ t with bindings := { t.bindings with built := true } }, ?_, ?_, hdoc⟩
  · have hloop : ((Document.elementsWith s₁.document s₁.options.bindingAttribute).forM
        (bind s₁.options.bindingAttribute)).run { s₁ with bindings := .empty } = .ok () t := by
      rw [← hs₁.elementsWith_eq hu hread, ← hs₁.options] at hrun
      exact hrun
    rw [run_scan]
    simp only [hloop, hbindings]
  · rw [hbindings]

end Engine

end DataBinding
