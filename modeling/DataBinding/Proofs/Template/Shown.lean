import DataBinding.Engine.Rendering
import DataBinding.Proofs.Markup.Face

namespace DataBinding

namespace Binding

def isContent : Binding → Bool
  | attr _ _ _ _ => false
  | chain _ _ | content _ => true

def write (b : Binding) (el : ElementId) (text : String) : Write :=
  match b with
  | attr _ name _ _ => .attr el name text
  | chain _ _ | content _ => .html el text

end Binding

namespace Binding

variable {b : Binding} {d : Markup} {el : ElementId}

theorem apply_write_of_isContent (hb : b.isContent) (text : String) :
    (b.write el text).apply d = d.setInnerHtml el text := by
  cases b with
  | attr p name truthy falsy => cases hb
  | chain p calls | content p => rfl

theorem forest_apply_write (b : Binding) (el : ElementId) (text : String) (h : d.Forest) :
    ((b.write el text).apply d).Forest := by
  cases b with
  | attr p name truthy falsy => exact h.cuts (.setAttribute d el name text)
  | chain p calls | content p =>
    exact Markup.Edit.forest_apply h (e := .setInnerHtml el text) trivial

theorem size_apply_write (b : Binding) (el : ElementId) (text : String) (d : Markup) :
    ((b.write el text).apply d).size = d.size := by
  cases b with
  | attr p name truthy falsy => exact d.size_setAttribute el name text
  | chain p calls | content p => exact d.size_setInnerHtml el text

theorem roots_apply_write (b : Binding) (el : ElementId) (text : String) (d : Markup) :
    ((b.write el text).apply d).roots = d.roots := by
  cases b with
  | attr p name truthy falsy => exact d.roots_setAttribute el name text
  | chain p calls | content p => exact d.roots_setInnerHtml el text

theorem face?_apply_write_of_ne (b : Binding) (text : String) {x : ElementId} (hx : x ≠ el) :
    ((b.write el text).apply d).face? x = d.face? x := by
  cases b with
  | attr p name truthy falsy =>
    change (d.setAttribute el name text).face? x = _
    rw [Markup.face?_setAttribute, if_neg hx]
  | chain p calls | content p =>
    change (d.setInnerHtml el text).face? x = _
    rw [Markup.face?_setInnerHtml, if_neg fun h ↦ hx h.1]

end Binding

namespace Markup

open Relation

variable {d₀ d : Markup} {L : List (ElementId × Binding)}

def overwrite (c : List Child × String) (text : String) : List Child × String :=
  if c.2 = text then c else (content text, text)

theorem foldl_overwrite (c : List Child × String) (ts : List String) :
    ts.foldl overwrite c = c ∨ ∃ text, ts.foldl overwrite c = (content text, text) := by
  induction ts generalizing c with
  | nil => exact .inl rfl
  | cons t ts ih =>
    rw [List.foldl_cons, overwrite]
    split
    · exact ih c
    · rcases ih (content t, t) with h | h
      · exact .inr ⟨t, h⟩
      · exact .inr h

def Face.shown (f : Face) (inner : String) (b : Binding) (ts : List String) : Face :=
  match b with
  | .attr _ name _ _ => { f with attrs := ts.foldl (fun attrs t ↦ putAttr name t attrs) f.attrs }
  | .chain _ _ | .content _ => { f with children := (ts.foldl overwrite (f.children, inner)).1 }

theorem Face.shown_nil (f : Face) (inner : String) (b : Binding) : f.shown inner b [] = f := by
  cases b <;> rfl

theorem Face.shown_of_isContent (f : Face) (inner : String) {b : Binding} (hb : b.isContent)
    (ts : List String) :
    f.shown inner b ts = { f with children := (ts.foldl overwrite (f.children, inner)).1 } := by
  cases b with
  | attr p name truthy falsy => cases hb
  | chain p calls | content p => rfl

def textsOf (el : ElementId) (ws : List (ElementId × String)) : List String :=
  (ws.filter (·.1 = el)).map Prod.snd

theorem textsOf_append (el : ElementId) (ws ws' : List (ElementId × String)) :
    textsOf el (ws ++ ws') = textsOf el ws ++ textsOf el ws' := by
  rw [textsOf, List.filter_append, List.map_append]
  rfl

/-- Bindings of different elements, none of them below one that replaces content. -/
structure Independent (d₀ : Markup) (L : List (ElementId × Binding)) : Prop where
  nodup : (L.map Prod.fst).Nodup
  apart : ∀ e ∈ L, e.2.isContent → ∀ e' ∈ L, ¬ TransGen d₀.Contains e.1 e'.1

theorem Independent.eq (h : Independent d₀ L) {e e' : ElementId × Binding} (he : e ∈ L)
    (he' : e' ∈ L) (hel : e.1 = e'.1) : e = e' :=
  List.inj_on_of_nodup_map h.nodup he he' hel

/-- The document after bindings have shown texts in it. -/
structure Shows (d₀ : Markup) (L : List (ElementId × Binding)) (ws : List (ElementId × String))
    (d : Markup) : Prop where
  forest : d.Forest
  size : d.size = d₀.size
  roots : d.roots = d₀.roots
  bound : ∀ e ∈ L, d.face? e.1 =
    (d₀.face? e.1).map fun f ↦ f.shown (d₀.innerHtml e.1) e.2 (textsOf e.1 ws)
  unbound : ∀ x, (∀ e ∈ L, e.1 ≠ x) → d.face? x = d₀.face? x

namespace Shows

variable {ws : List (ElementId × String)} {e : ElementId × Binding}

theorem nil (h : d₀.Forest) : Shows d₀ L [] d₀ where
  forest := h
  size := rfl
  roots := rfl
  bound e _ := by
    have hid : (fun f : Face ↦ f.shown (d₀.innerHtml e.1) e.2 (textsOf e.1 [])) = id :=
      funext fun f ↦ f.shown_nil _ _
    rw [hid, Option.map_id_fun, id]
  unbound _ _ := rfl

theorem face?_of_textsOf_eq_nil (h : Shows d₀ L ws d) {x : ElementId} (hx : textsOf x ws = []) :
    d.face? x = d₀.face? x := by
  by_cases hb : ∃ e ∈ L, e.1 = x
  · obtain ⟨e, he, rfl⟩ := hb
    rw [h.bound e he, hx]
    simp only [Face.shown_nil, Option.map_id_fun', id]
  · exact h.unbound x fun e he hex ↦ hb ⟨e, he, hex⟩

theorem attribute?_of_textsOf_eq_nil (h : Shows d₀ L ws d) {x : ElementId}
    (hx : textsOf x ws = []) (name : String) : d.attribute? x name = d₀.attribute? x name := by
  rw [attribute?_eq_face?, attribute?_eq_face?, h.face?_of_textsOf_eq_nil hx]

theorem innerHtml_eq (h : Shows d₀ L ws d) (hi : Independent d₀ L) (he : e ∈ L)
    (hc : e.2.isContent) {node : Node} (hnode : d₀.node? e.1 = some node) :
    d.innerHtml e.1 = ((textsOf e.1 ws).foldl overwrite (node.children, d₀.innerHtml e.1)).2 := by
  have hface := h.bound e he
  rw [face?_of_node? hnode] at hface
  obtain ⟨node', hnode', hface⟩ := exists_node?_of_face? hface
  have hchildren : node'.children =
      ((textsOf e.1 ws).foldl overwrite (node.children, d₀.innerHtml e.1)).1 := by
    simp only [Face.shown_of_isContent _ _ hc] at hface
    exact (Face.mk.inj hface).2.2
  rcases foldl_overwrite (node.children, d₀.innerHtml e.1) (textsOf e.1 ws) with hsame | ⟨t, ht⟩
  · rw [hsame] at hchildren ⊢
    refine innerHtml_congr hnode hnode' hchildren h.size fun x hx ↦ h.unbound x ?_
    rintro e' he' rfl
    exact hi.apart e he hc e' he' hx
  · rw [ht] at hchildren ⊢
    exact innerHtml_of_content hnode' hchildren

theorem face?_apply (h : Shows d₀ L ws d) (hi : Independent d₀ L) (he : e ∈ L) (text : String) :
    ((e.2.write e.1 text).apply d).face? e.1 =
      (d₀.face? e.1).map fun f ↦
        f.shown (d₀.innerHtml e.1) e.2 (textsOf e.1 ws ++ [text]) := by
  have hface := h.bound e he
  cases hc : e.2.isContent with
  | false =>
    obtain ⟨el, b⟩ := e
    cases b with
    | chain p calls | content p => cases hc
    | attr p name truthy falsy =>
      change (d.setAttribute el name text).face? el = _
      rw [face?_setAttribute, if_pos rfl, hface, Option.map_map]
      simp only [Function.comp_def, Face.shown, List.foldl_append, List.foldl_cons, List.foldl_nil]
  | true =>
    rw [Binding.apply_write_of_isContent hc, face?_setInnerHtml, hface]
    simp only [Face.shown_of_isContent _ _ hc, List.foldl_append, List.foldl_cons, List.foldl_nil]
    cases hnode : d₀.node? e.1 with
    | none => simp [face?, hnode]
    | some node =>
      rw [h.innerHtml_eq hi he hc hnode, face?_of_node? hnode]
      by_cases ht : ((textsOf e.1 ws).foldl overwrite (node.children, d₀.innerHtml e.1)).2 = text
      · simp [overwrite, ht, Node.face]
      · simp [overwrite, ht, Node.face]

theorem apply (h : Shows d₀ L ws d) (hi : Independent d₀ L) (he : e ∈ L) (text : String) :
    Shows d₀ L (ws ++ [(e.1, text)]) ((e.2.write e.1 text).apply d) := by
  have hsize := Binding.size_apply_write e.2 e.1 text d
  have hroots := Binding.roots_apply_write e.2 e.1 text d
  have htexts (x : ElementId) :
      textsOf x (ws ++ [(e.1, text)]) = textsOf x ws ++ if e.1 = x then [text] else [] := by
    rw [textsOf_append]
    by_cases hx : e.1 = x <;> simp [textsOf, hx]
  refine ⟨Binding.forest_apply_write e.2 e.1 text h.forest, hsize.trans h.size,
    hroots.trans h.roots, fun e' he' ↦ ?_, fun x hx ↦ ?_⟩
  · rw [htexts]
    by_cases hee : e.1 = e'.1
    · obtain rfl := hi.eq he he' hee
      rw [if_pos rfl]
      exact h.face?_apply hi he text
    · rw [if_neg hee, List.append_nil, Binding.face?_apply_write_of_ne e.2 text (Ne.symm hee)]
      exact h.bound e' he'
  · rw [Binding.face?_apply_write_of_ne e.2 text (Ne.symm (hx e he))]
    exact h.unbound x hx

end Shows

theorem putAttr_putAttr (name v w : String) (attrs : List (String × String)) :
    putAttr name w (putAttr name v attrs) = putAttr name w attrs := by
  induction attrs with
  | nil => simp [putAttr]
  | cons kv attrs ih =>
    obtain ⟨k, u⟩ := kv
    by_cases hk : k = name <;> simp [putAttr, hk, ih]

theorem overwrite_snd (c : List Child × String) (text : String) : (overwrite c text).2 = text := by
  rw [overwrite]
  split
  · assumption
  · rfl

/-- Showing another text first matters only if it takes the place of the very text that comes
next. -/
theorem overwrite_overwrite (c : List Child × String) (t₀ t : String) :
    overwrite (overwrite c t₀) t = overwrite c t ∨
      c.2 = t ∧ t₀ ≠ t ∧ overwrite (overwrite c t₀) t = (content t, t) := by
  by_cases h₀ : c.2 = t₀
  · left
    rw [overwrite.eq_def c t₀, if_pos h₀]
  · rw [overwrite.eq_def c t₀, if_neg h₀]
    by_cases ht₀ : t₀ = t
    · subst ht₀
      left
      rw [overwrite, if_pos rfl, overwrite, if_neg h₀]
    · rw [overwrite, if_neg ht₀]
      by_cases ht : c.2 = t
      · exact .inr ⟨ht, ht₀, rfl⟩
      · left
        rw [overwrite, if_neg ht]

theorem isEmpty_content (html : String) : (content html).isEmpty = html.isEmpty := by
  rw [content]
  split
  · rename_i h
    rw [h]
    rfl
  · rename_i h
    simpa using h

/-- Texts that a binding shows one after the other come to the same in the end, but for empty
content under a tag that is not void. -/
def SameEnd (node : Node) (inner : String) (b : Binding) (ts ts' : List String) : Prop :=
  match b with
  | .attr _ _ _ _ =>
    node.face.shown inner b ts' = node.face.shown inner b ts
  | .chain _ _ | .content _ =>
    (ts'.foldl overwrite (node.children, inner)).2 = (ts.foldl overwrite (node.children, inner)).2 ∧
      (voidElements.contains node.tag →
        (ts'.foldl overwrite (node.children, inner)).1.isEmpty =
          (ts.foldl overwrite (node.children, inner)).1.isEmpty)

theorem sameEnd_of_isContent {node : Node} {inner : String} {b : Binding} (hb : b.isContent)
    {ts ts' : List String} :
    SameEnd node inner b ts ts' ↔
      (ts'.foldl overwrite (node.children, inner)).2 =
          (ts.foldl overwrite (node.children, inner)).2 ∧
        (voidElements.contains node.tag →
          (ts'.foldl overwrite (node.children, inner)).1.isEmpty =
            (ts.foldl overwrite (node.children, inner)).1.isEmpty) := by
  cases b with
  | attr p name truthy falsy => cases hb
  | chain p calls | content p => exact Iff.rfl

theorem SameEnd.refl (node : Node) (inner : String) (b : Binding) (ts : List String) :
    SameEnd node inner b ts ts := by
  cases b with
  | attr p name truthy falsy => exact rfl
  | chain p calls | content p => exact ⟨rfl, fun _ ↦ rfl⟩

/-- A text that is shown first leaves no trace, unless it replaces children that are empty texts in
a void element and comes back to nothing. -/
theorem sameEnd_of_first {node : Node} {inner : String} {b : Binding} {t₀ t : String}
    (hinner : node.children = [] → inner = "")
    (hkeeps : b.isContent → voidElements.contains node.tag → node.children ≠ [] → inner = "" →
      t₀ ≠ "" → t ≠ "") :
    SameEnd node inner b [t₀, t] [t] := by
  cases b with
  | attr p name truthy falsy =>
    simp only [SameEnd, Face.shown, List.foldl_cons, List.foldl_nil, putAttr_putAttr]
  | chain p calls | content p =>
    simp only [SameEnd, List.foldl_cons, List.foldl_nil, overwrite_snd, true_and]
    intro hvoid
    rcases overwrite_overwrite (node.children, inner) t₀ t with hsame | ⟨ht, hne, hnew⟩
    · rw [hsame]
    · rw [hnew, overwrite, if_pos ht, isEmpty_content]
      simp only at ht
      cases hcs : node.children with
      | nil => simp [← ht, hinner hcs]
      | cons c cs =>
        have hkept : t ≠ "" := fun he ↦
          hkeeps rfl hvoid (hcs ▸ List.cons_ne_nil c cs) (ht.trans he)
            (fun h ↦ hne (h.trans he.symm)) he
        simpa using hkept

theorem alike_of_face?_eq {d' : Markup} {x : ElementId} {node₁ node₂ : Node}
    (hnode₁ : d.node? x = some node₁) (hnode₂ : d'.node? x = some node₂)
    (hface : d'.face? x = d.face? x) : Alike d d' node₁ node₂ := by
  rw [face?_of_node? hnode₁, face?_of_node? hnode₂, Option.some.injEq] at hface
  obtain ⟨htag, hattrs, hchildren⟩ := Face.mk.inj hface
  exact ⟨htag, hattrs, .inl hchildren⟩

theorem Shows.alike {d' : Markup} {ws ws' : List (ElementId × String)} (h : Shows d₀ L ws d)
    (h' : Shows d₀ L ws' d') (hi : Independent d₀ L) {e : ElementId × Binding} (he : e ∈ L)
    {node node₁ node₂ : Node} (hnode : d₀.node? e.1 = some node)
    (hs : SameEnd node (d₀.innerHtml e.1) e.2 (textsOf e.1 ws) (textsOf e.1 ws'))
    (hnode₁ : d.node? e.1 = some node₁) (hnode₂ : d'.node? e.1 = some node₂) :
    Alike d d' node₁ node₂ := by
  have hface := h.bound e he
  have hface' := h'.bound e he
  cases hc : e.2.isContent with
  | false =>
    refine alike_of_face?_eq hnode₁ hnode₂ ?_
    rw [hface, hface', face?_of_node? hnode]
    obtain ⟨el, b⟩ := e
    cases b with
    | chain p calls | content p => cases hc
    | attr p name truthy falsy => exact congrArg some hs
  | true =>
    rw [face?_of_node? hnode, Option.map_some, Face.shown_of_isContent _ _ hc] at hface hface'
    rw [face?_of_node? hnode₁, Option.some.injEq] at hface
    rw [face?_of_node? hnode₂, Option.some.injEq] at hface'
    obtain ⟨htag, hattrs, hchildren⟩ : node₁.tag = node.tag ∧ _ := Face.mk.inj hface
    obtain ⟨htag', hattrs', hchildren'⟩ := Face.mk.inj hface'
    obtain ⟨hinner, hempty⟩ := (sameEnd_of_isContent hc).mp hs
    rw [← h.innerHtml_eq hi he hc hnode, ← h'.innerHtml_eq hi he hc hnode,
      innerHtml_of_node? hnode₁, innerHtml_of_node? hnode₂] at hinner
    refine ⟨htag'.trans htag.symm, hattrs'.trans hattrs.symm, .inr ⟨?_, fun hvoid ↦ ?_⟩⟩
    · exact String.ofList_inj.mp hinner
    · rw [hchildren, hchildren']
      exact hempty (htag ▸ hvoid)

theorem Shows.toHtml_eq {d' : Markup} {ws ws' : List (ElementId × String)} (h : Shows d₀ L ws d)
    (h' : Shows d₀ L ws' d') (hi : Independent d₀ L)
    (hsame : ∀ e ∈ L, ∀ node, d₀.node? e.1 = some node →
      SameEnd node (d₀.innerHtml e.1) e.2 (textsOf e.1 ws) (textsOf e.1 ws')) :
    d'.toHtml = d.toHtml := by
  have hsize := h'.size.trans h.size.symm
  refine toHtml_of_alike h.forest h'.forest hsize (h'.roots.trans h.roots.symm) ?_
  intro x node₁ node₂ hnode₁ hnode₂
  by_cases hb : ∃ e ∈ L, e.1 = x
  · obtain ⟨e, he, rfl⟩ := hb
    obtain ⟨node, hnode⟩ := exists_node?_of_lt (h.size ▸ lt_size_of_node? hnode₁)
    exact h.alike h' hi he hnode (hsame e he node hnode) hnode₁ hnode₂
  · have hx : ∀ e ∈ L, e.1 ≠ x := fun e he hex ↦ hb ⟨e, he, hex⟩
    exact alike_of_face?_eq hnode₁ hnode₂ ((h'.unbound x hx).trans (h.unbound x hx).symm)

end Markup

end DataBinding
