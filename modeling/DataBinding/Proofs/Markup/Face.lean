import DataBinding.Proofs.Markup.Serialize

namespace DataBinding.Markup

open Relation

variable {d d' : Markup} {el : ElementId}

/-- An element without the links that no text shows. -/
structure Face where
  tag : String
  attrs : List (String × String)
  children : List Child

def Node.face (node : Node) : Face := ⟨node.tag, node.attrs, node.children⟩

def face? (d : Markup) (el : ElementId) : Option Face := (d.node? el).map Node.face

theorem face?_of_node? {node : Node} (h : d.node? el = some node) :
    d.face? el = some node.face := by
  rw [face?, h]
  rfl

theorem exists_node?_of_face? {f : Face} (h : d.face? el = some f) :
    ∃ node, d.node? el = some node ∧ node.face = f := Option.map_eq_some_iff.mp h

theorem attribute?_eq_face? (d : Markup) (el : ElementId) (name : String) :
    d.attribute? el name = (d.face? el).bind (·.attrs.lookup name) := by
  rw [face?, Option.bind_map]
  rfl

theorem face?_revise (f : ElementId → Node → Node) (hf : ∀ x node, (f x node).face = node.face)
    (d : Markup) : (d.revise f).face? = d.face? := by
  funext x
  rw [face?, node?_revise, face?, Option.map_map]
  congr 1
  funext node
  exact hf x node

theorem face?_release (S T : List ElementId) (d : Markup) : (d.release S T).face? = d.face? := by
  rw [release, face?_revise]
  exact fun _ _ ↦ rfl

theorem face?_modifyNode (d : Markup) (el x : ElementId) (f : Node → Node) :
    (d.modifyNode el f).face? x =
      if x = el then (d.node? x).map fun node ↦ (f node).face else d.face? x := by
  rw [face?, node?_modifyNode]
  split
  · rw [Option.map_map]
    rfl
  · rfl

theorem face?_setAttribute (d : Markup) (el x : ElementId) (name value : String) :
    (d.setAttribute el name value).face? x =
      if x = el then (d.face? x).map fun f ↦ { f with attrs := putAttr name value f.attrs }
      else d.face? x := by
  rw [setAttribute, face?_modifyNode]
  split
  · rw [face?, Option.map_map]
    rfl
  · rfl

theorem setInnerHtml_of_eq {html : String} (h : d.innerHtml el = html) :
    d.setInnerHtml el html = d := by
  rw [setInnerHtml, if_pos h]

theorem setInnerHtml_of_ne {html : String} (h : d.innerHtml el ≠ html) :
    d.setInnerHtml el html =
      (d.modifyNode el ({ · with children := content html })).release (d.childElements el)
        ((d.childElements el).flatMap
          (d.modifyNode el ({ · with children := content html })).subtree) := by
  rw [setInnerHtml, if_neg h]
  exact foldl_orphan_detach _ _

theorem face?_setInnerHtml (d : Markup) (el x : ElementId) (html : String) :
    (d.setInnerHtml el html).face? x =
      if x = el ∧ d.innerHtml el ≠ html then
        (d.face? x).map fun f ↦ { f with children := content html }
      else d.face? x := by
  by_cases h : d.innerHtml el = html
  · rw [setInnerHtml_of_eq h, if_neg fun hx ↦ hx.2 h]
  · rw [setInnerHtml_of_ne h, face?_release, face?_modifyNode]
    by_cases hx : x = el
    · rw [if_pos hx, if_pos ⟨hx, h⟩, face?, Option.map_map]
      rfl
    · rw [if_neg hx, if_neg fun h ↦ hx h.1]

theorem size_setAttribute (d : Markup) (el : ElementId) (name value : String) :
    (d.setAttribute el name value).size = d.size := size_modifyNode d el _

theorem roots_setAttribute (d : Markup) (el : ElementId) (name value : String) :
    (d.setAttribute el name value).roots = d.roots := rfl

theorem size_setInnerHtml (d : Markup) (el : ElementId) (html : String) :
    (d.setInnerHtml el html).size = d.size := by
  by_cases h : d.innerHtml el = html
  · rw [setInnerHtml_of_eq h]
  · rw [setInnerHtml_of_ne h, size_release, size_modifyNode]

theorem roots_setInnerHtml (d : Markup) (el : ElementId) (html : String) :
    (d.setInnerHtml el html).roots = d.roots := by
  by_cases h : d.innerHtml el = html
  · rw [setInnerHtml_of_eq h]
  · rw [setInnerHtml_of_ne h, roots_release]
    rfl

theorem outerHtmlTo_congr (h : ∀ x, ReflTransGen d.Contains el x → d'.face? x = d.face? x)
    (n : Nat) : d'.outerHtmlTo n el = d.outerHtmlTo n el := by
  induction n generalizing el with
  | zero => rfl
  | succ n ih =>
    have hface := h el .refl
    cases hnode : d.node? el with
    | none =>
      have hnode' : d'.node? el = none := by simpa [face?, hnode] using hface
      rw [outerHtmlTo_of_none _ hnode, outerHtmlTo_of_none _ hnode']
    | some node =>
      rw [face?_of_node? hnode] at hface
      obtain ⟨node', hnode', hface⟩ := exists_node?_of_face? hface
      obtain ⟨htag, hattrs, hchildren⟩ := Face.mk.inj hface
      rw [outerHtmlTo_succ n hnode, outerHtmlTo_succ n hnode', htag, hattrs, hchildren]
      congr 1
      refine List.map_congr_left fun c hc ↦ ?_
      cases c with
      | text s | html s => rfl
      | element x => exact ih fun y hy ↦ h y (.head (contains_of_mem_children hnode hc) hy)

theorem subtreeTo_congr (h : ∀ x, ReflTransGen d.Contains el x → d'.face? x = d.face? x)
    (n : Nat) : d'.subtreeTo n el = d.subtreeTo n el := by
  induction n generalizing el with
  | zero => rfl
  | succ n ih =>
    have hface := h el .refl
    cases hnode : d.node? el with
    | none =>
      have hnode' : d'.node? el = none := by simpa [face?, hnode] using hface
      simp only [subtreeTo, hnode, hnode']
    | some node =>
      rw [face?_of_node? hnode] at hface
      obtain ⟨node', hnode', hface⟩ := exists_node?_of_face? hface
      have hchildren : d'.childElements el = d.childElements el := by
        rw [childElements_eq, childElements_eq, hnode, hnode']
        exact congrArg (fun f ↦ f.children.filterMap Child.element?) hface
      simp only [subtreeTo, hnode, hnode', hchildren, List.cons.injEq, true_and]
      exact List.flatMap_congr fun c hc ↦ ih fun y hy ↦ h y (.head hc hy)

theorem innerHtml_congr {node node' : Node} (hnode : d.node? el = some node)
    (hnode' : d'.node? el = some node') (hchildren : node'.children = node.children)
    (hs : d'.size = d.size) (h : ∀ x, TransGen d.Contains el x → d'.face? x = d.face? x) :
    d'.innerHtml el = d.innerHtml el := by
  rw [innerHtml_of_node? hnode, innerHtml_of_node? hnode', hchildren]
  congr 2
  refine List.map_congr_left fun c hc ↦ ?_
  cases c with
  | text s | html s => rfl
  | element x =>
    have hx := contains_of_mem_children hnode hc
    change d'.outerHtmlTo d'.size x = d.outerHtmlTo d.size x
    rw [hs]
    exact outerHtmlTo_congr (fun y hy ↦ h y (.head' hx hy)) d.size

theorem innerHtml_of_content {node : Node} {html : String} (hnode : d.node? el = some node)
    (h : node.children = content html) : d.innerHtml el = html := by
  rw [innerHtml_of_node? hnode, h, content]
  split
  · rename_i he
    rw [String.isEmpty_iff.mp he]
    rfl
  · simp [Child.toHtml]

/-- Two elements with the same tag and attributes and with content of the same text. Unless the tag
is void, it does not matter whether there is any. -/
structure Alike (d d' : Markup) (node node' : Node) : Prop where
  tag : node'.tag = node.tag
  attrs : node'.attrs = node.attrs
  children : node'.children = node.children ∨
    (node'.children.map (Child.toHtml d'.elementHtml)).flatten =
        (node.children.map (Child.toHtml d.elementHtml)).flatten ∧
      (voidElements.contains node.tag → node'.children.isEmpty = node.children.isEmpty)

theorem enclose_congr {tag : String} {attrs : List (String × String)}
    {inner inner' : List (List Char)} (hflat : inner'.flatten = inner.flatten)
    (hempty : voidElements.contains tag → inner'.isEmpty = inner.isEmpty) :
    enclose tag attrs inner' = enclose tag attrs inner := by
  rw [enclose, enclose, hflat]
  cases hvoid : voidElements.contains tag with
  | false => simp
  | true => rw [hempty hvoid]

theorem elementHtml_of_alike (h : d.Forest) (h' : d'.Forest) (hs : d'.size = d.size)
    (ha : ∀ x node node', d.node? x = some node → d'.node? x = some node' → Alike d d' node node')
    (el : ElementId) : d'.elementHtml el = d.elementHtml el := by
  -- children come after their parents, so the induction starts at the end of the table
  induction hn : d.size - el using Nat.strongRecOn generalizing el with
  | ind n ih =>
    by_cases hel : el < d.size
    · obtain ⟨node, hnode⟩ := exists_node?_of_lt hel
      obtain ⟨node', hnode'⟩ := exists_node?_of_lt (hs.symm ▸ hel)
      obtain ⟨htag, hattrs, hchildren⟩ := ha el node node' hnode hnode'
      rw [(h.descends el).elementHtml_of_node? hnode, (h'.descends el).elementHtml_of_node? hnode',
        htag, hattrs]
      rcases hchildren with hsame | ⟨hflat, hempty⟩
      · rw [hsame]
        congr 1
        refine List.map_congr_left fun c hc ↦ ?_
        cases c with
        | text s | html s => rfl
        | element x =>
          have hx : el < x := h.lt (contains_of_mem_children hnode hc)
          exact ih (d.size - x) (hn ▸ Nat.sub_lt_sub_left hel hx) x rfl
      · refine enclose_congr hflat fun hvoid ↦ ?_
        rw [List.isEmpty_map, List.isEmpty_map]
        exact hempty hvoid
    · have hnone := node?_eq_none_of_le (Nat.not_lt.mp hel)
      have hnone' : d'.node? el = none := node?_eq_none_of_le (hs.symm ▸ Nat.not_lt.mp hel)
      rw [elementHtml, elementHtml, outerHtmlTo_of_none _ hnone, outerHtmlTo_of_none _ hnone']

theorem toHtml_of_alike (h : d.Forest) (h' : d'.Forest) (hs : d'.size = d.size)
    (hr : d'.roots = d.roots)
    (ha : ∀ x node node', d.node? x = some node → d'.node? x = some node' → Alike d d' node node') :
    d'.toHtml = d.toHtml := by
  rw [toHtml_eq, toHtml_eq, hr, funext (elementHtml_of_alike h h' hs ha)]

end DataBinding.Markup
