import DataBinding.Proofs.Markup.Serialize
import Mathlib.Data.List.Forall2

namespace DataBinding.Markup

variable {d D : Markup} {el : ElementId}

theorem modify_append_length {α : Type} (l : List α) (a : α) (l' : List α) (f : α → α) :
    (l ++ a :: l').modify l.length f = l ++ f a :: l' := by
  induction l with
  | nil => rfl
  | cons b l ih => rw [List.cons_append, List.length_cons, List.modify_succ_cons, ih,
      List.cons_append]

theorem grow_nil (d : Markup) (parent : Option ElementId) : d.grow parent [] [] = d := by
  cases parent with
  | none => simp [grow]
  | some p =>
    simp only [grow, List.append_nil]
    rw [Markup.mk.injEq]
    exact ⟨List.modify_id p d.nodes, rfl⟩

theorem grow_grow {parent : Option ElementId} (hp : ∀ p ∈ parent, p < d.size)
    (cs cs' : List Child) (new new' : List Node) :
    (d.grow parent cs new).grow parent cs' new' = d.grow parent (cs ++ cs') (new ++ new') := by
  cases parent with
  | none => simp [grow, List.filterMap_append]
  | some p =>
    have hlt : p < (d.nodes.modify p fun node ↦
        { node with children := node.children ++ cs }).length := by
      rw [List.length_modify]
      exact hp p rfl
    simp only [grow, modify_append_of_lt hlt, List.modify_modify_eq, List.append_assoc]
    congr 3
    funext node
    simp only [Function.comp_apply, List.append_assoc]

theorem grow_grow_last {parent : Option ElementId} (cs cs' : List Child) (node : Node)
    (new : List Node) :
    (d.grow parent cs [node]).grow (some d.size) cs' new =
      d.grow parent cs ({ node with children := node.children ++ cs' } :: new) := by
  cases parent with
  | none => simp only [grow, size, modify_append_length, List.append_assoc, List.cons_append,
      List.nil_append]
  | some p =>
    have hlen : d.size = (d.nodes.modify p fun node ↦
        { node with children := node.children ++ cs }).length := (List.length_modify _ _ _).symm
    simp only [grow, hlen, modify_append_length, List.append_assoc, List.cons_append,
      List.nil_append]

def Holds (D : Markup) (k : Nat) (new : List Node) : Prop :=
  ∀ i node, new[i]? = some node → D.node? (k + i) = some node

theorem Holds.cons {k : Nat} {node : Node} {new : List Node} (h : D.Holds k (node :: new)) :
    D.node? k = some node ∧ D.Holds (k + 1) new := by
  refine ⟨h 0 node rfl, fun i node' hi ↦ ?_⟩
  rw [Nat.add_right_comm, Nat.add_assoc]
  exact h (i + 1) node' hi

theorem Holds.append {k : Nat} {new new' : List Node} (h : D.Holds k (new ++ new')) :
    D.Holds k new ∧ D.Holds (k + new.length) new' := by
  refine ⟨fun i node hi ↦ ?_, fun i node hi ↦ ?_⟩
  · refine h i node ?_
    rw [List.getElem?_append_left (List.getElem?_eq_some_iff.mp hi).1]
    exact hi
  · rw [Nat.add_assoc]
    refine h (new.length + i) node ?_
    rw [List.getElem?_append_right (Nat.le_add_right _ _), Nat.add_sub_cancel_left]
    exact hi

/-- An element has the tag, the attributes and the text that an array gives it. -/
def Represents (D : Markup) (v : Json) (el : ElementId) : Prop :=
  ∃ items tag members children node, v = .array items ∧
    heading? items = some (tag, members, children) ∧ D.node? el = some node ∧ node.tag = tag ∧
    node.attrs = attrsOf members ∧ pieces v = [D.elementHtml el]

/-- Children and new elements from `k` on that stand for arrays and read as texts, in every forest
that holds them. -/
def Adds (es : List Json) (ps : List (List Char)) (k : Nat) (cs : List Child) (new : List Node) :
    Prop :=
  ∀ D : Markup, D.Forest → D.Holds k new →
    cs.map (Child.toHtml D.elementHtml) = ps ∧
      (cs.filterMap Child.element?).flatMap D.subtree = List.range' k new.length ∧
      List.Forall₂ D.Represents es (List.range' k new.length)

namespace Adds

variable {es es' : List Json} {ps ps' : List (List Char)} {k : Nat} {cs cs' : List Child}
  {new new' : List Node}

theorem nil (k : Nat) : Adds [] [] k [] [] := fun _ _ _ ↦ ⟨rfl, rfl, .nil⟩

theorem text (s : String) (k : Nat) : Adds [] [encodeText s.toList] k [.text s] [] :=
  fun _ _ _ ↦ ⟨rfl, rfl, .nil⟩

theorem append (h : Adds es ps k cs new) (h' : Adds es' ps' (k + new.length) cs' new') :
    Adds (es ++ es') (ps ++ ps') k (cs ++ cs') (new ++ new') := by
  intro D hD hnew
  obtain ⟨hleft, hright⟩ := hnew.append
  obtain ⟨hps, hsub, hes⟩ := h D hD hleft
  obtain ⟨hps', hsub', hes'⟩ := h' D hD hright
  have hrange : List.range' k (new ++ new').length =
      List.range' k new.length ++ List.range' (k + new.length) new'.length := by
    rw [List.length_append, List.range'_append_1]
  refine ⟨?_, ?_, ?_⟩
  · rw [List.map_append, hps, hps']
  · rw [List.filterMap_append, List.flatMap_append, hsub, hsub', hrange]
  · rw [hrange]
    exact List.rel_append hes hes'

theorem element {items children : List Json} {tag : String} {members : Json.Members}
    (hh : heading? items = some (tag, members, children)) (htag : tag.isEmpty = false)
    (h : Adds es (children.flatMap pieces) (k + 1) cs new) {node : Node}
    (hn : node.tag = tag ∧ node.attrs = attrsOf members ∧ node.children = cs) :
    Adds (.array items :: es) (pieces (.array items)) k [.element k] (node :: new) := by
  intro D hD hnew
  obtain ⟨hnode, hnew⟩ := hnew.cons
  obtain ⟨hps, hsub, hes⟩ := h D hD hnew
  have hpieces : pieces (.array items) = [D.elementHtml k] := by
    rw [(hD.descends k).elementHtml_of_node? hnode, hn.1, hn.2.1, hn.2.2, hps, pieces_array, hh]
    simp only [piecesUnder, htag, Bool.false_eq_true, if_false]
  refine ⟨hpieces.symm, ?_, .cons ?_ hes⟩
  · have hsubtree : D.subtree k = k :: List.range' (k + 1) new.length := by
      rw [(hD.descends k).subtree_of_node? hnode, hn.2.2, hsub]
    simp [Child.element?, hsubtree, List.range'_succ]
  · exact ⟨items, tag, members, children, node, rfl, hh, hnode, hn.1, hn.2.1, hpieces⟩

end Adds

theorem flatMap_filterMap_element? {cs : List Child} (h : ∀ c ∈ cs, ∃ el, c = .element el)
    (f : ElementId → List Char) :
    (cs.filterMap Child.element?).flatMap f = cs.flatMap (Child.toHtml f) := by
  induction cs with
  | nil => rfl
  | cons c cs ih =>
    obtain ⟨⟨el, rfl⟩, hcs⟩ := List.forall_mem_cons.mp h
    rw [List.flatMap_cons, ← ih hcs]
    rfl

/-- From `d` to `d'` children and elements are added that stand for arrays and read as texts, at the
top only elements. -/
def Grows (es : List Json) (ps : List (List Char)) (parent : Option ElementId) (d d' : Markup) :
    Prop :=
  ∃ cs new, d' = d.grow parent cs new ∧ Adds es ps d.size cs new ∧
    (parent = none → ∀ c ∈ cs, ∃ el, c = .element el)

theorem Grows.all {vs : List Json} {parent : Option ElementId}
    (h : ∀ v ∈ vs, ∀ d d' : Markup, (∀ p ∈ parent, p < d.size) → build v parent d = .ok d' →
      Grows (elements parent.isSome v) (pieces v) parent d d')
    {d d' : Markup} (hp : ∀ p ∈ parent, p < d.size) (hb : buildAll vs parent d = .ok d') :
    Grows (vs.flatMap (elements parent.isSome)) (vs.flatMap pieces) parent d d' := by
  induction vs generalizing d with
  | nil =>
    cases hb
    exact ⟨[], [], (grow_nil _ parent).symm, .nil _, nofun⟩
  | cons v vs ih =>
    obtain ⟨hv, hvs⟩ := List.forall_mem_cons.mp h
    obtain ⟨d₁, hb₁, hb⟩ := of_buildAll_cons hb
    obtain ⟨cs, new, rfl, hadds, htop⟩ := hv d d₁ hp hb₁
    have hp₁ : ∀ p ∈ parent, p < (d.grow parent cs new).size := fun p hmem ↦ by
      rw [size_grow]
      exact Nat.lt_of_lt_of_le (hp p hmem) (Nat.le_add_right _ _)
    obtain ⟨cs', new', rfl, hadds', htop'⟩ := ih hvs hp₁ hb
    rw [size_grow] at hadds'
    refine ⟨cs ++ cs', new ++ new', grow_grow hp cs cs' new new', ?_, fun hnone c hc ↦ ?_⟩
    · exact hadds.append hadds'
    · exact (List.mem_append.mp hc).elim (htop hnone c) (htop' hnone c)

theorem grows_build (v : Json) (parent : Option ElementId) (d d' : Markup)
    (hp : ∀ p ∈ parent, p < d.size) (hb : build v parent d = .ok d') :
    Grows (elements parent.isSome v) (pieces v) parent d d' := by
  induction v using children_induction generalizing parent d d' with
  | leaf v hv =>
    cases v with
    | null =>
      cases hb
      exact ⟨[], [], (grow_nil d parent).symm, .nil _, nofun⟩
    | bool b | number n | string s =>
      obtain ⟨p, rfl, rfl⟩ := of_buildText hb
      exact ⟨_, [], appendText_eq_grow d p _, .text _ _, nofun⟩
    | array items => exact absurd rfl (hv items)
    | object members => cases hb
  | array items ih =>
    rw [build_array] at hb
    cases hh : heading? items with
    | none =>
      rw [hh] at hb
      cases hb
    | some heading =>
      obtain ⟨tag, members, children⟩ := heading
      simp only [hh, openElement] at hb
      have hchildren := fun v hv parent d d' ↦ ih tag members children hh v hv parent d d'
      cases htag : tag.isEmpty with
      | true =>
        rw [htag, if_pos rfl] at hb
        have hgrows := Grows.all (fun v hv ↦ hchildren v hv parent) hp hb
        rw [elements_array hh, pieces_array, hh, htag]
        simpa [piecesUnder, htag] using hgrows
      | false =>
        rw [htag, if_neg Bool.false_ne_true, appendElement_eq_grow hp] at hb
        obtain ⟨cs, new, rfl, hadds, -⟩ := Grows.all (fun v hv ↦ hchildren v hv (some d.size))
          (fun p hmem ↦ by cases hmem; rw [size_grow]; exact Nat.lt_succ_self _) hb
        rw [size_grow] at hadds
        rw [grow_grow_last]
        refine ⟨_, _, rfl, ?_, fun _ c hc ↦ ⟨_, List.mem_singleton.mp hc⟩⟩
        rw [elements_array hh, htag, Bool.not_false, Bool.or_true]
        exact .element hh htag hadds ⟨rfl, rfl, rfl⟩

def failure? {ε α : Type} : Except ε α → Option ε
  | .ok _ => none
  | .error e => some e

theorem failure?_buildAll {vs : List Json} {parent : Option ElementId}
    (h : ∀ v ∈ vs, ∀ d, failure? (build v parent d) =
      (visited parent.isSome v).findSome? fault?) (d : Markup) :
    failure? (buildAll vs parent d) = (vs.flatMap (visited parent.isSome)).findSome? fault? := by
  induction vs generalizing d with
  | nil => rfl
  | cons v vs ih =>
    obtain ⟨hv, hvs⟩ := List.forall_mem_cons.mp h
    rw [buildAll_cons, List.flatMap_cons, List.findSome?_append, ← hv d]
    cases build v parent d with
    | error e => rfl
    | ok d₁ => exact ih hvs d₁

theorem failure?_build (v : Json) (parent : Option ElementId) (d : Markup) :
    failure? (build v parent d) = (visited parent.isSome v).findSome? fault? := by
  induction v using children_induction generalizing parent d with
  | leaf v hv =>
    cases v with
    | array items => exact absurd rfl (hv items)
    | null | object members => rfl
    | bool b | number n | string s => cases parent <;> rfl
  | array items ih =>
    rw [build_array, visited_array, List.findSome?_cons]
    cases hh : heading? items with
    | none => simp [failure?, fault?, hh]
    | some heading =>
      obtain ⟨tag, members, children⟩ := heading
      have hsome : (d.openElement parent tag (attrsOf members)).1.isSome =
          (parent.isSome || !tag.isEmpty) := by
        rw [openElement]
        cases tag.isEmpty <;> simp
      simp only [fault?, hh, Option.isSome_some, if_true, ← hsome]
      exact failure?_buildAll (fun v hv ↦ ih tag members children hh v hv _) _

theorem isMarkup_iff (v : Json) (inside : Bool) :
    IsMarkup inside v ↔ (visited inside v).findSome? fault? = none := by
  induction v using children_induction generalizing inside with
  | leaf v hv =>
    cases v with
    | array items => exact absurd rfl (hv items)
    | null => exact ⟨fun _ ↦ rfl, fun _ ↦ .null inside⟩
    | object members => exact ⟨nofun, nofun⟩
    | bool b | number n | string s =>
      cases inside with
      | false => exact ⟨nofun, nofun⟩
      | true => exact ⟨fun _ ↦ rfl, fun _ ↦ by constructor⟩
  | array items ih =>
    rw [visited_array]
    cases hh : heading? items with
    | none =>
      simp only [List.findSome?_cons, fault?, hh, Option.isSome_none, Bool.false_eq_true, if_false,
        reduceCtorEq, iff_false]
      intro h
      cases h with
      | array h _ =>
        rw [hh] at h
        cases h
    | some heading =>
      obtain ⟨tag, members, children⟩ := heading
      have hchildren : (∀ v ∈ children, IsMarkup (inside || !tag.isEmpty) v) ↔
          (children.flatMap (visited (inside || !tag.isEmpty))).findSome? fault? = none := by
        simp only [List.findSome?_eq_none_iff, List.forall_mem_flatMap]
        refine forall₂_congr fun v hv ↦ ?_
        rw [ih tag members children hh v hv, List.findSome?_eq_none_iff]
      simp only [List.findSome?_cons, fault?, hh, Option.isSome_some, if_true, ← hchildren]
      constructor
      · rintro (_ | _ | _ | _ | ⟨h, hc⟩)
        rw [hh] at h
        cases h
        exact hc
      · exact .array hh

/-- JSON is read as a document exactly if it is markup, and else the error is that of the first
fault in preorder. The document has the text that the markup stands for; its elements are numbered
in preorder, and each one has the tag, the attributes and the text of the array in its place. -/
theorem ofJson_spec (t : Json) :
    match ofJson t with
    | .ok d => IsMarkup false t ∧ d.toHtml = String.ofList (pieces t).flatten ∧
        d.preorder = List.range d.size ∧
        List.Forall₂ d.Represents (elements false t) (List.range d.size)
    | .error e => ¬ IsMarkup false t ∧ (visited false t).findSome? fault? = some e := by
  have hfailure := failure?_build t none empty
  rw [← ofJson, Option.isSome_none] at hfailure
  rw [isMarkup_iff, ← hfailure]
  cases hd : ofJson t with
  | error e => exact ⟨nofun, rfl⟩
  | ok d =>
    obtain ⟨cs, new, hgrow, hadds, htop⟩ := grows_build t none empty d (fun _ hp ↦ by cases hp) hd
    have hnew : d.Holds 0 new := fun i node hi ↦ by
      rw [hgrow, Nat.zero_add, node?_grow_of_le _ _ _ (Nat.zero_le i)]
      exact hi
    have hroots : d.roots = cs.filterMap Child.element? := by rw [hgrow]; rfl
    have hsize : d.size = new.length := by rw [hgrow, size_grow]; exact Nat.zero_add _
    obtain ⟨hps, hsub, hes⟩ := hadds d (Built.ofJson hd).forest hnew
    have hrange : List.range' empty.size new.length = List.range d.size := by
      rw [hsize, List.range_eq_range']
      rfl
    rw [hrange] at hsub hes
    have hhtml : d.roots.flatMap d.elementHtml = (pieces t).flatten := by
      rw [hroots, ← hps, ← List.flatMap_def]
      exact flatMap_filterMap_element? (htop rfl) d.elementHtml
    refine ⟨rfl, ?_, ?_, hes⟩
    · rw [toHtml_eq, hhtml]
    · rw [preorder, hroots]
      exact hsub

end DataBinding.Markup
