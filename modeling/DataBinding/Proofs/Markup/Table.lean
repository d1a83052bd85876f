import DataBinding.Markup.Basic
import Mathlib.Data.List.Basic
import Mathlib.Logic.Relation

namespace DataBinding.Markup

open Relation

variable {d d' : Markup} {el p : ElementId}

def Node.childElements (node : Node) : List ElementId := node.children.filterMap Child.element?

def parent? (d : Markup) (el : ElementId) : Option ElementId := (d.node? el).bind (·.parent)

def content (html : String) : List Child := if html.isEmpty then [] else [.html html]

theorem childElements_content (html : String) :
    (content html).filterMap Child.element? = [] := by
  rw [content]
  split <;> rfl

theorem childElements_filter (cs : List Child) (el : ElementId) :
    (cs.filter (· != .element el)).filterMap Child.element? =
      (cs.filterMap Child.element?).filter (· ∉ [el]) := by
  rw [List.filterMap_filter, List.filter_filterMap]
  congr 1
  funext c
  cases c with
  | text s | html s => simp [Child.element?]
  | element x => by_cases hx : x = el <;> simp [Child.element?, Option.filter, hx]

def subtree (d : Markup) (el : ElementId) : List ElementId := d.subtreeTo d.size el

def Contains (d : Markup) (p el : ElementId) : Prop := el ∈ d.childElements p

theorem childElements_eq (d : Markup) (el : ElementId) :
    d.childElements el = ((d.node? el).map Node.childElements).getD [] := rfl

theorem isSome_node?_iff : (d.node? el).isSome ↔ el < d.size := by
  simp [node?, size]

theorem exists_node?_of_lt (h : el < d.size) : ∃ node, d.node? el = some node :=
  Option.isSome_iff_exists.mp (isSome_node?_iff.mpr h)

theorem lt_size_of_node? {node : Node} (h : d.node? el = some node) : el < d.size :=
  isSome_node?_iff.mp (Option.isSome_of_mem h)

theorem node?_eq_none_of_le (h : d.size ≤ el) : d.node? el = none := List.getElem?_eq_none h

theorem lt_size_of_parent? (h : d.parent? el = some p) : el < d.size := by
  obtain ⟨node, hnode, -⟩ := Option.bind_eq_some_iff.mp h
  exact lt_size_of_node? hnode

theorem lt_size_of_isAttached (h : d.isAttached el) : el < d.size := by
  rw [isAttached] at h
  cases hnode : d.node? el with
  | none =>
    rw [hnode] at h
    cases h
  | some node => exact lt_size_of_node? hnode

theorem isAttached_of_le (h : d.size ≤ el) : d.isAttached el = false := by
  rw [isAttached, node?_eq_none_of_le h]
  rfl

def revise (f : ElementId → Node → Node) (d : Markup) : Markup :=
  { d with nodes := d.nodes.mapIdx f }

section Revise

variable (f g : ElementId → Node → Node) (d : Markup) (x : ElementId)

@[simp] theorem node?_revise : (d.revise f).node? x = (d.node? x).map (f x) :=
  List.getElem?_mapIdx

@[simp] theorem size_revise : (d.revise f).size = d.size := List.length_mapIdx

@[simp] theorem roots_revise : (d.revise f).roots = d.roots := rfl

theorem revise_revise : (d.revise f).revise g = d.revise fun x node ↦ g x (f x node) := by
  simp only [revise, List.mapIdx_mapIdx]
  rfl

theorem modifyNode_eq_revise (el : ElementId) (f : Node → Node) :
    d.modifyNode el f = d.revise fun x node ↦ if x = el then f node else node := by
  rw [modifyNode, revise, Markup.mk.injEq]
  refine ⟨List.ext_getElem? fun x ↦ ?_, rfl⟩
  rw [List.getElem?_modify, List.getElem?_mapIdx]
  cases d.nodes[x]? <;> simp [eq_comm]

variable {f} {x}

theorem childElements_revise (hf : ∀ node, (f x node).children = node.children) :
    (d.revise f).childElements x = d.childElements x := by
  rw [childElements_eq, childElements_eq, node?_revise]
  cases d.node? x with
  | none => rfl
  | some node => simp [Node.childElements, hf]

theorem parent?_revise (hf : ∀ node, (f x node).parent = node.parent) :
    (d.revise f).parent? x = d.parent? x := by
  rw [parent?, parent?, node?_revise]
  cases d.node? x <;> simp [hf]

theorem isAttached_revise (hf : ∀ node, (f x node).attached = node.attached) :
    (d.revise f).isAttached x = d.isAttached x := by
  rw [isAttached, isAttached, node?_revise]
  cases d.node? x <;> simp [hf]

end Revise

section ModifyNode

variable {f : Node → Node}

theorem parent?_modifyNode (hf : ∀ node, (f node).parent = node.parent) (d : Markup)
    (el : ElementId) : (d.modifyNode el f).parent? = d.parent? := by
  funext x
  rw [modifyNode_eq_revise]
  refine parent?_revise d fun node ↦ ?_
  split
  · exact hf node
  · rfl

theorem isAttached_modifyNode (hf : ∀ node, (f node).attached = node.attached) (d : Markup)
    (el : ElementId) : (d.modifyNode el f).isAttached = d.isAttached := by
  funext x
  rw [modifyNode_eq_revise]
  refine isAttached_revise d fun node ↦ ?_
  split
  · exact hf node
  · rfl

theorem childElements_modifyNode (hf : ∀ node, (f node).children = node.children) (d : Markup)
    (el : ElementId) : (d.modifyNode el f).childElements = d.childElements := by
  funext x
  rw [modifyNode_eq_revise]
  refine childElements_revise d fun node ↦ ?_
  split
  · exact hf node
  · rfl

theorem node?_modifyNode (d : Markup) (el x : ElementId) (f : Node → Node) :
    (d.modifyNode el f).node? x = if x = el then (d.node? x).map f else d.node? x := by
  rw [modifyNode_eq_revise, node?_revise]
  split <;> simp

theorem childElements_modifyNode_of_ne {x : ElementId} (h : x ≠ el) (d : Markup)
    (f : Node → Node) : (d.modifyNode el f).childElements x = d.childElements x := by
  rw [childElements_eq, node?_modifyNode, if_neg h, childElements_eq]

theorem size_modifyNode (d : Markup) (el : ElementId) (f : Node → Node) :
    (d.modifyNode el f).size = d.size := by
  rw [modifyNode_eq_revise, size_revise]

end ModifyNode

/-- From an element down, every element comes after the one that it stands in, so that the table
bounds the descent. -/
def Descends (d : Markup) (el : ElementId) : Prop :=
  ∀ p c, ReflTransGen d.Contains el p → d.Contains p c → p < c ∧ c < d.size

namespace Descends

theorem child (h : d.Descends el) {c : ElementId} (hc : d.Contains el c) :
    el < c ∧ c < d.size ∧ d.Descends c :=
  ⟨(h el c .refl hc).1, (h el c .refl hc).2, fun p x hp hx ↦ h p x (.head hc hp) hx⟩

theorem mem_subtreeTo_iff (h : d.Descends el) {n : Nat} {x : ElementId} (hn : d.size ≤ n + el)
    (hel : el < d.size) : x ∈ d.subtreeTo n el ↔ ReflTransGen d.Contains el x := by
  induction n generalizing el with
  | zero => exact absurd hel (Nat.not_lt.mpr (Nat.zero_add el ▸ hn))
  | succ n ih =>
    obtain ⟨node, hnode⟩ := exists_node?_of_lt hel
    have hbelow (c : ElementId) (hc : d.Contains el c) :
        x ∈ d.subtreeTo n c ↔ ReflTransGen d.Contains c x := by
      obtain ⟨hlt, hsize, hdesc⟩ := h.child hc
      rw [Nat.succ_add] at hn
      exact ih hdesc (Nat.le_trans hn (Nat.add_lt_add_left hlt n)) hsize
    simp only [subtreeTo, hnode, List.mem_cons, List.mem_flatMap]
    constructor
    · rintro (rfl | ⟨c, hc, hx⟩)
      · exact .refl
      · exact .head hc ((hbelow c hc).mp hx)
    · intro hx
      rcases ReflTransGen.cases_head hx with rfl | ⟨c, hc, hx⟩
      · exact .inl rfl
      · exact .inr ⟨c, hc, (hbelow c hc).mpr hx⟩

theorem mem_subtree_iff (h : d.Descends el) {x : ElementId} (hel : el < d.size) :
    x ∈ d.subtree el ↔ ReflTransGen d.Contains el x :=
  h.mem_subtreeTo_iff (Nat.le_add_right _ _) hel

theorem mem_flatMap_subtree_iff {els : List ElementId} {x : ElementId}
    (h : ∀ c ∈ els, c < d.size ∧ d.Descends c) :
    x ∈ els.flatMap d.subtree ↔ ∃ c ∈ els, ReflTransGen d.Contains c x := by
  rw [List.mem_flatMap]
  exact exists_congr fun c ↦ and_congr_right fun hc ↦ (h c hc).2.mem_subtree_iff (h c hc).1

end Descends

/-- The document in which some elements have no parent and some are not attached any more. -/
def release (orphans detached : List ElementId) : Markup → Markup :=
  revise fun x node ↦
    { node with
      parent := if x ∈ orphans then none else node.parent
      attached := node.attached && decide (x ∉ detached) }

section Release

variable (S T S' T' : List ElementId) (d : Markup)

theorem release_nil : d.release [] [] = d := by
  rw [release, revise, Markup.mk.injEq]
  refine ⟨List.ext_getElem? fun x ↦ ?_, rfl⟩
  rw [List.getElem?_mapIdx]
  cases d.nodes[x]? <;> simp

theorem release_release :
    (d.release S T).release S' T' = d.release (S ++ S') (T ++ T') := by
  rw [release, release, revise_revise]
  congr 1
  funext x node
  simp only [List.mem_append, not_or, Bool.decide_and, Bool.and_assoc, Node.mk.injEq, true_and,
    and_true]
  by_cases hS : x ∈ S <;> by_cases hS' : x ∈ S' <;> simp [hS, hS']

@[simp] theorem size_release : (d.release S T).size = d.size := size_revise _ d

@[simp] theorem roots_release : (d.release S T).roots = d.roots := rfl

@[simp] theorem childElements_release (x : ElementId) :
    (d.release S T).childElements x = d.childElements x := childElements_revise d fun _ ↦ rfl

theorem parent?_release (x : ElementId) :
    (d.release S T).parent? x = if x ∈ S then none else d.parent? x := by
  rw [parent?, release, node?_revise, parent?]
  cases d.node? x <;> simp

theorem isAttached_release (x : ElementId) :
    (d.release S T).isAttached x = (d.isAttached x && decide (x ∉ T)) := by
  rw [isAttached, release, node?_revise, isAttached]
  cases d.node? x <;> simp

theorem subtreeTo_release (n : Nat) (el : ElementId) :
    (d.release S T).subtreeTo n el = d.subtreeTo n el := by
  induction n generalizing el with
  | zero => rfl
  | succ n ih =>
    rw [subtreeTo, subtreeTo, childElements_release, funext ih, release, node?_revise]
    cases d.node? el <;> rfl

theorem subtree_release : (d.release S T).subtree = d.subtree := by
  funext el
  rw [subtree, size_release, subtreeTo_release, subtree]

theorem orphan_eq_release (el : ElementId) : d.orphan el = d.release [el] [] := by
  rw [orphan, modifyNode_eq_revise, release]
  congr 1
  funext x node
  by_cases hx : x = el <;> simp [hx]

end Release

theorem modifyNode_unattached (d : Markup) (el : ElementId) :
    d.modifyNode el ({ · with attached := false }) = d.release [] [el] := by
  rw [modifyNode_eq_revise, release]
  congr 1
  funext x node
  by_cases hx : x = el <;> simp [hx]

theorem modifyNode_of_none (h : d.node? el = none) (f : Node → Node) : d.modifyNode el f = d := by
  rw [modifyNode, List.modify_eq_self (List.getElem?_eq_none_iff.mp h)]

theorem detachTo_eq_release (n : Nat) (d : Markup) (el : ElementId) :
    detachTo n el d = d.release [] (d.subtreeTo n el) := by
  induction n generalizing d el with
  | zero => exact (release_nil d).symm
  | succ n ih =>
    have hfold (els : List ElementId) (d : Markup) :
        els.foldl (fun d c ↦ detachTo n c d) d = d.release [] (els.flatMap (d.subtreeTo n)) := by
      induction els generalizing d with
      | nil => exact (release_nil d).symm
      | cons c els ihl =>
        rw [List.foldl_cons, ih, ihl, release_release, funext (subtreeTo_release _ _ d n)]
        rfl
    rw [detachTo, hfold, subtreeTo]
    cases hnode : d.node? el with
    | none =>
      have hc : d.childElements el = [] := by rw [childElements_eq, hnode]; rfl
      rw [modifyNode_of_none hnode, hc]
      rfl
    | some node =>
      rw [modifyNode_unattached, release_release, funext (subtreeTo_release _ _ d n)]
      rfl

theorem detach_eq_release (d : Markup) (el : ElementId) :
    d.detach el = d.release [] (d.subtree el) := detachTo_eq_release d.size d el

theorem foldl_orphan_detach (els : List ElementId) (d : Markup) :
    els.foldl (fun d c ↦ (d.orphan c).detach c) d = d.release els (els.flatMap d.subtree) := by
  induction els generalizing d with
  | nil => exact (release_nil d).symm
  | cons c els ih =>
    rw [List.foldl_cons, ih, orphan_eq_release, detach_eq_release, release_release,
      subtree_release, subtree_release, subtree_release, release_release]
    rfl

theorem modify_append_of_lt {α : Type} {l : List α} {i : Nat} (h : i < l.length) (f : α → α)
    (l' : List α) : (l ++ l').modify i f = l.modify i f ++ l' := by
  induction l generalizing i with
  | nil => cases h
  | cons a l ih =>
    cases i with
    | zero => rfl
    | succ i =>
      rw [List.cons_append, List.modify_succ_cons, ih (Nat.lt_of_succ_lt_succ h),
        List.modify_succ_cons, List.cons_append]

def grow (d : Markup) (parent : Option ElementId) (cs : List Child) (new : List Node) : Markup :=
  match parent with
  | some p =>
    { d with
      nodes := (d.nodes.modify p fun node ↦ { node with children := node.children ++ cs }) ++ new }
  | none => { nodes := d.nodes ++ new, roots := d.roots ++ cs.filterMap Child.element? }

section Grow

variable (parent : Option ElementId) (cs : List Child) (new : List Node)

theorem appendText_eq_grow (d : Markup) (p : ElementId) (s : String) :
    d.appendText p s = d.grow (some p) [.text s] [] := by
  simp only [appendText, appendChild, modifyNode, grow, List.append_nil]

theorem size_grow (d : Markup) : (d.grow parent cs new).size = d.size + new.length := by
  cases parent <;> simp [grow, size]

theorem node?_grow_of_le (h : d.size ≤ el) :
    (d.grow parent cs new).node? el = new[el - d.size]? := by
  cases parent with
  | none => exact List.getElem?_append_right h
  | some p =>
    simp only [grow, node?]
    rw [List.getElem?_append_right (by rwa [List.length_modify]), List.length_modify]
    rfl

end Grow

theorem appendElement_eq_grow {parent : Option ElementId} (h : ∀ p ∈ parent, p < d.size)
    (tag : String) (attrs : List (String × String)) :
    d.appendElement parent tag attrs =
      (d.size, d.grow parent [.element d.size]
        [⟨tag, attrs, [], parent, parent.all d.isAttached⟩]) := by
  cases parent with
  | none => rfl
  | some p =>
    have hp : p < d.nodes.length := h p rfl
    have hp' : p < d.nodes.length + 1 := Nat.lt_succ_of_lt hp
    simp [appendElement, grow, appendChild, modifyNode, size, Option.filter, hp',
      modify_append_of_lt hp]

def concat (d : Markup) (node : Node) : Markup := { d with nodes := d.nodes ++ [node] }

theorem node?_concat (d : Markup) (node : Node) (x : ElementId) :
    (d.concat node).node? x = if x = d.size then some node else d.node? x := by
  rw [concat, node?, List.getElem?_append, List.getElem?_singleton, node?, size]
  by_cases hx : x < d.nodes.length
  · rw [if_pos hx, if_neg (Nat.ne_of_lt hx)]
  · have hle := Nat.not_lt.mp hx
    have hiff : x - d.nodes.length = 0 ↔ x = d.nodes.length :=
      Nat.sub_eq_zero_iff_le.trans (Nat.le_antisymm_iff.trans (and_iff_left hle)).symm
    rw [if_neg hx, List.getElem?_eq_none hle]
    exact if_congr hiff rfl rfl

theorem size_concat (d : Markup) (node : Node) : (d.concat node).size = d.size + 1 :=
  List.length_append

section AppendElement

variable (d : Markup) (parent : Option ElementId) (tag : String) (attrs : List (String × String))
  (x : ElementId)

variable {d parent} in
theorem appendElement_of_forall_lt (hp : ∀ p ∈ parent, d.size < p) :
    d.appendElement parent tag attrs =
      (d.size, { d.concat ⟨tag, attrs, [], parent, parent.all d.isAttached⟩ with
        roots := d.roots ++ [d.size] }) := by
  cases parent with
  | none => rfl
  | some p =>
    have hp : ¬ p < d.nodes.length + 1 := Nat.not_lt.mpr (hp p rfl)
    simp [appendElement, concat, size, Option.filter, hp]

variable {d} in
/-- The parent is looked up when the element is in the table, so that it can be its own parent. -/
theorem appendElement_of_le {p : ElementId} (hp : p ≤ d.size) :
    d.appendElement (some p) tag attrs =
      (d.size, (d.concat ⟨tag, attrs, [], some p, d.isAttached p⟩).appendChild p
        (.element d.size)) := by
  have hp : p < d.nodes.length + 1 := Nat.lt_succ_of_le hp
  simp [appendElement, concat, size, Option.filter, hp]

theorem forall_lt_or_exists_le :
    (∀ p ∈ parent, d.size < p) ∨ ∃ p, parent = some p ∧ p ≤ d.size := by
  cases parent with
  | none => exact .inl fun p hp ↦ by cases hp
  | some p =>
    rcases Nat.lt_or_ge d.size p with hlt | hle
    · exact .inl fun q hq ↦ Option.some.inj hq ▸ hlt
    · exact .inr ⟨p, rfl, hle⟩

theorem node?_appendElement :
    (d.appendElement parent tag attrs).2.node? x =
      (if x = d.size then some ⟨tag, attrs, [], parent, parent.all d.isAttached⟩
        else d.node? x).map fun node ↦
          if parent = some x then { node with children := node.children ++ [.element d.size] }
          else node := by
  rw [← node?_concat]
  rcases forall_lt_or_exists_le d parent with hp | ⟨p, rfl, hp⟩
  · rw [appendElement_of_forall_lt tag attrs hp]
    change (d.concat _).node? x = _
    cases hnode : (d.concat ⟨tag, attrs, [], parent, parent.all d.isAttached⟩).node? x with
    | none => rfl
    | some node =>
      have hlt := lt_size_of_node? hnode
      rw [size_concat] at hlt
      have hne : parent ≠ some x := fun h ↦ Nat.not_lt.mpr (hp x h) hlt
      rw [Option.map_some, if_neg hne]
  · rw [appendElement_of_le tag attrs hp, appendChild, node?_modifyNode]
    by_cases hx : x = p
    · subst hx
      simp
    · have hne : some p ≠ some x := fun h ↦ hx (Option.some.inj h).symm
      simp [hx, hne]

theorem parent?_appendElement :
    (d.appendElement parent tag attrs).2.parent? x =
      if x = d.size then parent else d.parent? x := by
  have hparent (node : Node) : (if parent = some x then
      { node with children := node.children ++ [.element d.size] } else node).parent =
        node.parent := by split <;> rfl
  rw [parent?, node?_appendElement, Option.bind_map]
  simp only [Function.comp_def, hparent]
  split <;> rfl

theorem isAttached_appendElement :
    (d.appendElement parent tag attrs).2.isAttached x =
      if x = d.size then parent.all d.isAttached else d.isAttached x := by
  have hattached (node : Node) : (if parent = some x then
      { node with children := node.children ++ [.element d.size] } else node).attached =
        node.attached := by split <;> rfl
  rw [isAttached, node?_appendElement, Option.any_map]
  simp only [hattached]
  split <;> rfl

theorem childElements_appendElement :
    (d.appendElement parent tag attrs).2.childElements x =
      d.childElements x ++ if parent = some x ∧ x ≤ d.size then [d.size] else [] := by
  rw [childElements_eq, node?_appendElement, childElements_eq]
  by_cases hx : x = d.size
  · rw [if_pos hx, node?_eq_none_of_le (Nat.le_of_eq hx.symm)]
    by_cases h : parent = some x <;> simp [h, Nat.le_of_eq hx, Node.childElements, Child.element?]
  · rw [if_neg hx]
    cases hnode : d.node? x with
    | none =>
      have hlt : ¬ x ≤ d.size := fun hle ↦ by
        obtain ⟨node, hsome⟩ := exists_node?_of_lt (Nat.lt_of_le_of_ne hle hx)
        rw [hnode] at hsome
        cases hsome
      simp [hlt]
    | some node =>
      have hle : x ≤ d.size := Nat.le_of_lt (lt_size_of_node? hnode)
      by_cases h : parent = some x <;> simp [h, hle, Node.childElements, Child.element?]

theorem roots_appendElement :
    (d.appendElement parent tag attrs).2.roots =
      d.roots ++ if ∀ p ∈ parent, d.size < p then [d.size] else [] := by
  rcases forall_lt_or_exists_le d parent with hp | ⟨p, rfl, hp⟩
  · rw [appendElement_of_forall_lt tag attrs hp, if_pos hp]
  · have hnot : ¬ ∀ q ∈ some p, d.size < q := fun h ↦ Nat.not_lt.mpr hp (h p rfl)
    rw [appendElement_of_le tag attrs hp, if_neg hnot, List.append_nil]
    rfl

theorem size_appendElement : (d.appendElement parent tag attrs).2.size = d.size + 1 := by
  rcases forall_lt_or_exists_le d parent with hp | ⟨p, rfl, hp⟩
  · rw [appendElement_of_forall_lt tag attrs hp]
    exact size_concat d _
  · rw [appendElement_of_le tag attrs hp, appendChild, size_modifyNode, size_concat]

variable {d parent} (hp : ∀ p ∈ parent, p < d.size)
include hp

theorem childElements_appendElement_of_lt :
    (d.appendElement parent tag attrs).2.childElements x =
      d.childElements x ++ if parent = some x then [d.size] else [] := by
  have hle : parent = some x ∧ x ≤ d.size ↔ parent = some x :=
    and_iff_left_of_imp fun h ↦ Nat.le_of_lt (hp x h)
  rw [childElements_appendElement]
  simp only [hle]

theorem roots_appendElement_of_lt :
    (d.appendElement parent tag attrs).2.roots =
      d.roots ++ if parent = none then [d.size] else [] := by
  have hnone : (∀ p ∈ parent, d.size < p) ↔ parent = none := by
    constructor
    · intro h
      exact Option.eq_none_iff_forall_not_mem.mpr fun p hm ↦ Nat.lt_asymm (hp p hm) (h p hm)
    · rintro rfl p hm
      cases hm
  rw [roots_appendElement]
  simp only [hnone]

end AppendElement

end DataBinding.Markup
