import DataBinding.Proofs.Markup.Forest

namespace DataBinding.Markup

variable {d : Markup} {el : ElementId} {node : Node}

def elementHtml (d : Markup) (el : ElementId) : List Char := d.outerHtmlTo d.size el

theorem toHtml_eq (d : Markup) : d.toHtml = String.ofList (d.roots.flatMap d.elementHtml) := rfl

theorem innerHtml_of_node? (h : d.node? el = some node) :
    d.innerHtml el =
      String.ofList (node.children.map (Child.toHtml d.elementHtml)).flatten := by
  rw [innerHtml, h, ← List.flatMap_def]
  rfl

theorem outerHtmlTo_succ (n : Nat) (h : d.node? el = some node) :
    d.outerHtmlTo (n + 1) el =
      enclose node.tag node.attrs (node.children.map (Child.toHtml (d.outerHtmlTo n))) := by
  simp only [outerHtmlTo, h, enclose, List.isEmpty_map, List.flatMap_def]

theorem outerHtmlTo_of_none (n : Nat) (h : d.node? el = none) : d.outerHtmlTo n el = [] := by
  cases n with
  | zero => rfl
  | succ n => simp only [outerHtmlTo, h]

theorem contains_of_mem_children (hnode : d.node? el = some node) {x : ElementId}
    (hx : .element x ∈ node.children) : d.Contains el x := by
  rw [Contains, childElements_eq, hnode]
  exact List.mem_filterMap.mpr ⟨_, hx, rfl⟩

namespace Descends

theorem outerHtmlTo_eq (h : d.Descends el) {n m : Nat} (hn : d.size ≤ n + el)
    (hm : d.size ≤ m + el) : d.outerHtmlTo n el = d.outerHtmlTo m el := by
  induction n generalizing el m with
  | zero =>
    have hnone := node?_eq_none_of_le (Nat.zero_add el ▸ hn)
    rw [outerHtmlTo_of_none _ hnone, outerHtmlTo_of_none _ hnone]
  | succ n ih =>
    cases hnode : d.node? el with
    | none => rw [outerHtmlTo_of_none _ hnode, outerHtmlTo_of_none _ hnode]
    | some node =>
      cases m with
      | zero =>
        rw [node?_eq_none_of_le (Nat.zero_add el ▸ hm)] at hnode
        cases hnode
      | succ m =>
        rw [outerHtmlTo_succ n hnode, outerHtmlTo_succ m hnode]
        congr 1
        refine List.map_congr_left fun c hc ↦ ?_
        cases c with
        | text s | html s => rfl
        | element x =>
          obtain ⟨hx, -, hdesc⟩ := h.child (contains_of_mem_children hnode hc)
          refine ih hdesc (Nat.le_trans hn ?_) (Nat.le_trans hm ?_)
          · rw [Nat.succ_add]
            exact Nat.add_le_add_left hx n
          · rw [Nat.succ_add]
            exact Nat.add_le_add_left hx m

theorem elementHtml_of_node? (h : d.Descends el) (hnode : d.node? el = some node) :
    d.elementHtml el =
      enclose node.tag node.attrs (node.children.map (Child.toHtml d.elementHtml)) := by
  rw [elementHtml, h.outerHtmlTo_eq (m := d.size + 1) (Nat.le_add_right _ _)
    (Nat.le_trans (Nat.le_succ _) (Nat.le_add_right _ _)), outerHtmlTo_succ _ hnode]
  rfl

theorem subtreeTo_eq (h : d.Descends el) {n m : Nat} (hn : d.size ≤ n + el)
    (hm : d.size ≤ m + el) : d.subtreeTo n el = d.subtreeTo m el := by
  induction n generalizing el m with
  | zero =>
    have hnone := node?_eq_none_of_le (Nat.zero_add el ▸ hn)
    cases m with
    | zero => rfl
    | succ m => simp only [subtreeTo, hnone]
  | succ n ih =>
    cases m with
    | zero =>
      have hnone := node?_eq_none_of_le (Nat.zero_add el ▸ hm)
      simp only [subtreeTo, hnone]
    | succ m =>
      rw [Nat.succ_add] at hn hm
      have hbelow (x : ElementId) (hx : x ∈ d.childElements el) :
          d.subtreeTo n x = d.subtreeTo m x := by
        obtain ⟨hlt, -, hdesc⟩ := h.child hx
        exact ih hdesc (Nat.le_trans hn (Nat.add_le_add_left hlt n))
          (Nat.le_trans hm (Nat.add_le_add_left hlt m))
      rw [subtreeTo, subtreeTo, List.flatMap_congr hbelow]

theorem subtree_of_node? (h : d.Descends el) (hnode : d.node? el = some node) :
    d.subtree el = el :: (node.children.filterMap Child.element?).flatMap d.subtree := by
  rw [subtree, h.subtreeTo_eq (m := d.size + 1) (Nat.le_add_right _ _)
    (Nat.le_trans (Nat.le_succ _) (Nat.le_add_right _ _)), subtreeTo, hnode, childElements_eq,
    hnode]
  rfl

end Descends

end DataBinding.Markup
