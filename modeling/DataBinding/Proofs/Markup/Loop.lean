import DataBinding.Proofs.Markup.Stray

namespace DataBinding.Markup

open Relation

variable {d d' d₁ : Markup} {el x : ElementId} {node : Node} {cs : List Child}
  {ps : List (List Char)} {stack S T : List ElementId} {s : String}

theorem Descends.lt_of_below (h : d.Descends el) (hx : TransGen d.Contains el x) : el < x := by
  induction hx with
  | single hc => exact (h.child hc).1
  | tail hb hc ih => exact Nat.lt_trans ih (h _ _ hb.to_reflTransGen hc).1

theorem Linked.cycle_iff (h : d.Linked) : TransGen d.Contains el el ↔ d.Contains el el := by
  refine ⟨fun hcycle ↦ ?_, .single⟩
  by_contra hown
  exact Nat.lt_irrefl el ((h.descends hown).lt_of_below hcycle)

/-- An element is appended under the number that it gets. -/
def Edit.Loops (d : Markup) : Edit → Prop
  | appendElement (some p) _ _ => p = d.size
  | _ => False

theorem Linked.own_apply (h : d.Linked) {e : Edit} (hown : (e.apply d).Contains el el) :
    d.Contains el el ∨ e.Loops d ∧ el = d.size := by
  rcases h.edit_cases e with ⟨parent, tag, attrs, rfl⟩ | ⟨els, hcuts⟩
  · refine (contains_appendElement_iff.mp hown).imp_right ?_
    rintro ⟨⟨rfl, -⟩, rfl⟩
    exact ⟨rfl, rfl⟩
  · exact .inl (hcuts.contains_iff.mp hown).1

theorem Reached.not_own {allowed : Markup → Edit → Prop} (h : Reached allowed d)
    (hallowed : ∀ d e, allowed d e → ¬ e.Loops d) (el : ElementId) : ¬ d.Contains el el := by
  induction h with
  | empty => exact fun hown ↦ Forest.empty.irrefl el (.single hown)
  | ofJson h => exact fun hown ↦ (Built.ofJson h).forest.irrefl el (.single hown)
  | edit h he ih =>
    intro hown
    rcases h.grove.linked.own_apply hown with hown | ⟨hloops, -⟩
    · exact ih hown
    · exact hallowed _ _ he hloops

inductive Spells (d : Markup) : List Child → List (List Char) → Prop
  | nil : Spells d [] []
  | text {s : String} {cs : List Child} {ps : List (List Char)} :
      Spells d cs ps → Spells d (.text s :: cs) (encodeText s.toList :: ps)
  | html {s : String} {cs : List Child} {ps : List (List Char)} :
      Spells d cs ps → Spells d (.html s :: cs) (s.toList :: ps)
  | missing {el : ElementId} {cs : List Child} {ps : List (List Char)} :
      d.node? el = none → Spells d cs ps → Spells d (.element el :: cs) ([] :: ps)
  | element {el : ElementId} {node : Node} {cs : List Child} {inner ps : List (List Char)} :
      d.node? el = some node → Spells d node.children inner → Spells d cs ps →
      Spells d (.element el :: cs) (enclose node.tag node.attrs inner :: ps)

/-- Reading the content of an element ends with a text. -/
def ReadsInner (d : Markup) (el : ElementId) (s : String) : Prop :=
  match d.node? el with
  | none => s = ""
  | some node => ∃ ps, d.Spells node.children ps ∧ s = String.ofList ps.flatten

def ReadsOuter (d : Markup) (el : ElementId) (s : String) : Prop :=
  ∃ ps, d.Spells [.element el] ps ∧ s = String.ofList ps.flatten

def ReadsAll (d : Markup) (s : String) : Prop :=
  ∃ ps, d.Spells (d.roots.map .element) ps ∧ s = String.ofList ps.flatten

theorem Spells.unique (h : d.Spells cs ps) {ps' : List (List Char)} (h' : d.Spells cs ps') :
    ps' = ps := by
  induction h generalizing ps' with
  | nil =>
    cases h'
    rfl
  | text _ ih =>
    cases h' with
    | text h' => rw [ih h']
  | html _ ih =>
    cases h' with
    | html h' => rw [ih h']
  | missing hnone _ ih =>
    cases h' with
    | missing _ h' => rw [ih h']
    | element hnode =>
      rw [hnone] at hnode
      cases hnode
  | element hnode _ _ ihinner ih =>
    cases h' with
    | missing hnone =>
      rw [hnode] at hnone
      cases hnone
    | element hnode' hinner h' =>
      rw [hnode, Option.some.injEq] at hnode'
      subst hnode'
      rw [ihinner hinner, ih h']

theorem mem_children_of_contains (hc : d.Contains el x) :
    ∃ node, d.node? el = some node ∧ .element x ∈ node.children := by
  rw [Contains, childElements_eq] at hc
  cases hnode : d.node? el with
  | none =>
    rw [hnode] at hc
    cases hc
  | some node =>
    rw [hnode, Option.map_some, Option.getD_some, Node.childElements, List.mem_filterMap] at hc
    obtain ⟨c, hc, hx⟩ := hc
    cases c with
    | text s | html s => cases hx
    | element y => exact ⟨node, rfl, Option.some.inj hx ▸ hc⟩

theorem Spells.not_mem_of_own (h : d.Spells cs ps) (hown : d.Contains x x) : .element x ∉ cs := by
  obtain ⟨node, hnode, hmem⟩ := mem_children_of_contains hown
  induction h with
  | nil => exact List.not_mem_nil
  | text _ ih | html _ ih => simpa using ih
  | @missing el _ _ hnone _ ih =>
    have hne : x ≠ el := by
      rintro rfl
      rw [hnode] at hnone
      cases hnone
    simpa [hne] using ih
  | @element el node' _ _ _ hnode' _ _ ihinner ih =>
    have hne : x ≠ el := by
      rintro rfl
      rw [hnode, Option.some.injEq] at hnode'
      exact ihinner (hnode' ▸ hmem)
    simpa [hne] using ih

theorem spells_map
    (h : ∀ el node, .element el ∈ cs → d.node? el = some node → d.Descends el ∧
      d.Spells node.children (node.children.map (Child.toHtml d.elementHtml))) :
    d.Spells cs (cs.map (Child.toHtml d.elementHtml)) := by
  induction cs with
  | nil => exact .nil
  | cons c cs ih =>
    have hrest := ih fun el node hel ↦ h el node (List.mem_cons_of_mem c hel)
    cases c with
    | text s => exact .text hrest
    | html s => exact .html hrest
    | element el =>
      rw [List.map_cons, Child.toHtml]
      cases hnode : d.node? el with
      | none =>
        rw [elementHtml, outerHtmlTo_of_none _ hnode]
        exact .missing hnode hrest
      | some node =>
        obtain ⟨hdesc, hinner⟩ := h el node List.mem_cons_self hnode
        rw [hdesc.elementHtml_of_node? hnode]
        exact .element hnode hinner hrest

theorem Descends.spells (h : d.Descends el) (hnode : d.node? el = some node) :
    d.Spells node.children (node.children.map (Child.toHtml d.elementHtml)) := by
  -- children come after their parents, so the induction starts at the end of the table
  induction hn : d.size - el using Nat.strongRecOn generalizing el node with
  | ind n ih =>
    refine spells_map fun c node' hc hnode' ↦ ?_
    obtain ⟨hlt, -, hdesc⟩ := h.child (contains_of_mem_children hnode hc)
    have hel := lt_size_of_node? hnode
    exact ⟨hdesc, ih (d.size - c) (hn ▸ Nat.sub_lt_sub_left hel hlt) hdesc hnode' rfl⟩

theorem Linked.readsInner_iff (h : d.Linked) :
    d.ReadsInner el s ↔ ¬ d.Contains el el ∧ s = d.innerHtml el := by
  rw [ReadsInner]
  cases hnode : d.node? el with
  | none =>
    have hown : ¬ d.Contains el el := fun hc ↦ by
      obtain ⟨node, hsome, -⟩ := mem_children_of_contains hc
      rw [hnode] at hsome
      cases hsome
    rw [innerHtml, hnode, and_iff_right hown]
  | some node =>
    constructor
    · rintro ⟨ps, hps, rfl⟩
      have hown : ¬ d.Contains el el := fun hc ↦ by
        obtain ⟨node', hsome, hmem⟩ := mem_children_of_contains hc
        rw [hnode, Option.some.injEq] at hsome
        exact hps.not_mem_of_own hc (hsome ▸ hmem)
      rw [innerHtml_of_node? hnode, ((h.descends hown).spells hnode).unique hps]
      exact ⟨hown, rfl⟩
    · rintro ⟨hown, rfl⟩
      exact ⟨_, (h.descends hown).spells hnode, innerHtml_of_node? hnode⟩

theorem Linked.spells_elements (h : d.Linked) {els : List ElementId}
    (hels : ∀ c ∈ els, ¬ d.Contains c c) :
    d.Spells (els.map .element) (els.map d.elementHtml) := by
  have hmap : els.map d.elementHtml = (els.map .element).map (Child.toHtml d.elementHtml) := by
    rw [List.map_map]
    rfl
  rw [hmap]
  refine spells_map fun el node hel hnode ↦ ?_
  obtain ⟨c, hc, heq⟩ := List.mem_map.mp hel
  have hdesc := h.descends (hels el (Child.element.inj heq ▸ hc))
  exact ⟨hdesc, hdesc.spells hnode⟩

theorem Linked.readsOuter_iff (h : d.Linked) :
    d.ReadsOuter el s ↔ ¬ d.Contains el el ∧ s = d.outerHtml el := by
  have houter : d.outerHtml el = String.ofList [d.elementHtml el].flatten := by
    rw [List.flatten_singleton]
    rfl
  have hspells (hown : ¬ d.Contains el el) : d.Spells [.element el] [d.elementHtml el] :=
    h.spells_elements fun c hc ↦ List.mem_singleton.mp hc ▸ hown
  rw [houter]
  constructor
  · rintro ⟨ps, hps, rfl⟩
    have hown : ¬ d.Contains el el := fun hc ↦ hps.not_mem_of_own hc List.mem_cons_self
    rw [(hspells hown).unique hps]
    exact ⟨hown, rfl⟩
  · rintro ⟨hown, rfl⟩
    exact ⟨_, hspells hown, rfl⟩

theorem Grove.readsAll_iff (h : d.Grove) : d.ReadsAll s ↔ s = d.toHtml := by
  have hspells : d.Spells (d.roots.map .element) (d.roots.map d.elementHtml) :=
    h.linked.spells_elements fun r hr ↦ h.not_contains_root r hr r
  have hhtml : d.toHtml = String.ofList (d.roots.map d.elementHtml).flatten := by
    rw [toHtml_eq, List.flatMap_def]
  rw [hhtml]
  constructor
  · rintro ⟨ps, hps, rfl⟩
    rw [hspells.unique hps]
  · rintro rfl
    exact ⟨_, hspells, rfl⟩

/-- What the loop makes of a document that marks elements from a stack on as not attached. The
element on top is taken off; if it exists it is marked and its children are pushed. -/
inductive Detaches : Markup → List ElementId → Markup → Prop
  | done {d : Markup} : Detaches d [] d
  | skip {d d' : Markup} {el : ElementId} {stack : List ElementId} :
      d.node? el = none → Detaches d stack d' → Detaches d (el :: stack) d'
  | mark {d d' : Markup} {el : ElementId} {stack : List ElementId} {node : Node} :
      d.node? el = some node →
      Detaches (d.modifyNode el ({ · with attached := false }))
        (pushAll (node.children.filterMap Child.element?) stack) d' →
      Detaches d (el :: stack) d'

theorem Detaches.unique (h : Detaches d stack d') (h' : Detaches d stack d₁) : d₁ = d' := by
  induction h with
  | done =>
    cases h'
    rfl
  | skip hnone _ ih =>
    cases h' with
    | skip _ h' => exact ih h'
    | mark hnode =>
      rw [hnone] at hnode
      cases hnode
  | mark hnode _ ih =>
    cases h' with
    | skip hnone =>
      rw [hnode] at hnone
      cases hnone
    | mark hnode' h' =>
      rw [hnode, Option.some.injEq] at hnode'
      subst hnode'
      exact ih h'

theorem pushAll_eq (els stack : List ElementId) : pushAll els stack = els.reverse ++ stack := by
  rw [← pushAll_reverse, List.reverse_reverse]

theorem Detaches.not_mem_of_own (h : Detaches d stack d') (hown : d.Contains x x) : x ∉ stack := by
  induction h with
  | done => exact List.not_mem_nil
  | @skip d _ el _ hnone _ ih =>
    obtain ⟨node, hnode, -⟩ := mem_children_of_contains hown
    have hne : x ≠ el := by
      rintro rfl
      rw [hnode] at hnone
      cases hnone
    simpa [hne] using ih hown
  | @mark d _ el stack node hnode _ ih =>
    have hsame : (d.modifyNode el ({ · with attached := false })).Contains x x := by
      rw [Contains, childElements_modifyNode fun _ ↦ by rfl]
      exact hown
    have hpushed := ih hsame
    rw [pushAll_eq, List.mem_append, List.mem_reverse, not_or] at hpushed
    have hne : x ≠ el := by
      rintro rfl
      rw [Contains, childElements_eq, hnode] at hown
      exact hpushed.1 hown
    simpa [hne] using hpushed.2

theorem release_congr (h : ∀ x, x ∈ T ↔ x ∈ S) : d.release [] T = d.release [] S := by
  simp only [release, h]

theorem detaches_append {els : List ElementId}
    (h : ∀ c ∈ els, ∀ T stack, Detaches (d.release [] (T ++ d.subtree c)) stack d' →
      Detaches (d.release [] T) (c :: stack) d')
    (hrest : Detaches (d.release [] (T ++ els.flatMap d.subtree)) stack d') :
    Detaches (d.release [] T) (els ++ stack) d' := by
  induction els generalizing T with
  | nil => simpa using hrest
  | cons c els ih =>
    obtain ⟨hc, hels⟩ := List.forall_mem_cons.mp h
    refine hc T _ (ih hels ?_)
    rwa [List.append_assoc, ← List.flatMap_cons]

theorem Descends.detaches (h : d.Descends el)
    (hrest : Detaches (d.release [] (T ++ d.subtree el)) stack d') :
    Detaches (d.release [] T) (el :: stack) d' := by
  -- children come after their parents, so the induction starts at the end of the table
  induction hn : d.size - el using Nat.strongRecOn generalizing el T stack with
  | ind n ih =>
    have hreleased : (d.release [] T).node? el = (d.node? el).map fun node ↦
        { node with attached := node.attached && decide (el ∉ T) } := by
      rw [release, node?_revise]
      simp
    cases hnode : d.node? el with
    | none =>
      rw [hnode] at hreleased
      rw [subtree_of_none hnode, List.append_nil] at hrest
      exact .skip hreleased hrest
    | some node =>
      rw [hnode] at hreleased
      refine .mark hreleased ?_
      have hmarked : (d.release [] T).modifyNode el ({ · with attached := false }) =
          d.release [] (T ++ [el]) := by rw [modifyNode_unattached, release_release]; rfl
      have hpushed : pushAll (node.children.filterMap Child.element?) stack =
          (d.childElements el).reverse ++ stack := by
        rw [pushAll_eq, childElements_eq, hnode]
        rfl
      rw [hmarked, hpushed]
      refine detaches_append (fun c hc T stack hrest ↦ ?_) ?_
      · obtain ⟨hlt, -, hdesc⟩ := h.child (List.mem_reverse.mp hc)
        have hel := lt_size_of_node? hnode
        exact ih (d.size - c) (hn ▸ Nat.sub_lt_sub_left hel hlt) hdesc hrest rfl
      · have hsame (x : ElementId) :
            x ∈ T ++ [el] ++ (d.childElements el).reverse.flatMap d.subtree ↔
              x ∈ T ++ d.subtree el := by
          rw [h.subtree_of_node? hnode, childElements_eq, hnode]
          simp [List.mem_flatMap, Node.childElements]
        rw [release_congr hsame]
        exact hrest

theorem Linked.detaches_iff (h : d.Linked) :
    Detaches d [el] d' ↔ ¬ d.Contains el el ∧ d' = d.detach el := by
  have hdetaches (hown : ¬ d.Contains el el) : Detaches d [el] (d.detach el) := by
    have hall : Detaches (d.release [] []) [el] (d.release [] ([] ++ d.subtree el)) :=
      (h.descends hown).detaches .done
    rwa [release_nil, List.nil_append, ← detach_eq_release] at hall
  constructor
  · intro hd
    have hown : ¬ d.Contains el el := fun hc ↦ hd.not_mem_of_own hc List.mem_cons_self
    exact ⟨hown, (hdetaches hown).unique hd⟩
  · rintro ⟨hown, rfl⟩
    exact hdetaches hown

/-- Under edits with any numbers, cycles consist of an element in its own list. Reading such an
element and marking it never end; reading any other one, reading and visiting the whole document
and marking what is below any other element end, each one with its result. If nothing is appended
under the number that it gets, there are no cycles at all. -/
theorem Reached.ends_iff {allowed : Markup → Edit → Prop} (h : Reached allowed d) :
    (∀ el, TransGen d.Contains el el ↔ d.Contains el el) ∧
      (∀ el s, d.ReadsInner el s ↔ ¬ d.Contains el el ∧ s = d.innerHtml el) ∧
      (∀ el s, d.ReadsOuter el s ↔ ¬ d.Contains el el ∧ s = d.outerHtml el) ∧
      (∀ s, d.ReadsAll s ↔ s = d.toHtml) ∧
      (∀ out, d.Walks (pushAll d.roots.reverse []) out ↔ out = d.preorder) ∧
      (∀ el d', Detaches d [el] d' ↔ ¬ d.Contains el el ∧ d' = d.detach el) ∧
      ((∀ d e, allowed d e → ¬ e.Loops d) → ∀ el, ¬ TransGen d.Contains el el) := by
  have hg := h.grove
  have hl := hg.linked
  exact ⟨fun el ↦ hl.cycle_iff, fun el s ↦ hl.readsInner_iff, fun el s ↦ hl.readsOuter_iff,
    fun s ↦ hg.readsAll_iff, fun out ↦ Descends.walks_iff fun r hr ↦ hg.descends_root hr,
    fun el d' ↦ hl.detaches_iff, fun hallowed el ↦ hl.cycle_iff.not.mpr (h.not_own hallowed el)⟩

namespace Mirror

def edits : List Edit :=
  [.appendElement none "p" [], .appendElement (some 1) "a" [], .appendElement (some 1) "b" []]

def document : Markup := edits.foldl Edit.apply empty

theorem reached_document : Reached (fun _ _ ↦ True) document :=
  .edit (e := .appendElement (some 1) "b" []) (.edit (e := .appendElement (some 1) "a" [])
    (.edit (e := .appendElement none "p" []) .empty trivial) trivial) trivial

theorem contains_one : document.Contains 1 1 := by
  have hmem : 1 ∈ document.childElements 1 := by decide +kernel
  exact hmem

theorem ends_iff_mirror :
    Reached (fun _ _ ↦ True) document ∧ (¬ ∃ s, document.ReadsInner 1 s) ∧
      document.ReadsOuter 2 "<b></b>" ∧ document.ReadsAll "<p></p>" ∧
      document.Walks [0] [0] := by
  obtain ⟨-, hinner, houter, hall, hwalks, -, -⟩ := Reached.ends_iff reached_document
  have hown : ¬ document.Contains 2 2 := by
    have hmem : 2 ∉ document.childElements 2 := by decide +kernel
    exact hmem
  refine ⟨reached_document, ?_, (houter 2 _).mpr ⟨hown, ?_⟩, (hall _).mpr ?_, (hwalks [0]).mpr ?_⟩
  · rintro ⟨s, hs⟩
    exact ((hinner 1 s).mp hs).1 contains_one
  all_goals decide +kernel

/-- The element that was appended under its own number is on a cycle. Neither reading its content or
it with its tag nor marking it ends. -/
theorem mirror_never_ends :
    Reached (fun _ _ ↦ True) document ∧ TransGen document.Contains 1 1 ∧
      (¬ ∃ s, document.ReadsInner 1 s) ∧ (¬ ∃ s, document.ReadsOuter 1 s) ∧
      ¬ ∃ d', Detaches document [1] d' := by
  have hl := reached_document.grove.linked
  refine ⟨reached_document, .single contains_one, ?_, ?_, ?_⟩
  · rintro ⟨s, hs⟩
    exact (hl.readsInner_iff.mp hs).1 contains_one
  · rintro ⟨s, hs⟩
    exact (hl.readsOuter_iff.mp hs).1 contains_one
  · rintro ⟨d', hd⟩
    exact (hl.detaches_iff.mp hd).1 contains_one

end Mirror

end DataBinding.Markup
