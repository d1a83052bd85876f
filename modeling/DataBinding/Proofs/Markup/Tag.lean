import DataBinding.Proofs.Markup.Walk

namespace DataBinding.Markup

variable {d : Markup} {x y el : ElementId} {m n : Nat}

def Node.closesItself (node : Node) : Bool :=
  node.children.isEmpty && voidElements.contains node.tag

def Node.startTag (node : Node) : List Char :=
  '<' :: (node.tag.toList ++ (attrsHtml node.attrs ++
    if node.closesItself then [' ', '/', '>'] else ['>']))

def Node.endTag (node : Node) : List Char :=
  if node.closesItself then [] else '<' :: '/' :: (node.tag.toList ++ ['>'])

inductive Token where
  | startTag (el : ElementId) (node : Node)
  | written (s : List Char)
  | endTag (node : Node)

namespace Token

def text : Token → List Char
  | startTag _ node => node.startTag
  | written s => s
  | endTag node => node.endTag

def element? : Token → Option ElementId
  | startTag el _ => some el
  | _ => none

end Token

def Child.tokens (elementTokens : ElementId → List Token) : Child → List Token
  | text s => [.written (encodeText s.toList)]
  | html s => [.written s.toList]
  | element el => elementTokens el

def tokensTo (d : Markup) : Nat → ElementId → List Token
  | 0, _ => []
  | depth + 1, el =>
    match d.node? el with
    | none => []
    | some node =>
      .startTag el node :: (node.children.flatMap (Child.tokens (d.tokensTo depth)) ++
        [.endTag node])

def tokens (d : Markup) : List Token := d.roots.flatMap (d.tokensTo d.size)

/-- The start tag of an element stands after `n` characters of the text. -/
def TagAt (d : Markup) (el : ElementId) (n : Nat) : Prop :=
  ∃ before node after, d.node? el = some node ∧
    d.tokens = before ++ .startTag el node :: after ∧ (before.flatMap Token.text).length = n

/-- The first of the attributes of an element that have a name. -/
def Bears (d : Markup) (el : ElementId) (name value : String) : Prop :=
  ∃ node before after, d.node? el = some node ∧ node.attrs = before ++ (name, value) :: after ∧
    ∀ a ∈ before, a.1 ≠ name

theorem enclose_eq {node : Node} {inner : List (List Char)}
    (h : inner.isEmpty = node.children.isEmpty) :
    enclose node.tag node.attrs inner = node.startTag ++ (inner.flatten ++ node.endTag) := by
  have hcloses : (inner.isEmpty && voidElements.contains node.tag) = node.closesItself := by
    rw [h, Node.closesItself]
  rw [enclose, hcloses, Node.startTag, Node.endTag]
  by_cases hc : node.closesItself
  · have hnil : inner = [] := by
      rw [Node.closesItself, Bool.and_eq_true, ← h] at hc
      exact List.isEmpty_iff.mp hc.1
    simp [hc, hnil]
  · simp [hc]

section

variable (f : ElementId → List Token)

theorem Child.flatMap_text_tokens (c : Child) :
    (c.tokens f).flatMap Token.text = c.toHtml fun el ↦ (f el).flatMap Token.text := by
  cases c with
  | text s | html s => exact List.append_nil _
  | element el => rfl

theorem filterMap_element?_children (cs : List Child) :
    (cs.flatMap (Child.tokens f)).filterMap Token.element? =
      (cs.filterMap Child.element?).flatMap fun el ↦ (f el).filterMap Token.element? := by
  induction cs with
  | nil => rfl
  | cons c cs ih =>
    rw [List.flatMap_cons, List.filterMap_append, ih]
    cases c <;> rfl

end

theorem flatMap_text_tokensTo (d : Markup) (n : Nat) (el : ElementId) :
    (d.tokensTo n el).flatMap Token.text = d.outerHtmlTo n el := by
  induction n generalizing el with
  | zero => rfl
  | succ n ih =>
    cases hnode : d.node? el with
    | none => simp only [tokensTo, outerHtmlTo, hnode, List.flatMap_nil]
    | some node =>
      have hchildren : (node.children.flatMap (Child.tokens (d.tokensTo n))).flatMap Token.text =
          (node.children.map (Child.toHtml (d.outerHtmlTo n))).flatten := by
        rw [List.flatMap_assoc, ← List.flatMap_def, funext (Child.flatMap_text_tokens _), funext ih]
      rw [outerHtmlTo_succ n hnode, enclose_eq (List.isEmpty_map ..), ← hchildren]
      simp only [tokensTo, hnode, List.flatMap_cons, List.flatMap_append, Token.text,
        List.flatMap_nil, List.append_nil]

theorem toHtml_eq_tokens (d : Markup) :
    d.toHtml = String.ofList (d.tokens.flatMap Token.text) := by
  rw [toHtml, tokens, List.flatMap_assoc, funext (flatMap_text_tokensTo d d.size)]

theorem filterMap_element?_tokensTo (d : Markup) (n : Nat) (el : ElementId) :
    (d.tokensTo n el).filterMap Token.element? = d.subtreeTo n el := by
  induction n generalizing el with
  | zero => rfl
  | succ n ih =>
    cases hnode : d.node? el with
    | none => simp only [tokensTo, subtreeTo, hnode, List.filterMap_nil]
    | some node =>
      have hchildren := filterMap_element?_children (d.tokensTo n) node.children
      rw [funext ih] at hchildren
      simp only [tokensTo, subtreeTo, hnode, childElements, Option.map_some, Option.getD_some]
      rw [List.filterMap_cons, List.filterMap_append, hchildren]
      exact congrArg (el :: ·) (List.append_nil _)

theorem filterMap_element?_tokens (d : Markup) :
    d.tokens.filterMap Token.element? = d.preorder := by
  rw [tokens, List.filterMap_flatMap, funext (filterMap_element?_tokensTo d d.size), preorder]

theorem node?_of_mem_tokensTo {n : Nat} {node : Node} (h : .startTag x node ∈ d.tokensTo n el) :
    d.node? x = some node := by
  induction n generalizing el with
  | zero => cases h
  | succ n ih =>
    cases hnode : d.node? el with
    | none => simp [tokensTo, hnode] at h
    | some node' =>
      simp only [tokensTo, hnode, List.mem_cons, List.mem_append, List.mem_flatMap,
        List.not_mem_nil, or_false, reduceCtorEq] at h
      rcases h with h | ⟨c, -, hc⟩
      · cases h
        exact hnode
      · cases c with
        | text s | html s => simp [Child.tokens] at hc
        | element c => exact ih hc

theorem node?_of_mem_tokens {node : Node} (h : .startTag x node ∈ d.tokens) :
    d.node? x = some node := by
  obtain ⟨r, -, hr⟩ := List.mem_flatMap.mp h
  exact node?_of_mem_tokensTo hr

theorem startTag_of_element? {t : Token} (h : t.element? = some x) :
    ∃ node, t = .startTag x node := by
  cases t with
  | startTag el node =>
    cases h
    exact ⟨node, rfl⟩
  | written s => cases h
  | endTag node => cases h

theorem exists_tagAt_iff : (∃ n, d.TagAt x n) ↔ x ∈ d.preorder := by
  rw [← filterMap_element?_tokens, List.mem_filterMap]
  constructor
  · rintro ⟨n, before, node, after, -, htokens, -⟩
    exact ⟨.startTag x node, by rw [htokens]; simp, rfl⟩
  · rintro ⟨t, ht, hx⟩
    obtain ⟨node, rfl⟩ := startTag_of_element? hx
    obtain ⟨before, after, htokens⟩ := List.append_of_mem ht
    exact ⟨_, before, node, after, node?_of_mem_tokens ht, htokens, rfl⟩

theorem append_cons_cases {α : Type} {l l' r r' : List α} {a b : α}
    (h : l ++ a :: r = l' ++ b :: r') :
    (∃ mid, l' = l ++ a :: mid ∧ r = mid ++ b :: r') ∨ l = l' ∧ a = b ∨
      ∃ mid, l = l' ++ b :: mid ∧ r' = mid ++ a :: r := by
  rcases List.append_eq_append_iff.mp h with ⟨as, rfl, has⟩ | ⟨as, rfl, has⟩
  · cases as with
    | nil => exact .inr (.inl ⟨(List.append_nil l).symm, (List.cons.inj has).1⟩)
    | cons c mid =>
      obtain ⟨rfl, hr⟩ := List.cons.inj has
      exact .inl ⟨mid, rfl, hr⟩
  · cases as with
    | nil => exact .inr (.inl ⟨List.append_nil l', (List.cons.inj has).1.symm⟩)
    | cons c mid =>
      obtain ⟨rfl, hr⟩ := List.cons.inj has
      exact .inr (.inr ⟨mid, rfl, hr⟩)

theorem later {before mid after : List Token} {node node' : Node}
    (h : d.tokens = before ++ .startTag x node :: (mid ++ .startTag y node' :: after)) :
    (before.flatMap Token.text).length <
        ((before ++ .startTag x node :: mid).flatMap Token.text).length ∧
      [x, y].Sublist d.preorder := by
  constructor
  · rw [List.flatMap_append, List.length_append, List.flatMap_cons]
    exact Nat.lt_add_of_pos_right (by simp [Token.text, Node.startTag])
  · rw [← filterMap_element?_tokens, h, List.filterMap_append, List.filterMap_cons,
      List.filterMap_append, List.filterMap_cons]
    have htail := (List.sublist_append_right (mid.filterMap Token.element?)
      (y :: after.filterMap Token.element?))
    exact (((List.singleton_sublist.mpr List.mem_cons_self).trans htail).cons_cons x).trans
      (List.sublist_append_right _ _)

/-- Of two start tags one comes first, in the text as in preorder. -/
theorem TagAt.compare (hx : d.TagAt x m) (hy : d.TagAt y n) :
    m < n ∧ [x, y].Sublist d.preorder ∨ m = n ∧ x = y ∨ n < m ∧ [y, x].Sublist d.preorder := by
  obtain ⟨before, node, after, -, htokens, rfl⟩ := hx
  obtain ⟨before', node', after', -, htokens', rfl⟩ := hy
  rcases append_cons_cases (htokens.symm.trans htokens') with
    ⟨mid, rfl, rfl⟩ | ⟨rfl, he⟩ | ⟨mid, rfl, rfl⟩
  · exact .inl (later htokens)
  · cases he
    exact .inr (.inl ⟨rfl, rfl⟩)
  · exact .inr (.inr (later htokens'))

theorem eq_of_tagAt (hx : d.TagAt x n) (hy : d.TagAt y n) : x = y := by
  rcases hx.compare hy with ⟨hlt, -⟩ | ⟨-, hxy⟩ | ⟨hlt, -⟩
  · exact absurd hlt (Nat.lt_irrefl n)
  · exact hxy
  · exact absurd hlt (Nat.lt_irrefl n)

theorem not_sublist_swap {l : List ElementId} (hl : l.Nodup) (hxy : [x, y].Sublist l) :
    ¬ [y, x].Sublist l := by
  induction l with
  | nil => cases hxy
  | cons a l ih =>
    obtain ⟨ha, hl⟩ := List.nodup_cons.mp hl
    intro hyx
    rw [List.cons_sublist_cons', List.singleton_sublist] at hxy hyx
    rcases hxy with hxy | ⟨rfl, hy⟩
    · rcases hyx with hyx | ⟨rfl, -⟩
      · exact ih hl hxy hyx
      · exact ha (hxy.subset (List.mem_cons_of_mem x List.mem_cons_self))
    · rcases hyx with hyx | ⟨rfl, -⟩
      · exact ha (hyx.subset (List.mem_cons_of_mem y List.mem_cons_self))
      · exact ha hy

namespace Forest

theorem tagAt_lt (h : d.Forest) (hxy : [x, y].Sublist d.preorder) (hx : d.TagAt x m)
    (hy : d.TagAt y n) : m < n := by
  rcases hx.compare hy with ⟨hlt, -⟩ | ⟨-, rfl⟩ | ⟨-, hyx⟩
  · exact hlt
  · exact absurd hxy (List.nodup_iff_sublist.mp h.nodup_preorder x)
  · exact absurd hyx (not_sublist_swap h.nodup_preorder hxy)

theorem tagAt_unique (h : d.Forest) (hm : d.TagAt x m) (hn : d.TagAt x n) : m = n := by
  have honce := List.nodup_iff_sublist.mp h.nodup_preorder x
  rcases hm.compare hn with ⟨-, hxx⟩ | ⟨hmn, -⟩ | ⟨-, hxx⟩
  · exact absurd hxx honce
  · exact hmn
  · exact absurd hxx honce

end Forest

theorem attribute?_of_node? {node : Node} (h : d.node? el = some node) (name : String) :
    d.attribute? el name = node.attrs.lookup name := by
  rw [attribute?, h]
  rfl

theorem attribute?_eq_some_iff {name value : String} :
    d.attribute? el name = some value ↔ d.Bears el name value := by
  constructor
  · intro h
    obtain ⟨node, hnode, hlookup⟩ := Option.bind_eq_some_iff.mp h
    obtain ⟨before, after, hattrs, hbefore⟩ := List.lookup_eq_some_iff.mp hlookup
    exact ⟨node, before, after, hnode, hattrs, fun a ha ↦ (bne_iff_ne.mp (hbefore a ha)).symm⟩
  · rintro ⟨node, before, after, hnode, hattrs, hbefore⟩
    rw [attribute?_of_node? hnode, List.lookup_eq_some_iff]
    exact ⟨before, after, hattrs, fun a ha ↦ bne_iff_ne.mpr (hbefore a ha).symm⟩

theorem beq_attribute?_iff {name value : String} :
    (d.attribute? el name == some value) = true ↔ d.Bears el name value := by
  rw [beq_iff_eq, attribute?_eq_some_iff]

theorem elementsWith_eq_filter (d : Markup) (name : String) :
    d.elementsWith name = d.preorder.filter fun el ↦ (d.attribute? el name).isSome := by
  refine List.filter_congr fun el _ ↦ ?_
  cases hnode : d.node? el with
  | none => simp [attribute?, hnode]
  | some node =>
    rw [attribute?_of_node? hnode, Option.any_some, Bool.eq_iff_iff, List.lookup_isSome_iff,
      List.any_eq_true]
    refine exists_congr fun a ↦ and_congr_right fun _ ↦ ?_
    rw [beq_iff_eq, beq_iff_eq, eq_comm]

theorem mem_elementsWith_iff {name : String} :
    el ∈ d.elementsWith name ↔ el ∈ d.preorder ∧ ∃ value, d.Bears el name value := by
  rw [elementsWith_eq_filter, List.mem_filter, Option.isSome_iff_exists]
  simp only [attribute?_eq_some_iff]

namespace Forest

theorem pairwise_elementsWith (h : d.Forest) (name : String) :
    (d.elementsWith name).Pairwise fun x y ↦ ∀ m n, d.TagAt x m → d.TagAt y n → m < n := by
  rw [List.pairwise_iff_forall_sublist]
  intro x y hxy m n hx hy
  exact h.tagAt_lt (hxy.trans List.filter_sublist) hx hy

theorem findById?_eq_none_iff (h : d.Forest) {id : String} :
    d.findById? id = none ↔ ∀ el, d.isAttached el → ¬ d.Bears el "id" id := by
  rw [findById?, List.find?_eq_none]
  refine forall_congr' fun el ↦ ?_
  rw [h.mem_preorder_iff, beq_attribute?_iff]

theorem first_of_findById? (h : d.Forest) {id : String} (hfind : d.findById? id = some el) :
    d.isAttached el ∧ d.Bears el "id" id ∧
      ∀ y m n, d.Bears y "id" id → d.TagAt el m → d.TagAt y n → m ≤ n := by
  obtain ⟨hel, before, after, hpre, hbefore⟩ := List.find?_eq_some_iff_append.mp hfind
  have hmem : el ∈ d.preorder := by simp [hpre]
  refine ⟨h.mem_preorder_iff.mp hmem, beq_attribute?_iff.mp hel, fun y m n hy hm hn ↦ ?_⟩
  have hmemy : y ∈ before ++ el :: after := hpre ▸ exists_tagAt_iff.mp ⟨n, hn⟩
  rcases List.mem_append.mp hmemy with hy' | hy'
  · have hnot := hbefore y hy'
    rw [beq_attribute?_iff.mpr hy] at hnot
    cases hnot
  · rcases List.mem_cons.mp hy' with rfl | hafter
    · exact Nat.le_of_eq (h.tagAt_unique hm hn)
    · have hlater : [el, y].Sublist d.preorder := by
        rw [hpre]
        exact ((List.singleton_sublist.mpr hafter).cons_cons el).trans
          (List.sublist_append_right before _)
      exact Nat.le_of_lt (h.tagAt_lt hlater hm hn)

theorem findById?_eq_some_iff (h : d.Forest) {id : String} :
    d.findById? id = some el ↔
      d.isAttached el ∧ d.Bears el "id" id ∧
        ∀ y m n, d.Bears y "id" id → d.TagAt el m → d.TagAt y n → m ≤ n := by
  refine ⟨h.first_of_findById?, ?_⟩
  rintro ⟨hatt, hel, hfirst⟩
  cases hfind : d.findById? id with
  | none => exact absurd hel (h.findById?_eq_none_iff.mp hfind el hatt)
  | some z =>
    obtain ⟨hattz, hz, hfirstz⟩ := h.first_of_findById? hfind
    obtain ⟨m, hm⟩ := exists_tagAt_iff.mpr (h.mem_preorder_iff.mpr hatt)
    obtain ⟨n, hn⟩ := exists_tagAt_iff.mpr (h.mem_preorder_iff.mpr hattz)
    have hmn : m = n := Nat.le_antisymm (hfirst z m n hz hm hn) (hfirstz el n m hel hn hm)
    rw [eq_of_tagAt hn (hmn ▸ hm)]

end Forest

/-- The text of a document comes apart into tokens, with one start tag for each attached element. The
elements that carry an attribute are listed in the order of their start tags, each attached one once
and no others; and of the elements that bear an identifier the one whose start tag comes first is
found. The listing that is searched is that of a loop over a stack. -/
theorem Built.queries_in_order (hd : Built d) :
    (∀ out, d.Walks (pushAll d.roots.reverse []) out ↔ out = d.preorder) ∧
      d.toHtml = String.ofList (d.tokens.flatMap Token.text) ∧
      (∀ el, d.isAttached el ↔ ∃ n, d.TagAt el n) ∧
      (∀ el m n, d.TagAt el m → d.TagAt el n → m = n) ∧
      (∀ name,
        (∀ el, el ∈ d.elementsWith name ↔ d.isAttached el ∧ ∃ value, d.Bears el name value) ∧
        (d.elementsWith name).Nodup ∧
        (d.elementsWith name).Pairwise fun x y ↦ ∀ m n, d.TagAt x m → d.TagAt y n → m < n) ∧
      ∀ id,
        (∀ el, d.findById? id = some el ↔
          d.isAttached el ∧ d.Bears el "id" id ∧
            ∀ y m n, d.Bears y "id" id → d.TagAt el m → d.TagAt y n → m ≤ n) ∧
        (d.findById? id = none ↔ ∀ el, d.isAttached el → ¬ d.Bears el "id" id) := by
  have h := hd.forest
  refine ⟨fun out ↦ h.walks_iff, toHtml_eq_tokens d, fun el ↦ ?_, fun el m n ↦ h.tagAt_unique,
    fun name ↦ ⟨fun el ↦ ?_, h.nodup_elementsWith name, h.pairwise_elementsWith name⟩,
    fun id ↦ ⟨fun el ↦ h.findById?_eq_some_iff, h.findById?_eq_none_iff⟩⟩
  · rw [← h.mem_preorder_iff, exists_tagAt_iff]
  · rw [mem_elementsWith_iff, h.mem_preorder_iff]

namespace Gallery

def items : Json :=
  .array [.string "div", .array [.string "p", .object [("id", .string "note")]],
    .array [.string "p", .object [("id", .string "note"), ("class", .string "old")]],
    .array [.string "i", .object [("class", .string "frame")]]]

def edits : List Edit :=
  [.remove 2, .setInnerHtml 3 "<p id=\"note\" class=\"\">",
    .appendElement (some 1) "b" [("class", "new"), ("id", "note")]]

def document : Markup := edits.foldl Edit.apply ((ofJson items).toOption.getD .empty)

theorem queries_in_order_gallery :
    Built document ∧ document.elementsWith "class" = [4, 3] ∧
      (∃ m n, document.TagAt 4 m ∧ document.TagAt 3 n ∧ m < n) ∧ (¬ ∃ n, document.TagAt 2 n) ∧
      document.findById? "note" = some 1 ∧
      (∀ m n, document.TagAt 1 m → document.TagAt 4 n → m ≤ n) := by
  have h₀ : Built ((ofJson items).toOption.getD .empty) := .ofJson (v := items) rfl
  have h₁ := Built.edit (e := .remove 2) h₀ trivial
  have h₂ := Built.edit (e := .setInnerHtml 3 "<p id=\"note\" class=\"\">") h₁ trivial
  have hd : Built document :=
    Built.edit (e := .appendElement (some 1) "b" [("class", "new"), ("id", "note")]) h₂ fun p hp ↦ by
      cases hp
      decide +kernel
  obtain ⟨-, -, htag, -, hlist, hfind⟩ := Built.queries_in_order hd
  have hclass : document.elementsWith "class" = [4, 3] := by decide +kernel
  have hnote : document.findById? "note" = some 1 := by decide +kernel
  have hbears : document.Bears 4 "id" "note" := attribute?_eq_some_iff.mp (by decide +kernel)
  obtain ⟨m, hm⟩ := (htag 4).mp (by decide +kernel)
  obtain ⟨n, hn⟩ := (htag 3).mp (by decide +kernel)
  have hordered := (hlist "class").2.2
  rw [hclass, List.pairwise_pair] at hordered
  refine ⟨hd, hclass, ⟨m, n, hm, hn, hordered m n hm hn⟩, ?_, hnote, ?_⟩
  · rw [← htag 2]
    decide +kernel
  · exact fun m n ↦ (((hfind "note").1 1).mp hnote).2.2 4 m n hbears

end Gallery

end DataBinding.Markup
