import DataBinding.Markup.OfJson

namespace DataBinding.Markup

def heading? : List Json → Option (String × Json.Members × List Json)
  | .string tag :: .object members :: children => some (tag, members, children)
  | .string tag :: .null :: children => some (tag, [], children)
  | .string tag :: children => some (tag, [], children)
  | _ => none

/-- The values that are markup, at the top or inside an element. Tags that are not empty make
elements, and text stands inside of one. -/
inductive IsMarkup : Bool → Json → Prop
  | null (inside : Bool) : IsMarkup inside .null
  | bool (b : Bool) : IsMarkup true (.bool b)
  | number (n : Number) : IsMarkup true (.number n)
  | string (s : String) : IsMarkup true (.string s)
  | array {inside : Bool} {items children : List Json} {tag : String} {members : Json.Members} :
      heading? items = some (tag, members, children) →
      (∀ v ∈ children, IsMarkup (inside || !tag.isEmpty) v) → IsMarkup inside (.array items)

mutual

/-- The values that are looked at, in preorder, each one with whether it stands in an element. -/
def visited (inside : Bool) : Json → List (Bool × Json)
  | .array (.string tag :: .object members :: children) =>
    (inside, .array (.string tag :: .object members :: children)) ::
      visitedAll (inside || !tag.isEmpty) children
  | .array (.string tag :: .null :: children) =>
    (inside, .array (.string tag :: .null :: children)) ::
      visitedAll (inside || !tag.isEmpty) children
  | .array (.string tag :: children) =>
    (inside, .array (.string tag :: children)) :: visitedAll (inside || !tag.isEmpty) children
  | v => [(inside, v)]

def visitedAll (inside : Bool) : List Json → List (Bool × Json)
  | [] => []
  | v :: vs => visited inside v ++ visitedAll inside vs

end

/-- What is wrong with a value in its place, whatever stands in it. -/
def fault? : Bool × Json → Option MarkupError
  | (_, .null) => none
  | (_, .object _) => some .misplacedAttributes
  | (_, .array items) => if (heading? items).isSome then none else some .invalidTag
  | (inside, _) => if inside then none else some .textOutsideElement

def enclose (tag : String) (attrs : List (String × String)) (inner : List (List Char)) :
    List Char :=
  '<' :: (tag.toList ++ (attrsHtml attrs ++
    if inner.isEmpty && voidElements.contains tag then [' ', '/', '>']
    else '>' :: (inner.flatten ++ ('<' :: '/' :: (tag.toList ++ ['>'])))))

def piecesUnder (tag : String) (attrs : List (String × String)) (inner : List (List Char)) :
    List (List Char) :=
  if tag.isEmpty then inner else [enclose tag attrs inner]

mutual

/-- The children that a value stands for, each one by its text. -/
def pieces : Json → List (List Char)
  | .array (.string tag :: .object members :: children) =>
    piecesUnder tag (attrsOf members) (piecesAll children)
  | .array (.string tag :: children) => piecesUnder tag [] (piecesAll children)
  | .array _ | .object _ | .null => []
  | .bool b => [encodeText (Json.bool b).display.toList]
  | .number n => [encodeText (Json.number n).display.toList]
  | .string s => [encodeText (Json.string s).display.toList]

def piecesAll : List Json → List (List Char)
  | [] => []
  | v :: vs => pieces v ++ piecesAll vs

end

def isElement : Json → Bool
  | .array (.string tag :: _) => !tag.isEmpty
  | _ => false

def elements (inside : Bool) (v : Json) : List Json :=
  ((visited inside v).map Prod.snd).filter isElement

theorem mem_of_heading? {items children : List Json} {tag : String} {members : Json.Members}
    (h : heading? items = some (tag, members, children)) : ∀ v ∈ children, v ∈ items := by
  unfold heading? at h
  split at h <;> cases h <;> simp +contextual

theorem children_induction {motive : Json → Prop}
    (array : ∀ items, (∀ tag members children, heading? items = some (tag, members, children) →
      ∀ v ∈ children, motive v) → motive (.array items))
    (leaf : ∀ v, (∀ items, v ≠ .array items) → motive v) : ∀ v, motive v
  | .array items => array items fun _ _ _ h v hv ↦ children_induction array leaf v
  | .null | .bool _ | .number _ | .string _ | .object _ => leaf _ (by simp)
termination_by v => sizeOf v
decreasing_by
  have hlt := List.sizeOf_lt_of_mem (mem_of_heading? h v hv)
  simp only [Json.array.sizeOf_spec]
  omega

theorem visitedAll_eq_flatMap (inside : Bool) (vs : List Json) :
    visitedAll inside vs = vs.flatMap (visited inside) := by
  induction vs with
  | nil => rfl
  | cons v vs ih => rw [visitedAll, ih, List.flatMap_cons]

theorem visited_array (inside : Bool) (items : List Json) :
    visited inside (.array items) = (inside, .array items) ::
      match heading? items with
      | some (tag, _, children) => children.flatMap (visited (inside || !tag.isEmpty))
      | none => [] := by
  simp only [← visitedAll_eq_flatMap]
  rcases items with _ | ⟨_ | _ | _ | _ | _ | _, _ | ⟨_ | _ | _ | _ | _ | _, _⟩⟩ <;> rfl

theorem piecesAll_eq_flatMap (vs : List Json) : piecesAll vs = vs.flatMap pieces := by
  induction vs with
  | nil => rfl
  | cons v vs ih => rw [piecesAll, ih, List.flatMap_cons]

theorem pieces_array (items : List Json) :
    pieces (.array items) =
      match heading? items with
      | some (tag, members, children) =>
        piecesUnder tag (attrsOf members) (children.flatMap pieces)
      | none => [] := by
  simp only [← piecesAll_eq_flatMap]
  rcases items with _ | ⟨_ | _ | _ | _ | _ | _, _ | ⟨_ | _ | _ | _ | _ | _, _⟩⟩ <;> rfl

theorem isElement_array {items children : List Json} {tag : String} {members : Json.Members}
    (h : heading? items = some (tag, members, children)) :
    isElement (.array items) = !tag.isEmpty := by
  unfold heading? at h
  split at h <;> cases h <;> rfl

theorem elements_array {items children : List Json} {tag : String} {members : Json.Members}
    (h : heading? items = some (tag, members, children)) (inside : Bool) :
    elements inside (.array items) =
      (if tag.isEmpty then [] else [.array items]) ++
        children.flatMap (elements (inside || !tag.isEmpty)) := by
  have hrest : ((children.flatMap (visited (inside || !tag.isEmpty))).map Prod.snd).filter
      isElement = children.flatMap (elements (inside || !tag.isEmpty)) := by
    rw [List.map_flatMap, List.filter_flatMap]
    rfl
  rw [elements, visited_array, h]
  simp only [List.map_cons, List.filter_cons, isElement_array h, hrest]
  cases tag.isEmpty <;> rfl

theorem build_array (items : List Json) (parent : Option ElementId) (d : Markup) :
    build (.array items) parent d =
      match heading? items with
      | some (tag, members, children) =>
        let (parent, d) := d.openElement parent tag (attrsOf members)
        buildAll children parent d
      | none => .error .invalidTag := by
  rcases items with _ | ⟨_ | _ | _ | _ | _ | _, _ | ⟨_ | _ | _ | _ | _ | _, _⟩⟩ <;> rfl

theorem buildAll_cons (v : Json) (vs : List Json) (parent : Option ElementId) (d : Markup) :
    buildAll (v :: vs) parent d = (build v parent d).bind (buildAll vs parent) := rfl

theorem of_buildAll_cons {v : Json} {vs : List Json} {parent : Option ElementId} {d d' : Markup}
    (h : buildAll (v :: vs) parent d = .ok d') :
    ∃ d₁, build v parent d = .ok d₁ ∧ buildAll vs parent d₁ = .ok d' := by
  rw [buildAll_cons] at h
  cases hb : build v parent d with
  | error e =>
    rw [hb] at h
    cases h
  | ok d₁ =>
    rw [hb] at h
    exact ⟨d₁, rfl, h⟩

theorem of_buildText {v : Json} {parent : Option ElementId} {d d' : Markup}
    (h : d.buildText parent v = .ok d') : ∃ p, parent = some p ∧ d' = d.appendText p v.display := by
  cases parent with
  | none => cases h
  | some p =>
    cases h
    exact ⟨p, rfl, rfl⟩

theorem of_build_leaf {v : Json} (hv : ∀ items, v ≠ .array items) {parent : Option ElementId}
    {d d' : Markup} (h : build v parent d = .ok d') :
    d' = d ∨ ∃ p, parent = some p ∧ d' = d.appendText p v.display := by
  cases v with
  | null =>
    cases h
    exact .inl rfl
  | bool b | number n | string s => exact .inr (of_buildText h)
  | array items => exact absurd rfl (hv items)
  | object members => cases h

end DataBinding.Markup
