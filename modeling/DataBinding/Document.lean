namespace DataBinding

abbrev ElementId := Nat

class Document (D : Type) where
  elementsWith : D → String → List ElementId
  attribute? : D → ElementId → String → Option String
  setAttribute : D → ElementId → String → String → D
  innerHtml : D → ElementId → String
  setInnerHtml : D → ElementId → String → D

inductive Write where
  | attr (element : ElementId) (name value : String)
  | html (element : ElementId) (content : String)
deriving DecidableEq, Repr

def Write.apply {D : Type} [Document D] (d : D) : Write → D
  | attr el name value => Document.setAttribute d el name value
  | html el content => Document.setInnerHtml d el content

end DataBinding
