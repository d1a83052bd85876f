import DataBinding.Engine.Dispatch

namespace DataBinding

inductive TemplateError where
  | notJson
  | dataNotObject
  | markup (e : MarkupError)
  | engine (e : Error)

def TemplateError.message : TemplateError → String
  | notJson => "invalid JSON: the text is no JSON value"
  | dataNotObject => "data must be a JSON object"
  | markup e => "invalid template: " ++ e.message
  | engine e => e.message

namespace Template

variable {D : Type}

def setMembers : Json.Members → Callback D
  | [] => .done
  | (key, v) :: ms =>
    .setText key v fun
      | .ok () => setMembers ms
      | .error e => .fail e

def fill (members : Json.Members) : Callback D :=
  .scan fun
    | .ok _ => setMembers members
    | .error e => .fail e

def readJson (text : String) : Except TemplateError Json :=
  match Json.parse? text.toList with
  | some v => .ok v
  | none => .error .notJson

/-- The markup of a template filled with data, both given as JSON text. -/
def render (template data : String) : Except TemplateError String := do
  let template ← readJson template
  match ← readJson data with
  | .object members =>
    let document ← (Markup.ofJson template).mapError .markup
    match (Engine.run (fill members)).run (State.init document {}) with
    | .ok () s => return s.document.toHtml
    | .error e _ => throw (.engine e)
  | _ => throw .dataNotObject

end Template

end DataBinding
