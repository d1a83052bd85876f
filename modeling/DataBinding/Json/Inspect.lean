import DataBinding.Json.Basic
import DataBinding.Text.Quoted

namespace DataBinding.Json

mutual

def inspect : Json → String
  | null => "Null"
  | bool b => "Bool(" ++ (if b then "true" else "false") ++ ")"
  | number n => "Number(" ++ String.ofList n.text ++ ")"
  | string s => "String(" ++ Text.quote s ++ ")"
  | array items => "Array [" ++ inspectItems items ++ "]"
  | object members => "Object \x7b" ++ inspectMembers members ++ "\x7d"

def inspectItems : List Json → String
  | [] => ""
  | [v] => inspect v
  | v :: w :: vs => inspect v ++ ", " ++ inspectItems (w :: vs)

def inspectMembers : List (String × Json) → String
  | [] => ""
  | [m] => inspectMember m
  | m :: n :: ms => inspectMember m ++ ", " ++ inspectMembers (n :: ms)

def inspectMember : String × Json → String
  | (key, v) => Text.quote key ++ ": " ++ inspect v

end

end DataBinding.Json
