import DataBinding.Json.Basic

namespace DataBinding.Json

def hexDigit (n : Nat) : Char := (Nat.digitChar n)

def escapeChar (c : Char) : List Char :=
  match c with
  | '"' => ['\\', '"']
  | '\\' => ['\\', '\\']
  | '\x08' => ['\\', 'b']
  | '\x0c' => ['\\', 'f']
  | '\n' => ['\\', 'n']
  | '\r' => ['\\', 'r']
  | '\t' => ['\\', 't']
  | c =>
    if c.toNat < 0x20 then
      ['\\', 'u', '0', '0', hexDigit (c.toNat / 16), hexDigit (c.toNat % 16)]
    else [c]

def quoted (s : List Char) : List Char := '"' :: (s.flatMap escapeChar ++ ['"'])

mutual

def print : Json → List Char
  | null => ['n', 'u', 'l', 'l']
  | bool true => ['t', 'r', 'u', 'e']
  | bool false => ['f', 'a', 'l', 's', 'e']
  | number n => n.text
  | string s => quoted s.toList
  | array items => '[' :: (printItems items ++ [']'])
  | object members => '{' :: (printMembers members ++ ['}'])

def printItems : List Json → List Char
  | [] => []
  | [v] => print v
  | v :: w :: vs => print v ++ ',' :: printItems (w :: vs)

def printMembers : List (String × Json) → List Char
  | [] => []
  | [m] => printMember m
  | m :: n :: ms => printMember m ++ ',' :: printMembers (n :: ms)

def printMember : String × Json → List Char
  | (key, value) => quoted key.toList ++ ':' :: print value

end

def text (v : Json) : String := String.ofList v.print

mutual

/-- The text a value shows: strings verbatim, items joined by commas, objects as compact JSON,
`null` as nothing. -/
def render : Json → List Char
  | null => []
  | bool true => ['t', 'r', 'u', 'e']
  | bool false => ['f', 'a', 'l', 's', 'e']
  | number n => n.display
  | string s => s.toList
  | array items => renderItems items
  | object members => print (.object members)

def renderItems : List Json → List Char
  | [] => []
  | [v] => render v
  | v :: w :: vs => render v ++ ',' :: renderItems (w :: vs)

end

def display (v : Json) : String := String.ofList v.render

def displayOption (v : Option Json) : String := (v.map display).getD ""

end DataBinding.Json
