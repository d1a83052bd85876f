import DataBinding.Template

namespace DataBinding.CommandLine

structure Outcome where
  code : UInt32
  stdout : String
  stderr : String

def failure (message : String) : Outcome := ⟨1, "", message ++ "\n"⟩

def template? (args : List String) : Option String := args.head?

/-- Data that is blank stands for no members. -/
def dataText (input : String) : String :=
  match Text.trim input.toList with
  | [] => "\x7b\x7d"
  | s => String.ofList s

def fill (template : String) (input : ByteArray) : Outcome :=
  match String.fromUTF8? input with
  | none => failure "stream did not contain valid UTF-8"
  | some text =>
    match Template.render template (dataText text) with
    | .ok html => ⟨0, html ++ "\n", ""⟩
    | .error e => failure e.message

def missingTemplate : Outcome := failure "First argument must be a JsonML template."

def run (args : List String) (input : ByteArray) : Outcome :=
  match template? args with
  | none => missingTemplate
  | some template => fill template input

end DataBinding.CommandLine
