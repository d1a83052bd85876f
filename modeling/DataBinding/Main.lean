import DataBinding.CommandLine

open DataBinding

partial def readAll (stream : IO.FS.Stream) (done : ByteArray) : IO ByteArray := do
  let chunk ← stream.read 65536
  if chunk.isEmpty then return done else readAll stream (done ++ chunk)

def report (outcome : CommandLine.Outcome) : IO UInt32 := do
  (← IO.getStdout).putStr outcome.stdout
  (← IO.getStderr).putStr outcome.stderr
  return outcome.code

def main (args : List String) : IO UInt32 := do
  match CommandLine.template? args with
  | none => report CommandLine.missingTemplate
  | some template =>
    let input ← readAll (← IO.getStdin) ByteArray.empty
    report (CommandLine.fill template input)
