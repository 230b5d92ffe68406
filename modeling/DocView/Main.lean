import DocView.Server.Launch

/-!
# The program

Prints what becomes of the command line. Listening is left to the host: it hands each request to
`Server.Service.answer`.
-/

/-- Runs the program on the words of its command line. -/
def main (words : List String) : IO UInt32 := do
  let outcome := DocView.Server.launch words
  IO.print outcome.output
  IO.eprint outcome.diagnostics
  return outcome.exitCode.toUInt32
