import DocumentMapper.Dump

/-!
# The dump command

Reads documents from standard input and prints them as JSON.
-/

/-- Runs the dump command on standard input. -/
def main (arguments : List String) : IO UInt32 := do
  let input ← (← IO.getStdin).readBinToEnd
  let outcome := DocumentMapper.Dump.run arguments input.data.toList
  IO.print outcome.output
  IO.eprint outcome.complaint
  return UInt32.ofNat outcome.code
