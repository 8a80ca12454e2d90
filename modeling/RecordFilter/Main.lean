import RecordFilter.Demo

/-!
The command line runs the demonstration.
-/

/-- Prints the demonstration; an error is reported and gives exit code 1. -/
def main : IO UInt32 := do
  match RecordFilter.Demo.lines with
  | .ok lines =>
    for line in lines do
      IO.println line
    return 0
  | .error e =>
    IO.eprintln ("Error: " ++ e.toText)
    return 1
