import ScanLexer.Walkthrough

/-! The command line shows a walk through a scan. -/

def main : IO UInt32 := do
  match ScanLexer.Walkthrough.transcript with
  | .ok shown =>
    IO.print shown
    return 0
  | .error fault =>
    IO.eprintln fault.message
    return 1
