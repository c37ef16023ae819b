import ScanLexer.Automaton.Basic

/-!
# Running an automaton

The sequential way to read a text: one symbol at a time, each step from where the last one led.
-/
namespace ScanLexer.Automaton

/-- The step from a target on a symbol. Once the input has been rejected, neither state nor symbol
is looked at; otherwise the state is looked up before the symbol is read. -/
def step (A : Automaton) (source : Target) (symbol : Datum) : Except Fault Transition :=
  match source with
  | none => .ok .reject
  | some i => do
    let node ← A.nodeAt i
    let a ← Symbol.read symbol
    return node.transition a

/-- The last step of a run over symbols. An empty run stays where it is. -/
def run (A : Automaton) (symbols : List Datum) (source : Target) : Except Fault Transition :=
  symbols.foldlM (fun t a => A.step t.target a) (.stay source)

end ScanLexer.Automaton
