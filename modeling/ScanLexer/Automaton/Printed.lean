import ScanLexer.Automaton.Basic

/-!
# The printed form of an automaton

One line per state, each followed by a line per arc.
-/
namespace ScanLexer.Automaton

def symbolText (a : Symbol) : String := Text.quoted (String.singleton a.char)

/-- A state's line. The start state has a mark in front, an accepting one a mark and its label
behind. -/
def stateLine (i : Nat) (node : Node) : String :=
  let name := (if i = 0 then "^" else "") ++ toString i
  match node.lexeme with
  | none => "  " ++ name ++ ":"
  | some lexeme => "  " ++ name ++ "$ (" ++ lexeme.shown ++ "):"

/-- An arc's line, with a mark if the arc emits. -/
def arcLine (arc : Arc) : String :=
  "    " ++ symbolText arc.symbol ++ " -> " ++ arc.destination.printed ++
    (if arc.emits then " !" else "")

/-- The written form. -/
def printed (A : Automaton) : String :=
  let body := A.nodes.zipIdx.flatMap fun (node, i) => stateLine i node :: node.arcs.map arcLine
  "\n".intercalate (["\x7b"] ++ body ++ ["\x7d"])

end ScanLexer.Automaton
