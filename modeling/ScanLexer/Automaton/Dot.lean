import ScanLexer.Automaton.Picture

/-!
# Pictures in the DOT language

A picture is written as a DOT graph. A label is written bare where the language takes it for a name
or a number, and between double quotes elsewhere.
-/
namespace ScanLexer.Picture

/-- Words that the language keeps for itself, in any case. -/
def reserved : List String := ["node", "edge", "graph", "digraph", "subgraph", "strict"]

/-- A letter or an underscore begins a name. -/
def beginsName (c : Char) : Bool := c.isAlpha || c = '_'

/-- Names go on with letters, digits and underscores. -/
def isName : List Char → Bool
  | [] => false
  | c :: rest => beginsName c && rest.all fun c => beginsName c || c.isDigit

/-- A number is a point and digits, or digits that a point and more digits may follow. -/
def isNumber (cs : List Char) : Bool :=
  match cs.takeWhile Char.isDigit, cs.dropWhile Char.isDigit with
  | [], '.' :: places => !places.isEmpty && places.all Char.isDigit
  | [], _ => false
  | _, [] => true
  | _, '.' :: places => places.all Char.isDigit
  | _, _ => false

/-- A number may have a sign. -/
def isNumeral : List Char → Bool
  | '-' :: cs => isNumber cs
  | cs => isNumber cs

/-- What may be written bare: a name or a numeral. One line end after it does no harm. -/
def isBare (cs : List Char) : Bool :=
  isName cs || isNumeral cs ||
    (cs.getLast? = some '\n' && (isName cs.dropLast || isNumeral cs.dropLast))

/-- A label as the language takes it. -/
def labelText (s : String) : String :=
  if isBare s.toList && !(reserved.contains (s.map Char.toLower)) then s
  else "\x22" ++ s ++ "\x22"

/-- The lines that say how everything is drawn, up to the arrow to the start state. -/
def preamble : List String :=
  ["digraph \x7b",
    "\tgraph [rankdir=LR]",
    "\tnode [fontname=Monospace fontsize=8 height=.05 margin=\x220.055,0.042\x22 shape=box " ++
      "style=rounded width=.05]",
    "\tedge [arrowsize=0.3 fontname=Monospace fontsize=8]",
    "\t<start> [label=\x22\x22 height=0 shape=point width=0]",
    "\t<start> -> 0 [label=\x22\x22]"]

/-- The statement of a node. -/
def Node.statement (node : Node) : String :=
  "\t" ++ toString node.state ++ " [label=" ++ labelText node.label ++ " peripheries=" ++
    (if node.accepting then "2" else "1") ++ "]"

/-- The statement of an edge. -/
def Edge.statement (edge : Edge) : String :=
  "\t" ++ toString edge.ends.source ++ " -> " ++ edge.destination.printed ++ " [label=" ++
    labelText ("\n".intercalate edge.labels) ++ " style=" ++
    (if edge.ends.emits then "dashed" else "solid") ++ "]"

/-- The whole graph. -/
def dot (p : Picture) : String :=
  let lines := preamble ++ p.nodes.map Node.statement ++ p.edges.map Edge.statement ++ ["\x7d"]
  String.join (lines.map (· ++ "\n"))

end ScanLexer.Picture
