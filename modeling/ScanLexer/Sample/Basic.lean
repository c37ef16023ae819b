import ScanLexer.Automaton.Restart

/-!
# Sample automata

Small lexers: one letter, identifiers between blanks, a keyword among identifiers, and arithmetic.
-/
namespace ScanLexer.Sample

def token (name : String) : Option Lexeme := some (.token (.user name))

/-- An arc to a state on each character of a text that is a byte. Such arcs emit nothing. -/
def arcs (text : String) (target : Nat) : List Arc :=
  (text.toList.filterMap fun c => Symbol.ofInt? c.toNat).map fun a =>
    { symbol := a, target := target, emits := false }

def emitting (arcs : List Arc) : List Arc := arcs.map fun arc => { arc with emits := true }

/-- Every `a` is a token. Without the restart arc only the first one is read. -/
def singleA (restart : Bool) : Automaton :=
  let again := emitting (arcs "a" 1)
  ⟨[⟨again, none⟩, ⟨if restart then again else [], token "a"⟩]⟩

/-- One state for which every `x` is a token. -/
def trivial : Automaton := ⟨[⟨emitting (arcs "x" 0), token "x"⟩]⟩

/-- Identifiers over some letters, separated by runs of blanks. A symbol may be listed only once. -/
def identBlank (letters blanks : List Datum) : Except Fault Automaton := do
  let A : Automaton := ⟨[.bare none, .bare (token "ident"), .bare (token "ws")]⟩
  let A ← letters.foldlM (grow 1) A
  let A ← blanks.foldlM (grow 2) A
  return A.restart
where
  /-- Begin or go on with a run on one more symbol. -/
  grow (run : Int) (A : Automaton) (a : Datum) : Except Fault Automaton := do
    (← A.add (.int 0) a (.int run) false).add (.int run) a (.int run) false

/-- The keyword `if` among identifiers over three letters, and blanks. -/
def keywords : Automaton :=
  Automaton.restart ⟨[
    ⟨arcs "i" 1 ++ arcs "fx" 3 ++ arcs " " 4, none⟩,
    ⟨arcs "f" 2 ++ arcs "ix" 3, token "ident"⟩,
    ⟨arcs "ifx" 3, token "if"⟩,
    ⟨arcs "ifx" 3, token "ident"⟩,
    ⟨arcs " " 4, token "ws"⟩]⟩

/-- The operators of arithmetic, each a text of one character. -/
def operators : List String := ["+", "-", "*", "/", "(", ")"]

def arith : Automaton :=
  let digits := arcs "0123456789" 1
  let blank := arcs " " 2
  let marks := operators.zipIdx.flatMap fun (mark, k) => arcs mark (k + 3)
  Automaton.restart ⟨[⟨digits ++ blank ++ marks, none⟩, ⟨digits, token "number"⟩,
    ⟨blank, token "space"⟩] ++ operators.map fun mark => .bare (token mark)⟩

end ScanLexer.Sample
