import ScanLexer.Lexer.Basic

/-!
# Checking a lexer

A lexer's tables are sound if every cell names an id, the identity changes nothing on either side,
every cell agrees with composition, and no behaviour has two ids. The check prints a line for each
of these; what it has printed stays printed when a cell leads it outside the tables.
-/
namespace ScanLexer

/-- What a check has printed, line by line, and how it ended. -/
structure Report where
  lines : List String
  verdict : Except Fault Bool

def Report.printed (r : Report) : String := String.join (r.lines.map (· ++ "\n"))

namespace Lexer

/-- Every cell names an id. -/
def closed (L : Lexer) : Bool :=
  let ids := List.range L.registry.size
  L.table.extent.whole? = some (L.registry.size : Int) &&
    ids.all fun i => ids.all fun j =>
      match L.table.get (.int i) (.int j) with
      | .ok cell => 0 ≤ cell.id && cell.id < L.registry.size
      | .error _ => false

/-- The identity changes no id on either side. Checking ends at the first id that it changes. -/
def unital (L : Lexer) : Except Fault Bool :=
  (List.range L.registry.size).allM fun x : Nat => do
    let left ← L.table.get (.int L.identity) (.int x)
    if left.id = x then
      let right ← L.table.get (.int x) (.int L.identity)
      return right.id = x
    else return false

/-- What first `i`, then `j` ought to do. -/
def expected (L : Lexer) (i j : Nat) : Except Fault Behaviour :=
  if i = L.identity then L.registry.behaviour j
  else if j = L.identity then L.registry.behaviour i
  else L.catalogue.composed i j

/-- A cell agrees with composition. The flag is compared before the behaviour, both by value. -/
def agrees (L : Lexer) (i j : Nat) : Except Fault Bool := do
  let cell ← L.table.get (.int i) (.int j)
  let f ← L.registry.behaviour cell.id
  let start ← f.entry 0
  if Value.ofDatum (.bool cell.emits) = start.key.flag then
    return f.key = (← L.expected i j).key
  else return false

def mismatches (L : Lexer) : Except Fault (List (Nat × Nat)) :=
  let ids := List.range L.registry.size
  (ids.flatMap fun i => ids.map fun j => (i, j)).filterM fun (i, j) => return !(← L.agrees i j)

/-- Apart from the identity, no behaviour has two ids. -/
def distinct (L : Lexer) : Bool :=
  ((L.registry.behaviours.map Behaviour.key).eraseIdx L.identity).Nodup

def coloured (style text : String) : String := "\x1b[" ++ style ++ "m" ++ text ++ "\x1b[0m"

def mark (good : Bool) : String := if good then coloured "0;32" "✔" else coloured "2;31" "✘"

def propertyLine (good : Bool) (text : String) : String := "├─ " ++ mark good ++ " " ++ text

def mismatchLine (cell : Nat × Nat) : String :=
  "│   " ++ coloured "1;31" "mismatch" ++ " (" ++ toString cell.1 ++ ", " ++ toString cell.2 ++ ")"

/-- Check a lexer. A strict check that finds something wrong ends in a fault. Of the cells that do
not agree, the first five are shown. -/
def report (L : Lexer) (strict : Bool) : Report :=
  let closed := L.closed
  let lines := ["check properties:",
    propertyLine closed ("merge table closed over " ++ toString L.registry.size ++ " functions")]
  match L.unital with
  | .error fault => ⟨lines, .error fault⟩
  | .ok unital =>
    let lines := lines ++ [propertyLine unital "identity laws"]
    match L.mismatches with
    | .error fault => ⟨lines, .error fault⟩
    | .ok bad =>
      let distinct := L.distinct
      let sound := closed && unital && bad.isEmpty && distinct
      let lines := lines ++
        propertyLine bad.isEmpty "merges agree with sequential composition" ::
        (bad.take 5).map mismatchLine ++
        [propertyLine distinct "functions are unique", "└─ overall: " ++ mark sound]
      ⟨lines, if strict && !sound then .error .checkFailed else .ok sound⟩

end Lexer

end ScanLexer
