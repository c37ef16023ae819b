import ScanLexer.Datum.Basic
import ScanLexer.Text.Quoted

/-!
# The printed form of data

Messages show a value as it would be written down: texts in quotes, lists in brackets, and numbers
as they are written, however many digits they have.
-/
namespace ScanLexer.Datum

mutual

def printed : Datum → String
  | null => "None"
  | bool b => (Numeral.ofBool b).printed
  | int n => (Numeral.ofInt n).printed
  | decimal d => d.printed
  | text s => Text.quoted s
  | bytes content => Text.quotedBytes content
  | buffer content => "bytearray(" ++ Text.quotedBytes content ++ ")"
  | list items => "[" ++ ", ".intercalate (printedAll items) ++ "]"
  | record keys values =>
    let fields := (keys.zip (printedAll values)).map fun (key, value) =>
      Text.quoted key ++ ": " ++ value
    "\x7b" ++ ", ".intercalate fields ++ "\x7d"

def printedAll : List Datum → List String
  | [] => []
  | d :: rest => printed d :: printedAll rest

end

/-- The text that a reader sees: a text is itself, and any other value is written down. -/
def shown : Datum → String
  | text s => s
  | d => d.printed

end ScanLexer.Datum
