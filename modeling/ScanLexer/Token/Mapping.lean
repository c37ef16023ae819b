import ScanLexer.Datum.Number
import ScanLexer.Datum.Printed
import ScanLexer.Fault
import ScanLexer.Interner
import ScanLexer.Token.Basic

/-!
# Token ids

A mapping gives each distinct token an id in the order of first insertion, and tells how wide an
unsigned number must be to hold every id.
-/
namespace ScanLexer.Token

/-- The name of a kind in a listing of constants. -/
def Kind.constant (k : Kind) : String := k.word.map Char.toUpper

def printed (t : Token) : String :=
  "Token(type=<TokenType." ++ t.kind.constant ++ ": " ++ Text.quoted t.kind.word ++ ">, name=" ++
    t.name.printed ++ ")"

abbrev Mapping := Interner Token.key

/-- The narrowest of the usual unsigned widths whose numbers are at least as many as the ids. -/
def backingBits (count : Datum) : Except Fault Nat :=
  orFault (.tooManyIds count.printed)
    ([8, 16, 32, 64].find? fun bits => count.atMost (.int (Nat.pow 2 bits)))

namespace Mapping

def tokenId (m : Mapping) (t : Token) : Except Fault Nat :=
  orFault (.unknownToken t.printed) (m.id? t.key)

def backingTypeBits (m : Mapping) : Except Fault Nat :=
  backingBits (.int m.size)

def listing (m : Mapping) : String :=
  String.join (m.toList.zipIdx.map fun (t, id) => toString id ++ ": " ++ t.text ++ "\n")

end Mapping

end ScanLexer.Token
