import ScanLexer.Symbol
import ScanLexer.Text.Printable

/-!
# Quoted text

A quoted text stands between two equal quotes and shows the characters that would be lost on paper
by escapes.
-/
namespace ScanLexer.Text

/-- So many lower-case hexadecimal digits of a number, the last ones. -/
def hexDigits (count n : Nat) : String :=
  String.ofList ((List.range count).reverse.map fun k => Nat.digitChar (n / Nat.pow 16 k % 16))

def hexByte (n : Nat) : String := hexDigits 2 n

/-- The escape of a character by its number: in two, four or eight digits, as few as will do. -/
def numbered (c : Char) : String :=
  let n := c.toNat
  if n < 0x100 then "\\x" ++ hexDigits 2 n
  else if n < 0x10000 then "\\u" ++ hexDigits 4 n
  else "\\U" ++ hexDigits 8 n

/-- The quote that a text is written in: the single one, unless only that one occurs in it. -/
def quoteFor (cs : List Char) : Char :=
  if '\x27' ∈ cs ∧ '\x22' ∉ cs then '\x22' else '\x27'

/-- How one character is written inside the quotes, given which ones are written as they are. -/
def escape (plain : Char → Bool) (quote c : Char) : String :=
  if c = '\\' then "\\\\"
  else if c = quote then String.ofList ['\\', c]
  else if c = '\t' then "\\t"
  else if c = '\n' then "\\n"
  else if c = '\r' then "\\r"
  else if plain c then String.singleton c
  else numbered c

def between (plain : Char → Bool) (cs : List Char) : String :=
  let quote := quoteFor cs
  String.singleton quote ++ String.join (cs.map (escape plain quote)) ++ String.singleton quote

def quoted (s : String) : String :=
  between isPrintable s.toList

/-- The quoted form of a byte string: as a text of single bytes, with every byte from 127 on written
by its number, after a `b`. -/
def quotedBytes (content : List Symbol) : String :=
  "b" ++ between (fun c => isPrintable c && c.toNat < 127) (content.map Symbol.char)

end ScanLexer.Text
