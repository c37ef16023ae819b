/-!
# Text inside markup

The five characters that mean something to a reader of markup are written as entities.
-/
namespace ScanLexer.Text

/-- How one character is written inside markup. -/
def entity (c : Char) : String :=
  if c = '&' then "&amp;"
  else if c = '<' then "&lt;"
  else if c = '>' then "&gt;"
  else if c = '\x22' then "&quot;"
  else if c = '\x27' then "&#x27;"
  else String.singleton c

def markup (s : String) : String :=
  String.join (s.toList.map entity)

end ScanLexer.Text
