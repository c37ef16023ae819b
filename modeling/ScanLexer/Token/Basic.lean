import ScanLexer.Datum.Value
import ScanLexer.Fault

/-!
# Tokens

A token is the kind of lexeme that a lexer reports: one that the user named, or one of the three
that every lexer has.
-/
namespace ScanLexer

/-- Where a token comes from. -/
inductive Token.Kind where
  | userDefined
  | invalid
  | startOfInput
  | endOfInput
deriving DecidableEq, Repr

namespace Token.Kind

def all : List Token.Kind := [userDefined, invalid, startOfInput, endOfInput]

def word : Token.Kind → String
  | userDefined => "user_defined"
  | invalid => "invalid"
  | startOfInput => "start_of_input"
  | endOfInput => "end_of_input"

def rank : Token.Kind → Nat
  | userDefined => 0
  | invalid => 1
  | startOfInput => 2
  | endOfInput => 3

/-- The kind whose word a value is. -/
def read (d : Datum) : Except Fault Token.Kind :=
  orFault (.unknownKind d.printed) (all.find? fun kind => d = .text kind.word)

end Token.Kind

/-- A token is its kind and its name. A name is a text as a rule, but any value will do. -/
structure Token where
  kind : Token.Kind
  name : Datum
deriving DecidableEq, Repr

namespace Token

/-- A token that the user named. -/
def user (name : String) : Token := ⟨.userDefined, .text name⟩

def invalid : Token := ⟨.invalid, .text "invalid"⟩

/-- The place before the first symbol. -/
def startOfInput : Token := ⟨.startOfInput, .text "start of input"⟩

/-- The place after the last symbol. -/
def endOfInput : Token := ⟨.endOfInput, .text "end of input"⟩

/-- The text that a reader sees: the name of a user's token as it is, any other in angle
brackets. -/
def text (t : Token) : String :=
  match t.kind with
  | .userDefined => t.name.shown
  | _ => "<" ++ t.name.shown ++ ">"

/-- What tokens are told apart by. -/
structure Key where
  kind : Token.Kind
  name : Value
deriving DecidableEq, Repr

namespace Key

instance : Ord Key := ⟨compareLex (compareOn fun k => k.kind.rank) (compareOn Key.name)⟩

instance : Std.TransOrd Key :=
  inferInstanceAs (Std.TransCmp (compareLex (compareOn _) (compareOn _)))

instance : Std.LawfulEqOrd Key where
  eq_of_compare {s t} h := by
    obtain ⟨kinds, names⟩ := compareLex_eq_eq.mp h
    have ranks : s.kind.rank = t.kind.rank := Std.LawfulEqCmp.eq_of_compare kinds
    have same : s.name = t.name := Std.LawfulEqCmp.eq_of_compare names
    rcases s with ⟨k, n⟩
    rcases t with ⟨k', n'⟩
    cases k <;> cases k' <;> simp_all [Kind.rank]

end Key

def key (t : Token) : Key := ⟨t.kind, .ofDatum t.name⟩

/-- Tokens whose names are texts are alike exactly if they are the same. -/
theorem key_eq_iff_of_text {s t : Token} {a b : String} (hs : s.name = .text a)
    (ht : t.name = .text b) : s.key = t.key ↔ s = t := by
  rcases s with ⟨k, n⟩
  rcases t with ⟨k', n'⟩
  simp only at hs ht
  subst hs ht
  simp [key, Value.ofDatum]

end Token

end ScanLexer
