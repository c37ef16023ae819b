import ScanLexer.Behaviour
import ScanLexer.Interner

/-!
# The registry of behaviours

Behaviours that are alike share one id; the first of them stands for all. A behaviour may be
registered under a tag; it then has an id apart from the untagged behaviour of the same content and
from every other tag. Tags are told apart by their values.
-/
namespace ScanLexer

/-- What the registry tells behaviours apart by. -/
structure Registry.Key where
  tag : Option Value
  content : List Behaviour.Entry.Key
deriving DecidableEq, Repr

namespace Registry.Key

instance : Ord Key := ⟨compareLex (compareOn tag) (compareOn content)⟩

instance : Std.TransOrd Key :=
  inferInstanceAs (Std.TransCmp (compareLex (compareOn _) (compareOn _)))

instance : Std.LawfulEqOrd Key where
  eq_of_compare {s t} h := by
    obtain ⟨tags, contents⟩ := compareLex_eq_eq.mp h
    have same : s.tag = t.tag := Std.LawfulEqCmp.eq_of_compare tags
    have alike : s.content = t.content := Std.LawfulEqCmp.eq_of_compare contents
    cases s
    cases t
    simp_all

end Registry.Key

/-- A behaviour and the tag that it is registered under. -/
structure Registry.Item where
  tag : Option Value
  behaviour : Behaviour
deriving DecidableEq, Repr

/-- The key of a registered behaviour. -/
def Registry.Item.key (item : Registry.Item) : Registry.Key :=
  ⟨item.tag, item.behaviour.key⟩

/-- Behaviours and their ids. -/
structure Registry where
  known : Interner Registry.Item.key

namespace Registry

/-- A registry that knows no behaviour. -/
def empty : Registry := ⟨.empty⟩

/-- The tag that a datum names. Only the absent value names none. -/
def tagOf (d : Datum) : Option Value := if d = .null then none else some (.ofDatum d)

def size (r : Registry) : Nat := r.known.size

def behaviours (r : Registry) : List Behaviour := r.known.toList.map Item.behaviour

/-- The id of a behaviour under a tag, and whether the registry had not known it. -/
def intern (r : Registry) (f : Behaviour) (tag : Option Value) : Registry × Nat × Bool :=
  let before := r.size
  let (known, id) := r.known.intern ⟨tag, f⟩
  (⟨known⟩, id, id = before)

/-- The id of an untagged behaviour, if the registry knows it. -/
def lookup (r : Registry) (f : Behaviour) : Option Nat := r.known.id? ⟨none, f.key⟩

def contains (r : Registry) (f : Behaviour) : Bool := (r.lookup f).isSome

/-- The behaviour at a signed position in the order of ids. -/
def behaviour? (r : Registry) (i : Int) : Option Behaviour :=
  (position r.size i).bind fun id => (r.known.value? id).map Item.behaviour

/-- The behaviour at a signed position in the order of ids. -/
def behaviour (r : Registry) (i : Int) : Except Fault Behaviour :=
  orFault (.ofPosition .noListEntry i) (r.behaviour? i)

end Registry

end ScanLexer
