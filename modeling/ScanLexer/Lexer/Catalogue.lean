import ScanLexer.MergeTable.Basic
import ScanLexer.Registry

/-!
# Closing a set of behaviours under composition

A catalogue hands out ids for behaviours and records which id each composition has. New ids wait in
a queue; when one is taken from it, it is composed both ways with every id taken before and with
itself. Compositions may be new behaviours, which join the queue. Once the queue is empty, the table
covers every pair of ids.
-/
namespace ScanLexer

/-- Behaviours with their ids, the compositions known so far, and the ids that still wait to be
composed. -/
structure Catalogue where
  registry : Registry
  table : MergeTable
  pending : List Nat

namespace Catalogue

def empty (growth : Growth) : Catalogue := ⟨.empty, .empty growth, []⟩

/-- The id of a behaviour. A new one is given room in the table and joins the queue. It keeps its id
even when there is no room for it. -/
def enqueue [Memory] (c : Catalogue) (f : Behaviour) (tag : Option Value) :
    Catalogue × Except Fault Nat :=
  let ⟨registry, table, pending⟩ := c
  let (registry, id, fresh) := registry.intern f tag
  if fresh then
    match table.ensure (.int (id + 1)) with
    | .ok table => (⟨registry, table, pending ++ [id]⟩, .ok id)
    | .error fault => (⟨registry, table, pending⟩, .error fault)
  else (⟨registry, table, pending⟩, .ok id)

/-- The summary of an id: whether its behaviour emits from the start state. -/
def summary (c : Catalogue) (id : Int) : Except Fault Summary := do
  let f ← c.registry.behaviour id
  let start ← f.entry 0
  return ⟨id, start.transition.emits⟩

/-- The ids of behaviours as they are met, each with its summary. -/
def enqueueAll [Memory] (c : Catalogue) : List Behaviour → Except Fault (Catalogue × List Summary)
  | [] => .ok (c, [])
  | f :: rest => do
    let (c, id) := c.enqueue f none
    let id ← id
    let start ← f.entry 0
    let (c, summaries) ← c.enqueueAll rest
    return (c, ⟨id, start.transition.emits⟩ :: summaries)

def composed (c : Catalogue) (i j : Int) : Except Fault Behaviour := do
  let f ← c.registry.behaviour i
  let g ← c.registry.behaviour j
  f.compose g

/-- The id of first `i`, then `j`. The identity leaves the other operand as it is: composing with it
on the right would lose the flags of the left operand. -/
def composite [Memory] (c : Catalogue) (identity : Nat) (i j : Int) :
    Catalogue × Except Fault Int :=
  if i = identity then (c, .ok j)
  else if j = identity then (c, .ok i)
  else
    match c.composed i j with
    | .error fault => (c, .error fault)
    | .ok f =>
      let (c, id) := c.enqueue f none
      (c, id.map fun id : Nat => (id : Int))

/-- The summary of first `i`, then `j`. A new behaviour stays in the catalogue even when it has no
entry for the start state. -/
def merge [Memory] (c : Catalogue) (identity : Nat) (i j : Int) :
    Catalogue × Except Fault Summary :=
  let (c, id) := c.composite identity i j
  (c, id.bind c.summary)

/-- The catalogue with the composition of two ids in its table. -/
def record [Memory] (c : Catalogue) (identity i j : Nat) : Except Fault Catalogue :=
  match c.merge identity i j with
  | (_, .error fault) => .error fault
  | (⟨registry, table, pending⟩, .ok s) => do
    let table ← table.store i j s
    return ⟨registry, table, pending⟩

/-- The catalogue with an id composed both ways with each of the ids taken so far. -/
def sweep [Memory] (c : Catalogue) (identity i : Nat) (done : List Nat) : Except Fault Catalogue :=
  done.foldlM (fun c j => do (← c.record identity i j).record identity j i) c

/-- At most so many ids are taken from the queue, each in turn; the ids taken are kept in order. -/
def drain [Memory] (identity : Nat) :
    Nat → Catalogue → List Nat → Except Fault (Catalogue × List Nat)
  | fuel + 1, ⟨registry, table, i :: pending⟩, done => do
    let c ← sweep ⟨registry, table, pending⟩ identity i (done ++ [i])
    drain identity fuel c (done ++ [i])
  | _, c, done => .ok (c, done)

/-- How many ids there can be over `n` states. Each state rejects or leads to one of them with or
without emitting, and the identity has an id of its own. -/
def most (n : Nat) : Nat := Nat.pow (2 * n + 1) n + 1

/-- The catalogue closed under composition, over `n` states. -/
def close [Memory] (c : Catalogue) (identity n : Nat) : Except Fault Catalogue := do
  let (c, done) ← drain identity (most n) c []
  if done.length = c.registry.size ∧ c.registry.size = c.table.states then return c
  else throw .closureIncomplete

end Catalogue

end ScanLexer
