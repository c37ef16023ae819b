import ScanLexer.Automaton.Dot
import ScanLexer.Proofs.Automaton.Built
import ScanLexer.Proofs.Distinct
import ScanLexer.Sample.Basic

/-!
# Every arc is drawn once

A picture is drawn in one pass over the arcs: each arc puts its label on the edge with its ends, or
on a new edge behind the others. What the pass leads to is known one arc at a time
(`stack_stacked`): the edges are the ends of arcs in the order in which each was first met, and the
labels of an edge are those of all arcs with its ends (`collect_eq`). So no arc is lost, and none is
drawn twice (`picture_draws_arcs`).
-/
namespace ScanLexer

/-! ## One pass over the arcs -/

namespace Picture.Edge

def addLabel (edge : Edge) (label : String) : Edge := { edge with labels := edge.labels ++ [label] }

def sorted (edge : Edge) : Edge := { edge with labels := edge.labels.mergeSort }

end Picture.Edge

namespace Automaton

/-- One more arc puts its label on the edge with its ends, or on a new edge behind the others. -/
def stack (naming : Naming) (edges : List Picture.Edge) (arc : Nat × Arc) : List Picture.Edge :=
  let label := arcLabel naming arc.2
  if ends arc ∈ edges.map Picture.Edge.ends then
    edges.map fun edge => if edge.ends = ends arc then edge.addLabel label else edge
  else edges ++ [⟨ends arc, arc.2.targetStyle, [label]⟩]

def collect (naming : Naming) (arcs : List (Nat × Arc)) : List Picture.Edge :=
  arcs.foldl (stack naming) []

/-- The edge for the arcs with given ends, with its labels in the order of the arcs. -/
def stacked (naming : Naming) (arcs : List (Nat × Arc)) (e : Picture.Ends) : Picture.Edge :=
  let alike := arcs.filter fun arc => ends arc = e
  ⟨e, (alike.head?.map fun arc => arc.2.targetStyle).getD .digits,
    alike.map fun arc => arcLabel naming arc.2⟩

section
variable {naming : Naming} {arcs : List (Nat × Arc)} {arc : Nat × Arc} {e : Picture.Ends}

@[simp] theorem ends_stacked (naming : Naming) (arcs : List (Nat × Arc)) (e : Picture.Ends) :
    (stacked naming arcs e).ends = e := rfl

theorem stacked_concat_of_ne (other : e ≠ ends arc) :
    stacked naming (arcs ++ [arc]) e = stacked naming arcs e := by
  have none : [arc].filter (fun arc => ends arc = e) = [] := by simp [Ne.symm other]
  rw [stacked, List.filter_append, none, List.append_nil]
  rfl

theorem stacked_concat_of_mem (known : ends arc ∈ arcs.map ends) :
    stacked naming (arcs ++ [arc]) (ends arc) =
      (stacked naming arcs (ends arc)).addLabel (arcLabel naming arc.2) := by
  obtain ⟨first, inside, same⟩ := List.mem_map.mp known
  have one : [arc].filter (fun arc' => ends arc' = ends arc) = [arc] := by simp
  have some : arcs.filter (fun arc' => ends arc' = ends arc) ≠ [] :=
    List.ne_nil_of_mem (List.mem_filter.mpr ⟨inside, decide_eq_true same⟩)
  simp only [stacked, Picture.Edge.addLabel, List.filter_append, one, List.map_append,
    List.map_singleton, List.head?_append_of_ne_nil _ some]

theorem stacked_concat_of_notMem (new : ends arc ∉ arcs.map ends) :
    stacked naming (arcs ++ [arc]) (ends arc) =
      ⟨ends arc, arc.2.targetStyle, [arcLabel naming arc.2]⟩ := by
  have one : [arc].filter (fun arc' => ends arc' = ends arc) = [arc] := by simp
  have none : arcs.filter (fun arc' => ends arc' = ends arc) = [] := by
    rw [List.filter_eq_nil_iff]
    intro other inside same
    exact new (of_decide_eq_true same ▸ List.mem_map_of_mem inside)
  simp only [stacked, List.filter_append, one, none, List.nil_append]
  rfl

/-- What one more arc does to the edges drawn so far. -/
theorem stack_stacked (naming : Naming) (arcs : List (Nat × Arc)) (arc : Nat × Arc) :
    stack naming ((arcs.map ends).eraseDups.map (stacked naming arcs)) arc =
      ((arcs ++ [arc]).map ends).eraseDups.map (stacked naming (arcs ++ [arc])) := by
  have drawn : ((arcs.map ends).eraseDups.map (stacked naming arcs)).map Picture.Edge.ends =
      (arcs.map ends).eraseDups := by
    simp [Function.comp_def]
  rw [stack, drawn, List.map_append, List.map_singleton, eraseDups_concat]
  simp only [List.mem_eraseDups]
  by_cases known : ends arc ∈ arcs.map ends
  · rw [if_pos known, if_pos known, List.map_map]
    apply List.map_congr_left
    intro e _
    by_cases here : e = ends arc
    · subst here
      rw [stacked_concat_of_mem known, Function.comp_apply, ends_stacked, if_pos rfl]
    · rw [stacked_concat_of_ne here, Function.comp_apply, ends_stacked, if_neg here]
  · rw [if_neg known, if_neg known, List.map_append, List.map_singleton,
      stacked_concat_of_notMem known]
    congr 1
    apply List.map_congr_left
    intro e he
    have other : e ≠ ends arc := fun same => known (same ▸ List.mem_eraseDups.mp he)
    rw [stacked_concat_of_ne other]

/-- **One pass stacks the labels of all arcs.** -/
theorem collect_eq (naming : Naming) (arcs : List (Nat × Arc)) :
    collect naming arcs = (arcs.map ends).eraseDups.map (stacked naming arcs) := by
  induction arcs using List.reverseRecOn with
  | nil => rfl
  | append_singleton arcs arc ih =>
    rw [collect, List.foldl_append, ← collect, ih]
    exact stack_stacked naming arcs arc

end

end Automaton

/-! ## Statements -/

namespace Picture

theorem append_ne_append {s t : String} (length : s.length = t.length) (differ : s ≠ t)
    (x y : String) :
    x ++ s ≠ y ++ t := by
  intro same
  have lists := congrArg String.toList same
  rw [String.toList_append, String.toList_append] at lists
  obtain ⟨-, last⟩ := List.append_inj' lists (by rwa [String.length_toList, String.length_toList])
  exact differ (String.toList_inj.mp last)

/-- The statement of an edge up to its style: its ends, and its labels one below the other. -/
def Edge.opening (edge : Edge) : String :=
  "\t" ++ toString edge.ends.source ++ " -> " ++ edge.destination.printed ++ " [label=" ++
    labelText ("\n".intercalate edge.labels)

theorem Edge.statement_eq (edge : Edge) : edge.statement =
    edge.opening ++ if edge.ends.emits then " style=dashed]" else " style=solid]" := by
  cases emits : edge.ends.emits <;>
  · simp only [Edge.statement, Edge.opening, emits, String.append_assoc]
    rfl

/-- The statement of an edge is dashed exactly if the edge emits. -/
theorem Edge.dashed_iff (edge : Edge) :
    (∃ text, edge.statement = text ++ " style=dashed]") ↔ edge.ends.emits = true := by
  rw [edge.statement_eq]
  cases edge.ends.emits with
  | true => exact iff_of_true ⟨edge.opening, rfl⟩ rfl
  | false =>
    refine iff_of_false ?_ nofun
    rintro ⟨text, dashed⟩
    -- the two styles are not of one length, so the longer one is cut behind its blank
    have apart : edge.opening ++ " style=solid]" ≠ (text ++ " ") ++ "style=dashed]" :=
      append_ne_append (by decide) (by decide) _ _
    apply apart
    rw [String.append_assoc]
    exact dashed

/-- The statement of a node up to its borders. -/
def Node.opening (node : Node) : String :=
  "\t" ++ toString node.state ++ " [label=" ++ labelText node.label

theorem Node.statement_eq (node : Node) : node.statement =
    node.opening ++ if node.accepting then " peripheries=2]" else " peripheries=1]" := by
  cases accepting : node.accepting <;>
  · simp only [Node.statement, Node.opening, accepting, String.append_assoc]
    rfl

/-- The statement of a node has two borders exactly if the state accepts. -/
theorem Node.doubled_iff (node : Node) :
    (∃ text, node.statement = text ++ " peripheries=2]") ↔ node.accepting = true := by
  rw [node.statement_eq]
  cases node.accepting with
  | true => exact iff_of_true ⟨node.opening, rfl⟩ rfl
  | false =>
    refine iff_of_false ?_ nofun
    rintro ⟨text, doubled⟩
    exact append_ne_append (by decide) (by decide) _ _ doubled

end Picture

namespace Automaton

/-! ## Pictures -/

/-- A picture shows what an automaton has: a node for each state, and for each triple of a source, a
target and a flag that some arc has, an edge with the labels of these arcs. -/
structure Draws (A : Automaton) (naming : Naming) (p : Picture) : Prop where
  size : p.nodes.length = A.size
  node (i : Nat) : i < A.size →
    p.nodes[i]? = some ⟨i, stateLabel naming i (A.node i), (A.node i).lexeme.isSome⟩
  /-- Edges are drawn for the ends of arcs alone, and come in the order of their first arcs. -/
  drawn (e : Picture.Ends) : (∃ edge ∈ p.edges, edge.ends = e) ↔ ∃ arc ∈ A.arcs, ends arc = e
  ordered :
    p.edges.Pairwise fun d e => (A.arcs.map ends).idxOf d.ends < (A.arcs.map ends).idxOf e.ends
  /-- There is a label for each arc with the ends of the edge, and equal ones are not merged. -/
  labels : ∀ edge ∈ p.edges, edge.labels.Perm
    ((A.arcs.filter fun arc => ends arc = edge.ends).map fun arc => arcLabel naming arc.2)
  sorted : ∀ edge ∈ p.edges, edge.labels.Pairwise (· ≤ ·)
  /-- The target is written as in the first of the arcs. -/
  target : ∀ edge ∈ p.edges, ∃ arc, A.arcs.find? (fun arc => ends arc = edge.ends) = some arc ∧
    edge.destination = arc.2.destination
  /-- The arcs behind the edges are all arcs of the automaton, each of them once. -/
  complete : (p.edges.flatMap fun edge => A.arcs.filter fun arc => ends arc = edge.ends).Perm A.arcs
  total : (p.edges.flatMap Picture.Edge.labels).length = A.arcs.length

theorem pairwise_mergeSort_labels (labels : List String) : labels.mergeSort.Pairwise (· ≤ ·) := by
  have ordered : labels.mergeSort.Pairwise fun a b => decide (a ≤ b) = true :=
    List.pairwise_mergeSort (by simpa using fun a b c => String.le_trans)
      (by simpa using String.le_total) labels
  simpa using ordered

section
variable {A : Automaton} {naming : Naming} {e : Picture.Edge}

theorem ends_picture (A : Automaton) (naming : Naming) :
    (A.picture naming).edges.map Picture.Edge.ends = (A.arcs.map ends).eraseDups := by
  simp only [picture, List.map_map]
  exact List.map_id _

/-- An edge is drawn for the arcs with its ends, and there is such an arc. -/
theorem mem_edges_picture (h : e ∈ (A.picture naming).edges) :
    e = edge naming A.arcs e.ends ∧
      ∃ arc, A.arcs.find? (fun arc => ends arc = e.ends) = some arc := by
  obtain ⟨k, hk, rfl⟩ := List.mem_map.mp h
  refine ⟨rfl, ?_⟩
  obtain ⟨arc, inside, same⟩ := List.mem_map.mp (List.mem_eraseDups.mp hk)
  rw [← Option.isSome_iff_exists, List.find?_isSome]
  exact ⟨arc, inside, decide_eq_true same⟩

theorem labels_perm (h : e ∈ (A.picture naming).edges) : e.labels.Perm
    ((A.arcs.filter fun arc => ends arc = e.ends).map fun arc => arcLabel naming arc.2) := by
  rw [(mem_edges_picture h).1]
  exact List.mergeSort_perm _ _

theorem destination_of_find? (h : e ∈ (A.picture naming).edges) {arc : Nat × Arc}
    (first : A.arcs.find? (fun arc => ends arc = e.ends) = some arc) :
    e.destination = arc.2.destination := by
  have holds := List.find?_some first
  have same : ends arc = e.ends := of_decide_eq_true holds
  have style : e.style = arc.2.targetStyle := by
    rw [(mem_edges_picture h).1]
    simp only [edge, List.head?_filter, first, Option.map_some, Option.getD_some]
  rw [Picture.Edge.destination, style, ← same]
  rfl

theorem complete_picture (A : Automaton) (naming : Naming) :
    ((A.picture naming).edges.flatMap fun e => A.arcs.filter fun arc => ends arc = e.ends).Perm
      A.arcs := by
  have covered : ∀ arc ∈ A.arcs, ends arc ∈ (A.arcs.map ends).eraseDups := by
    intro arc inside
    exact List.mem_eraseDups.mpr (List.mem_map_of_mem inside)
  have parts := flatMap_filter_perm (nodup_eraseDups (A.arcs.map ends)) covered
  rwa [← ends_picture A naming, List.flatMap_map] at parts

end

/-- **A picture draws what there is.** -/
theorem draws_picture (A : Automaton) (naming : Naming) : A.Draws naming (A.picture naming) where
  size := by simp [picture, Automaton.size]
  node i hi := by simp [picture, getElem?_nodes hi]
  drawn k := by
    rw [← List.mem_map, ← List.mem_map, ends_picture, List.mem_eraseDups]
  ordered := by
    have ordered := pairwise_idxOf_eraseDups (A.arcs.map ends)
    rwa [← ends_picture A naming, List.pairwise_map] at ordered
  labels _ := labels_perm
  sorted e h := by
    rw [(mem_edges_picture h).1]
    exact pairwise_mergeSort_labels _
  target e h := by
    obtain ⟨-, arc, first⟩ := mem_edges_picture h
    exact ⟨arc, first, destination_of_find? h first⟩
  complete := complete_picture A naming
  total := by
    rw [← (complete_picture A naming).length_eq, List.length_flatMap, List.length_flatMap]
    congr 1
    apply List.map_congr_left
    intro e h
    rw [(labels_perm h).length_eq, List.length_map]

/-- **Every arc is drawn once.** For any names of states and symbols, a picture shows each state and
each arc of its automaton, and is what one pass over the arcs leads to. As a text it has a statement
for each node and for each edge, in order; double borders mark the accepting states, and dashes the
edges that emit. -/
theorem picture_draws_arcs (A : Automaton) (naming : Naming) :
    A.Draws naming (A.picture naming) ∧
      (A.picture naming).edges = (collect naming A.arcs).map Picture.Edge.sorted ∧
      (A.picture naming).dot = String.join ((Picture.preamble ++
        (A.picture naming).nodes.map Picture.Node.statement ++
        (A.picture naming).edges.map Picture.Edge.statement ++ ["\x7d"]).map (· ++ "\n")) ∧
      (∀ node ∈ (A.picture naming).nodes,
        (∃ text, node.statement = text ++ " peripheries=2]") ↔
          (A.node node.state).lexeme.isSome = true) ∧
      ∀ edge ∈ (A.picture naming).edges,
        (edge.statement =
          edge.opening ++ if edge.ends.emits then " style=dashed]" else " style=solid]") ∧
        ((∃ text, edge.statement = text ++ " style=dashed]") ↔ edge.ends.emits = true) := by
  refine ⟨draws_picture A naming, ?_, rfl, ?_, fun edge _ => ⟨edge.statement_eq, edge.dashed_iff⟩⟩
  · rw [collect_eq, List.map_map]
    rfl
  · intro node h
    obtain ⟨i, place⟩ := List.getElem?_of_mem h
    have drawn := draws_picture A naming
    have inside : i < A.size := by
      rw [← drawn.size]
      exact (List.getElem?_eq_some_iff.mp place).1
    cases place.symm.trans (drawn.node i inside)
    exact Picture.Node.doubled_iff _

/-- Two arcs that are called the same keep a label each, and one that emits is drawn apart from
them. -/
theorem picture_draws_arcs_parallel :
    let arcs := Sample.arcs "ab" 1 ++ Sample.emitting (Sample.arcs "c" 1)
    let A : Automaton := ⟨[⟨arcs, none⟩, .bare (Sample.token "letter")]⟩
    let edges := (A.picture ⟨toString, fun _ _ => "x"⟩).edges
    (∃ edge ∈ edges, edge.ends = ⟨0, 1, false⟩ ∧ edge.labels.length = 2) ∧
      ∃ edge ∈ edges, edge.ends = ⟨0, 1, true⟩ ∧ edge.labels.length = 1 := by
  intro arcs A edges
  obtain ⟨draws, -⟩ := picture_draws_arcs A ⟨toString, fun _ _ => "x"⟩
  have stacked (emits : Bool) (some : ∃ arc ∈ A.arcs, ends arc = ⟨0, 1, emits⟩) :
      ∃ edge ∈ edges, edge.ends = ⟨0, 1, emits⟩ ∧
        edge.labels.length = (A.arcs.filter fun arc => ends arc = ⟨0, 1, emits⟩).length := by
    obtain ⟨edge, inside, same⟩ := (draws.drawn _).mpr some
    have labels := (draws.labels edge inside).length_eq
    rw [List.length_map, same] at labels
    exact ⟨edge, inside, same, labels⟩
  exact ⟨stacked false (by decide +kernel), stacked true (by decide +kernel)⟩

end Automaton

end ScanLexer
