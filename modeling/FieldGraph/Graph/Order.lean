import FieldGraph.Graph.Report

/-!
# Evaluation order

The nodes feeding the output are ordered so that each comes after everything connected to its
inputs; whenever several nodes are ready the lowest number goes first, which makes the order
unique. Acyclicity is checked here on its own, whatever the edits have ensured: if nodes are
left over, each has a predecessor among them, and walking predecessors must close a cycle.
-/

namespace FieldGraph

/-- Why there is no evaluation order. -/
inductive OrderError where
  | noOutput
  /-- The nodes along a cycle, the first repeated at the end. -/
  | cycle (path : List NodeId)
  | breakdown (cause : Breakdown)
  deriving DecidableEq, Repr

/-- The text of an order error. -/
def OrderError.message : OrderError → String
  | noOutput => Cause.noOutput.text
  | cycle path => cycleMessage path
  | breakdown cause => cause.message

namespace Graph

/-- Insert a number into an ascending list. -/
def insertId (id : NodeId) : List NodeId → List NodeId
  | [] => [id]
  | other :: rest => if id ≤ other then id :: other :: rest else other :: insertId id rest

/-- Numbers in ascending order. -/
def sortIds (ids : List NodeId) : List NodeId := ids.foldr insertId []

/-- The first listed node that no edge enters. -/
def ready? (remaining : List NodeId) (edges : List (NodeId × NodeId)) : Option NodeId :=
  remaining.find? fun n => edges.all (·.2 != n)

/-- A ready node is one of those listed. -/
theorem ready?_mem {remaining : List NodeId} {edges : List (NodeId × NodeId)} {n : NodeId}
    (h : ready? remaining edges = some n) : n ∈ remaining :=
  List.mem_of_find?_eq_some h

/-- Take ready nodes one after the other, dropping the edges that leave them. The nodes taken
come first, then those left over. -/
def drain (remaining : List NodeId) (edges : List (NodeId × NodeId)) :
    List NodeId × List NodeId :=
  match _found : ready? remaining edges with
  | none => ([], remaining)
  | some n =>
      let (taken, left) := drain (remaining.erase n) (without edges n)
      (n :: taken, left)
termination_by remaining.length
decreasing_by
  have member := ready?_mem _found
  rw [List.length_erase_of_mem member]
  exact Nat.sub_lt (List.length_pos_of_mem member) Nat.one_pos

/-- The first supplier of a node among those left over. -/
def leftSupplier? (g : Graph) (left : List NodeId) (id : NodeId) : Option NodeId :=
  match g.node? id with
  | none => none
  | some node => (g.suppliers node).find? (· ∈ left)

/-- Walk suppliers among the nodes left over until one repeats. The path so far is newest first;
`fresh` are the nodes left over that it has not met. -/
def closeCycle (g : Graph) (left fresh path : List NodeId) (id : NodeId) : OrderError :=
  if _member : id ∈ fresh then
    match g.leftSupplier? left id with
    | some supplier => closeCycle g left (fresh.erase id) (id :: path) supplier
    | none => .breakdown .stuckWalk
  else
    let turn := path.takeWhile (· != id) ++ [id]
    .cycle (turn ++ turn.take 1)
termination_by fresh.length
decreasing_by
  rw [List.length_erase_of_mem _member]
  exact Nat.sub_lt (List.length_pos_of_mem _member) Nat.one_pos

/-- The nodes feeding the output in evaluation order. -/
def order (g : Graph) : Except OrderError (List NodeId) :=
  match g.output with
  | none => .error .noOutput
  | some root =>
      if g.hasMissingAncestor root then .error (.breakdown .missingNode)
      else
        let reached := sortIds (g.ancestors root)
        let entering := g.edges.filter (·.2 ∈ reached)
        match drain reached entering with
        | (order, []) => .ok order
        | (_, start :: rest) => .error (g.closeCycle (start :: rest) (start :: rest) [] start)

end Graph

end FieldGraph
