import KeyCustody.Yaml.Graph

/-! A mapping takes over the entries under its merge keys, in front of its own. -/

set_option autoImplicit false

namespace KeyCustody.Yaml.Graph

def entries (graph : Graph) (id : NodeId) : List (NodeId × NodeId) :=
  match graph.node? id with
  | some (.mapping _ entries) => entries
  | _ => []

def setEntries (graph : Graph) (id : NodeId) (entries : List (NodeId × NodeId)) : Graph :=
  match graph.node? id with
  | some (.mapping tag _) => graph.replace id (.mapping tag entries)
  | _ => graph

def asText (graph : Graph) (id : NodeId) : Graph :=
  match graph.node? id with
  | some (.scalar .defaultValue text) => graph.replace id (.scalar .text text)
  | some (.sequence .defaultValue items) => graph.replace id (.sequence .text items)
  | some (.mapping .defaultValue entries) => graph.replace id (.mapping .text entries)
  | _ => graph

def takeMerge? (graph : Graph) (id : NodeId) : Option (NodeId × Graph) :=
  let all := graph.entries id
  match all.span fun entry => !graph.hasTag .merge entry.1 with
  | (before, merge :: after) => some (merge.2, graph.setEntries id (before ++ after))
  | (_, []) => none

def mergeCount (graph : Graph) (id : NodeId) : Nat :=
  (graph.entries id).countP fun entry => graph.hasTag .merge entry.1

def mergeTotal (graph : Graph) : Nat :=
  (List.range graph.size).foldl (fun sum id => sum + graph.mergeCount id) 0

def settle (graph : Graph) (id : NodeId) (merged : List (NodeId × NodeId)) : Graph :=
  let graph := (graph.entries id).foldl (fun graph entry => graph.asText entry.1) graph
  graph.setEntries id (merged ++ graph.entries id)

abbrev Merged := Except Fault (List (NodeId × NodeId) × Graph)

mutual

-- Every step takes a merge key out of the graph, and the count bounds the steps.
def mergeFrom (id : NodeId) : Nat → List (NodeId × NodeId) → Graph → Except Fault Graph
  | fuel, merged, graph =>
    match graph.takeMerge? id with
    | none => .ok (graph.settle id merged)
    | some (source, graph) =>
      match fuel with
      | 0 => .error .document
      | fuel + 1 => do
        let (more, graph) ← mergeSource fuel source graph
        mergeFrom id fuel (merged ++ more) graph

-- The first of a list of mappings has the last word.
def mergeSource : Nat → NodeId → Graph → Merged
  | fuel, source, graph =>
    match graph.node? source with
    | some (.mapping _ _) => do
      let graph ← mergeFrom source fuel [] graph
      return (graph.entries source, graph)
    | some (.sequence _ items) => mergeItems fuel items graph
    | _ => .error .document

def mergeItems : Nat → List NodeId → Graph → Merged
  | _, [], graph => .ok ([], graph)
  | fuel, item :: rest, graph =>
    match graph.node? item with
    | some (.mapping _ _) => do
      let graph ← mergeFrom item fuel [] graph
      let own := graph.entries item
      let (more, graph) ← mergeItems fuel rest graph
      return (more ++ own, graph)
    | _ => .error .document

end

def merge (graph : Graph) (id : NodeId) : Except Fault Graph :=
  if graph.mergeCount id = 0 then .ok (graph.settle id [])
  else graph.mergeFrom id graph.mergeTotal []

end KeyCustody.Yaml.Graph
