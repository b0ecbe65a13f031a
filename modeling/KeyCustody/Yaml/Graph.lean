import KeyCustody.Yaml.Tag

/-! The nodes of a document by number. An alias is one more use of a number. -/

set_option autoImplicit false

namespace KeyCustody.Yaml

abbrev NodeId := Nat

inductive Node where
  | scalar (tag : Tag) (text : Text)
  | sequence (tag : Tag) (items : List NodeId)
  | mapping (tag : Tag) (entries : List (NodeId × NodeId))
deriving DecidableEq

def Node.tag : Node → Tag
  | scalar tag _ | sequence tag _ | mapping tag _ => tag

structure Graph where
  nodes : Array Node
  ended : Array NodeId

namespace Graph

def empty : Graph := ⟨#[], #[]⟩

def size (graph : Graph) : Nat := graph.nodes.size

def node? (graph : Graph) (id : NodeId) : Option Node := graph.nodes[id]?

def tag? (graph : Graph) (id : NodeId) : Option Tag := (graph.node? id).map (·.tag)

def hasTag (graph : Graph) (tag : Tag) (id : NodeId) : Bool := graph.tag? id == some tag

def add (graph : Graph) (node : Node) : Graph := { graph with nodes := graph.nodes.push node }

def replace (graph : Graph) (id : NodeId) (node : Node) : Graph :=
  { graph with nodes := graph.nodes.setIfInBounds id node }

def finish (graph : Graph) (id : NodeId) (node : Node) : Graph :=
  { graph.replace id node with ended := graph.ended.push id }

-- A mapping stands for the scalar under its default key; the count bounds a chain of such mappings.
def textFrom (graph : Graph) : Nat → NodeId → Except Fault Text
  | 0, _ => .error (.tooDeep .document)
  | fuel + 1, id =>
    match graph.node? id with
    | some (.scalar _ text) => .ok text
    | some (.mapping _ entries) =>
      match entries.find? fun entry => graph.hasTag .defaultValue entry.1 with
      | some entry => textFrom graph fuel entry.2
      | none => .error .document
    | _ => .error .document

def text (graph : Graph) (id : NodeId) : Except Fault Text := graph.textFrom (graph.size + 1) id

end Graph

end KeyCustody.Yaml
