import KeyCustody.Text.Base64
import KeyCustody.Value.Dictionary
import KeyCustody.Yaml.Graph.Reader
import KeyCustody.Yaml.Merge

/-!
Collections are built one after the other in the order in which they were met, so of several faults
the one nearest to the root is told, and of those on one level the first.
-/

set_option autoImplicit false

namespace KeyCustody.Yaml

inductive Scalar where
  | null
  | bool (b : Bool)
  | int (n : Int)
  | float (x : Float)
  | bytes (b : Bytes)
  | time (t : Timestamp)
  | text (s : Text)

def Scalar.value : Scalar → Value
  | null => .null
  | bool b => .bool b
  | int n => .int n
  | float x => .float x
  | bytes b => .bytes b
  | time t => .time t
  | text s => .text s

inductive Part where
  | single (scalar : Scalar)
  | list (items : List NodeId)
  | pairs (entries : List (NodeId × NodeId))
  | set (members : List NodeId)
  | mapping (entries : List (NodeId × NodeId))

def Part.isKey : Part → Bool
  | single _ => true
  | _ => false

structure Builder where
  graph : Graph
  parts : Array (Option Part)
  waiting : List NodeId

abbrev Building := StateT Builder (Except Fault)

namespace Builder

def scalarOf (tag : Tag) (text : Text) : Except Fault Scalar :=
  match tag with
  | .null => .ok .null
  | .bool =>
    let word := Text.lower text
    match Tag.boolWords.find? fun entry => Text.ofString entry.1 = word with
    | some entry => .ok (.bool entry.2)
    | none => .error (.scalar (.unknownBool word))
  | .int => ((integerOf text).map .int).mapError .scalar
  | .float => ((floatOf text).map .float).mapError .scalar
  | .binary =>
    match text.chars? with
    | some chars =>
      match if chars.all fun c => c.toNat < 128 then Text.decodeBase64? chars else none with
      | some bytes => .ok (.bytes bytes)
      | none => .error .document
    | none => .error .document
  | .timestamp =>
    match text.chars?.bind Moment.read? with
    | some moment => (moment.timestamp.map .time).mapError .scalar
    | none => .error (.scalar .notTime)
  | .text => .ok (.text text)
  | _ => .error .document

def blank? : Tag → Option Part
  | .sequence => some (.list [])
  | .orderedMap | .pairs => some (.pairs [])
  | .set => some (.set [])
  | .mapping => some (.mapping [])
  | _ => none

def isValueless (tag : Tag) : Bool := tag = .merge || tag = .defaultValue || tag = .unknown

def single (graph : Graph) (id : NodeId) (node : Node) : Except Fault Scalar := do
  if isValueless node.tag then throw .document
  let text ← graph.text id
  match node with
  | .mapping .timestamp _ => throw (.scalar .timeShape)
  | node => scalarOf node.tag text

def meet (id : NodeId) : Building Part := fun ⟨graph, parts, waiting⟩ => do
  match parts[id]?.join, graph.node? id with
  | some part, _ => return (part, ⟨graph, parts, waiting⟩)
  | none, none => throw .document
  | none, some node =>
    match blank? node.tag with
    | some part => return (part, ⟨graph, parts.setIfInBounds id (some part), id :: waiting⟩)
    | none =>
      let part := Part.single (← single graph id node)
      return (part, ⟨graph, parts.setIfInBounds id (some part), waiting⟩)

def meetKey (id : NodeId) : Building Unit := do
  if !(← meet id).isKey then throw .document

def meetEntries (entries : List (NodeId × NodeId)) : Building Unit :=
  entries.forM fun entry => do
    meetKey entry.1
    let _ ← meet entry.2

def merged (id : NodeId) : Building (List (NodeId × NodeId)) := fun ⟨graph, parts, waiting⟩ => do
  let graph ← graph.merge id
  return (graph.entries id, ⟨graph, parts, waiting⟩)

def mergedEntries (id : NodeId) : Building (List (NodeId × NodeId)) := do
  match (← get).graph.node? id with
  | some (.mapping _ _) => merged id
  | _ => throw .document

def meetPair (id : NodeId) : Building (NodeId × NodeId) := do
  match (← get).graph.node? id with
  | some (.mapping _ [(key, value)]) =>
    let _ ← meet key
    let _ ← meet value
    return (key, value)
  | _ => throw .document

def items (id : NodeId) : Building (List NodeId) := do
  match (← get).graph.node? id with
  | some (.sequence _ items) => return items
  | _ => throw .document

def content (id : NodeId) : Part → Building Part
  | .single scalar => return .single scalar
  | .list _ => do
    let items ← items id
    items.forM fun item => do
      let _ ← meet item
    return .list items
  | .pairs _ => do return .pairs (← (← items id).mapM meetPair)
  | .set _ => do
    let entries ← mergedEntries id
    meetEntries entries
    return .set (entries.map (·.1))
  | .mapping _ => do
    let entries ← mergedEntries id
    meetEntries entries
    return .mapping entries

def fill (id : NodeId) : Building Unit := do
  match (← get).parts[id]?.join with
  | none => pure ()
  | some part =>
    let part ← content id part
    modify fun builder =>
      { builder with parts := builder.parts.setIfInBounds id (some part) }

-- Those met in one round wait for the next. Each round meets nodes for the first time.
def fillAll : Nat → Building Unit
  | 0 => pure ()
  | fuel + 1 => do
    let waiting := (← get).waiting
    if !waiting.isEmpty then
      modify fun builder => { builder with waiting := [] }
      waiting.reverse.forM fill
      fillAll fuel

/-! ## Values of parts -/

def valueAt (values : Array Value) (id : NodeId) : Value := values[id]?.getD .null

def value (values : Array Value) : Part → Value
  | .single scalar => scalar.value
  | .list items => .list (items.map (valueAt values))
  | .pairs entries =>
    .list (entries.map fun entry => .list [valueAt values entry.1, valueAt values entry.2])
  | .set members =>
    .set ((Value.dictionary (members.map fun id => (valueAt values id, .null))).map (·.1))
  | .mapping entries =>
    .mapping (Value.dictionary
      (entries.map fun entry => (valueAt values entry.1, valueAt values entry.2)))

def valueOr (values : Array Value) (part : Option Part) : Value :=
  (part.map (value values)).getD .null

def blankValues (parts : Array (Option Part)) : Array Value :=
  parts.map fun part =>
    match part with
    | some (.single scalar) => scalar.value
    | some part =>
      value #[] (match part with
        | .mapping _ => .mapping []
        | .set _ => .set []
        | _ => .list [])
    | none => .null

-- Members that ended before a collection are whole when it is built.
def pass (builder : Builder) (values : Array Value) : Array Value :=
  builder.graph.ended.foldl (fun values id =>
    values.setIfInBounds id (valueOr values builder.parts[id]?.join)) values

def passes (builder : Builder) : Nat → Array Value → Array Value
  | 0, values => values
  | count + 1, values => passes builder count (pass builder values)

-- A collection inside itself is told down to this depth; no record has as many levels.
def levels : Nat := 8

def values (builder : Builder) : Array Value :=
  passes builder levels (blankValues builder.parts)

end Builder

def Graph.value (graph : Graph) (root : NodeId) : Except Fault Value := do
  let build : Building Unit := do
    let _ ← Builder.meet root
    Builder.fillAll (graph.size + 1)
  let (_, builder) ← build.run ⟨graph, Array.replicate graph.size none, []⟩
  return Builder.valueAt builder.values root

def isPrintable (c : Char) : Bool :=
  let n := c.toNat
  n = 0x09 || n = 0x0a || n = 0x0d || (0x20 ≤ n && n ≤ 0x7e) || n = 0x85 ||
    (0xa0 ≤ n && n ≤ 0xfffd) || 0x10000 ≤ n

def read (text : List Char) : Except Fault Value := do
  if text.any fun c => !isPrintable c then throw .document
  let (graph, root) ← Graph.ofTokens (Tokens.ofText text)
  match root with
  | none => return .null
  | some root => graph.value root

end KeyCustody.Yaml
