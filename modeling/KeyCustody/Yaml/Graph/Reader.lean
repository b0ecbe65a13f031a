import KeyCustody.Yaml.Graph
import KeyCustody.Yaml.Token.Lexer

/-!
Where the tokens break off, the fault is told as soon as a token from there on is looked at, and not
before.
-/

set_option autoImplicit false

namespace KeyCustody.Yaml

structure Reader where
  tokens : Tokens
  anchors : List (String × NodeId)
  graph : Graph
  depth : Nat

abbrev Reading := StateT Reader (Except Fault)

namespace Reader

def peek : Reading (Option Token) := do
  let tokens := (← get).tokens
  match tokens.list, tokens.broken with
  | token :: _, _ => return some token
  | [], some fault => throw fault
  | [], none => return none

def advance : Reading Unit :=
  modify fun reader =>
    { reader with tokens := { reader.tokens with list := reader.tokens.list.tail } }

def sees (test : Token → Bool) : Reading Bool := do return (← peek).any test

def take (token : Token) : Reading Bool := do
  if ← sees (· = token) then
    advance
    return true
  else return false

def expect (token : Token) : Reading Unit := do
  if !(← take token) then throw .document

def add (node : Node) : Reading NodeId :=
  modifyGet fun reader => (reader.graph.size, { reader with graph := reader.graph.add node })

def finish (id : NodeId) (node : Node) : Reading NodeId := do
  modify fun reader => { reader with graph := reader.graph.finish id node }
  return id

def addEmpty : Reading NodeId := add (.scalar .null [])

abbrev Handles := List (String × String)

def standardHandles : Handles := [("!", "!"), ("!!", Tag.standard)]

structure Properties where
  anchor : Option String
  tag : Option String

namespace Properties

def isOpen (properties : Properties) : Bool :=
  properties.tag.isNone || properties.tag == some "!"

def tagOr (properties : Properties) (default : Tag) : Tag :=
  if properties.isOpen then default else Tag.ofName (properties.tag.getD "")

def scalarTag (properties : Properties) (text : Text) (plain : Bool) : Tag :=
  if properties.tag == some "!" || (plain && properties.tag.isNone) then Tag.ofPlain text
  else properties.tagOr .text

end Properties

def takeAnchor : Reading (Option String) := do
  match ← peek with
  | some (.anchor name) =>
    advance
    return some name
  | _ => return none

def takeTag : Reading (Option TagName) := do
  match ← peek with
  | some (.tag name) =>
    advance
    return some name
  | _ => return none

def fullName (handles : Handles) (name : TagName) : Except Fault String :=
  match name.handle with
  | none => .ok name.suffix
  | some handle =>
    match handles.lookup handle with
    | some leading => .ok (leading ++ name.suffix)
    | none => .error .document

def properties (handles : Handles) : Reading Properties := do
  let (anchor, name) ← match ← takeAnchor with
    | some anchor => do pure (some anchor, ← takeTag)
    | none =>
      match ← takeTag with
      | some name => do pure (← takeAnchor, some name)
      | none => pure (none, none)
  match name with
  | some name => return ⟨anchor, some (← fullName handles name)⟩
  | none => return ⟨anchor, none⟩

def checkAnchor (properties : Properties) : Reading Unit := do
  let anchors := (← get).anchors
  if anchors.any fun entry => properties.anchor = some entry.1 then throw .document

def setAnchor (properties : Properties) (id : NodeId) : Reading Unit :=
  match properties.anchor with
  | none => pure ()
  | some anchor => modify fun reader => { reader with anchors := (anchor, id) :: reader.anchors }

def scalar (properties : Properties) (text : Text) (plain : Bool) : Reading NodeId := do
  checkAnchor properties
  let id ← add (.scalar (properties.scalarTag text plain) text)
  setAnchor properties id
  return id

def deepest : Nat := 488

def inside {α : Type} (content : Reading α) : Reading α := do
  if deepest ≤ (← get).depth then throw (.tooDeep .document)
  modify fun reader => { reader with depth := reader.depth + 1 }
  let result ← content
  modify fun reader => { reader with depth := reader.depth - 1 }
  return result

def sequence (properties : Properties) (items : Reading (List NodeId)) : Reading NodeId := do
  checkAnchor properties
  let tag := properties.tagOr .sequence
  let id ← add (.sequence tag [])
  setAnchor properties id
  finish id (.sequence tag (← inside items))

def mapping (properties : Properties) (entries : Reading (List (NodeId × NodeId))) :
    Reading NodeId := do
  checkAnchor properties
  let tag := properties.tagOr .mapping
  let id ← add (.mapping tag [])
  setAnchor properties id
  finish id (.mapping tag (← inside entries))

def aliased (name : String) : Reading NodeId := do
  match (← get).anchors.lookup name with
  | some id => return id
  | none => throw .document

def endsItem (token : Token) : Bool := token = .entry || token = .blockEnd

def endsBlockPart (token : Token) : Bool :=
  token = .key || token = .value || token = .blockEnd

def endsIndentlessItem (token : Token) : Bool := token = .entry || endsBlockPart token

def endsFlowValue (close token : Token) : Bool := token = .comma || token = close

def endsFlowKey (close token : Token) : Bool := token = .value || endsFlowValue close token

mutual

-- Block collections stand only where blocks may, and a sequence without indentation of its own only
-- as part of a block mapping.
def node (handles : Handles) : Nat → Bool → Bool → Reading NodeId
  | 0, _, _ => throw .document
  | fuel + 1, inBlock, indentless => do
    match ← peek with
    | some (.alias name) =>
      advance
      aliased name
    | _ =>
      let properties ← properties handles
      match ← peek, inBlock, indentless with
      | some .entry, _, true => sequence properties (indentlessItems handles fuel)
      | some (.scalar text plain), _, _ =>
        advance
        scalar properties text plain
      | some .flowSequence, _, _ =>
        sequence properties (do advance; flowItems handles fuel true)
      | some .flowMapping, _, _ =>
        mapping properties (do advance; flowEntries handles fuel true)
      | some .blockSequence, true, _ => sequence properties (do advance; blockItems handles fuel)
      | some .blockMapping, true, _ => mapping properties (do advance; blockEntries handles fuel)
      | _, _, _ =>
        if properties.anchor.isNone && properties.tag.isNone then throw .document
        else scalar properties [] properties.isOpen

def nodeUnless (handles : Handles) (ends : Token → Bool) :
    Nat → Bool → Bool → Reading NodeId
  | 0, _, _ => throw .document
  | fuel + 1, inBlock, indentless => do
    if ← sees ends then addEmpty else node handles fuel inBlock indentless

def blockItems (handles : Handles) : Nat → Reading (List NodeId)
  | 0 => throw .document
  | fuel + 1 => do
    if ← take .entry then
      let item ← nodeUnless handles endsItem fuel true false
      return item :: (← blockItems handles fuel)
    else
      expect .blockEnd
      return []

def indentlessItems (handles : Handles) : Nat → Reading (List NodeId)
  | 0 => throw .document
  | fuel + 1 => do
    if ← take .entry then
      let item ← nodeUnless handles endsIndentlessItem fuel true false
      return item :: (← indentlessItems handles fuel)
    else return []

def blockEntries (handles : Handles) : Nat → Reading (List (NodeId × NodeId))
  | 0 => throw .document
  | fuel + 1 => do
    if ← take .key then
      let key ← nodeUnless handles endsBlockPart fuel true true
      let value ← if ← take .value then nodeUnless handles endsBlockPart fuel true true
        else addEmpty
      return (key, value) :: (← blockEntries handles fuel)
    else
      expect .blockEnd
      return []

def flowPair (handles : Handles) (close : Token) : Nat → Reading (NodeId × NodeId)
  | 0 => throw .document
  | fuel + 1 => do
    let key ← nodeUnless handles (endsFlowKey close) fuel false false
    let value ← if ← take .value then nodeUnless handles (endsFlowValue close) fuel false false
      else addEmpty
    return (key, value)

def flowItems (handles : Handles) : Nat → Bool → Reading (List NodeId)
  | 0, _ => throw .document
  | fuel + 1, first => do
    if ← take .flowSequenceEnd then return []
    if !first then expect .comma
    if ← sees (· = .key) then
      let item ← mapping ⟨none, none⟩ do
        advance
        return [← flowPair handles .flowSequenceEnd fuel]
      return item :: (← flowItems handles fuel false)
    else if ← take .flowSequenceEnd then return []
    else
      let item ← node handles fuel false false
      return item :: (← flowItems handles fuel false)

def flowEntries (handles : Handles) : Nat → Bool → Reading (List (NodeId × NodeId))
  | 0, _ => throw .document
  | fuel + 1, first => do
    if ← take .flowMappingEnd then return []
    if !first then expect .comma
    if ← take .key then
      let pair ← flowPair handles .flowMappingEnd fuel
      return pair :: (← flowEntries handles fuel false)
    else if ← take .flowMappingEnd then return []
    else
      let key ← node handles fuel false false
      let _ ← peek
      let value ← addEmpty
      return (key, value) :: (← flowEntries handles fuel false)

end

def directives : Nat → Bool → Handles → Reading Handles
  | 0, _, _ => throw .document
  | fuel + 1, versioned, handles => do
    match ← peek with
    | some (.directive (.version major)) =>
      advance
      if versioned || major != 1 then throw .document
      directives fuel true handles
    | some (.directive (.handle name leading)) =>
      advance
      if handles.any fun entry => entry.1 = name then throw .document
      directives fuel versioned ((name, leading) :: handles)
    | some (.directive .reserved) =>
      advance
      directives fuel versioned handles
    | _ => return handles

def opensDocument : Token → Bool
  | .directive _ | .documentStart => true
  | _ => false

def isBare : Option Token → Bool
  | none | some .documentEnd => true
  | some token => opensDocument token

def stepBound : Reading Nat := do return 4 * (← get).tokens.list.length + 4

def content (handles : Handles) : Reading NodeId := do
  let fuel ← stepBound
  if isBare (← peek) then addEmpty else node handles fuel true false

def root? : Reading (Option NodeId) := do
  let fuel ← stepBound
  match ← peek with
  | none => return none
  | some token =>
    if opensDocument token then
      let handles ← directives fuel false []
      expect .documentStart
      return some (← content (handles ++ standardHandles))
    else return some (← node standardHandles fuel true false)

def dropDocumentEnds : Nat → Reading Unit
  | 0 => throw .document
  | fuel + 1 => do if ← take .documentEnd then dropDocumentEnds fuel

def close : Reading Unit := do
  let fuel ← stepBound
  dropDocumentEnds fuel
  if (← peek).isSome then
    let _ ← directives fuel false []
    let _ ← peek
    throw .document

def document : Reading (Option NodeId) := do
  let root ← root?
  close
  return root

end Reader

def Graph.ofTokens (tokens : Tokens) : Except Fault (Graph × Option NodeId) := do
  let (root, reader) ← Reader.document.run ⟨tokens, [], .empty, 0⟩
  return (reader.graph, root)

end KeyCustody.Yaml
