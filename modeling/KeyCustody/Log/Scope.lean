import KeyCustody.Fault

/-! The tags that log lines carry while a key is in use. -/

set_option autoImplicit false

namespace KeyCustody

structure Scope where
  keyRole : Option Text
  pubkey : Option Text
  delegator : Option Text
  caller : Option Text
deriving DecidableEq

namespace Scope

def empty : Scope := ⟨none, none, none, none⟩

def tagNames : List Text := ["key_role", "pubkey", "delegator", "caller"]

def slots (scope : Scope) : List (Text × Option Text) :=
  [("key_role", scope.keyRole), ("pubkey", scope.pubkey), ("delegator", scope.delegator),
    ("caller", scope.caller)]

def tags (scope : Scope) : List (Text × Text) :=
  scope.slots.filterMap fun (name, value) => value.map fun value => (name, value)

def within (outer inner : Scope) : Scope :=
  ⟨inner.keyRole <|> outer.keyRole, inner.pubkey <|> outer.pubkey,
    inner.delegator <|> outer.delegator, inner.caller <|> outer.caller⟩

abbrev Tags := List (Text × Option Text)

def tag? (tags : Tags) (name : Text) : Option Text :=
  ((tags.reverse.find? fun entry => entry.1 = name).bind (·.2))

def unknownNames (tags : Tags) : List Text :=
  ((tags.map (·.1)).filter fun name => !tagNames.contains name).mergeSort Text.precedes

def ofTags (tags : Tags) : Except Fault Scope :=
  match unknownNames tags with
  | [] => .ok ⟨tag? tags "key_role", tag? tags "pubkey", tag? tags "delegator", tag? tags "caller"⟩
  | names => .error (.scopeTags names)

def joinWords : List Text → Text
  | [] => []
  | [word] => word
  | word :: rest => word ++ .char ' ' :: joinWords rest

def describe (scope : Scope) : Text :=
  match scope.tags with
  | [] => "-"
  | tags => joinWords (tags.map fun (name, value) => name ++ .char '=' :: value)

end Scope

end KeyCustody
