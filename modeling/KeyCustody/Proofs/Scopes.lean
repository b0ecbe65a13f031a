import KeyCustody.Log.Scope
import Mathlib.Data.List.Nodup

/-!
What a scope holds, field by field. Blocks give values under names, in any order; of nested blocks
the innermost that gives a value counts.
-/

set_option autoImplicit false

namespace KeyCustody

namespace Scope

inductive Field where
  | keyRole
  | pubkey
  | delegator
  | caller
deriving DecidableEq

def Field.all : List Field := [keyRole, pubkey, delegator, caller]

def Field.name : Field → Text
  | keyRole => "key_role"
  | pubkey => "pubkey"
  | delegator => "delegator"
  | caller => "caller"

def get (scope : Scope) : Field → Option Text
  | .keyRole => scope.keyRole
  | .pubkey => scope.pubkey
  | .delegator => scope.delegator
  | .caller => scope.caller

theorem get_within (outer inner : Scope) (field : Field) :
    (outer.within inner).get field = (inner.get field <|> outer.get field) := by
  cases field <;> rfl

theorem tags_listed (scope : Scope) :
    scope.tags = Field.all.filterMap fun field =>
      (scope.get field).map fun value => (field.name, value) := rfl

theorem find_named_iff (tags : Tags) (distinct : (tags.map (·.1)).Nodup) (name : Text)
    (entry : Text × Option Text) :
    tags.find? (fun entry => entry.1 = name) = some entry ↔ entry ∈ tags ∧ entry.1 = name := by
  constructor
  · intro found
    exact ⟨List.mem_of_find?_eq_some found, by simpa using List.find?_some found⟩
  · rintro ⟨member, named⟩
    cases found : tags.find? (fun entry => entry.1 = name) with
    | none =>
        have absent := List.find?_eq_none.mp found entry member
        exact absurd named (by simpa using absent)
    | some other =>
        have otherNamed : other.1 = name := by simpa using List.find?_some found
        have otherMember := List.mem_of_find?_eq_some found
        rw [List.inj_on_of_nodup_map distinct otherMember member (otherNamed.trans named.symm)]

-- The last of equal names counts, so without equal names every one does.
theorem tag_iff (tags : Tags) (distinct : (tags.map (·.1)).Nodup) (name value : Text) :
    tag? tags name = some value ↔ (name, some value) ∈ tags := by
  have backwards : (tags.reverse.map (·.1)).Nodup := by
    rw [List.map_reverse]
    exact List.nodup_reverse.mpr distinct
  rw [tag?, Option.bind_eq_some_iff]
  constructor
  · rintro ⟨⟨_, _⟩, found, rfl⟩
    obtain ⟨member, rfl⟩ := (find_named_iff _ backwards name _).mp found
    exact List.mem_reverse.mp member
  · intro member
    exact ⟨(name, some value),
      (find_named_iff _ backwards name _).mpr ⟨List.mem_reverse.mpr member, rfl⟩, rfl⟩

end Scope

-- The tags of a block, none of them given twice.
structure Keywords where
  tags : Scope.Tags
  distinct : (tags.map (·.1)).Nodup

namespace Keywords

def names (keywords : Keywords) : List Text := keywords.tags.map (·.1)

def Known (keywords : Keywords) : Prop := ∀ name ∈ keywords.names, name ∈ Scope.tagNames

-- A tag without a value gives none.
def Gives (keywords : Keywords) (field : Scope.Field) (value : Text) : Prop :=
  (field.name, some value) ∈ keywords.tags

def scope (keywords : Keywords) : Scope :=
  ⟨Scope.tag? keywords.tags "key_role", Scope.tag? keywords.tags "pubkey",
    Scope.tag? keywords.tags "delegator", Scope.tag? keywords.tags "caller"⟩

theorem scope_get_iff (keywords : Keywords) (field : Scope.Field) (value : Text) :
    keywords.scope.get field = some value ↔ keywords.Gives field value := by
  cases field <;> exact Scope.tag_iff keywords.tags keywords.distinct _ value

theorem scope_get_none (keywords : Keywords) (field : Scope.Field)
    (silent : ∀ value, ¬ keywords.Gives field value) : keywords.scope.get field = none := by
  cases held : keywords.scope.get field with
  | none => rfl
  | some value => exact absurd ((keywords.scope_get_iff field value).mp held) (silent value)

theorem mem_unknown_names_iff (keywords : Keywords) (name : Text) :
    name ∈ Scope.unknownNames keywords.tags ↔ name ∈ keywords.names ∧ name ∉ Scope.tagNames := by
  rw [Scope.unknownNames, List.mem_mergeSort, List.mem_filter]
  simp [names]

theorem of_tags_known (keywords : Keywords) (known : keywords.Known) :
    Scope.ofTags keywords.tags = .ok keywords.scope := by
  have none_unknown : Scope.unknownNames keywords.tags = [] := by
    apply List.eq_nil_iff_forall_not_mem.mpr
    intro name unknown
    obtain ⟨given, foreign⟩ := (keywords.mem_unknown_names_iff name).mp unknown
    exact foreign (known name given)
  rw [Scope.ofTags, none_unknown]
  rfl

theorem of_tags_unknown (keywords : Keywords) (unknown : ¬ keywords.Known) :
    Scope.ofTags keywords.tags = .error (.scopeTags (Scope.unknownNames keywords.tags)) := by
  rw [Scope.ofTags]
  split
  · next none_unknown =>
      refine absurd (fun name given => ?_) unknown
      by_contra foreign
      have listed := (keywords.mem_unknown_names_iff name).mpr ⟨given, foreign⟩
      rw [none_unknown] at listed
      cases listed
  · rfl

end Keywords

/-! ## Nested blocks -/

-- The scope inside blocks, the innermost first.
def nested (outer : Scope) : List Keywords → Scope
  | [] => outer
  | block :: older => (nested outer older).within block.scope

-- What the scope inside blocks has to hold.
structure ScopeWithin (outer : Scope) (blocks : List Keywords) (scope : Scope) : Prop where
  innermost : ∀ field value newer block older, blocks = newer ++ block :: older →
    block.Gives field value → (∀ other ∈ newer, ∀ value, ¬ other.Gives field value) →
      scope.get field = some value
  inherited : ∀ field, (∀ block ∈ blocks, ∀ value, ¬ block.Gives field value) →
    scope.get field = outer.get field
  listed : scope.tags = Scope.Field.all.filterMap fun field =>
    (scope.get field).map fun value => (field.name, value)

theorem nested_silent (outer : Scope) (newer older : List Keywords) (field : Scope.Field)
    (silent : ∀ block ∈ newer, ∀ value, ¬ block.Gives field value) :
    (nested outer (newer ++ older)).get field = (nested outer older).get field := by
  induction newer with
  | nil => rfl
  | cons block newer ih =>
      have here := block.scope_get_none field (silent block List.mem_cons_self)
      rw [List.cons_append, nested, Scope.get_within, here]
      exact ih fun other member => silent other (List.mem_cons_of_mem _ member)

theorem nested_within (outer : Scope) (blocks : List Keywords) :
    ScopeWithin outer blocks (nested outer blocks) where
  innermost field value newer block older split gives silent := by
    have here := (block.scope_get_iff field value).mpr gives
    rw [split, nested_silent outer newer _ field silent, nested, Scope.get_within, here]
    rfl
  inherited field silent := by
    have apart := nested_silent outer blocks [] field silent
    rw [List.append_nil] at apart
    exact apart
  listed := Scope.tags_listed _

end KeyCustody
