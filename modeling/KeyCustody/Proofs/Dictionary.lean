import KeyCustody.Proofs.Entries
import KeyCustody.Proofs.Except
import KeyCustody.Yaml.Document

/-!
Mappings of a document have each key once, on every level, however often it is written in them or
merged into them.
-/

set_option autoImplicit false

namespace KeyCustody

namespace Value

def Apart (entries : Entries) : Prop :=
  entries.Pairwise fun entry later => entry.1.sameKey later.1 = false

theorem text_same_iff (name : Text) (key : Value) :
    (text name).sameKey key = true ↔ key = .text name := by
  cases key with
  | text other =>
      rw [sameKey, beq_iff_eq, text.injEq]
      exact eq_comm
  | _ => simp [sameKey, count?]

theorem stored_keys (entries : Entries) (entry : Value × Value) :
    (entries.map fun held =>
        if held.1.sameKey entry.1 then (held.1, entry.2) else held).map Prod.fst =
      entries.map Prod.fst := by
  rw [List.map_map]
  apply List.map_congr_left
  intro held _
  change (if held.1.sameKey entry.1 = true then (held.1, entry.2) else held).1 = held.1
  split <;> rfl

theorem apart_keys_iff (entries : Entries) :
    Apart entries ↔ (entries.map Prod.fst).Pairwise fun key later => key.sameKey later = false :=
  Iff.symm List.pairwise_map

theorem store_apart (entries : Entries) (entry : Value × Value) (apart : Apart entries) :
    Apart (store entries entry) := by
  rw [store]
  split
  · rw [apart_keys_iff, stored_keys, ← apart_keys_iff]
    exact apart
  · next fresh =>
      refine List.pairwise_append.mpr ⟨apart, List.pairwise_singleton _ _, ?_⟩
      intro held member added same
      rw [List.mem_singleton.mp same]
      exact Bool.eq_false_iff.mpr fun equal =>
        fresh (List.any_eq_true.mpr ⟨held, member, equal⟩)

theorem dictionary_apart (entries : Entries) : Apart (dictionary entries) := by
  have stored (held : Entries) (apart : Apart held) : Apart (entries.foldl store held) := by
    induction entries generalizing held with
    | nil => exact apart
    | cons entry rest ih => exact ih _ (store_apart held entry apart)
  exact stored [] List.Pairwise.nil

theorem store_values (holds : Value → Prop) (entries : Entries) (entry : Value × Value)
    (all : ∀ held ∈ entries, holds held.2) (own : holds entry.2) :
    ∀ held ∈ store entries entry, holds held.2 := by
  intro held member
  rw [store] at member
  split at member
  · obtain ⟨old, there, rfl⟩ := List.mem_map.mp member
    split
    · exact own
    · exact all old there
  · rcases List.mem_append.mp member with there | added
    · exact all held there
    · rw [List.mem_singleton.mp added]
      exact own

theorem dictionary_values (holds : Value → Prop) (entries : Entries)
    (all : ∀ entry ∈ entries, holds entry.2) : ∀ entry ∈ dictionary entries, holds entry.2 := by
  have stored (held : Entries) (known : ∀ entry ∈ held, holds entry.2) :
      ∀ entry ∈ entries.foldl store held, holds entry.2 := by
    induction entries generalizing held with
    | nil => exact known
    | cons entry rest ih =>
        rw [List.forall_mem_cons] at all
        exact ih all.2 _ (store_values holds held entry known all.1)
  exact stored [] (List.forall_mem_nil _)

theorem apart_distinct (fields : List (Text × Value))
    (apart : Apart (fields.map fun field => (.text field.1, field.2))) :
    (fields.map Prod.fst).Nodup := by
  rw [Apart, List.pairwise_map] at apart
  refine List.pairwise_map.mpr (apart.imp fun {field later} different same => ?_)
  rw [(text_same_iff field.1 (.text later.1)).mpr (congrArg Value.text same.symm)] at different
  cases different

-- Values whose mappings have each key once.
inductive Keyed : Value → Prop
  | scalar (value : Value) (scalar : Yaml.Scalar) (same : value = scalar.value) : Keyed value
  | list (items : List Value) (inner : ∀ item ∈ items, Keyed item) : Keyed (.list items)
  | set (members : List Value) : Keyed (.set members)
  | mapping (entries : Entries) (apart : Apart entries)
      (inner : ∀ entry ∈ entries, Keyed entry.2) : Keyed (.mapping entries)

theorem keyed_apart (entries : Entries) (keyed : Keyed (.mapping entries)) : Apart entries := by
  cases keyed with
  | scalar _ scalar same => cases scalar <;> cases same
  | mapping _ apart _ => exact apart

theorem keyed_field (entries : Entries) (keyed : Keyed (.mapping entries)) (name : Text)
    (value : Value) (found : field? entries name = some value) : Keyed value := by
  cases keyed with
  | scalar _ scalar same => cases scalar <;> cases same
  | mapping _ _ inner => exact inner _ (field_mem entries name value found)

end Value

namespace Yaml

open Value (Keyed)

namespace Builder

def KeyedAll (values : Array Value) : Prop := ∀ value ∈ values, Keyed value

theorem value_at_keyed (values : Array Value) (keyed : KeyedAll values) (id : NodeId) :
    Keyed (valueAt values id) := by
  rw [valueAt]
  cases found : values[id]? with
  | none => exact .scalar _ .null rfl
  | some value => exact keyed value (Array.mem_of_getElem? found)

theorem value_keyed (values : Array Value) (keyed : KeyedAll values) (part : Part) :
    Keyed (value values part) := by
  cases part with
  | single scalar => exact .scalar _ scalar rfl
  | list items =>
      refine .list _ fun item member => ?_
      obtain ⟨id, _, rfl⟩ := List.mem_map.mp member
      exact value_at_keyed values keyed id
  | pairs entries =>
      refine .list _ fun pair member => ?_
      obtain ⟨entry, _, rfl⟩ := List.mem_map.mp member
      refine .list _ (List.forall_mem_cons.mpr ⟨value_at_keyed values keyed entry.1, ?_⟩)
      exact List.forall_mem_singleton.mpr (value_at_keyed values keyed entry.2)
  | set members => exact .set _
  | mapping entries =>
      refine .mapping _ (Value.dictionary_apart _) (Value.dictionary_values Keyed _ ?_)
      intro entry member
      obtain ⟨own, _, rfl⟩ := List.mem_map.mp member
      exact value_at_keyed values keyed own.2

theorem value_or_keyed (values : Array Value) (keyed : KeyedAll values) (part : Option Part) :
    Keyed (valueOr values part) := by
  cases part with
  | none => exact .scalar _ .null rfl
  | some part => exact value_keyed values keyed part

theorem blank_values_keyed (parts : Array (Option Part)) : KeyedAll (blankValues parts) := by
  have empty : KeyedAll #[] := fun value member => absurd member (Array.not_mem_empty value)
  intro value member
  obtain ⟨part, _, rfl⟩ := Array.mem_map.mp member
  cases part with
  | none => exact .scalar _ .null rfl
  | some part =>
      cases part with
      | single scalar => exact .scalar _ scalar rfl
      | _ => exact value_keyed #[] empty _

theorem pass_keyed (builder : Builder) (values : Array Value) (keyed : KeyedAll values) :
    KeyedAll (pass builder values) := by
  rw [pass, ← Array.foldl_toList]
  induction builder.graph.ended.toList generalizing values with
  | nil => exact keyed
  | cons id rest ih =>
      refine ih _ fun value member => ?_
      rcases Array.mem_or_eq_of_mem_setIfInBounds member with held | rfl
      · exact keyed value held
      · exact value_or_keyed values keyed _

theorem passes_keyed (builder : Builder) (count : Nat) (values : Array Value)
    (keyed : KeyedAll values) : KeyedAll (passes builder count values) := by
  induction count generalizing values with
  | zero => exact keyed
  | succ count ih => exact ih _ (pass_keyed builder values keyed)

theorem values_keyed (builder : Builder) : KeyedAll builder.values :=
  passes_keyed builder levels _ (blank_values_keyed builder.parts)

end Builder

theorem graph_value_keyed (graph : Graph) (root : NodeId) (value : Value)
    (told : graph.value root = .ok value) : Keyed value := by
  obtain ⟨⟨_, builder⟩, _, same⟩ := (bind_ok_iff _ _ _).mp told
  cases same
  exact Builder.value_at_keyed _ builder.values_keyed root

theorem read_keyed (text : List Char) (value : Value) (told : read text = .ok value) :
    Keyed value := by
  rw [read] at told
  split at told
  · cases told
  · obtain ⟨⟨graph, root⟩, _, same⟩ := (bind_ok_iff _ _ _).mp told
    cases root with
    | none =>
        cases same
        exact .scalar _ .null rfl
    | some root => exact graph_value_keyed graph root value same

end Yaml

end KeyCustody
