import KeyCustody.Bytes

/-! Entries by key, in the order in which their keys first came. -/

set_option autoImplicit false

namespace KeyCustody

abbrev Ledger (α : Type) := List (Bytes × α)

namespace Ledger

variable {α : Type}

def get? (ledger : Ledger α) (key : Bytes) : Option α :=
  match ledger with
  | [] => none
  | (k, value) :: rest => if k = key then some value else get? rest key

def put (ledger : Ledger α) (key : Bytes) (value : α) : Ledger α :=
  match ledger with
  | [] => [(key, value)]
  | (k, old) :: rest => if k = key then (k, value) :: rest else (k, old) :: put rest key value

def keys (ledger : Ledger α) : List Bytes := ledger.map (·.1)

def has (ledger : Ledger α) (key : Bytes) : Bool := (ledger.get? key).isSome

theorem get_put (ledger : Ledger α) (key other : Bytes) (value : α) :
    (ledger.put key value).get? other = if key = other then some value else ledger.get? other := by
  induction ledger with
  | nil => rfl
  | cons entry rest ih =>
    obtain ⟨first, old⟩ := entry
    by_cases found : first = key
    · subst found
      by_cases asked : first = other <;> simp [put, get?, asked]
    · by_cases asked : first = other
      · subst asked
        simp [put, get?, found, Ne.symm found]
      · simp [put, get?, found, asked, ih]

-- A key that is there keeps its place, and a new one comes last.
theorem keys_put (ledger : Ledger α) (key : Bytes) (value : α) :
    (ledger.put key value).keys =
      if key ∈ ledger.keys then ledger.keys else ledger.keys ++ [key] := by
  induction ledger with
  | nil => rfl
  | cons entry rest ih =>
    obtain ⟨first, old⟩ := entry
    by_cases found : first = key
    · simp [put, keys, found]
    · have kept : keys (put ((first, old) :: rest) key value) =
          first :: keys (put rest key value) := by
        rw [put, if_neg found]
        rfl
      have asked : key ∈ keys ((first, old) :: rest) ↔ key ∈ keys rest :=
        List.mem_cons.trans (or_iff_right (Ne.symm found))
      rw [kept, ih]
      by_cases held : key ∈ keys rest
      · rw [if_pos held, if_pos (asked.mpr held)]
        rfl
      · rw [if_neg held, if_neg (held ∘ asked.mp)]
        rfl

theorem has_iff_mem_keys (ledger : Ledger α) (key : Bytes) :
    ledger.has key = true ↔ key ∈ ledger.keys := by
  induction ledger with
  | nil => simp [has, get?, keys]
  | cons entry rest ih =>
    obtain ⟨first, old⟩ := entry
    rw [has, get?, keys, List.map_cons, List.mem_cons]
    by_cases found : first = key
    · simp [found]
    · rw [if_neg found]
      exact ih.trans (or_iff_right (Ne.symm found)).symm

end Ledger

end KeyCustody
