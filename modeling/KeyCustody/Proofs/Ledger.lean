import KeyCustody.Ledger

/-!
Ledgers as sets of entries: what a write adds, what it leaves alone, and when a key has one entry
only.
-/

set_option autoImplicit false

namespace KeyCustody.Ledger

variable {α : Type}

theorem get_member (ledger : Ledger α) (key : Bytes) (value : α)
    (found : ledger.get? key = some value) : (key, value) ∈ ledger := by
  induction ledger with
  | nil => cases found
  | cons entry rest ih =>
      obtain ⟨k, old⟩ := entry
      by_cases same : k = key
      · subst same
        have value_eq : old = value := by simpa [get?] using found
        rw [value_eq]
        exact List.mem_cons_self
      · exact List.mem_cons_of_mem _ (ih (by simpa [get?, same] using found))

theorem member_get (ledger : Ledger α) (key : Bytes) (value : α) (unique : ledger.keys.Nodup)
    (member : (key, value) ∈ ledger) : ledger.get? key = some value := by
  induction ledger with
  | nil => cases member
  | cons entry rest ih =>
      obtain ⟨k, old⟩ := entry
      obtain ⟨absent, tail⟩ := List.nodup_cons.mp unique
      rcases List.mem_cons.mp member with here | later
      · cases here
        simp [get?]
      · -- The key stands once, so no entry in front can hide this one.
        have different : k ≠ key := by
          intro same
          subst same
          exact absent (List.mem_map.mpr ⟨(k, value), later, rfl⟩)
        simpa [get?, different] using ih tail later

theorem get_is_some_iff (ledger : Ledger α) (key : Bytes) :
    (∃ value, ledger.get? key = some value) ↔ key ∈ ledger.keys := by
  rw [← has_iff_mem_keys, has, Option.isSome_iff_exists]

theorem get_none_iff (ledger : Ledger α) (key : Bytes) :
    ledger.get? key = none ↔ key ∉ ledger.keys := by
  rw [← has_iff_mem_keys, has]
  cases ledger.get? key <;> simp

theorem member_put (ledger : Ledger α) (key : Bytes) (value : α) (entry : Bytes × α)
    (member : entry ∈ ledger.put key value) : entry = (key, value) ∨ entry ∈ ledger := by
  induction ledger with
  | nil => exact Or.inl (List.mem_singleton.mp member)
  | cons head rest ih =>
      obtain ⟨k, old⟩ := head
      by_cases same : k = key
      · subst same
        simp only [put, if_pos] at member
        rcases List.mem_cons.mp member with here | later
        · exact Or.inl here
        · exact Or.inr (List.mem_cons_of_mem _ later)
      · simp only [put, if_neg same] at member
        rcases List.mem_cons.mp member with here | later
        · exact Or.inr (by simp [here])
        · exact (ih later).imp id (List.mem_cons_of_mem _)

theorem keys_put_nodup (ledger : Ledger α) (key : Bytes) (value : α)
    (unique : ledger.keys.Nodup) : (ledger.put key value).keys.Nodup := by
  rw [keys_put]
  by_cases present : key ∈ ledger.keys
  · rwa [if_pos present]
  · rw [if_neg present, List.nodup_append]
    refine ⟨unique, by simp, ?_⟩
    intro a first b second same
    rw [List.mem_singleton.mp second] at same
    exact present (same ▸ first)

-- Keys are never moved or taken out, so earlier key lists stay in front of later ones.
theorem keys_put_prefix (ledger : Ledger α) (key : Bytes) (value : α) :
    ledger.keys <+: (ledger.put key value).keys := by
  rw [keys_put]
  split
  · exact List.prefix_refl _
  · exact List.prefix_append _ _

end KeyCustody.Ledger
