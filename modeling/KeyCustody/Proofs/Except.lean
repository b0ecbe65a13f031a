/-!
When chained, mapped and renamed answers succeed.
-/

set_option autoImplicit false

namespace KeyCustody

variable {ε δ α β : Type}

theorem bind_ok_iff (answer : Except ε α) (next : α → Except ε β) (result : β) :
    answer >>= next = .ok result ↔ ∃ value, answer = .ok value ∧ next value = .ok result := by
  cases answer with
  | error fault => simp [bind, Except.bind]
  | ok value => simp [bind, Except.bind]

theorem map_ok_iff (answer : Except ε α) (f : α → β) (result : β) :
    answer.map f = .ok result ↔ ∃ value, answer = .ok value ∧ f value = result := by
  cases answer with
  | error fault => simp [Except.map]
  | ok value => simp [Except.map]

theorem map_error_iff (answer : Except ε α) (f : α → β) (fault : ε) :
    answer.map f = .error fault ↔ answer = .error fault := by
  cases answer with
  | error other => simp [Except.map]
  | ok value => simp [Except.map]

theorem map_error_ok_iff (answer : Except ε α) (f : ε → δ) (result : α) :
    answer.mapError f = .ok result ↔ answer = .ok result := by
  cases answer with
  | error fault =>
      change Except.error (f fault) = .ok result ↔ _
      simp
  | ok value =>
      change Except.ok value = .ok result ↔ _
      simp

theorem map_error_error_iff (answer : Except ε α) (f : ε → δ) (fault : δ) :
    answer.mapError f = .error fault ↔ ∃ cause, answer = .error cause ∧ f cause = fault := by
  cases answer with
  | error cause =>
      change Except.error (f cause) = .error fault ↔ _
      simp
  | ok value =>
      change Except.ok value = .error fault ↔ _
      simp

-- Faults cannot be compared, so an answer is computed through the value it may hold.
theorem ok_of_to_option (answer : Except ε α) (value : α) (held : answer.toOption = some value) :
    answer = .ok value := by
  cases answer with
  | error fault => cases held
  | ok other => rw [Option.some.inj held]

end KeyCustody
