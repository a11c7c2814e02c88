/-!
# Results that succeed

Readers and calls give a value or an error. The lemmas here say when a result that is put together
from others is a value: exactly when all of its parts are. The first part that is an error is the
error of the whole.
-/

namespace BrokerAdmin.Result

variable {ε ε' α β : Type}

@[simp] theorem ok_bind (x : α) (f : α → Except ε β) : (Except.ok x >>= f) = f x := rfl

@[simp] theorem error_bind (e : ε) (f : α → Except ε β) :
    ((Except.error e : Except ε α) >>= f) = .error e := rfl

@[simp] theorem map_ok (f : α → β) (x : α) : (Except.ok x : Except ε α).map f = .ok (f x) := rfl

@[simp] theorem map_error (f : α → β) (e : ε) :
    (Except.error e : Except ε α).map f = .error e := rfl

@[simp] theorem mapError_ok (f : ε → ε') (x : α) :
    (Except.ok x : Except ε α).mapError f = .ok x := rfl

@[simp] theorem mapError_error (f : ε → ε') (e : ε) :
    (Except.error e : Except ε α).mapError f = .error (f e) := rfl

theorem bind_eq_ok_iff {r : Except ε α} {f : α → Except ε β} {y : β} :
    (r >>= f) = .ok y ↔ ∃ x, r = .ok x ∧ f x = .ok y := by
  cases r <;> simp

/-- One check and then another result. -/
theorem andThen_eq_ok_iff {r : Except ε Unit} {r' : Except ε α} {x : α} :
    (r >>= fun _ => r') = .ok x ↔ r = .ok () ∧ r' = .ok x := by
  cases r <;> simp

theorem bind_eq_error_iff {r : Except ε α} {f : α → Except ε β} {e : ε} :
    (r >>= f) = .error e ↔ r = .error e ∨ ∃ x, r = .ok x ∧ f x = .error e := by
  cases r <;> simp

theorem map_eq_ok_iff {r : Except ε α} {f : α → β} {y : β} :
    r.map f = .ok y ↔ ∃ x, r = .ok x ∧ f x = y := by
  cases r <;> simp

theorem toOption_eq_some_iff {r : Except ε α} {x : α} : r.toOption = some x ↔ r = .ok x := by
  cases r <;> simp [Except.toOption]

theorem mapError_eq_ok_iff {r : Except ε α} {f : ε → ε'} {x : α} :
    r.mapError f = .ok x ↔ r = .ok x := by
  cases r <;> simp

theorem mapError_eq_error_iff {r : Except ε α} {f : ε → ε'} {e : ε'} :
    r.mapError f = .error e ↔ ∃ e', r = .error e' ∧ f e' = e := by
  cases r <;> simp

end BrokerAdmin.Result
