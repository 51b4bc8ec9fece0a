import Mathlib.Data.List.Forall2

/-! # Computations that may fail -/

namespace Except

variable {ε α β : Type} {x : Except ε α} {f : α → Except ε β} {b : β} {a : α} {c : Prop}

lemma of_bind_ok (h : (x >>= f) = .ok b) : ∃ a, x = .ok a ∧ f a = .ok b := by
  cases x with
  | error e => cases h
  | ok a => exact ⟨a, rfl, h⟩

lemma ok_bind (h : x = .ok a) (f : α → Except ε β) : (x >>= f) = f a := by
  rw [h]
  rfl

lemma of_ite_error_ok [Decidable c] {e : ε}
    (h : (if c then .error e else x) = .ok a) : ¬ c ∧ x = .ok a := by
  by_cases hc : c
  · rw [if_pos hc] at h
    cases h
  · rw [if_neg hc] at h
    exact ⟨hc, h⟩

lemma bind_eq_ok : (x >>= f) = .ok b ↔ ∃ a, x = .ok a ∧ f a = .ok b :=
  ⟨of_bind_ok, fun ⟨_, ha, hb⟩ => (ok_bind ha f).trans hb⟩

lemma unit_bind_eq_ok {x : Except ε Unit} {y : Except ε β} :
    (x >>= fun _ => y) = .ok b ↔ x = .ok () ∧ y = .ok b :=
  ⟨fun h => (of_bind_ok h).elim fun _ h => h, fun h => (ok_bind h.1 _).trans h.2⟩

lemma map_eq_ok {f : α → β} : (x >>= fun a => pure (f a)) = .ok b ↔ ∃ a, x = .ok a ∧ f a = b := by
  rw [bind_eq_ok]
  exact exists_congr fun a => and_congr_right fun _ => Except.ok.injEq (f a) b ▸ Iff.rfl

lemma ite_error_eq_ok [Decidable c] {e : ε} :
    (if c then .error e else x) = .ok a ↔ ¬ c ∧ x = .ok a :=
  ⟨of_ite_error_ok, fun h => (if_neg h.1).trans h.2⟩

lemma ite_error_bind_eq_ok [Decidable c] {e : ε} {y : Except ε β} :
    (if c then .error e >>= f else y) = .ok b ↔ ¬ c ∧ y = .ok b :=
  ite_error_eq_ok

lemma mapError_eq_ok {ε' : Type} {f : ε → ε'} : x.mapError f = .ok a ↔ x = .ok a := by
  cases x <;> simp [Except.mapError]

lemma pure_eq_ok {b : α} : (pure a : Except ε α) = .ok b ↔ a = b :=
  ⟨Except.ok.inj, congrArg Except.ok⟩

end Except
