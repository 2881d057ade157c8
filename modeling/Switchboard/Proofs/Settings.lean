import Switchboard.Settings

/-!
# Which settings are usable

The check lets settings pass exactly when they keep all three rules, and passes
them on unchanged.
-/

namespace Switchboard.Settings

variable {settings valid : Settings}

theorem zeroQuantity?_eq_none_iff :
    settings.zeroQuantity? = none ↔ ∀ quantity, 0 < settings.quantity quantity := by
  rw [zeroQuantity?, List.find?_eq_none]
  constructor
  · intro positive quantity
    have notZero := positive quantity (by cases quantity <;> decide)
    exact Nat.pos_of_ne_zero fun isZero => notZero (decide_eq_true isZero)
  · intro positive quantity _ isZero
    exact absurd (of_decide_eq_true isZero) (Nat.ne_of_gt (positive quantity))

theorem relativeRoute?_eq_none_iff :
    settings.relativeRoute? = none ↔
      ∀ route, (settings.path route).toList.head? = some '/' := by
  rw [relativeRoute?, List.find?_eq_none]
  constructor
  · intro absolute route
    have notRelative := absolute route (by cases route <;> decide)
    exact Decidable.of_not_not fun isRelative => notRelative (decide_eq_true isRelative)
  · intro absolute route _ isRelative
    exact of_decide_eq_true isRelative (absolute route)

theorem validate_eq_self (positive : settings.zeroQuantity? = none)
    (absolute : settings.relativeRoute? = none) (usable : settings.vocabulary.isUsable = true) :
    settings.validate = .ok settings := by
  rw [validate, positive, absolute]
  exact if_pos usable

/-- Settings pass the check when all quantities are positive, all paths begin
with a slash, and the vocabulary is usable. -/
theorem validate_eq_ok_iff :
    settings.validate = .ok valid ↔ valid = settings ∧
      (∀ quantity, 0 < settings.quantity quantity) ∧
      (∀ route, (settings.path route).toList.head? = some '/') ∧
      settings.vocabulary.isUsable = true := by
  rw [← zeroQuantity?_eq_none_iff, ← relativeRoute?_eq_none_iff, validate]
  cases settings.zeroQuantity? with
  | some => simp
  | none =>
      cases settings.relativeRoute? with
      | some => simp
      | none =>
          cases settings.vocabulary.isUsable with
          | false => simp
          | true => simp [eq_comm]

end Switchboard.Settings
