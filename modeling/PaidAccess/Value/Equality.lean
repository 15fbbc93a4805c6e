import PaidAccess.Value.Basic
/-!
Equality of values. Two values are the same when they are built alike; `same_iff` says that this is
equality, so equality of values is decidable.
-/

namespace PaidAccess.Value

mutual

def same : Value → Value → Bool
  | .null, .null => true
  | .bool a, .bool b => a == b
  | .int a, .int b => a == b
  | .real a, .real b => decide (a = b)
  | .text a, .text b => a == b
  | .list a, .list b => sameItems a b
  | .record a, .record b => sameFields a b
  | .handle a, .handle b => same a b
  | _, _ => false

def sameItems : List Value → List Value → Bool
  | [], [] => true
  | a :: as, b :: bs => same a b && sameItems as bs
  | _, _ => false

def sameFields : List (String × Value) → List (String × Value) → Bool
  | [], [] => true
  | (name, a) :: as, (other, b) :: bs => name == other && same a b && sameFields as bs
  | _, _ => false

end

mutual

theorem same_iff : ∀ a b : Value, same a b = true ↔ a = b
  | .list a, b => by
      cases b <;> simp [same]
      exact sameItems_iff a _
  | .record a, b => by
      cases b <;> simp [same]
      exact sameFields_iff a _
  | .handle a, b => by
      cases b <;> simp [same]
      exact same_iff a _
  | .null, b | .bool _, b | .int _, b | .real _, b | .text _, b => by cases b <;> simp [same]

theorem sameItems_iff : ∀ a b : List Value, sameItems a b = true ↔ a = b
  | [], b => by cases b <;> simp [sameItems]
  | a :: as, b => by
      cases b with
      | nil => simp [sameItems]
      | cons b bs => simp [sameItems, same_iff a b, sameItems_iff as bs]

theorem sameFields_iff : ∀ a b : List (String × Value), sameFields a b = true ↔ a = b
  | [], b => by cases b <;> simp [sameFields]
  | (name, a) :: as, b => by
      cases b with
      | nil => simp [sameFields]
      | cons b bs =>
        obtain ⟨other, b⟩ := b
        simp [sameFields, same_iff a b, sameFields_iff as bs, and_assoc]

end

instance : DecidableEq Value := fun a b => decidable_of_iff (same a b = true) (same_iff a b)

end PaidAccess.Value
