import PaidAccess.Proofs.Connections.Registry
/-!
The registry of connections as what stands in a ledger. The ledger keeps every registration that was ever made, in order, and
only marks those that are cancelled.
-/

namespace PaidAccess

/-- A registration of a connection for a user, and whether it stands or has been cancelled. -/
structure Registration where
  userId : String
  connection : Connection
  stands : Bool

/-- The connections of a user whose registrations stand, in the order of their registration. -/
def standing (ledger : List Registration) (userId : String) : List Connection :=
  (ledger.filter fun entry => entry.stands && entry.userId == userId).map (·.connection)

def cancelEarliest (userId : String) (connection : Connection) : List Registration → List Registration
  | [] => []
  | entry :: rest =>
      if entry.stands && entry.userId == userId && entry.connection == connection then
        { entry with stands := false } :: rest
      else entry :: cancelEarliest userId connection rest

def cancelEach (userId : String) (connections : List Connection) (ledger : List Registration) : List Registration :=
  connections.foldl (fun ledger connection => cancelEarliest userId connection ledger) ledger

theorem standing_append (earlier later : List Registration) (userId : String) :
    standing (earlier ++ later) userId = standing earlier userId ++ standing later userId := by
  simp [standing]

theorem standing_cons (entry : Registration) (rest : List Registration) (userId : String) :
    standing (entry :: rest) userId =
      if entry.stands && entry.userId == userId then entry.connection :: standing rest userId else standing rest userId := by
  unfold standing
  rw [List.filter_cons]
  split <;> rfl

theorem standing_cancelEarliest (ledger : List Registration) (userId other : String) (connection : Connection) :
    standing (cancelEarliest userId connection ledger) other =
      if other = userId then (standing ledger userId).erase connection else standing ledger other := by
  induction ledger with
  | nil => split <;> rfl
  | cons entry rest ih =>
    obtain ⟨owner, held, stands⟩ := entry
    by_cases cancelled : stands = true ∧ owner = userId ∧ held = connection
    · obtain ⟨rfl, rfl, rfl⟩ := cancelled
      by_cases same : other = owner
      · subst same
        simp [cancelEarliest, standing_cons]
      · simp [cancelEarliest, standing_cons, same, Ne.symm same]
    · have passed : cancelEarliest userId connection (⟨owner, held, stands⟩ :: rest) =
          ⟨owner, held, stands⟩ :: cancelEarliest userId connection rest :=
        if_neg (by simpa [and_assoc] using cancelled)
      rw [passed, standing_cons, standing_cons, standing_cons, ih]
      by_cases same : other = userId
      · subst same
        by_cases shown : stands = true ∧ owner = other
        · have different : held ≠ connection := fun equal => cancelled ⟨shown.1, shown.2, equal⟩
          simp [shown, List.erase_cons_tail, different]
        · simp [shown]
      · simp [same]

theorem standing_cancelEach (ledger : List Registration) (userId other : String) (connections : List Connection) :
    standing (cancelEach userId connections ledger) other =
      if other = userId then (standing ledger userId).diff connections else standing ledger other := by
  induction connections generalizing ledger with
  | nil => unfold cancelEach; split <;> simp [*]
  | cons first rest ih =>
    have step := ih (cancelEarliest userId first ledger)
    simp only [standing_cancelEarliest, ↓reduceIte] at step
    rw [List.diff_cons]
    exact step.trans (by split <;> rfl)

/-- What an event does to the registrations. -/
inductive Change where
  | none
  | added (userId : String) (connection : Connection)
  | cancelled (userId : String) (connection : Connection)
  /-- A message to a user failed at these connections. -/
  | dismissed (userId : String) (connections : List Connection)

namespace Change

def book (ledger : List Registration) : Change → List Registration
  | .none => ledger
  | .added userId connection => ledger ++ [⟨userId, connection, true⟩]
  | .cancelled userId connection => cancelEarliest userId connection ledger
  | .dismissed userId connections => cancelEach userId connections ledger

def apply (registry : Registry) : Change → Registry
  | .none => registry
  | .added userId connection => registry.register userId connection
  | .cancelled userId connection => registry.unregister userId connection
  | .dismissed userId connections => registry.dismiss userId connections

/-- A registry that holds what stands in a ledger does so after any change of both. -/
theorem lookup_apply {registry : Registry} {ledger : List Registration} (same : registry.lookup = standing ledger)
    (change : Change) : (change.apply registry).lookup = standing (change.book ledger) := by
  funext other
  cases change with
  | none => exact congrFun same other
  | added userId connection =>
    simp only [apply, book, Registry.lookup_register, standing_append, same]
    by_cases owned : other = userId
    · subst owned
      simp [standing]
    · simp [standing, owned, Ne.symm owned]
  | cancelled userId connection =>
    simp only [apply, book, Registry.lookup_unregister, standing_cancelEarliest, same]
  | dismissed userId connections =>
    rw [apply, book, Registry.lookup_dismiss, standing_cancelEach, same]

theorem tidy_apply {registry : Registry} (tidy : registry.Tidy) (change : Change) : (change.apply registry).Tidy := by
  cases change with
  | none => exact tidy
  | dismissed userId connections => exact tidy.dismiss userId connections
  | _ => exact tidy.assign _ _

theorem count_apply (change : Change) (registry : Registry) (userId : String) (connection : Connection) :
    ((change.apply registry).lookup userId).count connection ≤ (registry.lookup userId).count connection ∨
      change = .added userId connection ∧
        ((change.apply registry).lookup userId).count connection = (registry.lookup userId).count connection + 1 := by
  cases change with
  | none => exact .inl (Nat.le_refl _)
  | added owner added =>
    simp only [apply, Registry.lookup_register]
    by_cases owned : userId = owner
    · subst owned
      by_cases same : added = connection
      · subst same
        exact .inr ⟨rfl, by simp⟩
      · simp [List.count_append, same]
    · simp [owned]
  | cancelled owner cancelled =>
    simp only [apply, Registry.lookup_unregister]
    split
    next owned => exact .inl (owned ▸ List.erase_sublist.count_le connection)
    next => exact .inl (Nat.le_refl _)
  | dismissed owner connections =>
    simp only [apply, Registry.lookup_dismiss]
    split
    next owned => exact .inl (owned ▸ (List.diff_sublist _ _).count_le connection)
    next => exact .inl (Nat.le_refl _)

end Change

end PaidAccess
