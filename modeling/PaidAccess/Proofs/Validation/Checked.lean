import PaidAccess.Failure
/-!
When a reader passes. A record passes exactly if each of its fields does, and what it is read as is made of what they are read as.
-/

namespace PaidAccess.Checked

variable {α β : Type} {checked : Checked α} {read : Value → Checked α} {fields : Fields} {name : String} {found : α}

theorem pure_eq_valid_iff {value : α} : (pure value : Checked α) = .valid found ↔ value = found := by
  change Checked.valid value = .valid found ↔ _
  rw [valid.injEq]

theorem seq_eq_valid_iff {build : Checked (α → β)} {made : β} :
    build <*> checked = .valid made ↔ ∃ f a, build = .valid f ∧ checked = .valid a ∧ f a = made := by
  constructor
  · intro passed
    cases build with
    | faulty => cases checked <;> cases passed
    | valid f =>
      cases checked with
      | faulty => cases passed
      | valid a =>
        cases passed
        exact ⟨f, a, rfl, rfl, rfl⟩
  · rintro ⟨f, a, rfl, rfl, rfl⟩
    rfl

theorem map_eq_valid_iff {f : α → β} {made : β} : f <$> checked = .valid made ↔ ∃ a, checked = .valid a ∧ f a = made := by
  change (pure f : Checked (α → β)) <*> checked = .valid made ↔ _
  simp [seq_eq_valid_iff, pure_eq_valid_iff]

theorem within_eq_valid_iff {step : PathStep} : checked.within step = .valid found ↔ checked = .valid found := by
  cases checked <;> simp [within]

theorem andThen_eq_valid_iff {next : α → Checked β} {made : β} :
    checked.andThen next = .valid made ↔ ∃ a, checked = .valid a ∧ next a = .valid made := by
  cases checked <;> simp [andThen]

theorem outcome_eq_ok_iff : checked.outcome = .ok found ↔ checked = .valid found := by
  cases checked <;> simp [outcome]

theorem required_eq_valid_iff :
    required name read fields = .valid found ↔ ∃ value, fields.find? name = some value ∧ read value = .valid found := by
  unfold required
  cases fields.find? name <;> simp [within_eq_valid_iff]

theorem defaulted_eq_valid_iff {absent : α} : defaulted name absent read fields = .valid found ↔
    fields.find? name = none ∧ absent = found ∨ ∃ value, fields.find? name = some value ∧ read value = .valid found := by
  unfold defaulted
  cases fields.find? name <;> simp [within_eq_valid_iff]

theorem required_of_find? {value : Value} (stated : fields.find? name = some value) (reads : read value = .valid found) :
    required name read fields = .valid found :=
  required_eq_valid_iff.mpr ⟨value, stated, reads⟩

theorem defaulted_of_find? {absent : α} {value : Value} (stated : fields.find? name = some value)
    (reads : read value = .valid found) : defaulted name absent read fields = .valid found :=
  defaulted_eq_valid_iff.mpr (.inr ⟨value, stated, reads⟩)

theorem nullable_eq_valid_iff {value : Value} {found : Option α} :
    nullable read value = .valid found ↔
      value = .null ∧ found = none ∨ value ≠ .null ∧ ∃ a, read value = .valid a ∧ some a = found := by
  cases value with
  | null => simp [nullable, eq_comm]
  | _ => simp [nullable, map_eq_valid_iff]

theorem model_eq_valid_iff {read : Fields → Checked α} {value : Value} :
    model read value = .valid found ↔ ∃ fields, value = .record fields ∧ read fields = .valid found := by
  cases value <;> simp [model, fault]

theorem mem_of_optional {found : Option α} (passed : optional name read fields = .valid found) :
    ∀ a ∈ found, ∃ value, read value = .valid a := by
  rintro a rfl
  rcases defaulted_eq_valid_iff.mp passed with ⟨-, absent⟩ | ⟨value, -, reads⟩
  · cases absent
  · rcases nullable_eq_valid_iff.mp reads with ⟨-, absent⟩ | ⟨-, a, reads, same⟩
    · cases absent
    · cases same
      exact ⟨value, reads⟩

theorem items_of_forall {write : α → Value} {things : List α} (reads : ∀ thing ∈ things, read (write thing) = .valid thing)
    (position : Nat) : items read position (things.map write) = .valid things := by
  induction things generalizing position with
  | nil => rfl
  | cons thing rest ih =>
    obtain ⟨here, later⟩ := List.forall_mem_cons.mp reads
    unfold items
    rw [List.map_cons]
    dsimp only
    rw [here, ih later]
    rfl

end PaidAccess.Checked
