import Mathlib.Data.List.Nodup
import PaidAccess.Value.Equality
/-!
Laws of records. What a field says after an edit is decided by the names alone. A record whose names are distinct says
one thing under each of them: that which is listed.
-/

namespace PaidAccess.Fields

variable {name other : String} {value : Value} {fields base later : Fields}

def Distinct (fields : Fields) : Prop := (fields.map (·.1)).Nodup

theorem find?_cons (name other : String) (value : Value) (rest : Fields) :
    find? name ((other, value) :: rest) = if name = other then some value else find? name rest := by
  unfold find?
  rw [List.lookup_cons]
  by_cases same : name = other
  · rw [beq_iff_eq.mpr same, if_pos same]
  · rw [beq_eq_false_iff_ne.mpr same, if_neg same]

theorem find?_append (name : String) (first second : Fields) :
    find? name (first ++ second) = (find? name first).or (find? name second) := by
  induction first with
  | nil => rfl
  | cons field rest ih =>
    rw [List.cons_append, find?_cons, find?_cons, ih]
    split <;> rfl

theorem find?_set (name other : String) (value : Value) (fields : Fields) :
    find? name (set other value fields) = if name = other then some value else find? name fields := by
  induction fields with
  | nil => simp [set, find?_cons]
  | cons field rest ih =>
    obtain ⟨here, old⟩ := field
    by_cases same : here = other
    · subst same
      by_cases asked : name = here <;> simp [set, find?_cons, asked]
    · by_cases asked : name = here
      · simp [set, find?_cons, same, asked]
      · simp [set, find?_cons, same, asked, ih]

theorem find?_filter (test : String → Bool) (name : String) (fields : Fields) :
    find? name (fields.filter fun field => test field.1) = if test name then find? name fields else none := by
  induction fields with
  | nil => simp [find?]
  | cons field rest ih =>
    obtain ⟨here, old⟩ := field
    by_cases asked : name = here
    · subst asked
      by_cases kept : test name = true <;> simp [find?_cons, kept, ih]
    · by_cases kept : test here = true <;> simp [find?_cons, kept, asked, ih]

theorem find?_map (rewrite : String → Value → Value) (name : String) (fields : Fields) :
    find? name (fields.map fun field => (field.1, rewrite field.1 field.2)) = (find? name fields).map (rewrite name) := by
  induction fields with
  | nil => rfl
  | cons field rest ih =>
    rw [List.map_cons, find?_cons, find?_cons, ih]
    by_cases asked : name = field.1 <;> simp [asked]

theorem mem_of_find? (found : find? name fields = some value) : (name, value) ∈ fields := by
  induction fields with
  | nil => cases found
  | cons field rest ih =>
    rw [find?_cons] at found
    split at found
    next same =>
      cases found
      rw [same]
      exact List.mem_cons_self
    next => exact List.mem_cons_of_mem _ (ih found)

theorem find?_eq_none_iff : find? name fields = none ↔ name ∉ fields.map (·.1) := by
  induction fields with
  | nil => simp [find?]
  | cons field rest ih =>
    rw [find?_cons]
    by_cases asked : name = field.1
    · simp [asked]
    · simp [asked, ih]

theorem Distinct.find?_of_mem (distinct : fields.Distinct) (listed : (name, value) ∈ fields) :
    find? name fields = some value := by
  induction fields with
  | nil => cases listed
  | cons field rest ih =>
    obtain ⟨fresh, distinct⟩ := List.nodup_cons.mp distinct
    rw [find?_cons]
    rcases List.mem_cons.mp listed with rfl | listed
    · exact if_pos rfl
    · have different : name ≠ field.1 := by
        rintro rfl
        exact fresh (List.mem_map.mpr ⟨_, listed, rfl⟩)
      rw [if_neg different, ih distinct listed]

theorem names_set (name : String) (value : Value) (fields : Fields) :
    (set name value fields).map (·.1) =
      if name ∈ fields.map (·.1) then fields.map (·.1) else fields.map (·.1) ++ [name] := by
  induction fields with
  | nil => simp [set]
  | cons field rest ih =>
    obtain ⟨here, old⟩ := field
    by_cases same : here = name
    · simp [set, same]
    · simp only [set, same, if_false, List.map_cons, ih, List.mem_cons, Ne.symm same, false_or]
      split <;> rfl

theorem Distinct.set (distinct : fields.Distinct) (name : String) (value : Value) : (Fields.set name value fields).Distinct := by
  unfold Distinct
  rw [names_set]
  split
  next => exact distinct
  next fresh =>
    apply List.Nodup.append distinct (List.nodup_singleton name)
    rw [List.disjoint_singleton]
    exact fresh

theorem Distinct.filter (distinct : fields.Distinct) (test : String × Value → Bool) : Distinct (fields.filter test) :=
  List.Nodup.sublist (List.filter_sublist.map _) distinct

theorem Distinct.merge (distinct : base.Distinct) (later : Fields) : (base.merge later).Distinct := by
  unfold Fields.merge
  induction later generalizing base with
  | nil => exact distinct
  | cons field rest ih => exact ih (distinct.set field.1 field.2)

theorem find?_merge (distinct : later.Distinct) (base : Fields) (name : String) :
    find? name (base.merge later) = (find? name later).or (find? name base) := by
  unfold Fields.merge
  induction later generalizing base with
  | nil => rfl
  | cons field rest ih =>
    obtain ⟨fresh, distinct⟩ := List.nodup_cons.mp distinct
    rw [List.foldl_cons, ih distinct, find?_set, find?_cons]
    by_cases asked : name = field.1
    · have absent : find? name rest = none := find?_eq_none_iff.mpr (asked ▸ fresh)
      simp [asked, asked ▸ absent]
    · simp [asked]

end PaidAccess.Fields
