import PaidAccess.Store.OrderedMap
/-!
Laws of ordered maps. What a key finds after an edit is decided by the keys alone, and an edit that
finds its result already there changes nothing, not even the order. `KeyedBy` is the shape in which a
store keeps its tables: every value is listed once, under the name that it gives itself.
-/

namespace PaidAccess.OrderedMap

section entries

variable {κ α : Type} [DecidableEq κ]

private theorem lookupIn_insertIn (key other : κ) (value : α) (entries : List (κ × α)) :
    lookupIn other (insertIn key value entries) =
      if other = key then some value else lookupIn other entries := by
  induction entries with
  | nil => simp [insertIn, lookupIn, eq_comm]
  | cons entry rest ih =>
    obtain ⟨head, old⟩ := entry
    by_cases same : head = key
    · subst same
      by_cases asked : other = head
      · simp [insertIn, lookupIn, asked]
      · simp [insertIn, lookupIn, asked, Ne.symm asked]
    · by_cases asked : head = other
      · subst asked
        simp [insertIn, lookupIn, same]
      · simp [insertIn, lookupIn, same, asked, ih]

private theorem lookupIn_filter (test : κ → Bool) (key : κ) (entries : List (κ × α)) :
    lookupIn key (entries.filter fun entry => test entry.1) =
      if test key then lookupIn key entries else none := by
  induction entries with
  | nil => simp [lookupIn]
  | cons entry rest ih =>
    obtain ⟨head, value⟩ := entry
    by_cases kept : test head = true
    · by_cases asked : head = key
      · subst asked
        simp [lookupIn, kept]
      · simp [lookupIn, kept, asked, ih]
    · by_cases asked : head = key
      · subst asked
        simp [kept, ih]
      · simp [lookupIn, kept, asked, ih]

private theorem insertIn_of_lookupIn (key : κ) (value : α) (entries : List (κ × α))
    (found : lookupIn key entries = some value) : insertIn key value entries = entries := by
  induction entries with
  | nil => simp [lookupIn] at found
  | cons entry rest ih =>
    obtain ⟨head, old⟩ := entry
    by_cases same : head = key
    · subst same
      simp only [lookupIn, ↓reduceIte, Option.some.injEq] at found
      simp [insertIn, found]
    · simp only [lookupIn, same, ↓reduceIte] at found
      simp [insertIn, same, ih found]

private theorem insertIn_insertIn (key : κ) (first second : α) (entries : List (κ × α)) :
    insertIn key second (insertIn key first entries) = insertIn key second entries := by
  induction entries with
  | nil => simp [insertIn]
  | cons entry rest ih => by_cases same : entry.1 = key <;> simp [insertIn, same, ih]

private theorem mem_of_lookupIn (key : κ) (value : α) (entries : List (κ × α))
    (found : lookupIn key entries = some value) : (key, value) ∈ entries := by
  induction entries with
  | nil => simp [lookupIn] at found
  | cons entry rest ih =>
    obtain ⟨head, old⟩ := entry
    by_cases same : head = key
    · subst same
      simp only [lookupIn, ↓reduceIte, Option.some.injEq] at found
      simp [found]
    · simp only [lookupIn, same, ↓reduceIte] at found
      exact List.mem_cons_of_mem _ (ih found)

private theorem lookupIn_eq_none_iff (key : κ) (entries : List (κ × α)) :
    lookupIn key entries = none ↔ key ∉ entries.map (·.1) := by
  induction entries with
  | nil => simp [lookupIn]
  | cons entry rest ih =>
    obtain ⟨head, old⟩ := entry
    by_cases same : head = key
    · simp [lookupIn, same]
    · rw [lookupIn, if_neg same, ih, List.map_cons, List.mem_cons, not_or]
      exact ⟨fun absent => ⟨Ne.symm same, absent⟩, And.right⟩

private theorem lookupIn_of_mem (key : κ) (value : α) (entries : List (κ × α))
    (distinct : (entries.map (·.1)).Nodup) (member : (key, value) ∈ entries) :
    lookupIn key entries = some value := by
  induction entries with
  | nil => cases member
  | cons entry rest ih =>
    obtain ⟨head, old⟩ := entry
    simp only [List.map_cons, List.nodup_cons] at distinct
    rcases List.mem_cons.mp member with same | later
    · cases same
      simp [lookupIn]
    · have different : head ≠ key := by
        rintro rfl
        exact distinct.1 (List.mem_map_of_mem later)
      simp [lookupIn, different, ih distinct.2 later]

private theorem keys_insertIn (key : κ) (value : α) (entries : List (κ × α)) :
    (insertIn key value entries).map (·.1) =
      if key ∈ entries.map (·.1) then entries.map (·.1) else entries.map (·.1) ++ [key] := by
  induction entries with
  | nil => simp [insertIn]
  | cons entry rest ih =>
    obtain ⟨head, old⟩ := entry
    by_cases same : head = key
    · simp [insertIn, same]
    · simp only [insertIn, same, ↓reduceIte, List.map_cons, ih, List.mem_cons, Ne.symm same, false_or]
      split <;> rfl

private theorem mem_insertIn (key : κ) (value : α) (entries : List (κ × α)) (entry : κ × α)
    (member : entry ∈ insertIn key value entries) : entry = (key, value) ∨ entry ∈ entries := by
  induction entries with
  | nil => simpa [insertIn] using member
  | cons head rest ih =>
    by_cases same : head.1 = key
    · simp only [insertIn, same, ↓reduceIte, List.mem_cons] at member
      exact member.imp_right (List.mem_cons_of_mem _)
    · simp only [insertIn, same, ↓reduceIte, List.mem_cons] at member
      rcases member with first | later
      · exact .inr (first ▸ List.mem_cons_self)
      · exact (ih later).imp_right (List.mem_cons_of_mem _)

private theorem find?_insertIn (key : κ) (value : α) (test : α → Bool) (entries : List (κ × α))
    (missing : (entries.map (·.2)).find? test = none) (passes : test value = true) :
    ((insertIn key value entries).map (·.2)).find? test = some value := by
  induction entries with
  | nil => simp [insertIn, passes]
  | cons entry rest ih =>
    simp only [List.map_cons, List.find?_cons] at missing
    cases head : test entry.2 with
    | true => simp [head] at missing
    | false =>
      simp only [head] at missing
      by_cases same : entry.1 = key
      · simp [insertIn, same, passes]
      · simp [insertIn, same, head, ih missing]

private theorem insertIn_of_absent (key : κ) (value : α) (entries : List (κ × α))
    (absent : lookupIn key entries = none) : insertIn key value entries = entries ++ [(key, value)] := by
  induction entries with
  | nil => rfl
  | cons entry rest ih =>
    by_cases same : entry.1 = key
    · simp [lookupIn, same] at absent
    · simp only [lookupIn, same, ↓reduceIte] at absent
      simp [insertIn, same, ih absent]

private theorem values_insertIn_of_present {name : α → κ} (key : κ) (edit : α → α) (entries : List (κ × α))
    (distinct : (entries.map (·.1)).Nodup) (named : ∀ entry ∈ entries, name entry.2 = entry.1) {old : α}
    (found : lookupIn key entries = some old) :
    (insertIn key (edit old) entries).map (·.2) =
      (entries.map (·.2)).map fun value => if name value = key then edit value else value := by
  induction entries with
  | nil => cases found
  | cons entry rest ih =>
    obtain ⟨head, held⟩ := entry
    obtain ⟨fresh, distinct⟩ := List.nodup_cons.mp distinct
    obtain ⟨here, named⟩ := List.forall_mem_cons.mp named
    by_cases same : head = key
    · subst same
      simp only [lookupIn, ↓reduceIte, Option.some.injEq] at found
      subst found
      have others : ∀ entry ∈ rest, name entry.2 ≠ head := by
        intro entry later taken
        exact fresh (List.mem_map.mpr ⟨entry, later, (named entry later).symm.trans taken⟩)
      simp only [insertIn, ↓reduceIte, List.map_cons, here, List.map_map, List.cons.injEq, true_and]
      exact List.map_congr_left fun entry later => by simp [others entry later]
    · simp only [lookupIn, same, ↓reduceIte] at found
      simp only [insertIn, same, ↓reduceIte, List.map_cons, here, ih distinct named found]

private theorem filter_values_of_named {name : α → κ} (key : κ) (entries : List (κ × α))
    (distinct : (entries.map (·.1)).Nodup) (named : ∀ entry ∈ entries, name entry.2 = entry.1) :
    (entries.map (·.2)).filter (fun value => name value = key) = (lookupIn key entries).toList := by
  induction entries with
  | nil => rfl
  | cons entry rest ih =>
    obtain ⟨head, held⟩ := entry
    obtain ⟨fresh, distinct⟩ := List.nodup_cons.mp distinct
    obtain ⟨here, named⟩ := List.forall_mem_cons.mp named
    have others := ih distinct named
    by_cases same : head = key
    · subst same
      have absent := (lookupIn_eq_none_iff head rest).mpr fresh
      rw [absent] at others
      simpa [lookupIn, here] using others
    · simpa [lookupIn, here, same] using others

end entries

variable {κ α : Type}

def keys (map : OrderedMap κ α) : List κ := map.entries.map (·.1)

theorem eraseWhere_of_forall {map : OrderedMap κ α} {test : κ → Bool}
    (absent : ∀ key ∈ map.keys, test key = false) : map.eraseWhere test = map := by
  unfold eraseWhere
  congr 1
  rw [List.filter_eq_self]
  intro entry member
  simp [absent entry.1 (List.mem_map_of_mem member)]

theorem mem_keys_eraseWhere {map : OrderedMap κ α} {test : κ → Bool} {key : κ} :
    key ∈ (map.eraseWhere test).keys ↔ key ∈ map.keys ∧ test key = false := by
  unfold keys eraseWhere
  simp only [List.mem_map, List.mem_filter, Bool.not_eq_eq_eq_not, Bool.not_true]
  constructor
  · rintro ⟨entry, ⟨member, kept⟩, rfl⟩
    exact ⟨⟨entry, member, rfl⟩, kept⟩
  · rintro ⟨⟨entry, member, rfl⟩, kept⟩
    exact ⟨entry, ⟨member, kept⟩, rfl⟩

/-- Every value is listed once, under the name that it gives itself. -/
structure KeyedBy (name : α → κ) (map : OrderedMap κ α) : Prop where
  distinct : map.keys.Nodup
  named : ∀ entry ∈ map.entries, name entry.2 = entry.1

theorem KeyedBy.empty {name : α → κ} : KeyedBy name (∅ : OrderedMap κ α) :=
  ⟨List.nodup_nil, by intro entry member; cases member⟩

private theorem KeyedBy.filter {name : α → κ} {map : OrderedMap κ α} (keyed : KeyedBy name map)
    (test : κ × α → Bool) : KeyedBy name ⟨map.entries.filter test⟩ := by
  constructor
  · exact keyed.distinct.sublist (List.filter_sublist.map _)
  · intro entry member
    exact keyed.named entry (List.mem_filter.mp member).1

theorem KeyedBy.eraseWhere {name : α → κ} {map : OrderedMap κ α} (keyed : KeyedBy name map)
    (test : κ → Bool) : KeyedBy name (map.eraseWhere test) :=
  keyed.filter _

theorem KeyedBy.values_eraseWhere {name : α → κ} {map : OrderedMap κ α} (keyed : KeyedBy name map) (test : κ → Bool) :
    (map.eraseWhere test).values = map.values.filter fun value => !test (name value) := by
  rw [values, values, OrderedMap.eraseWhere, List.filter_map]
  congr 1
  exact List.filter_congr fun entry member => by simp [keyed.named entry member]

variable [DecidableEq κ]

theorem get?_insert (map : OrderedMap κ α) (key other : κ) (value : α) :
    (map.insert key value).get? other = if other = key then some value else map.get? other :=
  lookupIn_insertIn key other value map.entries

@[simp] theorem get?_insert_self (map : OrderedMap κ α) (key : κ) (value : α) :
    (map.insert key value).get? key = some value := by
  simp [get?_insert]

theorem get?_insert_of_ne (map : OrderedMap κ α) {key other : κ} (value : α) (different : other ≠ key) :
    (map.insert key value).get? other = map.get? other := by
  simp [get?_insert, different]

theorem get?_insertNew_of_ne (map : OrderedMap κ α) {key other : κ} (value : α) (different : other ≠ key) :
    (map.insertNew key value).get? other = map.get? other := by
  unfold insertNew
  split
  next => rfl
  next => exact map.get?_insert_of_ne value different

theorem get?_insertNew_self (map : OrderedMap κ α) (key : κ) (value : α) :
    (map.insertNew key value).get? key = some ((map.get? key).getD value) := by
  unfold insertNew
  cases found : map.get? key with
  | some old => exact found
  | none => exact map.get?_insert_self key value

theorem isSome_get?_insert {map : OrderedMap κ α} {key other : κ} {value : α} (there : (map.get? other).isSome) :
    ((map.insert key value).get? other).isSome := by
  rw [get?_insert]
  split
  next => rfl
  next => exact there

theorem get?_eraseWhere (map : OrderedMap κ α) (test : κ → Bool) (key : κ) :
    (map.eraseWhere test).get? key = if test key then none else map.get? key := by
  have kept := lookupIn_filter (fun key => !test key) key map.entries
  cases gone : test key <;> simpa [eraseWhere, get?, gone] using kept

theorem get?_erase (map : OrderedMap κ α) (key other : κ) :
    (map.erase key).get? other = if other = key then none else map.get? other := by
  have kept := lookupIn_filter (fun other => decide (other ≠ key)) other map.entries
  by_cases same : other = key <;> simpa [erase, get?, same] using kept

@[simp] theorem get?_erase_self (map : OrderedMap κ α) (key : κ) : (map.erase key).get? key = none := by
  simp [get?_erase]

theorem get?_erase_of_ne (map : OrderedMap κ α) {key other : κ} (different : other ≠ key) :
    (map.erase key).get? other = map.get? other := by
  simp [get?_erase, different]

theorem insert_of_get? {map : OrderedMap κ α} {key : κ} {value : α} (found : map.get? key = some value) :
    map.insert key value = map := by
  unfold insert
  rw [insertIn_of_lookupIn key value map.entries found]

theorem insert_insert (map : OrderedMap κ α) (key : κ) (first second : α) :
    (map.insert key first).insert key second = map.insert key second := by
  unfold insert
  rw [insertIn_insertIn]

theorem mem_of_get? {map : OrderedMap κ α} {key : κ} {value : α} (found : map.get? key = some value) :
    (key, value) ∈ map.entries :=
  mem_of_lookupIn key value map.entries found

theorem get?_eq_none_iff (map : OrderedMap κ α) (key : κ) : map.get? key = none ↔ key ∉ map.keys :=
  lookupIn_eq_none_iff key map.entries

theorem mem_keys_of_get? {map : OrderedMap κ α} {key : κ} {value : α} (found : map.get? key = some value) :
    key ∈ map.keys :=
  List.mem_map_of_mem (mem_of_get? found)

theorem erase_of_get?_eq_none {map : OrderedMap κ α} {key : κ} (absent : map.get? key = none) :
    map.erase key = map := by
  have missing := (get?_eq_none_iff map key).mp absent
  unfold erase
  congr 1
  rw [List.filter_eq_self]
  intro entry member
  have different : entry.1 ≠ key := fun same => missing (same ▸ List.mem_map_of_mem member)
  simp [different]

theorem keys_insert (map : OrderedMap κ α) (key : κ) (value : α) :
    (map.insert key value).keys = if key ∈ map.keys then map.keys else map.keys ++ [key] :=
  keys_insertIn key value map.entries

theorem mem_keys_insert {map : OrderedMap κ α} {key other : κ} {value : α} :
    other ∈ (map.insert key value).keys ↔ other = key ∨ other ∈ map.keys := by
  rw [keys_insert]
  split
  next present =>
    constructor
    · exact Or.inr
    · rintro (same | member)
      · exact same ▸ present
      · exact member
  next absent => simp [or_comm]

theorem mem_keys_insertNew {map : OrderedMap κ α} {key other : κ} {value : α}
    (member : other ∈ (map.insertNew key value).keys) : other = key ∨ other ∈ map.keys := by
  unfold insertNew at member
  split at member
  next => exact .inr member
  next => exact mem_keys_insert.mp member

theorem mem_entries_insert {map : OrderedMap κ α} {key : κ} {value : α} {entry : κ × α}
    (member : entry ∈ (map.insert key value).entries) : entry = (key, value) ∨ entry ∈ map.entries :=
  mem_insertIn key value map.entries entry member

theorem entries_insert_of_get?_eq_none {map : OrderedMap κ α} {key : κ} (absent : map.get? key = none) (value : α) :
    (map.insert key value).entries = map.entries ++ [(key, value)] :=
  insertIn_of_absent key value map.entries absent

theorem values_insert_of_get?_eq_none {map : OrderedMap κ α} {key : κ} (absent : map.get? key = none) (value : α) :
    (map.insert key value).values = map.values ++ [value] := by
  unfold values
  rw [entries_insert_of_get?_eq_none absent, List.map_append]
  rfl

def insert? (map : OrderedMap κ α) (key : κ) : Option α → OrderedMap κ α
  | some value => map.insert key value
  | none => map

theorem find?_values_insert {map : OrderedMap κ α} {key : κ} {value : α} {test : α → Bool}
    (missing : map.values.find? test = none) (passes : test value = true) :
    (map.insert key value).values.find? test = some value :=
  find?_insertIn key value test map.entries missing passes

def enter (name : α → κ) (map : OrderedMap κ α) (values : List α) : OrderedMap κ α :=
  values.foldl (fun map value => map.insert (name value) value) map

theorem get?_enter_of_forall_ne (name : α → κ) (map : OrderedMap κ α) {values : List α} {key : κ}
    (different : ∀ value ∈ values, name value ≠ key) : (map.enter name values).get? key = map.get? key := by
  induction values generalizing map with
  | nil => rfl
  | cons value rest ih =>
    have here := different value List.mem_cons_self
    exact (ih (map.insert (name value) value) fun other member => different other (List.mem_cons_of_mem _ member)).trans
      (get?_insert_of_ne map value here.symm)

theorem get?_enter_of_mem {name : α → κ} (map : OrderedMap κ α) {values : List α}
    (distinct : (values.map name).Nodup) {value : α} (member : value ∈ values) :
    (map.enter name values).get? (name value) = some value := by
  induction values generalizing map with
  | nil => cases member
  | cons head rest ih =>
    simp only [List.map_cons, List.nodup_cons] at distinct
    rcases List.mem_cons.mp member with rfl | later
    · have different : ∀ other ∈ rest, name other ≠ name value := fun other there same =>
        distinct.1 (same ▸ List.mem_map_of_mem there)
      exact (get?_enter_of_forall_ne name (map.insert (name value) value) different).trans
        (get?_insert_self map (name value) value)
    · exact ih (map.insert (name head) head) distinct.2 later

theorem mem_or_get?_of_enter {name : α → κ} {map : OrderedMap κ α} {values : List α} {key : κ} {value : α}
    (found : (map.enter name values).get? key = some value) :
    (value ∈ values ∧ name value = key) ∨ map.get? key = some value := by
  induction values generalizing map with
  | nil => exact .inr found
  | cons head rest ih =>
    have found : ((map.insert (name head) head).enter name rest).get? key = some value := found
    rcases ih found with ⟨later, named⟩ | here
    · exact .inl ⟨List.mem_cons_of_mem _ later, named⟩
    · rw [get?_insert] at here
      split at here
      next same =>
        cases here
        exact .inl ⟨List.mem_cons_self, same.symm⟩
      next => exact .inr here

/-- Entering values changes nothing exactly if they are all there already. -/
theorem enter_eq_self_iff {name : α → κ} {map : OrderedMap κ α} {values : List α}
    (distinct : (values.map name).Nodup) :
    map.enter name values = map ↔ ∀ value ∈ values, map.get? (name value) = some value := by
  constructor
  · intro same value member
    have there := get?_enter_of_mem map distinct member
    rwa [same] at there
  · intro present
    clear distinct
    induction values with
    | nil => rfl
    | cons value rest ih =>
      have here : map.insert (name value) value = map := insert_of_get? (present value List.mem_cons_self)
      change (map.insert (name value) value).enter name rest = map
      rw [here]
      exact ih fun other member => present other (List.mem_cons_of_mem _ member)

namespace KeyedBy

variable {name : α → κ} {map : OrderedMap κ α}

theorem insert (keyed : KeyedBy name map) {key : κ} {value : α} (same : name value = key) :
    KeyedBy name (map.insert key value) := by
  constructor
  · rw [keys_insert]
    split
    next => exact keyed.distinct
    next absent =>
      rw [List.nodup_append]
      refine ⟨keyed.distinct, List.nodup_cons.mpr ⟨List.not_mem_nil, List.nodup_nil⟩, ?_⟩
      rintro other member last final rfl
      exact absent (List.mem_singleton.mp final ▸ member)
  · intro entry member
    rcases mem_entries_insert member with rfl | old
    · exact same
    · exact keyed.named entry old

theorem erase (keyed : KeyedBy name map) (key : κ) : KeyedBy name (map.erase key) := keyed.filter _

theorem name_eq (keyed : KeyedBy name map) {key : κ} {value : α} (found : map.get? key = some value) :
    name value = key :=
  keyed.named (key, value) (mem_of_get? found)

theorem get?_of_mem (keyed : KeyedBy name map) {key : κ} {value : α} (member : (key, value) ∈ map.entries) :
    map.get? key = some value :=
  lookupIn_of_mem key value map.entries keyed.distinct member

theorem mem_values_iff (keyed : KeyedBy name map) {value : α} :
    value ∈ map.values ↔ map.get? (name value) = some value := by
  constructor
  · intro member
    obtain ⟨⟨key, other⟩, listed, rfl⟩ := List.mem_map.mp member
    have same := keyed.named _ listed
    exact keyed.get?_of_mem (same ▸ listed)
  · intro found
    exact List.mem_map.mpr ⟨_, mem_of_get? found, rfl⟩

theorem filter_values (keyed : KeyedBy name map) (key : κ) :
    map.values.filter (fun value => name value = key) = (map.get? key).toList :=
  filter_values_of_named key map.entries keyed.distinct keyed.named

theorem find?_values (keyed : KeyedBy name map) (key : κ) :
    map.values.find? (fun value => name value = key) = map.get? key := by
  rw [← List.head?_filter, keyed.filter_values]
  cases map.get? key <;> rfl

theorem values_insert_of_get? (keyed : KeyedBy name map) {key : κ} {old : α} (found : map.get? key = some old)
    (edit : α → α) :
    (map.insert key (edit old)).values = map.values.map fun value => if name value = key then edit value else value :=
  values_insertIn_of_present key edit map.entries keyed.distinct keyed.named found

theorem values_insert? (keyed : KeyedBy name map) (key : κ) (passes : α → Bool) (edit : α → α) :
    (map.insert? key (((map.get? key).filter passes).map edit)).values =
      map.values.map fun value => if (decide (name value = key) && passes value) = true then edit value else value := by
  have held : ∀ value ∈ map.values, name value = key → map.get? key = some value :=
    fun value listed same => same ▸ keyed.mem_values_iff.mp listed
  cases changed : (map.get? key).filter passes with
  | none =>
    refine ((List.map_congr_left fun value listed => if_neg ?_).trans (List.map_id _)).symm
    rw [Bool.and_eq_true, decide_eq_true_eq]
    rintro ⟨same, passing⟩
    rw [held value listed same, Option.filter_some, if_pos passing] at changed
    cases changed
  | some old =>
    obtain ⟨found, passing⟩ := Option.filter_eq_some_iff.mp changed
    refine (keyed.values_insert_of_get? found edit).trans (List.map_congr_left fun value listed => ?_)
    by_cases same : name value = key
    · obtain rfl : old = value := Option.some.inj (found.symm.trans (held value listed same))
      simp [same, passing]
    · simp [same]

theorem values_erase (keyed : KeyedBy name map) (key : κ) :
    (map.erase key).values = map.values.filter fun value => name value ≠ key := by
  rw [values, values, OrderedMap.erase, List.filter_map]
  congr 1
  exact List.filter_congr fun entry member => by simp [keyed.named entry member]

end KeyedBy

/-- Whether no two keys have values with the same label. A value need not have one. -/
def Apart {τ : Type} (label : α → Option τ) (map : OrderedMap κ α) : Prop :=
  ∀ key other value held mark, map.get? key = some value → map.get? other = some held → label value = some mark →
    label held = some mark → key = other

def Alone {τ : Type} (label : α → Option τ) (map : OrderedMap κ α) (key : κ) (mark : τ) : Prop :=
  ∀ other held, map.get? other = some held → label held = some mark → other = key

theorem Alone.of_entries {τ : Type} {label : α → Option τ} {map : OrderedMap κ α} {key : κ} {mark : τ}
    (only : ∀ entry ∈ map.entries, label entry.2 = some mark → entry.1 = key) : map.Alone label key mark :=
  fun _ _ found marked => only _ (mem_of_get? found) marked

theorem Alone.insert_iff {τ : Type} {label : α → Option τ} {map : OrderedMap κ α} {key : κ} {value : α} {mark : τ} :
    (map.insert key value).Alone label key mark ↔ map.Alone label key mark := by
  constructor
  · intro alone other held found marked
    refine Decidable.byContradiction fun different => different (alone other held ?_ marked)
    rwa [map.get?_insert_of_ne value different]
  · intro alone other held found marked
    refine Decidable.byContradiction fun different => different (alone other held ?_ marked)
    rwa [map.get?_insert_of_ne value different] at found

namespace Apart

variable {τ : Type} {label : α → Option τ} {map after : OrderedMap κ α}

theorem of_entries (distinct : ∀ entry ∈ map.entries, ∀ other ∈ map.entries, (label entry.2).isSome = true →
    label entry.2 = label other.2 → entry.1 = other.1) : map.Apart label :=
  fun _ _ _ _ _ found foundToo marked markedToo => distinct _ (mem_of_get? found) _ (mem_of_get? foundToo)
    (Option.isSome_of_eq_some marked) (marked.trans markedToo.symm)

theorem of_name {name : α → κ} (keyed : KeyedBy name map) : map.Apart fun value => some (name value) :=
  fun _ _ _ _ _ found foundToo marked markedToo => (keyed.name_eq found).symm.trans
    ((Option.some.inj (marked.trans markedToo.symm)).trans (keyed.name_eq foundToo))

theorem of_kept (apart : map.Apart label) (kept : ∀ key value, after.get? key = some value → map.get? key = some value) :
    after.Apart label :=
  fun key other value held mark found foundToo => apart key other value held mark (kept key value found)
    (kept other held foundToo)

theorem insert_iff (apart : map.Apart label) (key : κ) (value : α) :
    (map.insert key value).Apart label ↔ ∀ mark, label value = some mark → map.Alone label key mark := by
  constructor
  · intro still mark labelled other held found marked
    refine Decidable.byContradiction fun different => different ?_
    rw [← map.get?_insert_of_ne value different] at found
    exact still other key held value mark found (map.get?_insert_self key value) marked labelled
  · intro alone first second one two mark found foundToo marked markedToo
    rw [get?_insert] at found foundToo
    split at found <;> split at foundToo
    next here there => exact here.trans there.symm
    next here _ =>
      cases found
      exact here.trans (alone mark marked second two foundToo markedToo).symm
    next _ there =>
      cases foundToo
      exact (alone mark markedToo first one found marked).trans there.symm
    next => exact apart first second one two mark found foundToo marked markedToo

theorem pairwise_values {name : α → κ} (keyed : KeyedBy name map) (apart : map.Apart label) :
    map.values.Pairwise fun first second => ∀ mark, label first = some mark → label second ≠ some mark := by
  have keys : map.entries.Pairwise fun first second => first.1 ≠ second.1 := List.pairwise_map.mp keyed.distinct
  refine List.pairwise_map.mpr (keys.imp_of_mem ?_)
  rintro first second listed listedToo different mark marked markedToo
  exact different (apart _ _ _ _ mark (keyed.get?_of_mem listed) (keyed.get?_of_mem listedToo) marked markedToo)

end Apart

end PaidAccess.OrderedMap
