import PaidAccess.Proofs.Number.Amount
import PaidAccess.Proofs.Service.Reachable
import PaidAccess.Proofs.Service.Sample
import PaidAccess.Proofs.Store.Agreement
/-!
What a store in memory holds after any calls, told from its history. Every entitlement shows when its user's entitlement was first
and last saved since it was last removed, whatever the caller said about that; every counter is filed under its user, its feature and
its start, so that the newest window is one, however the counters are ordered; and nobody has used less than nothing.
-/

namespace PaidAccess

namespace OrderedMap.KeyedBy

variable {κ α : Type} {name : α → κ} {map : OrderedMap κ α} {entries : List (κ × α)}

theorem perm (keyed : KeyedBy name map) (perm : entries.Perm map.entries) : KeyedBy name ⟨entries⟩ where
  distinct := (perm.map Prod.fst).nodup_iff.mpr keyed.distinct
  named entry listed := keyed.named entry (perm.mem_iff.mp listed)

theorem get?_perm [DecidableEq κ] (keyed : KeyedBy name map) (perm : entries.Perm map.entries) (key : κ) :
    (⟨entries⟩ : OrderedMap κ α).get? key = map.get? key := by
  cases found : map.get? key with
  | some value => exact (keyed.perm perm).get?_of_mem (perm.mem_iff.mpr (mem_of_get? found))
  | none =>
    rw [get?_eq_none_iff] at found ⊢
    exact fun listed => found ((perm.map Prod.fst).mem_iff.mp listed)

end OrderedMap.KeyedBy

namespace MemoryStore

/-- Whether keys of counters are listed under starts that are their points in time. -/
def Dated (store : MemoryStore) : Prop := ∀ key start, store.listedStarts.get? key = some start → start.moment = key.start

theorem moment_of_foldl_insertNew {listed : OrderedMap UsageKey DateTime}
    (dated : ∀ key start, listed.get? key = some start → start.moment = key.start) (counters : List UsageCounter) :
    ∀ key start, (counters.foldl (fun listed counter => listed.insertNew counter.key counter.start) listed).get? key = some start →
      start.moment = key.start := by
  induction counters generalizing listed with
  | nil => exact dated
  | cons counter rest ih =>
    refine ih fun key start found => ?_
    by_cases same : key = counter.key
    · subst same
      rw [OrderedMap.get?_insertNew_self] at found
      cases old : listed.get? counter.key with
      | none =>
        rw [old] at found
        cases found
        rfl
      | some first =>
        rw [old] at found
        cases found
        exact dated _ _ old
    · rw [OrderedMap.get?_insertNew_of_ne _ _ same] at found
      exact dated key start found

theorem Dated.apply {store : MemoryStore} (dated : store.Dated) (now : DateTime) (op : StoreOp) : (store.apply now op).2.Dated := by
  intro key start found
  cases countersStep_apply store now op with
  | kept _ listed | spent _ _ _ _ _ listed => exact dated key start (listed ▸ found)
  | opened counters _ _ listed => exact moment_of_foldl_insertNew dated counters key start (listed ▸ found)
  | revoked userId _ listed =>
    rw [listed, OrderedMap.get?_eraseWhere] at found
    split at found
    next => cases found
    next => exact dated key start found

end MemoryStore

/-- A call of the store: a user or a plan is put in, or an operation is carried out. -/
inductive StoreCall where
  | addUser (user : User)
  | addPlan (plan : Plan)
  | operate (op : StoreOp)

namespace StoreCall

def Zoned : StoreCall → Prop
  | .operate op => op.Zoned
  | _ => True

def Adds : StoreCall → Prop
  | .operate (.spend _ _ _ amount _) => ∀ added, Amount.ofValue? amount = some added → (Amount.whole 0).atMost added = true
  | _ => True

end StoreCall

/-- A store, and for each user the times at which an entitlement was saved since it was last removed. -/
structure Chronicle where
  store : MemoryStore
  saved : String → List DateTime

namespace Chronicle

variable {chronicle : Chronicle}

def empty : Chronicle := ⟨.empty, fun _ => []⟩

def savedAfter (chronicle : Chronicle) (now : DateTime) : StoreOp → String → List DateTime
  | .saveEntitlement entitlement, userId =>
      if userId = entitlement.userId then chronicle.saved userId ++ [now] else chronicle.saved userId
  | op, userId => if chronicle.store.revoked op = some userId then [] else chronicle.saved userId

def perform (chronicle : Chronicle) (now : DateTime) : StoreCall → Chronicle
  | .addUser user => { chronicle with store := chronicle.store.addUser user }
  | .addPlan plan => { chronicle with store := chronicle.store.addPlan plan }
  | .operate op => ⟨(chronicle.store.apply now op).2, chronicle.savedAfter now op⟩

def run (calls : List (DateTime × StoreCall)) : Chronicle :=
  calls.foldl (fun chronicle call => chronicle.perform call.1 call.2) empty

/-- Whether an entitlement shows the first and the last of the times at which it was saved. -/
def Stamped (times : List DateTime) : Option Entitlement → Prop
  | none => times = []
  | some held => times ≠ [] ∧ held.createdAt = times.head? ∧ held.updatedAt = times.getLast?

theorem Stamped.save {times : List DateTime} {store : MemoryStore} {entitlement : Entitlement} (now : DateTime)
    (stamped : Stamped times (store.entitlements.get? entitlement.userId)) :
    Stamped (times ++ [now]) (some (store.saveEntitlement now entitlement).1) := by
  refine ⟨List.append_ne_nil_of_right_ne_nil _ (List.cons_ne_nil _ _), ?_, by simp [MemoryStore.saveEntitlement]⟩
  unfold MemoryStore.saveEntitlement
  cases held : store.entitlements.get? entitlement.userId with
  | none =>
    rw [held] at stamped
    obtain rfl : times = [] := stamped
    rfl
  | some existing =>
    rw [held] at stamped
    obtain ⟨some, created, -⟩ := stamped
    rw [List.head?_append_of_ne_nil _ some]
    exact created

theorem stamped_savedAfter (stamped : ∀ userId, Stamped (chronicle.saved userId) (chronicle.store.entitlements.get? userId))
    (now : DateTime) (op : StoreOp) (userId : String) :
    Stamped (chronicle.savedAfter now op userId) ((chronicle.store.apply now op).2.entitlements.get? userId) := by
  have removed : Stamped (if chronicle.store.revoked op = some userId then [] else chronicle.saved userId)
      ((((chronicle.store.revoked op).map chronicle.store.entitlements.erase).getD chronicle.store.entitlements).get? userId) := by
    cases chronicle.store.revoked op with
    | none => exact stamped userId
    | some owner =>
      rw [Option.map_some, Option.getD_some, OrderedMap.get?_erase]
      by_cases same : owner = userId
      · subst same
        rw [if_pos rfl, if_pos rfl]
        rfl
      · rw [if_neg fun named => same (Option.some.inj named), if_neg (Ne.symm same)]
        exact stamped userId
  rw [MemoryStore.entitlements_apply]
  cases op with
  | saveEntitlement entitlement =>
    change Stamped (if userId = entitlement.userId then chronicle.saved userId ++ [now] else chronicle.saved userId)
      ((chronicle.store.entitlements.insert entitlement.userId (chronicle.store.saveEntitlement now entitlement).1).get? userId)
    rw [OrderedMap.get?_insert]
    by_cases same : userId = entitlement.userId
    · subst same
      rw [if_pos rfl, if_pos rfl]
      exact (stamped _).save now
    · rw [if_neg same, if_neg same]
      exact stamped userId
  | _ => exact removed

structure Sound (chronicle : Chronicle) : Prop where
  keyed : chronicle.store.Keyed
  dated : chronicle.store.Dated
  stamped : ∀ userId, Stamped (chronicle.saved userId) (chronicle.store.entitlements.get? userId)

theorem Sound.perform (sound : chronicle.Sound) (now : DateTime) (call : StoreCall) : (chronicle.perform now call).Sound := by
  cases call with
  | addUser user => exact ⟨sound.keyed.addUser user, sound.dated, sound.stamped⟩
  | addPlan plan => exact ⟨sound.keyed.addPlan plan, sound.dated, sound.stamped⟩
  | operate op => exact ⟨sound.keyed.apply now op, sound.dated.apply now op, stamped_savedAfter sound.stamped now op⟩

theorem windowed_perform (windowed : chronicle.store.Windowed) (now : DateTime) {call : StoreCall} (zoned : call.Zoned) :
    (chronicle.perform now call).store.Windowed := by
  cases call with
  | addUser | addPlan => exact windowed
  | operate op => exact windowed.apply now zoned

def Nonnegative (chronicle : Chronicle) : Prop :=
  ∀ key counter, chronicle.store.usage.get? key = some counter → counter.used.Nonnegative

theorem Nonnegative.perform (positive : chronicle.Nonnegative) (now : DateTime) {call : StoreCall} (adds : call.Adds) :
    (chronicle.perform now call).Nonnegative := by
  cases call with
  | addUser | addPlan => exact positive
  | operate op =>
    refine MemoryStore.forall_counters_apply positive (fun counter opens => ?_)
      (fun _ _ _ _ _ added counter sum spends given total held => ?_) now
    · rw [opens.zero]
      exact Int.le_refl 0
    · subst spends
      exact held.add? (Amount.zero_atMost_iff.mp (adds added given)) total

theorem run_induction (kind : StoreCall → Prop) (holds : Chronicle → Prop) (initial : holds empty)
    (step : ∀ chronicle now call, kind call → holds chronicle → holds (chronicle.perform now call))
    {calls : List (DateTime × StoreCall)} (all : ∀ call ∈ calls, kind call.2) : holds (run calls) := by
  unfold run
  generalize empty = before at initial
  induction calls generalizing before with
  | nil => exact initial
  | cons call rest ih =>
    obtain ⟨here, later⟩ := List.forall_mem_cons.mp all
    exact ih later _ (step before call.1 call.2 here initial)

theorem sound_run (calls : List (DateTime × StoreCall)) : (run calls).Sound :=
  run_induction (fun _ => True) Sound ⟨.empty, by rintro _ _ ⟨⟩, fun _ => rfl⟩ (fun _ now call _ sound => sound.perform now call)
    fun _ _ => trivial

theorem windowed_run {calls : List (DateTime × StoreCall)} (zoned : ∀ call ∈ calls, call.2.Zoned) : (run calls).store.Windowed :=
  run_induction StoreCall.Zoned (fun chronicle => chronicle.store.Windowed) (by rintro _ _ ⟨⟩)
    (fun _ now _ zoned windowed => windowed_perform windowed now zoned) zoned

theorem nonnegative_run {calls : List (DateTime × StoreCall)} (adds : ∀ call ∈ calls, call.2.Adds) : (run calls).Nonnegative :=
  run_induction StoreCall.Adds Nonnegative (by rintro _ _ ⟨⟩) (fun _ now _ adds positive => positive.perform now adds) adds

/-- How a store represents what it holds. -/
structure Regular (chronicle : Chronicle) : Prop where
  /-- Every entitlement is stored under its user. -/
  owned : ∀ entry ∈ chronicle.store.entitlements.entries, entry.1 = entry.2.userId
  /-- Every counter is stored under its user, its feature and the start of its window. -/
  filed : ∀ entry ∈ chronicle.store.usage.entries, entry.1 = ⟨entry.2.userId, entry.2.feature, entry.2.start.moment⟩
  /-- The start that it is listed under is the same point in time. -/
  listed : ∀ entry ∈ chronicle.store.listedUsage, entry.1.moment = entry.2.start.moment
  /-- A user has at most one counter of a feature that starts at a point in time. -/
  single : chronicle.store.usage.values.Pairwise fun first second =>
    ¬(first.userId = second.userId ∧ first.feature = second.feature ∧ first.start.moment = second.start.moment)
  /-- The search for the active counter finds the same in whatever order the counters were put in. -/
  unordered : ∀ entries, entries.Perm chronicle.store.usage.entries → ∀ userId feature time,
    { chronicle.store with usage := ⟨entries⟩ }.findActiveUsage (.text userId) feature (some time) =
      chronicle.store.findActiveUsage (.text userId) feature (some time)
  /-- An entitlement was created when it was first saved since it was last removed, and updated when it was last saved. -/
  stamped : ∀ userId, Stamped (chronicle.saved userId) (chronicle.store.entitlements.get? userId)

/-- Whether the search for the active counter of a user and a feature finds, at any time with a zone, the one that holds the time and
started after all others that do, if there is one. -/
def Searchable (chronicle : Chronicle) : Prop :=
  ∀ userId feature time, time.Zoned →
    ∃ found, chronicle.store.findActiveUsage (.text userId) feature (some time) = .ok found ∧
      (found = none → ∀ counter ∈ chronicle.store.usage.values, counter.userId = userId → counter.feature = feature →
        ¬counter.Covers time) ∧
      ∀ counter ∈ found, counter ∈ chronicle.store.usage.values ∧ counter.userId = userId ∧ counter.feature = feature ∧
        counter.Covers time ∧ ∀ other ∈ chronicle.store.usage.values, other.userId = userId → other.feature = feature →
          other.Covers time → other = counter ∨ other.start.instant < counter.start.instant

namespace Sound

variable (sound : chronicle.Sound)

include sound

theorem single : chronicle.store.usage.values.Pairwise fun first second =>
    ¬(first.userId = second.userId ∧ first.feature = second.feature ∧ first.start.moment = second.start.moment) := by
  have distinct := sound.keyed.usage.distinct
  have named : chronicle.store.usage.keys = chronicle.store.usage.values.map UsageCounter.key := by
    unfold OrderedMap.keys OrderedMap.values
    rw [List.map_map]
    exact List.map_congr_left fun entry listed => (sound.keyed.usage.named entry listed).symm
  rw [named, List.Nodup, List.pairwise_map] at distinct
  refine distinct.imp fun different same => different ?_
  obtain ⟨user, feature, start⟩ := same
  unfold UsageCounter.key
  rw [user, feature, start]

theorem listed : ∀ entry ∈ chronicle.store.listedUsage, entry.1.moment = entry.2.start.moment := by
  intro entry member
  obtain ⟨⟨key, counter⟩, there, rfl⟩ := List.mem_map.mp member
  have named : counter.key = key := sound.keyed.usage.named _ there
  dsimp only
  cases found : chronicle.store.listedStarts.get? key with
  | none => rfl
  | some start =>
    rw [Option.getD_some, sound.dated key start found, ← named]
    rfl

theorem mem_countersOf {userId : String} {feature : FeatureKey} {counter : UsageCounter} :
    counter ∈ chronicle.store.countersOf (.text userId) feature ↔
      counter ∈ chronicle.store.usage.values ∧ counter.userId = userId ∧ counter.feature = feature := by
  rw [MemoryStore.mem_countersOf sound.keyed, sound.keyed.usage.mem_values_iff]

theorem searchable (windowed : chronicle.store.Windowed) : chronicle.Searchable := by
  intro userId feature time zoned
  have windows : ∀ counter ∈ chronicle.store.countersOf (.text userId) feature, counter.start.Zoned ∧ counter.finish.Zoned :=
    fun counter listed => windowed _ counter ((MemoryStore.mem_countersOf sound.keyed).mp listed).1
  obtain ⟨found, searched, missing, latest⟩ := MemoryStore.findActiveUsage_of_zoned zoned windows
  refine ⟨found, searched, fun idle counter listed user about => ?_, ?_⟩
  · exact missing idle counter (sound.mem_countersOf.mpr ⟨listed, user, about⟩)
  · rintro counter rfl
    obtain ⟨member, covers, last⟩ := latest counter rfl
    obtain ⟨listed, user, about⟩ := sound.mem_countersOf.mp member
    refine ⟨listed, user, about, covers, fun other there userToo aboutToo coversToo => ?_⟩
    have also := sound.mem_countersOf.mpr ⟨there, userToo, aboutToo⟩
    rcases Int.lt_or_eq_of_le (last other also coversToo) with earlier | together
    · exact .inr earlier
    · -- Counters that start together have the same key, under which there is one counter only.
      have same : other.key = counter.key := by
        unfold UsageCounter.key
        rw [user, userToo, about, aboutToo, (windows counter member).1.moment, (windows other also).1.moment, together]
      have here := sound.keyed.usage.mem_values_iff.mp there
      rw [same, sound.keyed.usage.mem_values_iff.mp listed] at here
      exact .inl (Option.some.inj here).symm

theorem unordered {entries : List (UsageKey × UsageCounter)} (perm : entries.Perm chronicle.store.usage.entries) (userId : String)
    (feature : FeatureKey) (time : DateTime) :
    { chronicle.store with usage := ⟨entries⟩ }.findActiveUsage (.text userId) feature (some time) =
      chronicle.store.findActiveUsage (.text userId) feature (some time) := by
  have agree : MemoryStore.AgreeOn userId chronicle.store { chronicle.store with usage := ⟨entries⟩ } := by
    refine ⟨sound.keyed, { sound.keyed with usage := sound.keyed.usage.perm perm, listed := fun key listed => ?_ }, rfl, rfl, rfl,
      fun key _ => sound.keyed.usage.get?_perm perm key⟩
    exact (perm.map Prod.fst).mem_iff.mpr (sound.keyed.listed key listed)
  exact agree.findActiveUsage feature time

theorem regular : chronicle.Regular where
  owned entry listed := (sound.keyed.entitlements.named entry listed).symm
  filed entry listed := (sound.keyed.usage.named entry listed).symm
  listed := sound.listed
  single := sound.single
  unordered _ perm userId feature time := sound.unordered perm userId feature time
  stamped := sound.stamped

end Sound

/-- After any calls of a store that was empty, whatever the clock showed and whatever the caller said about creation and update, the
store is regular; the newest active counter is one if the times that were put in have zones; and no counter is below zero if nothing
below zero was spent. -/
theorem run_regular (calls : List (DateTime × StoreCall)) :
    (run calls).Regular ∧ ((∀ call ∈ calls, call.2.Zoned) → (run calls).Searchable) ∧
      ((∀ call ∈ calls, call.2.Adds) → ∀ counter ∈ (run calls).store.usage.values, (Amount.whole 0).atMost counter.used = true) := by
  have sound := sound_run calls
  refine ⟨sound.regular, fun zoned => sound.searchable (windowed_run zoned), fun adds counter listed => ?_⟩
  exact Amount.zero_atMost_iff.mpr (nonnegative_run adds _ counter (sound.keyed.usage.mem_values_iff.mp listed))

section Example

open Sample (march basic)

def claimed (time : Option DateTime) : Entitlement :=
  ⟨"u1", "basic", march 30 0, "sub_1", "price_1", none, false, time, time⟩

def savedAgain : List (DateTime × StoreCall) :=
  [(march 0 0, .addPlan basic), (march 1 0, .operate (.saveEntitlement (claimed none))),
    (march 1 1, .operate (.resetUsage (.text "u1") basic (some (march 1 0)) (some (march 30 0)))),
    (march 2 0, .operate (.revokeSubscription (.text "sub_1"))),
    (march 3 0, .operate (.saveEntitlement (claimed (some (march 20 0))))),
    (march 3 1, .operate (.spend (.text "u1") .storageMb (some (march 1 0)) (.int 7) (.int 1024))),
    (march 2 9, .operate (.saveEntitlement (claimed none)))]

theorem run_regular_of_savedAgain :
    (∀ call ∈ savedAgain, call.2.Zoned) ∧ (∀ call ∈ savedAgain, call.2.Adds) ∧
      (∃ held, (run savedAgain).store.entitlements.get? "u1" = some held ∧ held.createdAt = some (march 3 0) ∧
        held.updatedAt = some (march 2 9)) ∧
      (run savedAgain).Searchable ∧
      ∀ counter ∈ (run savedAgain).store.usage.values, (Amount.whole 0).atMost counter.used = true := by
  have dated : ∀ known, ZonedIfKnown (some (march known 0)) := by
    rintro known _ ⟨⟩
    exact ⟨0, rfl⟩
  have zoned : ∀ call ∈ savedAgain, call.2.Zoned := by
    simp only [savedAgain, List.forall_mem_cons]
    exact ⟨trivial, ⟨0, rfl⟩, ⟨dated 1, dated 30⟩, trivial, ⟨0, rfl⟩, trivial, ⟨0, rfl⟩, List.forall_mem_nil _⟩
  have adds : ∀ call ∈ savedAgain, call.2.Adds := by
    simp only [savedAgain, List.forall_mem_cons]
    refine ⟨trivial, trivial, trivial, trivial, trivial, ?_, trivial, List.forall_mem_nil _⟩
    rintro _ ⟨⟩
    rfl
  obtain ⟨regular, searchable, positive⟩ := run_regular savedAgain
  have stamped := regular.stamped "u1"
  have times : (run savedAgain).saved "u1" = [march 3 0, march 2 9] := by decide +kernel
  rw [times] at stamped
  cases held : (run savedAgain).store.entitlements.get? "u1" with
  | none =>
    rw [held] at stamped
    cases stamped
  | some entitlement =>
    rw [held] at stamped
    exact ⟨zoned, adds, ⟨entitlement, rfl, stamped.2⟩, searchable zoned, positive adds⟩

end Example

end Chronicle

end PaidAccess
