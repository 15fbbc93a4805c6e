import Mathlib.Data.Finset.Card
import PaidAccess.Proofs.Credits.DailyJob
import PaidAccess.Proofs.Service.Interruption
/-!
The daily job when calls fail. A subscriber whose counter cannot be opened is skipped, and the others are served. The
lookup of a plan is not guarded in that way: if one fails, the job fails, and nobody after that subscriber is served.
Each plan is looked up once, so which of the planned failures are met depends on how many plans there are.
-/

namespace PaidAccess

open PaidAccess.Action

/-- The items that are left when one planned outcome is used up for each, and an item is lost if that is a failure. -/
def spared {α : Type} : List (Option Failure) → List α → List α
  | _, [] => []
  | plan, item :: rest => if plan.head?.join.isSome then spared plan.tail rest else item :: spared plan.tail rest

theorem spared_cons {α : Type} (plan : List (Option Failure)) (item : α) (rest : List α) :
    spared plan (item :: rest) = spared plan [item] ++ spared plan.tail rest := by
  simp only [spared]
  split
  next => rfl
  next => rfl

def plansOf (entitlements : List Entitlement) : Finset String := (entitlements.map (·.planId)).toFinset

theorem card_plansOf_cons {entitlement : Entitlement} {rest : List Entitlement} {known : Finset String}
    (unknown : entitlement.planId ∉ known) :
    (plansOf (entitlement :: rest) \ known).card = (plansOf rest \ insert entitlement.planId known).card + 1 := by
  have first : plansOf (entitlement :: rest) \ known = insert entitlement.planId (plansOf rest \ known) := by
    unfold plansOf
    rw [List.map_cons, List.toFinset_cons, Finset.insert_sdiff_of_notMem _ unknown]
  have others : plansOf rest \ insert entitlement.planId known =
      (insert entitlement.planId (plansOf rest \ known)).erase entitlement.planId := by
    rw [Finset.sdiff_insert, Finset.erase_insert_eq_erase]
  rw [first, others]
  exact (Finset.card_erase_add_one (Finset.mem_insert_self _ _)).symm

theorem plansOf_cons_sdiff {entitlement : Entitlement} {rest : List Entitlement} {known : Finset String}
    (looked : entitlement.planId ∈ known) : plansOf (entitlement :: rest) \ known = plansOf rest \ known := by
  unfold plansOf
  rw [List.map_cons, List.toFinset_cons, Finset.insert_sdiff_of_mem _ looked]

namespace Credits

open MemoryStore

variable {service origin : Service} {base store : MemoryStore} {found : OrderedMap String (Option Plan)}

def known (found : OrderedMap String (Option Plan)) : Finset String := found.keys.toFinset

theorem known_insert (found : OrderedMap String (Option Plan)) (planId : String) (plan : Option Plan) :
    known (found.insert planId plan) = insert planId (known found) := by
  unfold known
  ext other
  rw [List.mem_toFinset, OrderedMap.mem_keys_insert, Finset.mem_insert, List.mem_toFinset]

theorem cachedPlan_ends (beside : service.Beside origin store) (faithful : Faithful store found) {planId : String}
    {returns : Option Plan × OrderedMap String (Option Plan) → Service → Prop} {raises : Failure → Service → Prop}
    (cached : planId ∈ known found → returns (store.findPlan (.text planId), found) service)
    (fails : planId ∉ known found → ∀ failure after, service.core.fault (.store .findPlan) = some failure →
      raises failure after)
    (looked : planId ∉ known found → ∀ after, service.core.fault (.store .findPlan) = none →
      after.Beside origin store → after.faults = (service.core.called (.store .findPlan)).faults →
      returns (store.findPlan (.text planId), found.insert planId (store.findPlan (.text planId))) after) :
    (cachedPlan planId found).Ends service returns raises := by
  unfold cachedPlan
  cases asked : found.get? planId with
  | some plan =>
    have there : planId ∈ known found := List.mem_toFinset.mpr (OrderedMap.mem_keys_of_get? asked)
    have same := faithful planId plan asked
    subst same
    exact .pure (cached there)
  | none =>
    have absent : planId ∉ known found := fun there =>
      (OrderedMap.get?_eq_none_iff _ _).mp asked (List.mem_toFinset.mp there)
    refine .bind (.called beside (fun failure after planned _ _ => fails absent failure after planned) ?_)
    intro after passes there faults
    refine ⟨fun plan outcome => ?_, fun failure outcome => nomatch outcome⟩
    cases outcome
    exact .pure (looked absent after passes there faults)

theorem openToday_ends {now : DateTime} {entitlement : Entitlement} (expires : entitlement.expiresAt.Zoned)
    (beside : service.Beside origin store) {returns : Nat → Service → Prop} {raises : Failure → Service → Prop}
    (done : ∀ after,
      after.Beside origin (store.openDay now (spared (service.faults (.store .openCounter)) [entitlement])) →
      after.faults = (service.core.called (.store .openCounter)).faults →
      returns (spared (service.faults (.store .openCounter)) [entitlement]).length after) :
    (openToday now entitlement).Ends service returns raises := by
  obtain ⟨counter, opened⟩ := store.exists_openCounter_midnight now entitlement
  have applied : store.apply origin.now (.openCounter (.text entitlement.userId) .aiCredits (some (.dayStart now.date))
      (some (creditsClose now entitlement.expiresAt))) = (.ok counter, store.openMidnight now entitlement) := opened
  unfold openToday
  rw [dailyWindow_of_zoned expires]
  apply Action.Ends.recover
  refine .bind (.lift (fun window same => ?_) nofun)
  cases same
  refine .bind (.called beside (fun failure after planned there faults => ?_) fun after passes there faults => ?_)
  · have skipped : spared (service.faults (.store .openCounter)) [entitlement] = [] := if_pos (by
      rw [show (service.faults (.store .openCounter)).head?.join = some failure from planned]
      rfl)
    rw [skipped] at done
    exact .bind (.log (.pure (done _ (there.logged _) faults)))
  · have served : spared (service.faults (.store .openCounter)) [entitlement] = [entitlement] := if_neg (by
      rw [show (service.faults (.store .openCounter)).head?.join = none from passes]
      exact Bool.false_ne_true)
    rw [served] at done
    rw [applied] at there
    refine ⟨fun value _ => .pure (done after there faults), fun failure outcome => ?_⟩
    rw [applied] at outcome
    cases outcome

def lookups (service : Service) (found : OrderedMap String (Option Plan)) (entitlements : List Entitlement) :
    List (Option Failure) :=
  (service.faults (.store .findPlan)).take (plansOf entitlements \ known found).card

theorem mem_lookups_cons {after : Service} {entitlement : Entitlement} (rest : List Entitlement)
    (absent : entitlement.planId ∉ known found) (passes : service.core.fault (.store .findPlan) = none)
    (faults : after.faults = (service.core.called (.store .findPlan)).faults) (plan : Option Plan)
    (planned : Option Failure) : planned ∈ lookups service found (entitlement :: rest) ↔
      planned = none ∧ service.faults (.store .findPlan) ≠ [] ∨
        planned ∈ lookups after (found.insert entitlement.planId plan) rest := by
  have tail : after.faults (.store .findPlan) = (service.faults (.store .findPlan)).tail := by
    rw [faults]
    exact service.core.faults_called_self _
  unfold lookups
  rw [card_plansOf_cons absent, known_insert, tail]
  have head : (service.faults (.store .findPlan)).head?.join = none := passes
  cases plans : service.faults (.store .findPlan) with
  | nil => simp
  | cons next others =>
    rw [plans, List.head?_cons, Option.join_some] at head
    rw [head, List.take_succ_cons, List.mem_cons, List.tail_cons]
    exact or_congr_left (and_iff_left (List.cons_ne_nil _ _)).symm

theorem serve_ends {now : DateTime} {entitlement : Entitlement} {rest done : List Entitlement}
    (expires : entitlement.expiresAt.Zoned) (beside : service.Beside origin (base.openDay now done))
    (others : ∀ (between : Service) (done : List Entitlement), between.Beside origin (base.openDay now done) →
      (openAll now found rest).Ends between
        (fun opened after => (∀ planned ∈ lookups between found rest, planned = none) ∧
          opened = (spared (between.faults (.store .openCounter)) (base.metered rest)).length ∧
          after.Beside origin
            (base.openDay now (done ++ spared (between.faults (.store .openCounter)) (base.metered rest))))
        fun failure _ => some failure ∈ lookups between found rest) :
    (do
      let here ← match base.dailyQuota? entitlement.planId with
        | some _ => openToday now entitlement
        | none => pure 0
      let others ← openAll now found rest
      return here + others : Action Nat).Ends service
        (fun opened after => (∀ planned ∈ lookups service found rest, planned = none) ∧
          opened = (spared (service.faults (.store .openCounter)) (base.metered (entitlement :: rest))).length ∧
          after.Beside origin
            (base.openDay now (done ++ spared (service.faults (.store .openCounter)) (base.metered (entitlement :: rest)))))
        fun failure _ => some failure ∈ lookups service found rest := by
  cases planned : base.dailyQuota? entitlement.planId with
  | none =>
    have same : base.metered (entitlement :: rest) = base.metered rest := List.filter_cons_of_neg (by simp [planned])
    rw [same]
    refine .bind (.pure (.bind ((others service done beside).returning ?_)))
    rintro opened after ⟨passed, counted, there⟩
    exact .pure ⟨passed, by rw [counted, Nat.zero_add], there⟩
  | some quota =>
    have first : base.metered (entitlement :: rest) = entitlement :: base.metered rest :=
      List.filter_cons_of_pos (by simp [planned])
    rw [first, spared_cons, List.length_append, ← List.append_assoc]
    refine .bind (openToday_ends expires beside fun between there faults => ?_)
    rw [← openDay_append] at there
    have plans : between.faults (.store .findPlan) = service.faults (.store .findPlan) := by
      rw [faults]
      exact service.core.faults_called_of_ne (nomatch ·)
    have openings : between.faults (.store .openCounter) = (service.faults (.store .openCounter)).tail := by
      rw [faults]
      exact service.core.faults_called_self _
    have same : lookups between found rest = lookups service found rest := by
      unfold lookups
      rw [plans]
    have ends := others between _ there
    rw [openings, same] at ends
    refine .bind (ends.returning ?_)
    rintro opened after ⟨passed, counted, there⟩
    exact .pure ⟨passed, by rw [counted], there⟩

/-- The job serves all whose own counters can be opened, or it fails at the lookup of a plan. -/
theorem openAll_ends {now : DateTime} {entitlements done : List Entitlement}
    (expire : ∀ entitlement ∈ entitlements, entitlement.expiresAt.Zoned) (faithful : Faithful base found)
    (beside : service.Beside origin (base.openDay now done)) :
    (openAll now found entitlements).Ends service
      (fun opened after => (∀ planned ∈ lookups service found entitlements, planned = none) ∧
        opened = (spared (service.faults (.store .openCounter)) (base.metered entitlements)).length ∧
        after.Beside origin
          (base.openDay now (done ++ spared (service.faults (.store .openCounter)) (base.metered entitlements))))
      fun failure _ => some failure ∈ lookups service found entitlements := by
  induction entitlements generalizing service found done with
  | nil =>
    refine .pure ⟨fun planned member => ?_, rfl, ?_⟩
    · simp [lookups, plansOf] at member
    · simpa [metered, spared] using beside
  | cons entitlement rest ih =>
    have expires := expire entitlement List.mem_cons_self
    have later : ∀ other ∈ rest, other.expiresAt.Zoned := fun other member => expire other (List.mem_cons_of_mem _ member)
    have plans := (base.openDay_onlyCounters now done).plans
    have listed := findPlan_congr plans (.text entitlement.planId)
    have still := faithful.congr plans
    unfold openAll
    refine .bind (cachedPlan_ends beside still (fun there => ?_) (fun absent failure after planned => ?_)
      fun absent after passes there faults => ?_)
    · have same : lookups service found (entitlement :: rest) = lookups service found rest := by
        unfold lookups
        rw [plansOf_cons_sdiff there]
      rw [same, listed]
      exact serve_ends expires beside fun between done there => ih later faithful there
    · have next : service.faults (.store .findPlan) =
          some failure :: (service.core.called (.store .findPlan)).faults (.store .findPlan) :=
        Core.faults_of_fault planned
      unfold lookups
      rw [card_plansOf_cons absent, next, List.take_succ_cons]
      exact List.mem_cons_self
    · rw [listed]
      have first := mem_lookups_cons rest absent passes faults (base.findPlan (.text entitlement.planId))
      refine ((serve_ends expires there fun between done there => ih later (faithful.insert _) there).returning ?_).raising
        fun failure _ member => (first (some failure)).mpr (.inr member)
      rintro opened final ⟨passed, counted, arrived⟩
      have openings : after.faults (.store .openCounter) = service.faults (.store .openCounter) := by
        rw [faults]
        exact service.core.faults_called_of_ne (nomatch ·)
      rw [openings] at counted arrived
      exact ⟨fun planned member => ((first planned).mp member).elim And.left (passed planned), counted, arrived⟩

theorem resetDaily_ends (memory : service.store = .memory store) (keyed : store.Keyed) (zoned : store.Zoned)
    (clock : service.now.Zoned) (listing : service.core.fault (.store .activeEntitlements) = none) :
    resetDaily.Ends service
      (fun opened after => (∀ planned ∈ lookups service ∅ (store.active service.now), planned = none) ∧
        opened = (spared (service.faults (.store .openCounter)) (store.subscribers service.now)).length ∧
        after.Beside service
          (store.openDay service.now (spared (service.faults (.store .openCounter)) (store.subscribers service.now))))
      fun failure _ => some failure ∈ lookups service ∅ (store.active service.now) := by
  have expire : ∀ entitlement ∈ store.active service.now, entitlement.expiresAt.Zoned := by
    intro entitlement member
    exact zoned _ _ (keyed.entitlements.mem_values_iff.mp (List.mem_filter.mp member).1)
  have active := activeEntitlements_eq_active keyed zoned clock
  have empty : Faithful store ∅ := fun planId plan absent => nomatch absent
  unfold resetDaily
  refine .bind (.now (.bind (.called (.refl memory) (fun failure after planned => ?_) fun after _ there faults => ?_)))
  · rw [show service.core.fault (.store .activeEntitlements) = some failure from planned] at listing
    cases listing
  refine ⟨fun listed outcome => ?_, fun failure outcome => ?_⟩
  · have same : listed = store.active service.now := by
      have both := outcome.symm.trans active
      injection both
    subst same
    have others (method : StoreMethod) (different : method ≠ .activeEntitlements) :
        after.faults (.store method) = service.faults (.store method) := by
      rw [faults]
      exact service.core.faults_called_of_ne fun same => different (FaultPoint.store.inj same)
    have plans : lookups after ∅ (store.active service.now) = lookups service ∅ (store.active service.now) := by
      unfold lookups
      rw [others .findPlan nofun]
    have start : after.Beside service (store.openDay service.now []) := there
    have ends := openAll_ends expire empty start
    rw [plans, others .openCounter nofun] at ends
    refine .bind (ends.returning ?_)
    rintro opened final ⟨passed, counted, arrived⟩
    exact .bind (.log (.pure ⟨passed, counted, arrived.logged _⟩))
  · have both := outcome.symm.trans active
    cases both

/-- Whether the daily job returns, serves each subscriber whose own counter can be opened, and tells how many these
are. -/
def EachServed (service : Service) (store : MemoryStore) : Prop :=
  ∃ after left, after.store = .memory left ∧
    resetDaily.run service =
      (.ok (spared (service.faults (.store .openCounter)) (store.subscribers service.now)).length, after) ∧
    ∀ entitlement ∈ spared (service.faults (.store .openCounter)) (store.subscribers service.now),
      (left.usage.get? (midnightKey entitlement.userId service.now)).isSome

/-- Whatever failures are planned for the lookups of plans and the openings of counters, each subscriber is served whose
own counter can be opened, exactly if no lookup of a plan fails. Each plan of an active entitlement is looked up once.
If a lookup fails, the job fails with it. -/
theorem each_served_iff (memory : service.store = .memory store) (keyed : store.Keyed) (zoned : store.Zoned)
    (clock : service.now.Universal) (listing : service.core.fault (.store .activeEntitlements) = none) :
    (EachServed service store ↔
      ∀ planned ∈ (service.faults (.store .findPlan)).take (plansOf (store.active service.now)).card, planned = none) ∧
    ∀ failure after, resetDaily.run service = (.error failure, after) →
      some failure ∈ (service.faults (.store .findPlan)).take (plansOf (store.active service.now)).card := by
  have ends := resetDaily_ends memory keyed zoned clock.zoned listing
  have all : lookups service ∅ (store.active service.now) =
      (service.faults (.store .findPlan)).take (plansOf (store.active service.now)).card := by
    unfold lookups
    rw [show known ∅ = ∅ from rfl, Finset.sdiff_empty]
  rw [all] at ends
  refine ⟨⟨?_, fun passes => ?_⟩, ends.raised⟩
  · rintro ⟨after, left, -, ran, -⟩
    exact (ends.returned _ after ran).1
  · rcases ran : resetDaily.run service with ⟨failure | opened, after⟩
    · cases passes _ (ends.raised failure after ran)
    · obtain ⟨-, counted, there⟩ := ends.returned opened after ran
      refine ⟨after, _, there.memory, ?_, fun entitlement member => store.openDay_opens service.now member⟩
      rw [ran, counted]

def pair : MemoryStore :=
  (Sample.store.addEntitlement ⟨"u1", "basic", Sample.march 30 32400, "sub_1", "price_1", some "cus_1", false, none, none⟩)
    |>.addEntitlement ⟨"u2", "studio", Sample.march 30 32400, "sub_2", "price_2", some "cus_2", false, none, none⟩

theorem pair_keyed : pair.Keyed := (Sample.store_keyed.addEntitlement _).addEntitlement _

theorem pair_zoned : pair.Zoned := by
  have none : Sample.store.Zoned := nofun
  exact (none.addEntitlement ⟨0, rfl⟩).addEntitlement ⟨0, rfl⟩

def pairShop (method : StoreMethod) : Service :=
  { Sample.service (Sample.march 4 0) pair (Sample.tables "sub_1" "active" "prod_basic") with
    faults := fun point => if point = .store method then [some (.runtime "table unavailable")] else [] }

/-- The counter of the first cannot be opened, and the second is served. -/
theorem each_served_after_opening_fails :
    EachServed (pairShop .openCounter) pair ∧
      (spared ((pairShop .openCounter).faults (.store .openCounter)) (pair.subscribers (Sample.march 4 0))).map
        (·.userId) = ["u2"] := by
  have passes : ∀ planned ∈ ((pairShop .openCounter).faults (.store .findPlan)).take
      (plansOf (pair.active (pairShop .openCounter).now)).card, planned = none := by
    rw [show (pairShop .openCounter).faults (.store .findPlan) = [] from rfl, List.take_nil]
    exact nofun
  have memory : (pairShop .openCounter).store = .memory pair := rfl
  exact ⟨(each_served_iff memory pair_keyed pair_zoned rfl rfl).1.mpr passes, by decide +kernel⟩

/-- The plan of the first cannot be looked up, so the second is not served, either. -/
theorem second_unserved_after_lookup_fails :
    ¬ EachServed (pairShop .findPlan) pair ∧ (resetDaily.run (pairShop .findPlan)).1.toOption = none ∧
      (pair.subscribers (Sample.march 4 0)).map (·.userId) = ["u1", "u2"] ∧
      (resetDaily.run (pairShop .findPlan)).2.memory?.map
        (fun left => (left.usage.get? (midnightKey "u2" (Sample.march 4 0))).isSome) = some false := by
  have raised : (resetDaily.run (pairShop .findPlan)).1.toOption = none := by decide +kernel
  refine ⟨?_, raised, by decide +kernel, by decide +kernel⟩
  rintro ⟨after, left, -, ran, -⟩
  rw [ran] at raised
  cases raised

end Credits

end PaidAccess
