import PaidAccess.Proofs.Reconciliation.Simulation
import PaidAccess.Proofs.Service.Moves
import PaidAccess.Proofs.Service.Sample
/-!
Who holds access under which subscription. A cancelled subscription takes access away from one user, so no two users
are to hold access under the same one. Entitlements are entered by user, and nothing asks who else holds the
subscription: it is up to the events that they name different ones. Where an event names none, and where a checkout is
simulated, the subscription is made from the clock, which tells users apart only if they come at different milliseconds.
-/

namespace PaidAccess

open PaidAccess.Action Checked Lenient Reconciliation

def Entitlement.backing (held : Entitlement) : Option String := some held.subscriptionId

namespace MemoryStore

def OneHolderEach (store : MemoryStore) : Prop := store.entitlements.Apart Entitlement.backing

def HeldAlone (store : MemoryStore) (userId subscriptionId : String) : Prop :=
  store.entitlements.Alone Entitlement.backing userId subscriptionId

variable {store after : MemoryStore}

theorem OneHolderEach.of_empty (empty : store.entitlements = ∅) : store.OneHolderEach := by
  unfold OneHolderEach
  rw [empty]
  exact .of_entries fun _ listed => absurd listed List.not_mem_nil

theorem OneHolderEach.of_fewer (one : store.OneHolderEach) (fewer : store.Fewer after) : after.OneHolderEach :=
  one.of_kept fewer

theorem oneHolderEach_insert_iff (one : store.OneHolderEach) {held : Entitlement}
    (entered : after.entitlements = store.entitlements.insert held.userId held) :
    after.OneHolderEach ↔ store.HeldAlone held.userId held.subscriptionId := by
  unfold OneHolderEach
  rw [entered, OrderedMap.Apart.insert_iff one]
  constructor
  · exact fun alone => alone held.subscriptionId rfl
  · rintro alone _ ⟨⟩
    exact alone

end MemoryStore

theorem EventSource.ofValue_name (source : EventSource) : ofValue (.text source.name) = valid source := by
  have whole : Surrogate.isWhole source.name = true := Bool.or_eq_true_iff.mpr (.inr (by cases source <;> decide))
  have meant : ofName? source.name = some source := by cases source <;> rfl
  simp only [ofValue, named, written, whole, if_true, meant]

namespace Checkout

variable {released : Simulation} {now : DateTime}

theorem simulatedEvent_eq (released : Simulation) (now : DateTime) :
    simulatedEvent released now = (do
      let millis ← now.epochMillis
      (ReconcileEvent.mk .checkoutCompleted
        <$> (nullable text released.customerId).within (.field "customer_id") <*> valid (some s!"sub_sim_{millis}")
        <*> (nullable text released.userId).within (.field "client_reference_id")
        <*> (nullable text released.userId).within (.field "metadata_user_id") <*> valid true
        <*> (nullable text released.priceId).within (.field "simulated_price_id")
        <*> valid (some "active")).outcome) := by
  unfold simulatedEvent
  congr 1
  funext millis
  change (ReconcileEvent.mk
    <$> (EventSource.ofValue (.text EventSource.checkoutCompleted.name)).within (.field "source")
    <*> (nullable text released.customerId).within (.field "customer_id") <*> valid (some s!"sub_sim_{millis}")
    <*> (nullable text released.userId).within (.field "client_reference_id")
    <*> (nullable text released.userId).within (.field "metadata_user_id") <*> valid true
    <*> (nullable text released.priceId).within (.field "simulated_price_id")
    <*> valid (some "active")).outcome = _
  rw [EventSource.ofValue_name]
  rfl

/-- A simulated activation is about a subscription that is named for the millisecond of its release. -/
theorem subscriptionId_of_simulated {event : ReconcileEvent} (simulated : simulatedEvent released now = .ok event) :
    ∃ millis, now.epochMillis = .ok millis ∧ event.subscriptionId = some s!"sub_sim_{millis}" := by
  rw [simulatedEvent_eq] at simulated
  obtain ⟨millis, clock, made⟩ := Outcome.bind_eq_ok_iff.mp simulated
  refine ⟨millis, clock, ?_⟩
  -- whatever the other fields hold, they are read or the event is not made
  generalize (nullable text released.customerId).within _ = customer at made
  generalize (nullable text released.userId).within (.field "client_reference_id") = reference at made
  generalize (nullable text released.userId).within (.field "metadata_user_id") = metadata at made
  generalize (nullable text released.priceId).within _ = price at made
  cases customer <;> cases reference <;> cases metadata <;> cases price <;> cases made
  rfl

end Checkout

namespace Service

variable {service : Service} {event : ReconcileEvent}

/-- Whether a move grants nobody access under a subscription that somebody else holds. -/
def GrantsFree (service : Service) (store : MemoryStore) (move : Move) : Prop :=
  ∀ event, move.event? service.now = some event → ∀ userId subscriptionId,
    service.Grants event userId subscriptionId → store.HeldAlone userId subscriptionId

theorem Grants.unique {userId other subscriptionId otherId : String}
    (grants : service.Grants event userId subscriptionId) (grantsToo : service.Grants event other otherId) :
    userId = other ∧ subscriptionId = otherId := by
  obtain ⟨result, after, user, ran, -, told, rfl, named⟩ := grants
  obtain ⟨resultToo, afterToo, userToo, ranToo, -, toldToo, rfl, namedToo⟩ := grantsToo
  cases ran.symm.trans ranToo
  cases told.symm.trans toldToo
  cases named.symm.trans namedToo
  exact ⟨rfl, rfl⟩

theorem Grants.of_simulation {released : Simulation} {userId subscriptionId : String}
    (simulated : Checkout.simulatedEvent released service.now = .ok event)
    (grants : service.Grants event userId subscriptionId) :
    ∃ millis, service.now.epochMillis = .ok millis ∧ subscriptionId = s!"sub_sim_{millis}" := by
  obtain ⟨_, _, _, -, -, -, -, named⟩ := grants
  obtain ⟨millis, clock, made⟩ := Checkout.subscriptionId_of_simulated simulated
  have filled : "sub_sim_" ++ toString millis ≠ "" := by simp
  have filled := present?_eq_some_iff.mpr ⟨made, filled⟩
  rw [subscriptionIdOf, filled] at named
  exact ⟨millis, clock, (Except.ok.inj named).symm⟩

end Service

theorem Move.Effect.oneHolderEach_iff {service : Service} {store after : MemoryStore} {move : Move} (_ : store.Keyed)
    (one : store.OneHolderEach) (effect : move.Effect service store after) :
    after.OneHolderEach ↔ service.GrantsFree store move := by
  have idle : store.Fewer after → (∀ event, move.event? service.now = some event → ∀ userId subscriptionId,
      ¬ service.Grants event userId subscriptionId) → (after.OneHolderEach ↔ service.GrantsFree store move) :=
    fun fewer never => ⟨fun _ event about userId id grants => (never event about userId id grants).elim,
      fun _ => one.of_fewer fewer⟩
  cases effect with
  | event event about affected =>
    -- the event enters one entitlement, the one that it grants, or none
    rcases affected.entitlements with ⟨grantless, fewer⟩ | ⟨held, grants, entered⟩
    · refine idle fewer fun other aboutToo => ?_
      cases about.symm.trans aboutToo
      exact grantless
    · rw [MemoryStore.oneHolderEach_insert_iff one entered]
      constructor
      · intro alone other aboutToo userId id grantsToo
        cases about.symm.trans aboutToo
        obtain ⟨rfl, rfl⟩ := grants.unique grantsToo
        exact alone
      · exact fun free => free event about held.userId held.subscriptionId grants
  | checkout priceId email userId requested settled =>
    have unasked : move.event? service.now = none := by
      rw [requested]
      rfl
    refine idle (.of_eq ?_) fun event about => ?_
    · cases settled with
      | failed refused same => rw [same]
      | agreed found known paying => exact paying.entitlements
    · cases unasked.symm.trans about
  | other about unrequested granted =>
    refine idle granted.fewer fun event aboutToo => ?_
    cases about.symm.trans aboutToo

/-- Along a run, no two users hold access under the same subscription exactly if no event, announced or simulated,
grants it under one that somebody else holds at that time. -/
theorem subscriptions_apart_iff {service : Service} {store : MemoryStore} (memory : service.store = .memory store)
    (keyed : store.Keyed) (one : store.OneHolderEach) (moves : List Move) :
    (∀ earlier, earlier <+: moves → ∃ left, (service.follow earlier).store = .memory left ∧ left.OneHolderEach) ↔
      ∀ earlier move left, earlier ++ [move] <+: moves → (service.follow earlier).store = .memory left →
        (service.follow earlier).GrantsFree left move :=
  Service.follow_keeps_iff Move.Effect.oneHolderEach_iff memory keyed one moves

namespace Sample

def partner : User := ⟨"u2", none, none, .text "cus_2"⟩

def simulating : Service :=
  { service (march 0 36000) (store.addUser partner) priceOnly with
    deployment := { deployment with billing := { deployment.billing with runSimulation := true } } }

def visits : List Move :=
  [.call (.checkout (.text "price_1") .null (.text "u1")), .call (.checkout (.text "price_1") .null (.text "u2"))]

deriving instance DecidableEq for Simulation

def activation (session customer user : String) : Simulation :=
  ⟨.text session, .text "price_1", .text customer, .text user, []⟩

def waiting : List Simulation := [activation "cs_1" "cus_1" "u1", activation "cs_2" "cus_2" "u2"]

def spaced : List Move :=
  [.simulation (activation "cs_1" "cus_1" "u1"),
    .meanwhile { march 0 36000 with clock := 36000001000, clock_lt := by decide } (priceOnly.provider []) fun _ => [],
    .simulation (activation "cs_2" "cus_2" "u2")]

def heldIn (service : Service) : Option (List (String × String)) :=
  service.memory?.map fun store => store.entitlements.entries.map fun (userId, held) => (userId, held.subscriptionId)

section

variable {service : Service} {store : MemoryStore} {held : List (String × String)}

theorem heldAlone_of_heldIn (memory : service.store = .memory store) (shown : heldIn service = some held)
    {userId id : String} (only : ∀ entry ∈ held, entry.2 = id → entry.1 = userId) : store.HeldAlone userId id := by
  rw [heldIn, Service.memory?_eq memory, Option.map_some, Option.some_inj] at shown
  subst shown
  exact .of_entries fun entry listed backs => only _ (List.mem_map_of_mem listed) (Option.some.inj backs)

theorem not_oneHolderEach_of_heldIn (memory : service.store = .memory store) (keyed : store.Keyed)
    (shown : heldIn service = some held) {userId other id : String} (one : (userId, id) ∈ held)
    (two : (other, id) ∈ held) (different : userId ≠ other) : ¬ store.OneHolderEach := by
  rw [heldIn, Service.memory?_eq memory, Option.map_some, Option.some_inj] at shown
  subst shown
  obtain ⟨⟨_, first⟩, listed, ⟨⟩⟩ := List.mem_map.mp one
  obtain ⟨⟨_, second⟩, listedToo, same⟩ := List.mem_map.mp two
  injection same with named backs
  subst named
  exact fun apart => different (apart _ _ first second first.subscriptionId (keyed.entitlements.get?_of_mem listed)
    (keyed.entitlements.get?_of_mem listedToo) rfl (congrArg some backs))

end

theorem simulating_keyed : (store.addUser partner).Keyed := store_keyed.addUser partner

theorem held_along :
    heldIn (simulating.follow visits) = some [] ∧
      heldIn (simulating.follow (visits ++ spaced.take 2)) = some [("u1", "sub_sim_1772359200000")] ∧
      heldIn (simulating.follow (visits ++ spaced)) =
        some [("u1", "sub_sim_1772359200000"), ("u2", "sub_sim_1772359200001")] ∧
      heldIn (simulating.follow (visits ++ waiting.map .simulation)) =
        some [("u1", "sub_sim_1772359200000"), ("u2", "sub_sim_1772359200000")] := by
  simp only [visits, spaced, waiting, List.take_succ_cons, List.take_zero, List.map_cons, List.map_nil, Service.follow,
    List.cons_append, List.nil_append, List.foldl_cons, List.foldl_nil, Service.after, Move.action, Checkout.simulate,
    Checkout.simulatedEvent_eq]
  decide +kernel

end Sample

/-- Activations that are released at different milliseconds are about different subscriptions. -/
theorem subscriptions_apart_of_spaced :
    (∀ earlier, earlier <+: Sample.visits ++ Sample.spaced → ∃ left,
      (Sample.simulating.follow earlier).store = .memory left ∧ left.OneHolderEach) ∧
      Sample.heldIn (Sample.simulating.follow (Sample.visits ++ Sample.spaced)) =
        some [("u1", "sub_sim_1772359200000"), ("u2", "sub_sim_1772359200001")] := by
  obtain ⟨nobody, once, both, -⟩ := Sample.held_along
  have idle : ∀ {service : Service} {store : MemoryStore} {move : Move}, move.event? service.now = none →
      service.GrantsFree store move := by
    intro service store move nothing event about
    cases nothing.symm.trans about
  have free : ∀ earlier move, earlier ++ [move] <+: Sample.visits ++ Sample.spaced → ∀ left,
      (Sample.simulating.follow earlier).store = .memory left →
        (Sample.simulating.follow earlier).GrantsFree left move := by
    refine Move.forall_prefix_cons.mpr ⟨fun _ _ => idle rfl, Move.forall_prefix_cons.mpr ⟨fun _ _ => idle rfl, ?_⟩⟩
    refine Move.forall_prefix_cons.mpr ⟨fun left stored event about userId id grants => ?_,
      Move.forall_prefix_cons.mpr ⟨fun _ _ => idle rfl,
        Move.forall_prefix_cons.mpr ⟨fun left stored event about userId id grants => ?_, ?_⟩⟩⟩
    · exact Sample.heldAlone_of_heldIn stored nobody fun _ listed => absurd listed List.not_mem_nil
    · obtain ⟨millis, clock, rfl⟩ := grants.of_simulation (Outcome.eq_ok_of_toOption about)
      have later : (Sample.simulating.follow (Sample.visits ++ Sample.spaced.take 2)).now.epochMillis.toOption =
          some 1772359200001 := by
        decide +kernel
      obtain rfl : millis = 1772359200001 := Option.some.inj ((congrArg Except.toOption clock).symm.trans later)
      refine Sample.heldAlone_of_heldIn stored once fun entry listed same => ?_
      obtain rfl := List.mem_singleton.mp listed
      exact absurd same (by decide)
    · intro earlier move taken
      simp at taken
  exact ⟨(subscriptions_apart_iff rfl Sample.simulating_keyed (.of_empty rfl) _).mpr fun earlier move left taken =>
    free earlier move taken left, both⟩

/-- Two users went to the checkout. When the activations of their checkouts were released together, they held access
under the same subscription. -/
theorem subscriptions_shared_by_release :
    (Sample.store.addUser Sample.partner).entitlements = ∅ ∧
      (Sample.simulating.follow Sample.visits).simulations = Sample.waiting ∧
      ∃ left, (Checkout.runSimulations.run (Sample.simulating.follow Sample.visits)).2.store = .memory left ∧
        (Sample.simulating.follow (Sample.visits ++ Sample.waiting.map .simulation)).store = .memory left ∧
        ¬ left.OneHolderEach := by
  have began : Sample.simulating.store = .memory (Sample.store.addUser Sample.partner) := rfl
  have waits : (Sample.simulating.follow Sample.visits).simulations = Sample.waiting := by
    simp only [Sample.visits, Service.follow, List.foldl_cons, List.foldl_nil, Service.after, Move.action]
    decide +kernel
  have followed : Sample.simulating.follow (Sample.visits ++ Sample.waiting.map .simulation) =
      (Sample.simulating.follow Sample.visits).follow (Sample.waiting.map .simulation) := List.foldl_append
  obtain ⟨between, visited, -⟩ := Service.exists_follow began Sample.simulating_keyed Sample.visits
  obtain ⟨left, stored, keyed⟩ :=
    Service.exists_follow began Sample.simulating_keyed (Sample.visits ++ Sample.waiting.map .simulation)
  have released := Checkout.store_runSimulations visited
  rw [waits, ← followed, stored] at released
  obtain ⟨-, -, -, shared⟩ := Sample.held_along
  exact ⟨rfl, waits, left, released, stored,
    Sample.not_oneHolderEach_of_heldIn stored keyed shared (.head _) (.tail _ (.head _)) (by decide)⟩

end PaidAccess
