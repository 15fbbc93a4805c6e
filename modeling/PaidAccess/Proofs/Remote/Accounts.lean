import PaidAccess.Proofs.Remote.Edits
/-!
Accounts, plans and entitlements in a table service. What is found there is what the store in memory finds, and what is edited there
is what that edits.
-/

namespace PaidAccess

open List (Forall₂)

/-- Whether the tables of a store have different names, and its procedures. -/
structure RemoteStore.Separate (remote : RemoteStore) : Prop where
  tables : [remote.users, remote.plans, remote.entitlements, remote.usage].Nodup
  procedures : remote.revokeProcedure ≠ remote.spendProcedure

theorem RemoteStore.findUser_eq (remote : RemoteStore) (customerId internalId : Value) :
    remote.findUser customerId internalId =
      ((if customerId.truthy then findRow User.ofValue remote.users "stripe_customer_id" customerId else pure none) >>= fun owner =>
        match owner with
        | some user => pure (some user)
        | none =>
            if internalId.truthy then
              (if customerId.truthy then
                Dialogue.note (.of .warning "billing_user_lookup_fallback"
                  [("customer_id", customerId), ("internal_id", internalId)])
              else pure ()) >>= fun _ => findRow User.ofValue remote.users "id" internalId
            else pure none) := by
  unfold findUser
  cases customerId.truthy <;> cases internalId.truthy <;> rfl

theorem RemoteStore.Separate.apart {remote : RemoteStore} (separate : remote.Separate) :
    remote.users ≠ remote.plans ∧ remote.users ≠ remote.entitlements ∧ remote.users ≠ remote.usage ∧
      remote.plans ≠ remote.entitlements ∧ remote.plans ≠ remote.usage ∧ remote.entitlements ≠ remote.usage := by
  simpa [and_assoc] using separate.tables

theorem RemoteStore.Separate.usage_ne_entitlements {remote : RemoteStore} (separate : remote.Separate) :
    remote.usage ≠ remote.entitlements := by
  obtain ⟨-, -, -, -, -, apart⟩ := separate.apart
  exact apart.symm

namespace Contents

variable {remote : RemoteStore} {tables : Tables} {store after : MemoryStore} {rows : List Fields}

theorem set_users (contents : Contents remote tables store) (separate : remote.Separate)
    (stand : Forall₂ Kind.users.Stands rows after.users.values) (plans : after.plans = store.plans)
    (entitlements : after.entitlements = store.entitlements) (usage : after.usage = store.usage) :
    Contents remote (tables.set remote.users rows) after := by
  obtain ⟨apartPlans, apartEntitlements, apartUsage, -⟩ := separate.apart
  constructor
  · simpa [Tables.set] using stand
  · simpa [Tables.set, Ne.symm apartPlans, plans] using contents.plans
  · simpa [Tables.set, Ne.symm apartEntitlements, entitlements] using contents.entitlements
  · simpa [Tables.set, Ne.symm apartUsage, usage] using contents.usage

theorem set_entitlements (contents : Contents remote tables store) (separate : remote.Separate)
    (stand : Forall₂ Kind.entitlements.Stands rows after.entitlements.values) (users : after.users = store.users)
    (plans : after.plans = store.plans) (usage : after.usage = store.usage) :
    Contents remote (tables.set remote.entitlements rows) after := by
  obtain ⟨-, apartUsers, -, apartPlans, -, apartUsage⟩ := separate.apart
  constructor
  · simpa [Tables.set, apartUsers, users] using contents.users
  · simpa [Tables.set, apartPlans, plans] using contents.plans
  · simpa [Tables.set] using stand
  · simpa [Tables.set, Ne.symm apartUsage, usage] using contents.usage

theorem set_usage (contents : Contents remote tables store) (separate : remote.Separate)
    (stand : Forall₂ Kind.counters.Stands rows after.usage.values) (users : after.users = store.users)
    (plans : after.plans = store.plans) (entitlements : after.entitlements = store.entitlements) :
    Contents remote (tables.set remote.usage rows) after := by
  obtain ⟨-, -, apartUsers, -, apartPlans, apartEntitlements⟩ := separate.apart
  constructor
  · simpa [Tables.set, apartUsers, users] using contents.users
  · simpa [Tables.set, apartPlans, plans] using contents.plans
  · simpa [Tables.set, apartEntitlements, entitlements] using contents.entitlements
  · simpa [Tables.set] using stand

end Contents

namespace MemoryStore

def assigned (store : MemoryStore) (userId : String) (customerId : Value) : Option User :=
  (store.users.get? userId).map fun user => { user with customerId := customerId }

theorem assignCustomer_eq (store : MemoryStore) (userId : String) (customerId : Value) :
    store.assignCustomer userId customerId = (store.assigned userId customerId,
      { store with users := store.users.insert? userId (store.assigned userId customerId) }) := by
  unfold assignCustomer assigned
  cases store.users.get? userId <;> rfl

theorem saveEntitlement_fst (store : MemoryStore) (now : DateTime) (entitlement : Entitlement) :
    (store.saveEntitlement now entitlement).1 = ((store.entitlements.get? entitlement.userId).map fun held =>
      { entitlement with createdAt := held.createdAt, updatedAt := some now }).getD
        { entitlement with createdAt := some now, updatedAt := some now } := by
  unfold saveEntitlement
  cases store.entitlements.get? entitlement.userId <;> rfl

theorem ownerOf_eq {store : MemoryStore} (keyed : store.Keyed) (subscriptionId : String) :
    store.ownerOf (.text subscriptionId) =
      (store.entitlements.values.find? fun held => held.subscriptionId = subscriptionId).map Entitlement.userId := by
  unfold ownerOf OrderedMap.values
  rw [List.find?_map, Option.map_map]
  have tests : (fun entry : String × Entitlement => (Value.text subscriptionId).isText? (some entry.2.subscriptionId)) =
      ((fun held : Entitlement => decide (held.subscriptionId = subscriptionId)) ∘ (·.2)) := by
    funext entry
    exact Bool.eq_iff_iff.mpr (by simp [Value.isText?])
  rw [tests]
  cases found : store.entitlements.entries.find? _ with
  | none => rfl
  | some entry => exact congrArg some (keyed.entitlements.named entry (List.mem_of_find?_eq_some found)).symm

theorem values_revokeSubscription {store : MemoryStore} (keyed : store.Keyed) (regular : store.Regular) (subscriptionId : String) :
    (store.revokeSubscription (.text subscriptionId)).2.entitlements.values =
      store.entitlements.values.filter fun held => !decide (held.subscriptionId = subscriptionId) := by
  unfold revokeSubscription
  rw [ownerOf_eq keyed]
  cases found : store.entitlements.values.find? fun held => held.subscriptionId = subscriptionId with
  | none =>
    refine (List.filter_eq_self.mpr fun held listed => ?_).symm
    simpa using List.find?_eq_none.mp found held listed
  | some owner =>
    have named : owner.subscriptionId = subscriptionId := by simpa using List.find?_some found
    have there := keyed.entitlements.mem_values_iff.mp (List.mem_of_find?_eq_some found)
    refine (keyed.entitlements.values_erase _).trans (List.filter_congr fun held listed => ?_)
    have here := keyed.entitlements.mem_values_iff.mp listed
    have same : held.userId = owner.userId ↔ held.subscriptionId = subscriptionId := by
      constructor
      · intro same
        rw [same, there, Option.some.injEq] at here
        rw [← here, named]
      · intro backs
        exact regular.subscriptions _ _ _ _ subscriptionId here there (congrArg some backs) (congrArg some named)
    simp [same]

end MemoryStore

theorem ownerOfRow_of_shown {value : Value} {held : Entitlement} (shown : Kind.entitlements.Shown value held) :
    RemoteStore.ownerOfRow value = .ok held.userId := by
  obtain ⟨row, rfl, stands⟩ := shown
  have named : Fields.find? "user_id" row = some (.text held.userId) := Fields.find?_of_plain (stands.cell? rfl)
  unfold RemoteStore.ownerOfRow
  simp only [named]
  rfl

namespace TableService.Brings

variable {σ : Type} {service : TableService σ} {remote : RemoteStore} {now : DateTime} {store : MemoryStore}

section

variable (lawful : service.Lawful remote) (keyed : store.Keyed) (regular : store.Regular)

include lawful keyed regular

theorem findRow_of_plain {α : Type} {kind : Kind α} {name column text : String} {things : List α} {test : α → Bool}
    (cell : α → Value) (stand : ∀ tables, Contents remote tables store → Forall₂ kind.Stands (tables name) things)
    (untimed : column ∉ Cell.timeColumns) (stated : ∀ thing, (kind.cells thing).lookup column = some (.plain (cell thing)))
    (means : ∀ thing, test thing = decide (cell thing = .text text)) :
    service.Brings remote now store (RemoteStore.findRow kind.read name column (.text text))
      (fun found => Option.Rel kind.Same found (things.find? test)) store := by
  refine findRow lawful keyed regular ?_ stand fun stands => (stands.test_eq (stated _) untimed text).trans (means _).symm
  rw [Cell.of?_plain untimed]
  rfl

theorem activeEntitlements {time : DateTime} (exact : time.ToTheMinute)
    (zoned : ∀ held ∈ store.entitlements.values, held.expiresAt.Zoned) :
    service.Brings remote now store (remote.activeEntitlements (some time))
      (fun found => ∃ expected, store.activeEntitlements (some time) = .ok expected ∧
        Forall₂ Kind.entitlements.Same found expected) store := by
  have expected : store.activeEntitlements (some time) =
      .ok (store.entitlements.values.filter fun held => time.instant < held.expiresAt.instant) :=
    Outcome.filter_of_forall fun held listed => DateTime.before_of_zoned exact.zoned (zoned held listed)
  have timed := Cell.of?_time (show "expires_at" ∈ Cell.timeColumns by decide) exact.time_iso
  have selected : service.Brings remote now store
      (Dialogue.rows (.table remote.entitlements [.select, .gt "expires_at" (.text time.iso)]))
      (fun answers => Forall₂ Kind.entitlements.Shown answers
        (store.entitlements.values.filter fun held => time.instant < held.expiresAt.instant)) store := by
    have readable : (Query.table remote.entitlements [.select, .gt "expires_at" (.text time.iso)]).isReadable = true := by
      simp [Query.isReadable, Clause.isReadable, timed]
    refine select lawful keyed regular readable fun tables contents =>
      forall₂_filter contents.entitlements fun {row held} stands => ?_
    have expires : row.cell? "expires_at" = some (.time held.expiresAt.moment) := stands.cell? rfl
    have later := Cell.after_time stands.proper exact.zoned
    simpa [Tables.passes, Clause.test, expires, timed] using later
  refine bind (stamp time) ?_
  rintro _ rfl
  exact bind selected fun answers shown => (readRows shown).imp fun found same => ⟨_, expected, same⟩

theorem findUserById (id : String) :
    service.Brings remote now store (RemoteStore.findRow User.ofValue remote.users "id" (.text id))
      (fun found => Option.Rel Kind.users.Same found (store.users.get? id)) store := by
  rw [← keyed.users.find?_values id]
  exact findRow_of_plain lawful keyed regular (fun user : User => .text user.id) (fun _ contents => contents.users) (by decide)
    (fun _ => rfl) fun user => by simp

theorem findUserByEmail (email : String) :
    service.Brings remote now store (RemoteStore.findRow User.ofValue remote.users "email" (.text email))
      (fun found => Option.Rel Kind.users.Same found
        (store.users.values.find? fun user => (Value.text email).isText? user.email)) store := by
  refine findRow_of_plain lawful keyed regular (fun user : User => .ofText? user.email) (fun _ contents => contents.users)
    (by decide) (fun _ => rfl) fun user => Bool.eq_iff_iff.mpr ?_
  cases email : user.email <;> simp [Value.isText?, Value.ofText?, Value.ofOption]

theorem findPlan (id : String) :
    service.Brings remote now store (RemoteStore.findRow Plan.ofValue remote.plans "id" (.text id))
      (fun found => Option.Rel Kind.plans.Same found (store.findPlan (.text id))) store :=
  findRow_of_plain lawful keyed regular (fun plan : Plan => .text plan.id) (fun _ contents => contents.plans) (by decide)
    (fun _ => rfl) fun plan => Bool.eq_iff_iff.mpr (by simp [Value.isText?])

theorem findPlanByProduct (product : String) :
    service.Brings remote now store (RemoteStore.findRow Plan.ofValue remote.plans "stripe_product_id" (.text product))
      (fun found => Option.Rel Kind.plans.Same found (store.plans.get? product)) store := by
  rw [← keyed.plans.find?_values product]
  exact findRow_of_plain lawful keyed regular (fun plan : Plan => .text plan.productId) (fun _ contents => contents.plans)
    (by decide) (fun _ => rfl) fun plan => by simp

theorem findEntitlement (userId : String) :
    service.Brings remote now store (RemoteStore.findRow Entitlement.ofValue remote.entitlements "user_id" (.text userId))
      (fun found => Option.Rel Kind.entitlements.Same found (store.entitlements.get? userId)) store := by
  rw [← keyed.entitlements.find?_values userId]
  exact findRow_of_plain lawful keyed regular (fun held : Entitlement => .text held.userId)
    (fun _ contents => contents.entitlements) (by decide) (fun _ => rfl)
    fun held => by simp

theorem findUserByCustomer {customerId : Value} (named : ∃ customer : Option String, customerId = .ofText? customer) :
    service.Brings remote now store
      (if customerId.truthy then RemoteStore.findRow User.ofValue remote.users "stripe_customer_id" customerId
        else Pure.pure none) (fun found => Option.Rel Kind.users.Same found (store.userOfCustomer customerId)) store := by
  unfold MemoryStore.userOfCustomer
  obtain ⟨_ | customer, rfl⟩ := named
  · exact pure .none
  · split
    next =>
      exact findRow_of_plain lawful keyed regular User.customerId (fun _ contents => contents.users) (by decide)
        (fun _ => rfl) fun user => rfl
    next => exact pure .none

theorem findUser {customerId internalId : Value} (named : ∃ customer : Option String, customerId = .ofText? customer)
    (namedToo : ∃ id : Option String, internalId = .ofText? id) :
    service.Brings remote now store (remote.findUser customerId internalId)
      (fun found => ∃ expected, store.findUser customerId internalId = .ok expected ∧
        Option.Rel Kind.users.Same found expected) store := by
  unfold MemoryStore.findUser
  rw [RemoteStore.findUser_eq]
  refine bind (findUserByCustomer lawful keyed regular named) fun found same => ?_
  revert same
  generalize store.userOfCustomer customerId = expected
  rintro (same | _)
  · exact pure ⟨_, rfl, .some same⟩
  · unfold MemoryStore.userOfId
    obtain ⟨_ | id, rfl⟩ := namedToo
    · exact pure ⟨none, rfl, .none⟩
    · dsimp only
      split
      next =>
        have noted : service.Brings remote now store
            (if customerId.truthy then
              Dialogue.note (.of .warning "billing_user_lookup_fallback"
                [("customer_id", customerId), ("internal_id", .ofText? (some id))])
            else Pure.pure ()) (fun _ => True) store := by
          split
          next => exact note _
          next => exact pure trivial
        exact bind noted fun _ _ => (findUserById lawful keyed regular id).imp fun found same => ⟨_, rfl, same⟩
      next => exact pure ⟨none, rfl, .none⟩

end

section

variable (lawful : service.Lawful remote) (separate : remote.Separate) (keyed : store.Keyed)

include lawful separate keyed

theorem assignCustomer (userId customerId : String) (regular : (store.assignCustomer userId (.text customerId)).2.Regular) :
    service.Brings remote now store (remote.assignCustomer (.text userId) (.text customerId))
      (fun found => Option.Rel Kind.users.Same found (store.assignCustomer userId (.text customerId)).1)
      (store.assignCustomer userId (.text customerId)).2 := by
  have after := keyed.assignCustomer userId (.text customerId)
  rw [MemoryStore.assignCustomer_eq] at regular after ⊢
  have changed : service.Brings remote now store (Dialogue.rows (.table remote.users
      [.update [("stripe_customer_id", .text customerId)], .eq "id" (.text userId)]))
      (fun answers => Forall₂ Kind.users.Shown answers (store.assigned userId (.text customerId)).toList)
      { store with users := store.users.insert? userId (store.assigned userId (.text customerId)) } := by
    refine rows lawful after regular rfl fun tables contents => ?_
    have decides : ∀ {row user}, Kind.users.Stands row user → Tables.passes [.eq "id" (.text userId)] row =
        (decide (user.id = userId) && true) := by
      intro row user stands
      have same : Clause.test (.eq "id" (.text userId)) row = decide (Value.text user.id = .text userId) :=
        stands.test_eq rfl (by decide) userId
      simpa [Tables.passes] using same
    obtain ⟨answered, left⟩ := Kind.change_at (fun _ => true) keyed.users contents.users decides
      fun stands _ _ => User.stands_merge stands customerId
    have all : (store.users.get? userId).filter (fun _ => true) = store.users.get? userId := by
      cases store.users.get? userId <;> rfl
    rw [all] at answered left
    exact ⟨_, _, rfl, contents.set_users separate left rfl rfl rfl, fun answers shown => forall₂_comp shown answered .of_stands⟩
  exact bind (note _) fun _ _ => bind changed fun answers shown => readRow (by simpa using rel_head? shown)

theorem saveEntitlement {entitlement : Entitlement} (expires : entitlement.expiresAt.ToTheMinute) (clock : now.ToTheMinute)
    (regular : (store.saveEntitlement now entitlement).2.Regular) :
    service.Brings remote now store (remote.saveEntitlement now entitlement)
      (fun found => Kind.entitlements.Same found (store.saveEntitlement now entitlement).1)
      (store.saveEntitlement now entitlement).2 := by
  have saved : service.Brings remote now store (Dialogue.rows (.table remote.entitlements
      [.upsert (.record (RemoteStore.entitlementRow now entitlement)) "user_id" false]))
      (fun answers => Forall₂ Kind.entitlements.Shown answers [(store.saveEntitlement now entitlement).1])
      (store.saveEntitlement now entitlement).2 := by
    have readable : (Query.table remote.entitlements
        [.upsert (.record (RemoteStore.entitlementRow now entitlement)) "user_id" false]).isReadable = true := by
      simp [Query.isReadable, Clause.isReadable, Tables.given, Entitlement.isReadable_row expires clock]
    refine rows lawful (keyed.apply now (.saveEntitlement entitlement)) regular readable fun tables contents => ?_
    have creation : Fields.cell? [("created_at", .text now.iso)] "created_at" = some (.ofTime? (some now)) := by
      rw [Fields.cell?_cons, if_pos rfl]
      exact Cell.of?_time (by decide) clock.time_iso
    have edits : ∀ {row held}, Kind.entitlements.Stands row held →
        Kind.entitlements.Stands (row.merge (RemoteStore.entitlementRow now entitlement))
          { entitlement with createdAt := held.createdAt, updatedAt := some now } := by
      intro row held stands
      exact Entitlement.stands_merge expires clock (stands.cell? rfl)
    obtain ⟨answered, left⟩ := Kind.upsert keyed.entitlements contents.entitlements Entitlement.agreeOn_entitlementRow
      (Entitlement.stands_merge expires clock creation) edits
    rw [← MemoryStore.saveEntitlement_fst] at answered left
    have columns : Tables.conflict "user_id" = ["user_id"] := by decide
    have defaults : Tables.defaults remote now remote.entitlements = [("created_at", .text now.iso)] := if_pos rfl
    refine ⟨_, _, Tables.run_upsert .., ?_, fun answers shown => ?_⟩
    · rw [columns, defaults]
      exact contents.set_entitlements separate left rfl rfl rfl
    · rw [columns, defaults] at shown
      exact forall₂_comp shown answered .of_stands
  refine bind (note _) fun _ _ => bind saved fun answers shown => bind (readRow (rel_head? shown)) fun found same => ?_
  cases same with
  | some same => exact pure same

theorem revoke (userId : String) (regular : (store.revoke userId).Regular) :
    service.Brings remote now store (remote.revoke (.text userId)) (fun _ => True) (store.revoke userId) := by
  have revoked : service.Brings remote now store
      (Dialogue.rows (.call remote.revokeProcedure [("target_user_id", .text userId)])) (fun _ => True) (store.revoke userId) := by
    refine rows lawful (keyed.revoke userId) regular rfl fun tables contents => ?_
    refine ⟨_, _, if_pos rfl, ?_, fun _ _ => trivial⟩
    have used : Forall₂ Kind.counters.Stands
        (Tables.remove (Clause.test (.eq "user_id" (.text userId))) (tables remote.usage)).2 (store.revoke userId).usage.values := by
      refine (keyed.usage.values_eraseWhere _).symm ▸ forall₂_filter contents.usage fun {row counter} stands => ?_
      rw [stands.test_eq rfl (by decide)]
      simp [UsageCounter.key, Bool.beq_eq_decide_eq]
    have held : Forall₂ Kind.entitlements.Stands
        (Tables.remove (Clause.test (.eq "user_id" (.text userId))) (tables remote.entitlements)).2
        (store.revoke userId).entitlements.values := by
      refine (keyed.entitlements.values_erase _).symm ▸ forall₂_filter contents.entitlements fun {row held} stands => ?_
      rw [stands.test_eq rfl (by decide)]
      simp
    have between : Contents remote (tables.set remote.usage _) { store with usage := (store.revoke userId).usage } :=
      contents.set_usage separate used rfl rfl rfl
    exact between.set_entitlements separate held rfl rfl rfl
  exact bind revoked fun _ _ => note _

theorem revokeSubscription (subscriptionId : String) (before : store.Regular)
    (regular : (store.revokeSubscription (.text subscriptionId)).2.Regular) :
    service.Brings remote now store (remote.revokeSubscription (.text subscriptionId))
      (fun found => found = (store.revokeSubscription (.text subscriptionId)).1)
      (store.revokeSubscription (.text subscriptionId)).2 := by
  have decides : ∀ {row held}, Kind.entitlements.Stands row held →
      Tables.passes [.eq "stripe_subscription_id" (.text subscriptionId)] row = decide (held.subscriptionId = subscriptionId) := by
    intro row held stands
    have same : Clause.test (.eq "stripe_subscription_id" (.text subscriptionId)) row =
        decide (Value.text held.subscriptionId = .text subscriptionId) := stands.test_eq rfl (by decide) subscriptionId
    simpa [Tables.passes] using same
  have removed : service.Brings remote now store
      (Dialogue.rows (.table remote.entitlements [.delete, .eq "stripe_subscription_id" (.text subscriptionId)]))
      (fun answers => Forall₂ Kind.entitlements.Shown answers
        (store.entitlements.values.filter fun held => held.subscriptionId = subscriptionId))
      (store.revokeSubscription (.text subscriptionId)).2 := by
    refine rows lawful (keyed.revokeSubscription _) regular rfl fun tables contents =>
      ⟨_, _, rfl, contents.set_entitlements separate ?_ ?_ ?_ ?_, fun answers shown =>
        forall₂_comp shown (forall₂_filter contents.entitlements decides) .of_stands⟩
    · rw [MemoryStore.values_revokeSubscription keyed before]
      exact forall₂_filter contents.entitlements fun stands => congrArg (!·) (decides stands)
    all_goals
      unfold MemoryStore.revokeSubscription
      split <;> rfl
  rw [MemoryStore.revokeSubscription_owner, MemoryStore.ownerOf_eq keyed]
  refine bind removed fun answers shown => ?_
  have first := rel_head? shown
  rw [List.head?_filter] at first
  revert first
  generalize answers.head? = answer, store.entitlements.values.find? _ = owner
  rintro (shown | _)
  · exact bind (lift (ownerOfRow_of_shown shown) rfl) fun owner same => pure (same ▸ rfl)
  · exact bind (note _) fun _ _ => pure rfl

end

end TableService.Brings

end PaidAccess
