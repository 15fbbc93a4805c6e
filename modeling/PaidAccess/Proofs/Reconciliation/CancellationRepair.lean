import PaidAccess.Proofs.Reconciliation.Interruption
import PaidAccess.Proofs.Reconciliation.Ownership
import PaidAccess.Proofs.Reconciliation.Redelivery
/-!
A cancellation that fails and is announced again. A user who is found by customer or reference is found again.
But access that was found by the subscription is removed in two steps, the first of which removes what it was
found by: if the second one fails, the next cancellation finds nothing, and the counters stay.
-/

namespace PaidAccess

open PaidAccess.Action Reconciliation

namespace Scripted

theorem cancelledUser {writes : Bool} (customer reference : Value) :
    Scripted writes (cancelledUser customer reference) := by
  unfold Reconciliation.cancelledUser
  split
  next => exact .perform _ (.inr rfl)
  next => exact .pure _

theorem reconcileCancellation (subscription : Value) : Scripted true (reconcileCancellation subscription) := by
  refine .bind (.lift _) fun fields => ?_
  dsimp only
  split
  next => exact .bind (.log _) fun _ => .pure _
  next =>
    refine .bind (.lift _) fun customer => .bind (.lift _) fun reference => .bind (cancelledUser _ _) fun user => ?_
    cases user with
    | some user =>
      refine .bind (.perform _ (.inl rfl)) fun _ => .bind (.log _) fun _ => ?_
      exact .bind (.notify rfl _ _ _) fun _ => .pure _
    | none =>
      refine .bind (.log _) fun _ => .bind (.perform _ (.inl rfl)) fun owner => ?_
      cases owner with
      | none => exact .bind (.log _) fun _ => .pure _
      | some owner => exact .bind (.perform _ (.inl rfl)) fun _ => .bind (.log _) fun _ => .pure _

end Scripted

/-- What a cancellation leaves that failed between its two steps. -/
structure CutShort (origin : Service) (fields : Fields) (id owner : String) (store : MemoryStore) (after : Service) :
    Prop where
  nobody : store.cancelledBy fields = .ok none
  held : store.ownerOf (.text id) = some owner
  beside : after.Beside origin (store.revokeSubscription (.text id)).2
  met : origin.Met after (.store .revoke)

/-- What a cancellation leaves that failed before it changed anything. If nobody was named, it had not yet begun to
take away a user's access. -/
structure Unbegun (origin : Service) (fields : Fields) (store : MemoryStore) (after : Service) : Prop where
  beside : after.Beside origin store
  unmet : store.cancelledBy fields = .ok none → ¬ origin.Met after (.store .revoke)

namespace Reconciliation

variable {service origin : Service} {store : MemoryStore} {fields : Fields} {id : String}

theorem truthy_of_hasBeginning (proper : hasBeginning "sub_" id = true) : (Value.text id).truthy = true := by
  simp only [Value.truthy, bne_iff_ne]
  rintro rfl
  cases proper

theorem cancelledUser_ends (beside : service.Beside origin store) (customer reference : Value)
    {returns : Option User → Service → Prop} {raises : Failure → Service → Prop}
    (returned : ∀ found after, store.cancelled customer reference = .ok found → after.Beside origin store →
      after.faults (.store .revoke) = service.faults (.store .revoke) → returns found after)
    (raised : ∀ failure after, after.Beside origin store →
      after.faults (.store .revoke) = service.faults (.store .revoke) → raises failure after) :
    (cancelledUser customer reference).Ends service returns raises := by
  unfold cancelledUser
  unfold MemoryStore.cancelled at returned
  split
  next named =>
    rw [if_pos named] at returned
    exact .inspect beside rfl (fun found after outcome there spared => returned found after outcome there (spared _ rfl))
      fun failure after there spared => raised failure after there (spared _ rfl)
  next unnamed =>
    rw [if_neg unnamed] at returned
    exact .pure (returned none service rfl beside rfl)

theorem reconcileCancellation_ends (memory : service.store = .memory store) (named : fields.get "id" = .text id)
    (proper : hasBeginning "sub_" id = true) :
    (reconcileCancellation (.record fields)).Ends service (fun _ _ => True) fun _ after =>
      Unbegun service fields store after ∨ ∃ owner, CutShort service fields id owner store after := by
  have beside := Service.Beside.refl memory
  have apart : FaultPoint.store .revoke ≠ .store .revokeSubscription := by decide
  have unmet : ∀ {after : Service}, after.faults (.store .revoke) = service.faults (.store .revoke) →
      store.cancelledBy fields = .ok none → ¬ service.Met after (.store .revoke) :=
    fun same _ => Service.not_met_of_faults_eq same
  refine .bind (.lift (fun known read => ?_) (by rintro failure ⟨⟩))
  cases read
  dsimp only
  rw [named, truthy_of_hasBeginning proper, Value.display, proper]
  simp only [Bool.not_true, Bool.or_self, Bool.false_eq_true, ↓reduceIte]
  refine .bind (.lift (fun customer paying => ?_) fun _ _ => .inl ⟨beside, unmet rfl⟩)
  refine .bind (.lift (fun reference referring => ?_) fun _ _ => .inl ⟨beside, unmet rfl⟩)
  refine .bind (cancelledUser_ends beside customer reference (fun found after resolved there same => ?_)
    fun _ after there same => .inl ⟨there, unmet same⟩)
  have about : store.cancelledBy fields = .ok found := by
    unfold MemoryStore.cancelledBy
    rw [paying, referring]
    exact resolved
  cases found with
  | some user =>
    have somebody : ∀ {left : Service}, store.cancelledBy fields = .ok none → ¬ service.Met left (.store .revoke) := by
      intro left nobody
      rw [about] at nobody
      cases nobody
    refine .bind (.perform there (fun _ _ here _ _ => .inl ⟨here, somebody⟩) (fun _ _ _ _ _ => ?_)
      (by rintro failure after ⟨⟩))
    exact .bind (.log (.bind (.notify (.pure trivial))))
  | none =>
    refine .bind (.log (.bind (.perform (there.logged _) (fun _ _ here _ spared => ?_)
      (fun owner between removed here spared => ?_) (by rintro failure after ⟨⟩))))
    · exact .inl ⟨here, unmet ((spared (.store .revoke) apart).trans same)⟩
    · have removed : (store.revokeSubscription (.text id)).1 = owner := Except.ok.inj removed
      cases owner with
      | none => exact .bind (.log (.pure trivial))
      | some owner =>
        have held : store.ownerOf (.text id) = some owner := by
          rw [← store.revokeSubscription_owner]
          exact removed
        refine .bind (.perform here (fun failure left cut fails _ => .inr ⟨owner, about, held, cut, ?_⟩)
          (fun _ _ _ _ _ => .bind (.log (.pure trivial))) (by rintro failure after ⟨⟩))
        -- nothing before this call has used up the plan for its place
        have planned := calc
          service.faults (.store .revoke) = after.faults (.store .revoke) := same.symm
          _ = between.faults (.store .revoke) := (spared (.store .revoke) apart).symm
          _ = some failure :: left.faults (.store .revoke) := fails
        exact ⟨[some failure], planned, failure, List.mem_cons_self⟩

end Reconciliation

namespace MemoryStore

variable {store : MemoryStore} {fields : Fields} {id owner : String}

theorem cancel_of_named (named : fields.get "id" = .text id) (proper : hasBeginning "sub_" id = true) :
    store.cancel (.record fields) = store.proceed (store.cancelledBy fields) fun
      | some user => (.ok true, store.revoke user.id)
      | none => store.revokeOwner id := by
  unfold cancel Payload.record cancelledBy
  rw [proceed_ok]
  dsimp only
  rw [named, truthy_of_hasBeginning proper, Value.display, proper]
  simp only [Bool.not_true, Bool.or_self, Bool.false_eq_true, ↓reduceIte]
  rw [proceed_bind]
  congr 1
  funext customer
  exact (store.proceed_bind _ _ _).symm

def Loses (store : MemoryStore) (fields : Fields) (id userId : String) : Prop :=
  (∃ user, store.cancelledBy fields = .ok (some user) ∧ user.id = userId) ∨
    (store.cancelledBy fields = .ok none ∧ store.ownerOf (.text id) = some userId)

theorem revokeOwner_eq (held : store.ownerOf (.text id) = some owner) :
    store.revokeOwner id = (.ok true, store.revoke owner) := by
  unfold revokeOwner revokeSubscription
  simp only [held]
  unfold revoke
  rw [OrderedMap.erase_of_get?_eq_none (OrderedMap.get?_erase_self _ _)]

theorem revoked_of_loses (named : fields.get "id" = .text id) (proper : hasBeginning "sub_" id = true)
    {userId : String} (loses : store.Loses fields id userId) :
    (store.cancel (.record fields)).2.entitlements.get? userId = none ∧
      (store.cancel (.record fields)).2.Uncounted userId := by
  have revoked : (store.cancel (.record fields)).2 = store.revoke userId := by
    rw [cancel_of_named named proper]
    rcases loses with ⟨user, about, rfl⟩ | ⟨nobody, held⟩
    · rw [about]
      rfl
    · rw [nobody, proceed_ok, revokeOwner_eq held]
  rw [revoked]
  exact ⟨OrderedMap.get?_erase_self _ _, uncounted_revoke store userId⟩

/-- Whether a user has no counters and is the only one with an entitlement under a subscription. -/
structure Detached (store : MemoryStore) (id owner : String) : Prop where
  uncounted : store.Uncounted owner
  alone : ∀ userId held, store.entitlements.get? userId = some held → held.subscriptionId = id → userId = owner

theorem revokeSubscription_eq (held : store.ownerOf (.text id) = some owner) :
    (store.revokeSubscription (.text id)).2 = { store with entitlements := store.entitlements.erase owner } := by
  unfold revokeSubscription
  rw [held]

theorem get?_of_ownerOf (keyed : store.Keyed) (found : store.ownerOf (.text id) = some owner) :
    ∃ held, store.entitlements.get? owner = some held ∧ held.subscriptionId = id := by
  unfold ownerOf at found
  obtain ⟨entry, listed, rfl⟩ := Option.map_eq_some_iff.mp found
  refine ⟨entry.2, keyed.entitlements.get?_of_mem (List.mem_of_find?_eq_some listed), ?_⟩
  have matching := List.find?_some listed
  simpa [Value.isText?] using matching

theorem ownerOf_eq_none_iff (keyed : store.Keyed) :
    store.ownerOf (.text id) = none ↔
      ∀ userId held, store.entitlements.get? userId = some held → held.subscriptionId ≠ id := by
  constructor
  · intro missing userId held there same
    unfold ownerOf at missing
    rw [Option.map_eq_none_iff, List.find?_eq_none] at missing
    exact missing _ (OrderedMap.mem_of_get? there) (by simp [Value.isText?, same])
  · intro others
    cases found : store.ownerOf (.text id) with
    | none => rfl
    | some owner =>
      obtain ⟨held, there, same⟩ := get?_of_ownerOf keyed found
      exact (others owner held there same).elim

theorem ownerOf_revokeSubscription_eq_none_iff (keyed : store.Keyed) (held : store.ownerOf (.text id) = some owner) :
    (store.revokeSubscription (.text id)).2.ownerOf (.text id) = none ↔
      ∀ userId held, store.entitlements.get? userId = some held → held.subscriptionId = id → userId = owner := by
  rw [ownerOf_eq_none_iff (keyed.revokeSubscription _), revokeSubscription_eq held]
  constructor
  · intro others userId entitlement there same
    refine Decidable.byContradiction fun different => others userId entitlement ?_ same
    exact (OrderedMap.get?_erase_of_ne _ different).trans there
  · intro alone userId entitlement there same
    dsimp only at there
    rw [OrderedMap.get?_erase] at there
    split at there
    next => cases there
    next different => exact different (alone userId entitlement there same)

theorem usage_revoke_eq_iff (userId : String) : (store.revoke userId).usage = store.usage ↔ store.Uncounted userId := by
  constructor
  · intro same
    have uncounted := uncounted_revoke store userId
    unfold Uncounted at uncounted ⊢
    rwa [same] at uncounted
  · intro uncounted
    exact OrderedMap.eraseWhere_of_forall fun key member => beq_false_of_ne (uncounted key member)

/-- A cancellation that resumes between the two steps ends as it would have exactly if there was nothing left to do. -/
theorem resumed_iff (keyed : store.Keyed) (held : store.ownerOf (.text id) = some owner) :
    (((store.revokeSubscription (.text id)).2.revokeOwner id).2.entitlements = (store.revoke owner).entitlements ∧
        ((store.revokeSubscription (.text id)).2.revokeOwner id).2.usage = (store.revoke owner).usage) ↔
      store.Detached id owner := by
  have left := revokeSubscription_eq held
  cases found : (store.revokeSubscription (.text id)).2.ownerOf (.text id) with
  | none =>
    -- nothing is found by the subscription any more, so that counters stay if there were any
    have alone := (ownerOf_revokeSubscription_eq_none_iff keyed held).mp found
    have idle : ((store.revokeSubscription (.text id)).2.revokeOwner id).2 =
        (store.revokeSubscription (.text id)).2 := by
      unfold revokeOwner
      rw [found]
    rw [idle, left]
    constructor
    · rintro ⟨-, same⟩
      exact ⟨(usage_revoke_eq_iff owner).mp same.symm, alone⟩
    · intro detached
      exact ⟨rfl, ((usage_revoke_eq_iff owner).mpr detached.uncounted).symm⟩
  | some other =>
    -- somebody else is found by it, who would have kept access
    constructor
    · rintro ⟨same, -⟩
      obtain ⟨entitlement, there, -⟩ := get?_of_ownerOf (keyed.revokeSubscription _) found
      rw [revokeOwner_eq found] at same
      have gone : (store.revoke owner).entitlements.get? other = none := by
        rw [← same]
        exact OrderedMap.get?_erase_self _ _
      rw [left] at there
      cases gone.symm.trans there
    · intro detached
      rw [(ownerOf_revokeSubscription_eq_none_iff keyed held).mpr detached.alone] at found
      cases found

end MemoryStore

namespace Reconciliation

/-- A cancellation that is delivered again, this time without any failures, after calls may have failed. -/
def recancelled (subscription : Value) (service : Service) : Outcome Bool × Service :=
  (reconcileCancellation subscription).run ((reconcileCancellation subscription).run service).2.calmed

/-- A cancellation that met a planned failure fails, and is repaired by the next one exactly if it was not cut short
with anything left to do: if the failure was met when the counters were to be removed of a user whose access was
found by the subscription, then that user must have had none, and nobody else access under the subscription. -/
theorem cancellation_repaired_iff {service : Service} {around : Surroundings} {store : MemoryStore}
    (placed : service.calmed.At around store) (keyed : store.Keyed) {fields : Fields} {id : String}
    (named : fields.get "id" = .text id) (proper : hasBeginning "sub_" id = true) {point : FaultPoint}
    (met : service.Met ((reconcileCancellation (.record fields)).run service).2 point) :
    (∃ failure, ((reconcileCancellation (.record fields)).run service).1 = .error failure) ∧
    ∃ repaired direct : MemoryStore, (recancelled (.record fields) service).2.store = .memory repaired ∧
      ((reconcileCancellation (.record fields)).run service.calmed).2.store = .memory direct ∧
      (∀ userId, store.Loses fields id userId →
        direct.entitlements.get? userId = none ∧ direct.Uncounted userId) ∧
      ((repaired.entitlements = direct.entitlements ∧ repaired.usage = direct.usage) ↔
        (service.Met ((reconcileCancellation (.record fields)).run service).2 (.store .revoke) →
          ∀ owner, store.cancelledBy fields = .ok none → store.ownerOf (.text id) = some owner →
            store.Detached id owner)) := by
  have memory : service.store = .memory store := placed.memory
  obtain ⟨failure, failed⟩ := (Scripted.reconcileCancellation (.record fields)).fails_of_met memory met
  refine ⟨⟨failure, failed⟩, ?_⟩
  have landed := ((reconcileCancellation_evaluates (.record fields)).run placed).2
  have resumed : ∀ left : MemoryStore,
      ((reconcileCancellation (.record fields)).run service).2.Beside service left →
      (recancelled (.record fields) service).2.store = .memory (left.cancel (.record fields)).2 := fun left beside =>
    ((reconcileCancellation_evaluates (.record fields)).run (beside.placed placed)).2.memory
  rcases (reconcileCancellation_ends memory named proper).raised failure _ (Prod.ext failed rfl) with
    unbegun | ⟨owner, cut⟩
  · refine ⟨_, _, resumed store unbegun.beside, landed.memory, fun _ => MemoryStore.revoked_of_loses named proper,
      fun _ revoking _ nobody => (unbegun.unmet nobody revoking).elim, fun _ => ⟨rfl, rfl⟩⟩
  · refine ⟨_, _, resumed _ cut.beside, landed.memory, fun _ => MemoryStore.revoked_of_loses named proper, ?_⟩
    have nobodyToo : (store.revokeSubscription (.text id)).2.cancelledBy fields = .ok none := by
      rw [MemoryStore.revokeSubscription_eq cut.held]
      exact cut.nobody
    have direct : store.cancel (.record fields) = (.ok true, store.revoke owner) := by
      rw [MemoryStore.cancel_of_named named proper, cut.nobody]
      exact MemoryStore.revokeOwner_eq cut.held
    have resumes : (store.revokeSubscription (.text id)).2.cancel (.record fields) =
        (store.revokeSubscription (.text id)).2.revokeOwner id := by
      rw [MemoryStore.cancel_of_named named proper, nobodyToo]
      rfl
    rw [direct, resumes, MemoryStore.resumed_iff keyed cut.held]
    constructor
    · intro detached _ other _ held
      rw [cut.held] at held
      cases held
      exact detached
    · intro detached
      exact detached cut.met owner cut.nobody cut.held

def stubborn : Service :=
  (Sample.service (Sample.march 30 0) upgraded (Sample.tables "sub_1" "canceled" "prod_basic")).plan (.store .revoke)
    [some (.runtime "store is away")]

theorem cancellation_repaired_of_user :
    ∃ repaired direct : MemoryStore,
      (recancelled (.record (cancellation "sub_2")) stubborn).2.store = .memory repaired ∧
      ((reconcileCancellation (.record (cancellation "sub_2"))).run stubborn.calmed).2.store = .memory direct ∧
      repaired.entitlements = direct.entitlements ∧ repaired.usage = direct.usage ∧
      direct.entitlements.get? "u1" = none ∧ direct.Uncounted "u1" := by
  have keyed : upgraded.Keyed := Sample.store_keyed.addEntitlement secondPurchase
  have about : upgraded.cancelledBy (cancellation "sub_2") = .ok (some Sample.user) := rfl
  have spent : ((reconcileCancellation (.record (cancellation "sub_2"))).run stubborn).2.faults (.store .revoke) = [] :=
    List.isEmpty_iff.mp (by decide +kernel)
  have met : stubborn.Met ((reconcileCancellation (.record (cancellation "sub_2"))).run stubborn).2 (.store .revoke) :=
    ⟨[some (.runtime "store is away")], by rw [spent]; rfl, .runtime "store is away", List.mem_cons_self⟩
  have placed : stubborn.calmed.At _ upgraded := upgraded_at
  have named : (cancellation "sub_2").get "id" = .text "sub_2" := rfl
  obtain ⟨-, repaired, direct, there, here, taken, same⟩ :=
    cancellation_repaired_iff placed keyed named (by decide +kernel) met
  obtain ⟨entitlements, usage⟩ := same.mpr fun _ owner nobody => by
    rw [about] at nobody
    cases nobody
  obtain ⟨gone, uncounted⟩ := taken "u1" (.inl ⟨Sample.user, about, rfl⟩)
  exact ⟨repaired, direct, there, here, entitlements, usage, gone, uncounted⟩

def orphan : Entitlement := { secondPurchase with userId := "u9" }

/-- The shop with that purchase and what was spent from it, where access cannot be taken away at first. -/
def orphanage : Service :=
  (Sample.service (Sample.march 30 0)
    ((Sample.store.addEntitlement orphan).addCounter
      ⟨"u9", .aiCredits, .whole 7, Sample.march 0 32400, Sample.march 30 32400⟩)
    ProviderTables.empty).plan (.store .revoke) [some (.runtime "store is away")]

def orphanCancellation : Value := .record [("id", .text "sub_2"), ("customer", .text "cus_9")]

/-- A cancellation that is cut short takes the entitlement away, and the next one finds nothing to take away: the
counter stays, which a cancellation that never failed removes. -/
theorem cancellation_leaves_counter :
    ((reconcileCancellation orphanCancellation).run orphanage).2.faults (.store .revoke) = [] ∧
    ((recancelled orphanCancellation orphanage).2.memory?.map fun store =>
      (store.entitlements.entries.length, store.usage.entries.length)) = some (0, 1) ∧
    (((reconcileCancellation orphanCancellation).run orphanage.calmed).2.memory?.map fun store =>
      (store.entitlements.entries.length, store.usage.entries.length)) = some (0, 0) :=
  ⟨List.isEmpty_iff.mp (by decide +kernel), by decide +kernel, by decide +kernel⟩

end Reconciliation

end PaidAccess
