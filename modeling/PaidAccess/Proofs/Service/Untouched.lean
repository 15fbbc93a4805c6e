import PaidAccess.Proofs.Service.Blame
/-!
Actions that leave a service untouched, and what handling an announcement comes to: it is ignored and nothing is touched, or
all that it asks for is done, or it fails.
-/

namespace PaidAccess

/-- Whether nothing was done to a service but to ask the provider for the event in a message, and to log that. -/
structure Service.Untouched (before after : Service) : Prop where
  store : after.store = before.store
  queries : after.journal.queries = before.journal.queries
  deliveries : after.journal.deliveries = before.journal.deliveries
  requests : ∃ asked, after.journal.requests = before.journal.requests ++ asked ∧
    ∀ request ∈ asked, request.method = .openEvent

namespace Service.Untouched

variable {first second third : Service}

theorem of_same (store : second.store = first.store) (queries : second.journal.queries = first.journal.queries)
    (deliveries : second.journal.deliveries = first.journal.deliveries)
    (requests : second.journal.requests = first.journal.requests) : first.Untouched second :=
  ⟨store, queries, deliveries, [], by rw [requests, List.append_nil], nofun⟩

theorem refl (service : Service) : service.Untouched service := .of_same rfl rfl rfl rfl

theorem trans (before : first.Untouched second) (after : second.Untouched third) : first.Untouched third := by
  obtain ⟨asked, requests, opened⟩ := before.requests
  obtain ⟨askedToo, requestsToo, openedToo⟩ := after.requests
  refine ⟨after.store.trans before.store, after.queries.trans before.queries, after.deliveries.trans before.deliveries,
    asked ++ askedToo, by rw [requestsToo, requests, List.append_assoc], fun request listed => ?_⟩
  rcases List.mem_append.mp listed with here | there
  · exact opened request here
  · exact openedToo request there

theorem logged (service : Service) (entry : LogEntry) : service.Untouched (service.logged entry) :=
  .of_same rfl rfl rfl rfl

theorem foldl_logged (service : Service) (entries : List LogEntry) :
    service.Untouched (entries.foldl Service.logged service) := by
  induction entries generalizing service with
  | nil => exact .refl service
  | cons entry rest ih => exact (logged service entry).trans (ih _)

theorem nextFault (service : Service) (point : FaultPoint) : service.Untouched (service.nextFault point).2 := by
  unfold Service.nextFault
  split
  next => exact .refl service
  next => exact .of_same rfl rfl rfl rfl

end Service.Untouched

def Action.Untouching {α : Type} (action : Action α) : Prop :=
  ∀ service : Service, service.Untouched (action.run service).2

namespace Action.Untouching

variable {α β : Type} {action : Action α}

theorem bind {next : α → Action β} (first : action.Untouching) (rest : ∀ value, (next value).Untouching) :
    (action >>= next).Untouching := by
  intro service
  have before := first service
  rw [run_bind]
  rcases ran : action.run service with ⟨failure | value, between⟩ <;> rw [ran] at before
  · exact before
  · exact before.trans (rest value between)

theorem lift (outcome : Outcome α) : (Action.lift outcome).Untouching := fun service => .refl service

theorem askForEvent {request : ProviderRequest} (opens : request.method = .openEvent) :
    (Action.ask request).Untouching := by
  intro service
  have asked : service.Untouched (service.requested request) := by
    refine ⟨rfl, rfl, rfl, [request], rfl, fun other listed => ?_⟩
    rw [List.mem_singleton.mp listed]
    exact opens
  have served : Action.Untouching (Action.pass (.provider request.method) >>= fun _ => Action.of fun service =>
      ((service.provider.serve request).1, { service with provider := (service.provider.serve request).2 })) := by
    refine bind (fun service => ?_) fun _ _ => .of_same rfl rfl rfl rfl
    rw [run_pass]
    exact .nextFault service _
  rw [run_ask]
  split
  next => exact asked.trans (served _)
  next => exact .refl service

theorem openEvent (payload : String) (signature : Value) :
    (ProviderClient.openEvent payload signature).Untouching := by
  intro service
  rw [run_openEvent]
  split
  next => exact .refl service
  next =>
    split
    next => exact .refl service
    next => exact (bind (askForEvent rfl) fun answer => lift (Payload.contents answer)) service

end Action.Untouching

/-- What was done about an event when handling it ends well: nothing, as it asks for nothing, or all that it asks
for. -/
inductive Webhook.Finished (event : Value) (service : Service) : Bool → Service → Prop where
  | ignored {after : Service} (asks : reading event = .ok none) (untouched : service.Untouched after) :
      Finished event service false after
  | applied {change : AccessChange} {left after : Service} (asks : reading event = .ok (some change))
      (ran : change.action.run service = (.ok (), left)) (untouched : left.Untouched after) :
      Finished event service true after

theorem Webhook.handle_finishes {given : Failure → Prop} {service : Service} (blameless : service.BlamelessBut given)
    (event : Value) :
    (handle event).Ends service (Finished event service) fun failure _ => failure.BlamelessBut given := by
  refine handle_ends ⟨fun failure unread => ?_, fun asks entries => ?_, fun change asks => ?_⟩
  · exact .inl ((Outcome.Blameless.reading event).failed unread)
  · exact .ignored asks (.foldl_logged service entries)
  · have fails := (Action.BlamelessBut.announced asks service blameless).1
    refine ⟨fun value after ran entries => ?_, fun failure after ran => ?_⟩
    · exact .applied asks ran (.foldl_logged after entries)
    · rw [ran] at fails
      exact fails

end PaidAccess
