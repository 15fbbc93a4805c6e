import Mathlib.Data.List.Induction
import PaidAccess.Proofs.Connections.Traffic
import PaidAccess.Proofs.Service.Sample
/-!
The registry of connections tracks them exactly. After any run of traffic it holds, for every user, the registrations that
stand; a message reaches those of them that do not fail, and the others are dismissed; and a socket is registered from when
it is opened with a verified token until it is closed.
-/

namespace PaidAccess

namespace Service

/-- The ledger of a run of traffic, after one that was kept so far. -/
def ledger (service : Service) (kept : List Registration) : List Traffic → List Registration
  | [] => kept
  | traffic :: rest => (service.relayed traffic).ledger ((traffic.change service).book kept) rest

variable {service : Service}

theorem relay_cons (service : Service) (traffic : Traffic) (rest : List Traffic) :
    service.relay (traffic :: rest) = (service.relayed traffic).relay rest := rfl

theorem relay_concat (service : Service) (earlier : List Traffic) (traffic : Traffic) :
    service.relay (earlier ++ [traffic]) = (service.relay earlier).relayed traffic := by
  simp [relay]

theorem routed_relay (routed : service.deployment.notifier = .registry) (run : List Traffic) :
    (service.relay run).deployment.notifier = .registry := by
  induction run generalizing service with
  | nil => exact routed
  | cons traffic rest ih => exact ih (traffic.effect routed).routed

theorem lookup_relay (routed : service.deployment.notifier = .registry) {kept : List Registration}
    (same : service.registry.lookup = standing kept) (run : List Traffic) :
    (service.relay run).registry.lookup = standing (service.ledger kept run) := by
  induction run generalizing service kept with
  | nil => exact same
  | cons traffic rest ih =>
    have effect := traffic.effect routed
    have booked : (service.relayed traffic).registry.lookup = standing ((traffic.change service).book kept) := by
      rw [effect.registry]
      exact Change.lookup_apply same _
    exact ih effect.routed booked

theorem tidy_relay (routed : service.deployment.notifier = .registry) (tidy : service.registry.Tidy)
    (run : List Traffic) : (service.relay run).registry.Tidy := by
  induction run generalizing service with
  | nil => exact tidy
  | cons traffic rest ih =>
    have effect := traffic.effect routed
    refine ih effect.routed ?_
    rw [effect.registry]
    exact Change.tidy_apply tidy _

theorem Wired.relay (wired : service.Wired) {run : List Traffic} (spares : ∀ traffic ∈ run, traffic.SparesSockets) :
    (service.relay run).Wired := by
  induction run generalizing service with
  | nil => exact wired
  | cons traffic rest ih =>
    obtain ⟨first, later⟩ := List.forall_mem_cons.mp spares
    exact ih (wired.relayed first) later

theorem Gone.relay {name : String} {serial : Nat} (gone : service.Gone name serial) (wired : service.Wired)
    {run : List Traffic} (spares : ∀ traffic ∈ run, traffic.SparesSockets) : (service.relay run).Gone name serial := by
  induction run generalizing service with
  | nil => exact gone
  | cons traffic rest ih =>
    obtain ⟨first, later⟩ := List.forall_mem_cons.mp spares
    exact ih (gone.relayed wired first) (wired.relayed first) later

theorem Wired.verified_of_mem (wired : service.Wired) (nobody : ∀ userId, service.registry.lookup userId = [])
    {run : List Traffic} (spares : ∀ traffic ∈ run, traffic.SparesSockets) {userId name : String} {serial : Nat}
    (listed : .socket name serial ∈ (service.relay run).registry.lookup userId) :
    ∃ earlier token user later, run = earlier ++ .opens name token :: later ∧
      (service.relay earlier).socketUser? token = some user ∧ user.id = userId ∧
        (service.relay earlier).socketsOpened = serial := by
  induction run using List.reverseRecOn with
  | nil =>
    change _ ∈ service.registry.lookup userId at listed
    rw [nobody] at listed
    cases listed
  | append_singleton earlier traffic ih =>
    obtain ⟨before, last⟩ := List.forall_mem_append.mp spares
    have spared := last traffic (List.mem_singleton_self traffic)
    have effect := traffic.effect (wired.relay before).routed
    rw [relay_concat] at listed
    rcases Traffic.mem_or_opens effect spared listed with stood | ⟨token, user, rfl, verified, owner, numbered⟩
    · obtain ⟨first, token, user, later, rfl, verified⟩ := ih before stood
      exact ⟨first, token, user, later ++ [traffic], by simp, verified⟩
    · exact ⟨earlier, token, user, [], rfl, verified, owner, numbered.symm⟩

theorem Wired.stands_or_gone_relay (wired : service.Wired) {name : String} {socket : OpenSocket}
    (stands : service.sockets.get? name = some (some socket)) {run : List Traffic}
    (spares : ∀ traffic ∈ run, traffic.SparesSockets) (kept : ∀ token, .opens name token ∉ run) :
    (service.relay run).sockets.get? name = some (some socket) ∨ (service.relay run).Gone name socket.serial := by
  induction run generalizing service with
  | nil => exact .inl stands
  | cons traffic rest ih =>
    obtain ⟨first, later⟩ := List.forall_mem_cons.mp spares
    have keptFirst : ∀ token, traffic ≠ .opens name token :=
      fun token same => kept token (same ▸ List.mem_cons_self)
    rcases wired.stands_or_gone stands keptFirst with still | gone
    · exact ih (wired.relayed first) still later fun token listed => kept token (List.mem_cons_of_mem _ listed)
    · exact .inr (gone.relay (wired.relayed first) later)

theorem Wired.gone_of_opened_closed (wired : service.Wired) {name : String} {token : Option String}
    {user : AuthenticatedUser} (verified : service.socketUser? token = some user) {between later : List Traffic}
    (spares : ∀ traffic ∈ .opens name token :: (between ++ .closes name :: later), traffic.SparesSockets)
    (kept : ∀ other, .opens name other ∉ between) :
    (service.relay (.opens name token :: (between ++ .closes name :: later))).Gone name service.socketsOpened := by
  obtain ⟨first, rest⟩ := List.forall_mem_cons.mp spares
  obtain ⟨middle, last⟩ := List.forall_mem_append.mp rest
  obtain ⟨close, tail⟩ := List.forall_mem_cons.mp last
  have opened := wired.relayed first
  have stands : (service.relayed (.opens name token)).sockets.get? name =
      some (some ⟨service.socketsOpened, user.id⟩) := by
    rw [(Traffic.effect wired.routed _).sockets]
    simp [Traffic.sockets, verified]
  have before := opened.relay middle
  have closed : (((service.relayed (.opens name token)).relay between).relayed (.closes name)).Gone name
      service.socketsOpened := by
    rcases opened.stands_or_gone_relay stands middle kept with still | gone
    · exact before.gone_of_closes still
    · exact gone.relayed before close
  rw [relay_cons, relay_append, relay_cons]
  exact closed.relay (before.relayed close) tail

end Service

/-- After any run of traffic, from a service without connections: the connections of a user are those whose registrations
stand in the ledger of the run, and nobody is kept without any; a message to a user is tried once for each of the user's
registrations, reaches those at which the try does not fail, leaves as many of each connection registered as it reached, in
the same order where tries at one connection go alike, and touches nobody else; and, where only the service registers
sockets, each that is registered was opened with a token that was verified for the user, and none is after it was closed. -/
theorem connections_tracked {start : Service} (routed : start.deployment.notifier = .registry)
    (empty : start.registry = .empty) (closed : start.sockets = ∅) (run : List Traffic) :
    ((∀ userId, (start.relay run).registry.lookup userId = standing (start.ledger [] run) userId) ∧
      ∀ entry ∈ (start.relay run).registry.connections.entries, entry.2 ≠ []) ∧
    (∀ userId notice, ∃ after,
      let before := start.relay run
      let connections := before.registry.lookup userId
      let tries := before.links.tries connections
      let failing := before.links.failing connections
      let reached := before.links.reached connections
      (Delivery.send userId notice).run before = (.ok reached.length, after) ∧
        tries.map (·.1) = connections ∧ after.links = connections.foldl Links.tried before.links ∧
        after.journal.deliveries = before.journal.deliveries ++ reached.map (.message · notice) ∧
        after.journal.entries = before.journal.entries ++ failing.flatMap (fun _ =>
          (Service.missedEntries userId).map (·.within before.context)) ∧
        after.registry.lookup userId = connections.diff failing ∧ (after.registry.lookup userId).Perm reached ∧
        ((∀ first ∈ tries, ∀ second ∈ tries, first.1 = second.1 → first.2 = second.2) →
          after.registry.lookup userId = reached) ∧
        ∀ other ≠ userId, after.registry.lookup other = before.registry.lookup other) ∧
    ((∀ traffic ∈ run, traffic.SparesSockets) →
      (∀ userId name serial, .socket name serial ∈ (start.relay run).registry.lookup userId →
        ∃ earlier token user later, run = earlier ++ .opens name token :: later ∧
          (start.relay earlier).socketUser? token = some user ∧ user.id = userId ∧
            (start.relay earlier).socketsOpened = serial) ∧
      ∀ earlier name token user between later, run = earlier ++ .opens name token :: (between ++ .closes name :: later) →
        (start.relay earlier).socketUser? token = some user → (∀ other, .opens name other ∉ between) →
          ∀ userId, .socket name (start.relay earlier).socketsOpened ∉ (start.relay run).registry.lookup userId) := by
  have nobody : start.registry.lookup = standing [] := by rw [empty]; rfl
  refine ⟨⟨?_, ?_⟩, ?_, ?_⟩
  · exact congrFun (Service.lookup_relay routed nobody run)
  · exact Service.tidy_relay routed (empty ▸ Registry.Tidy.empty) run
  · intro userId notice
    have left := Service.lookup_sent (start.relay run) userId userId notice ((start.relay run).registry.lookup userId)
    rw [if_pos rfl] at left
    refine ⟨_, Delivery.run_send (Service.routed_relay routed run) userId notice, Links.map_fst_tries _ _, rfl, rfl, rfl,
      left, ?_, ?_, ?_⟩
    · rw [left]
      exact Links.diff_failing_perm _ _
    · intro alike
      exact left.trans (Links.diff_failing_eq _ alike)
    · intro other different
      exact (Service.lookup_sent _ _ _ _ _).trans (if_neg different)
  · intro spares
    have wired := Service.Wired.of_empty routed empty closed
    constructor
    · intro userId name serial listed
      exact wired.verified_of_mem (fun userId => congrFun nobody userId) spares listed
    · rintro earlier name token user between later rfl verified kept
      obtain ⟨before, rest⟩ := List.forall_mem_append.mp spares
      rw [Service.relay_append]
      exact ((wired.relay before).gone_of_opened_closed verified rest kept).2

namespace Sample

def exchange : Service :=
  { shop with deployment := { deployment with
      tokens := .ofList [("jwt", .user (.text "u1") .null)]
      available := { deployment.available with identity := true, registry := true }
      notifier := .registry } }

def flaky : Links where
  clients := .ofList [("b", true)]
  severed := []
  planned connection := if connection = .client "a" then [false, true] else []

/-- One connection is registered three times, cancelled once, and fails at the second try of a message, another is cut off,
and two sockets are opened, one of them with a token that nobody has. -/
def busyRun : List Traffic :=
  [.register "u1" (.client "a"), .register "u1" (.client "b"), .register "u1" (.client "a"), .register "u1" (.client "a"),
    .register "u2" (.client "b"), .opens "w" (some "jwt"), .opens "v" (some "forged"), .unregister "u1" (.client "a"),
    .meanwhile flaky exchange.deployment.tokens, .send "u1" ⟨"news", []⟩]

end Sample

open Sample in
/-- What is left is the last registration of the first connection, and the socket until it is closed. -/
theorem connections_tracked_of_busyRun :
    (exchange.deployment.notifier = .registry ∧ exchange.registry = .empty ∧ exchange.sockets = ∅ ∧
      ∀ traffic ∈ busyRun ++ [.closes "w"], traffic.SparesSockets) ∧
    (exchange.relay busyRun).registry.lookup "u1" = [.client "a", .socket "w" 0] ∧
    (exchange.relay busyRun).registry.lookup "u2" = [.client "b"] ∧
    (exchange.relay (busyRun ++ [.closes "w"])).registry.lookup "u1" = [.client "a"] ∧
    ∀ userId, .socket "w" 0 ∉ (exchange.relay (busyRun ++ [.closes "w"])).registry.lookup userId := by
  have routed : exchange.deployment.notifier = .registry := rfl
  have empty : exchange.registry = .empty := rfl
  have closed : exchange.sockets = ∅ := rfl
  have spares : ∀ traffic ∈ busyRun ++ [.closes "w"], traffic.SparesSockets := by
    intro traffic listed userId name serial registers
    subst registers
    simp [busyRun] at listed
  obtain ⟨⟨busy, -⟩, -, -⟩ := connections_tracked routed empty closed busyRun
  obtain ⟨⟨left, -⟩, -, sockets⟩ := connections_tracked routed empty closed (busyRun ++ [.closes "w"])
  obtain ⟨-, gone⟩ := sockets spares
  refine ⟨⟨routed, empty, closed, spares⟩, ?_, ?_, ?_, ?_⟩
  · rw [busy]; rfl
  · rw [busy]; rfl
  · rw [left]; rfl
  · exact gone (busyRun.take 5) "w" (some "jwt") ⟨"u1", none⟩ (busyRun.drop 6) [] rfl rfl (by simp [busyRun])

end PaidAccess
