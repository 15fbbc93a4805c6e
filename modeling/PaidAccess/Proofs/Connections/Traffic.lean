import Mathlib.Data.List.Infix
import PaidAccess.Socket
import PaidAccess.Proofs.Connections.Ledger
import PaidAccess.Proofs.Http.Sender
import PaidAccess.Proofs.Service.Sample
/-!
Runs of everything that reaches the registry of connections: registrations, messages to users, and sockets that are opened,
kept alive and closed. After any run the registry holds exactly the registrations that stand, and the sockets among them are
those whose token was verified and that have not been closed.
-/

namespace PaidAccess

open PaidAccess.Action

/-- Something that happens to the connections. -/
inductive Traffic where
  | register (userId : String) (connection : Connection)
  | unregister (userId : String) (connection : Connection)
  | send (userId : String) (notice : Notice)
  | opens (name : String) (token : Option String)
  | text (name : String)
  | closes (name : String)
  /-- Sending comes to go otherwise, or tokens come to stand for others. -/
  | meanwhile (links : Links) (tokens : OrderedMap String TokenReply)

def Traffic.action : Traffic → Action Unit
  | .register userId connection => Delivery.register userId connection
  | .unregister userId connection => Delivery.unregister userId connection
  | .send userId notice => discard (Delivery.send userId notice)
  | .opens name token => discard (Socket.connect name token)
  | .text name => discard (Socket.isOpen name)
  | .closes name => Socket.disconnect name
  | .meanwhile links tokens => update fun service =>
      { service with links := links, deployment := { service.deployment with tokens := tokens } }

namespace Service

def relayed (service : Service) (traffic : Traffic) : Service := (traffic.action.run service).2

def relay (service : Service) (run : List Traffic) : Service := run.foldl relayed service

theorem relay_append (service : Service) (earlier later : List Traffic) :
    service.relay (earlier ++ later) = (service.relay earlier).relay later :=
  List.foldl_append

def socketUser? (service : Service) (token : Option String) : Option AuthenticatedUser :=
  if service.deployment.available.identity && service.deployment.available.registry then
    (present? token).bind service.tokenUser?
  else none

theorem foldl_logged_eq (service : Service) (entries : List LogEntry) :
    entries.foldl logged service = { service with journal := { service.journal with
      entries := service.journal.entries ++ entries.map (·.within service.context) } } := by
  induction entries generalizing service with
  | nil => simp
  | cons entry rest ih => simp [ih, logged]

end Service

theorem Socket.owner_verified (token : Option String) (service : Service) :
    Identity.Verified service (service.socketUser? token) ((Socket.owner token).run service) := by
  have looked : (Action.read (·.deployment.available)).run service = (.ok service.deployment.available, service) := rfl
  unfold Socket.owner Service.socketUser?
  rw [run_bind, looked]
  dsimp only
  cases present? token with
  | none => exact .unknown (ite_self none) []
  | some token =>
    cases service.deployment.available.identity && service.deployment.available.registry with
    | false => exact .unknown rfl []
    | true => exact Identity.verify_verified token service


namespace Traffic

def change (service : Service) : Traffic → Change
  | .register userId connection => .added userId connection
  | .unregister userId connection => .cancelled userId connection
  | .send userId _ => .dismissed userId (service.links.failing (service.registry.lookup userId))
  | .opens name token =>
      match service.socketUser? token with
      | some user => .added user.id (.socket name service.socketsOpened)
      | none => .none
  | .closes name =>
      match service.sockets.get? name with
      | some (some socket) => .cancelled socket.userId (.socket name socket.serial)
      | _ => .none
  | _ => .none

def sockets (service : Service) : Traffic → OrderedMap String (Option OpenSocket)
  | .opens name token =>
      service.sockets.insert name ((service.socketUser? token).map fun user => ⟨service.socketsOpened, user.id⟩)
  | .closes name =>
      match service.sockets.get? name with
      | some (some _) => service.sockets.insert name none
      | _ => service.sockets
  | _ => service.sockets

def socketsOpened (service : Service) : Traffic → Nat
  | .opens _ token => if (service.socketUser? token).isSome then service.socketsOpened + 1 else service.socketsOpened
  | _ => service.socketsOpened

structure Effect (traffic : Traffic) (service after : Service) : Prop where
  registry : after.registry = (traffic.change service).apply service.registry
  sockets : after.sockets = traffic.sockets service
  opened : after.socketsOpened = traffic.socketsOpened service
  routed : after.deployment.notifier = .registry

variable {service : Service}

theorem effect_opens (routed : service.deployment.notifier = .registry) (name : String) (token : Option String) :
    (Traffic.opens name token).Effect service ((Socket.connect name token).run service).2 := by
  have released : (Socket.release name).run service =
      (.ok (), { service with sockets := service.sockets.insert name none }) := rfl
  have verified := Socket.owner_verified token { service with sockets := service.sockets.insert name none }
  have same : Service.socketUser? { service with sockets := service.sockets.insert name none } token =
      service.socketUser? token := rfl
  rw [same] at verified
  unfold Socket.connect
  rw [run_bind, released]
  dsimp only
  rw [run_recover, Socket.welcome, run_bind]
  generalize (Socket.owner token).run { service with sockets := service.sockets.insert name none } = result at verified ⊢
  cases verified with
  | known user stands =>
    have accepted : (service.sockets.insert name none).insert name (some ⟨service.socketsOpened, user.id⟩) =
        service.sockets.insert name (some ⟨service.socketsOpened, user.id⟩) := OrderedMap.insert_insert _ _ _ _
    constructor
    · simp only [change, stands]; rfl
    · simp only [sockets, stands]; exact accepted
    · simp only [socketsOpened, stands]; rfl
    · exact routed
  | unknown nobody entries =>
    dsimp only
    rw [Service.foldl_logged_eq]
    constructor
    · simp only [change, nobody]; rfl
    · simp only [sockets, nobody]; rfl
    · simp only [socketsOpened, nobody]; rfl
    · exact routed
  | failed nobody failure =>
    constructor
    · simp only [change, nobody]; rfl
    · simp only [sockets, nobody]; rfl
    · simp only [socketsOpened, nobody]; rfl
    · exact routed

theorem effect_closes (routed : service.deployment.notifier = .registry) (name : String) :
    (Traffic.closes name).Effect service ((Socket.disconnect name).run service).2 := by
  have looked : (Action.read (·.sockets.get? name)).run service = (.ok (service.sockets.get? name), service) := rfl
  unfold Socket.disconnect Socket.find?
  rw [run_bind, run_bind, looked]
  rcases found : service.sockets.get? name with _ | _ | socket
  all_goals
    constructor
    · simp only [change, found]; rfl
    · simp only [sockets, found]; rfl
    · rfl
    · exact routed

theorem effect (routed : service.deployment.notifier = .registry) (traffic : Traffic) :
    traffic.Effect service (service.relayed traffic) := by
  unfold Service.relayed
  cases traffic with
  | register userId connection => exact ⟨rfl, rfl, rfl, routed⟩
  | unregister userId connection => exact ⟨rfl, rfl, rfl, routed⟩
  | meanwhile links tokens => exact ⟨rfl, rfl, rfl, routed⟩
  | send userId notice =>
    rw [action, run_discard, Delivery.run_send routed]
    exact ⟨rfl, rfl, rfl, routed⟩
  | opens name token =>
    rw [action, run_discard]
    exact effect_opens routed name token
  | text name =>
    have looked : ((Socket.isOpen name).run service).2 = service := by
      have found : (Action.read (·.sockets.get? name)).run service = (.ok (service.sockets.get? name), service) := rfl
      unfold Socket.isOpen Socket.find?
      rw [run_bind, run_bind, found]
      cases service.sockets.get? name <;> rfl
    rw [action, run_discard, looked]
    exact ⟨rfl, rfl, rfl, routed⟩
  | closes name => exact effect_closes routed name

/-- Whether traffic leaves the registration of sockets to the service. -/
def SparesSockets (traffic : Traffic) : Prop :=
  ∀ userId name serial, traffic ≠ .register userId (.socket name serial)

theorem opens_of_added {traffic : Traffic} (spares : traffic.SparesSockets) {userId name : String} {serial : Nat}
    (added : traffic.change service = .added userId (.socket name serial)) :
    ∃ token user, traffic = .opens name token ∧ service.socketUser? token = some user ∧ user.id = userId ∧
      serial = service.socketsOpened := by
  cases traffic with
  | register owner connection =>
    cases added
    exact absurd rfl (spares userId name serial)
  | opens opened token =>
    cases verified : service.socketUser? token with
    | none => simp [change, verified] at added
    | some user =>
      simp only [change, verified, Change.added.injEq, Connection.socket.injEq] at added
      obtain ⟨same, rfl, numbered⟩ := added
      exact ⟨token, user, rfl, verified, same, numbered.symm⟩
  | closes closed =>
    simp only [change] at added
    split at added <;> cases added
  | _ => cases added

theorem mem_or_opens {after : Service} {traffic : Traffic} (effect : traffic.Effect service after)
    (spares : traffic.SparesSockets) {userId name : String} {serial : Nat}
    (listed : .socket name serial ∈ after.registry.lookup userId) :
    .socket name serial ∈ service.registry.lookup userId ∨
      ∃ token user, traffic = .opens name token ∧ service.socketUser? token = some user ∧ user.id = userId ∧
        serial = service.socketsOpened := by
  rw [effect.registry] at listed
  rcases (traffic.change service).count_apply service.registry userId (.socket name serial) with fewer | ⟨added, -⟩
  · exact .inl (List.count_pos_iff.mp (Nat.lt_of_lt_of_le (List.count_pos_iff.mpr listed) fewer))
  · exact .inr (opens_of_added spares added)

theorem get?_sockets {traffic : Traffic} {name : String} {socket : OpenSocket}
    (found : (traffic.sockets service).get? name = some (some socket)) :
    service.sockets.get? name = some (some socket) ∨
      ∃ token user, traffic = .opens name token ∧ service.socketUser? token = some user ∧
        socket = ⟨service.socketsOpened, user.id⟩ := by
  cases traffic with
  | opens opened token =>
    simp only [sockets, OrderedMap.get?_insert] at found
    split at found
    next same =>
      subst same
      obtain ⟨user, verified, rfl⟩ := Option.map_eq_some_iff.mp (Option.some.inj found)
      exact .inr ⟨token, user, rfl, verified, rfl⟩
    next => exact .inl found
  | closes closed =>
    simp only [sockets] at found
    split at found
    next =>
      rw [OrderedMap.get?_insert] at found
      split at found
      next => cases found
      next => exact .inl found
    next => exact .inl found
  | _ => exact .inl found

theorem le_socketsOpened (traffic : Traffic) (service : Service) :
    service.socketsOpened ≤ traffic.socketsOpened service := by
  cases traffic with
  | opens name token =>
    simp only [socketsOpened]
    split <;> omega
  | _ => exact Nat.le_refl _

theorem lt_socketsOpened {traffic : Traffic} {name : String} {token : Option String} {user : AuthenticatedUser}
    (opens : traffic = .opens name token) (verified : service.socketUser? token = some user) :
    service.socketsOpened < traffic.socketsOpened service := by
  simp [opens, socketsOpened, verified]

end Traffic

namespace Service

/-- The sockets among the connections are numbered in the order in which they were opened, and each is registered at most
once, for the user whose it is. -/
structure Wired (service : Service) : Prop where
  routed : service.deployment.notifier = .registry
  numbered : ∀ {userId name serial}, .socket name serial ∈ service.registry.lookup userId → serial < service.socketsOpened
  once : ∀ userId name serial, (service.registry.lookup userId).count (.socket name serial) ≤ 1
  known : ∀ {name socket}, service.sockets.get? name = some (some socket) → socket.serial < service.socketsOpened
  owned : ∀ {name socket userId}, service.sockets.get? name = some (some socket) →
    .socket name socket.serial ∈ service.registry.lookup userId → userId = socket.userId

theorem Wired.of_empty {service : Service} (routed : service.deployment.notifier = .registry)
    (empty : service.registry = .empty) (closed : service.sockets = ∅) : service.Wired := by
  have nobody : ∀ userId, service.registry.lookup userId = [] := by intro userId; rw [empty]; rfl
  have none : ∀ name, service.sockets.get? name = none := by intro name; rw [closed]; rfl
  constructor
  · exact routed
  · intro userId name serial listed
    simp [nobody] at listed
  · simp [nobody]
  · intro name socket found
    simp [none] at found
  · intro name socket userId found
    simp [none] at found

theorem Wired.relayed {service : Service} (wired : service.Wired) {traffic : Traffic} (spares : traffic.SparesSockets) :
    (service.relayed traffic).Wired := by
  have effect := traffic.effect wired.routed
  have more := traffic.le_socketsOpened service
  constructor
  · exact effect.routed
  · intro userId name serial listed
    rw [effect.opened]
    rcases traffic.mem_or_opens effect spares listed with before | ⟨token, user, opens, verified, -, rfl⟩
    · exact Nat.lt_of_lt_of_le (wired.numbered before) more
    · exact Traffic.lt_socketsOpened opens verified
  · intro userId name serial
    have once := wired.once userId name serial
    rw [effect.registry]
    rcases (traffic.change service).count_apply service.registry userId (.socket name serial) with fewer | ⟨added, one⟩
    · omega
    · -- A socket that is registered now has a number that none had before.
      obtain ⟨-, -, -, -, -, rfl⟩ := Traffic.opens_of_added spares added
      have fresh : (service.registry.lookup userId).count (.socket name service.socketsOpened) = 0 :=
        List.count_eq_zero.mpr fun listed => Nat.lt_irrefl _ (wired.numbered listed)
      omega
  · intro name socket found
    rw [effect.opened]
    rw [effect.sockets] at found
    rcases Traffic.get?_sockets found with before | ⟨token, user, opens, verified, rfl⟩
    · exact Nat.lt_of_lt_of_le (wired.known before) more
    · exact Traffic.lt_socketsOpened opens verified
  · intro name socket userId found listed
    rw [effect.sockets] at found
    rcases traffic.mem_or_opens effect spares listed with before | ⟨token, user, opens, verified, owner, numbered⟩
    · rcases Traffic.get?_sockets found with stood | ⟨token, user, opens, verified, rfl⟩
      · exact wired.owned stood before
      · exact absurd (wired.numbered before) (Nat.lt_irrefl _)
    · rcases Traffic.get?_sockets found with stood | ⟨tokenToo, userToo, opensToo, verifiedToo, rfl⟩
      · have known := wired.known stood
        omega
      · obtain ⟨-, rfl⟩ := Traffic.opens.inj (opens.symm.trans opensToo)
        exact owner.symm.trans (congrArg AuthenticatedUser.id (Option.some.inj (verified.symm.trans verifiedToo)))

/-- A socket was opened and is not registered for anybody any more. -/
def Gone (service : Service) (name : String) (serial : Nat) : Prop :=
  serial < service.socketsOpened ∧ ∀ userId, .socket name serial ∉ service.registry.lookup userId

theorem Gone.relayed {service : Service} {name : String} {serial : Nat} (gone : service.Gone name serial)
    (wired : service.Wired) {traffic : Traffic} (spares : traffic.SparesSockets) :
    (service.relayed traffic).Gone name serial := by
  have effect := traffic.effect wired.routed
  obtain ⟨numbered, absent⟩ := gone
  constructor
  · rw [effect.opened]
    exact Nat.lt_of_lt_of_le numbered (traffic.le_socketsOpened service)
  · intro userId listed
    rcases traffic.mem_or_opens effect spares listed with before | ⟨-, -, -, -, -, rfl⟩
    · exact absent userId before
    · exact Nat.lt_irrefl _ numbered

theorem Wired.gone_of_closes {service : Service} (wired : service.Wired) {name : String} {socket : OpenSocket}
    (stands : service.sockets.get? name = some (some socket)) :
    (service.relayed (.closes name)).Gone name socket.serial := by
  have effect := Traffic.effect wired.routed (.closes name)
  constructor
  · rw [effect.opened]
    exact wired.known stands
  · intro userId listed
    rw [effect.registry] at listed
    simp only [Traffic.change, stands, Change.apply, Registry.lookup_unregister] at listed
    split at listed
    next owner =>
      have once := wired.once socket.userId name socket.serial
      have left := List.count_pos_iff.mpr listed
      rw [List.count_erase_self] at left
      omega
    next other => exact other (wired.owned stands listed)

theorem Wired.stands_or_gone {service : Service} (wired : service.Wired) {name : String} {socket : OpenSocket}
    (stands : service.sockets.get? name = some (some socket)) {traffic : Traffic}
    (kept : ∀ token, traffic ≠ .opens name token) :
    (service.relayed traffic).sockets.get? name = some (some socket) ∨
      (service.relayed traffic).Gone name socket.serial := by
  by_cases closed : traffic = .closes name
  · subst closed
    exact .inr (wired.gone_of_closes stands)
  · rw [(traffic.effect wired.routed).sockets]
    refine .inl ?_
    cases traffic with
    | opens opened token =>
      have different : name ≠ opened := fun same => kept token (congrArg (Traffic.opens · token) same.symm)
      simp only [Traffic.sockets]
      rw [OrderedMap.get?_insert_of_ne _ _ different]
      exact stands
    | closes other =>
      have different : name ≠ other := fun same => closed (congrArg Traffic.closes same.symm)
      simp only [Traffic.sockets]
      split
      next => exact (OrderedMap.get?_insert_of_ne _ _ different).trans stands
      next => exact stands
    | _ => exact stands

end Service

end PaidAccess
