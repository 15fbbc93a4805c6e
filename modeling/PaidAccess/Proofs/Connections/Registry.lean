import Mathlib.Data.List.Count
import PaidAccess.Proofs.Store.OrderedMap
import PaidAccess.Proofs.Service.Core
/-!
What the registry of connections holds after each of its operations, and what sending a message to a user comes to: each
connection of the user is tried once, and those that fail are dismissed.
-/

namespace PaidAccess

namespace Registry

theorem lookup_assign (registry : Registry) (userId other : String) (connections : List Connection) :
    (registry.assign userId connections).lookup other = if other = userId then connections else registry.lookup other := by
  unfold assign lookup
  cases connections with
  | nil => simp only [OrderedMap.get?_erase]; split <;> rfl
  | cons first rest => simp only [OrderedMap.get?_insert]; split <;> rfl

theorem lookup_register (registry : Registry) (userId other : String) (connection : Connection) :
    (registry.register userId connection).lookup other =
      if other = userId then registry.lookup userId ++ [connection] else registry.lookup other :=
  registry.lookup_assign userId other _

theorem lookup_unregister (registry : Registry) (userId other : String) (connection : Connection) :
    (registry.unregister userId connection).lookup other =
      if other = userId then (registry.lookup userId).erase connection else registry.lookup other :=
  registry.lookup_assign userId other _

def Tidy (registry : Registry) : Prop := ∀ entry ∈ registry.connections.entries, entry.2 ≠ []

theorem Tidy.empty : Registry.empty.Tidy := fun _ listed => absurd listed List.not_mem_nil

theorem Tidy.assign {registry : Registry} (tidy : registry.Tidy) (userId : String) (connections : List Connection) :
    (registry.assign userId connections).Tidy := by
  intro entry listed
  cases connections with
  | nil => exact tidy entry (List.mem_filter.mp listed).1
  | cons first rest =>
    rcases OrderedMap.mem_entries_insert listed with rfl | old
    · exact List.cons_ne_nil first rest
    · exact tidy entry old

def dismiss (registry : Registry) (userId : String) (connections : List Connection) : Registry :=
  connections.foldl (·.unregister userId ·) registry

theorem Tidy.dismiss {registry : Registry} (tidy : registry.Tidy) (userId : String) (connections : List Connection) :
    (registry.dismiss userId connections).Tidy := by
  induction connections generalizing registry with
  | nil => exact tidy
  | cons first rest ih => exact ih (tidy.assign userId _)

theorem lookup_dismiss (registry : Registry) (userId other : String) (connections : List Connection) :
    (registry.dismiss userId connections).lookup other =
      if other = userId then (registry.lookup userId).diff connections else registry.lookup other := by
  induction connections generalizing registry with
  | nil => unfold dismiss; split <;> simp [*]
  | cons first rest ih =>
    have step := ih (registry.unregister userId first)
    simp only [lookup_unregister, ↓reduceIte] at step
    rw [List.diff_cons]
    exact step.trans (by split <;> rfl)

end Registry

namespace Links

/-- The tries at some connections one after the other, and whether each of them fails. -/
def tries (links : Links) : List Connection → List (Connection × Bool)
  | [] => []
  | first :: rest => (first, links.fails first) :: (links.tried first).tries rest

def failing (links : Links) (connections : List Connection) : List Connection :=
  ((links.tries connections).filter (·.2)).map (·.1)

def reached (links : Links) (connections : List Connection) : List Connection :=
  ((links.tries connections).filter fun each => !each.2).map (·.1)

variable (links : Links)

theorem map_fst_tries (connections : List Connection) : (links.tries connections).map (·.1) = connections := by
  induction connections generalizing links with
  | nil => rfl
  | cons first rest ih => exact congrArg (first :: ·) (ih (links.tried first))

theorem tries_append (earlier later : List Connection) :
    links.tries (earlier ++ later) = links.tries earlier ++ (earlier.foldl tried links).tries later := by
  induction earlier generalizing links with
  | nil => rfl
  | cons first rest ih => exact congrArg (_ :: ·) (ih (links.tried first))

theorem failing_append (earlier later : List Connection) :
    links.failing (earlier ++ later) = links.failing earlier ++ (earlier.foldl tried links).failing later := by
  rw [failing, tries_append, List.filter_append, List.map_append]
  rfl

theorem reached_append (earlier later : List Connection) :
    links.reached (earlier ++ later) = links.reached earlier ++ (earlier.foldl tried links).reached later := by
  rw [reached, tries_append, List.filter_append, List.map_append]
  rfl

/-- Every connection is tried as often as it is listed, and each try reaches it or fails. -/
theorem failing_append_reached_perm (connections : List Connection) :
    (links.failing connections ++ links.reached connections).Perm connections := by
  have split := (List.filter_append_perm (·.2) (links.tries connections)).map (·.1)
  rw [List.map_append, map_fst_tries] at split
  exact split

theorem diff_failing_perm (connections : List Connection) :
    (connections.diff (links.failing connections)).Perm (links.reached connections) := by
  refine List.perm_iff_count.mpr fun connection => ?_
  have both := (links.failing_append_reached_perm connections).count_eq connection
  rw [List.count_append] at both
  rw [List.count_diff]
  omega

theorem diff_of_alike {tries : List (Connection × Bool)}
    (alike : ∀ first ∈ tries, ∀ second ∈ tries, first.1 = second.1 → first.2 = second.2) :
    (tries.map (·.1)).diff ((tries.filter (·.2)).map (·.1)) = (tries.filter fun each => !each.2).map (·.1) := by
  induction tries with
  | nil => rfl
  | cons first rest ih =>
    have left := ih fun one listed other listedToo =>
      alike one (List.mem_cons_of_mem _ listed) other (List.mem_cons_of_mem _ listedToo)
    cases fails : first.2 with
    | true => simpa [fails] using left
    | false =>
      -- No later try at this connection fails, so it is not taken out in the place of another.
      have kept : first.1 ∉ (rest.filter (·.2)).map (·.1) := by
        intro listed
        obtain ⟨other, among, same⟩ := List.mem_map.mp listed
        obtain ⟨later, failed⟩ := List.mem_filter.mp among
        have equal := alike first List.mem_cons_self other (List.mem_cons_of_mem _ later) same.symm
        rw [fails, failed] at equal
        cases equal
      rw [List.filter_cons_of_neg (by simp [fails]), List.filter_cons_of_pos (by simp [fails]), List.map_cons,
        List.map_cons, List.cons_diff_of_not_mem kept, left]

/-- What is left is in the order of the registrations, too, unless tries at one connection differ. -/
theorem diff_failing_eq {connections : List Connection}
    (alike : ∀ first ∈ links.tries connections, ∀ second ∈ links.tries connections,
      first.1 = second.1 → first.2 = second.2) :
    connections.diff (links.failing connections) = links.reached connections := by
  have left := diff_of_alike alike
  rw [map_fst_tries] at left
  exact left

end Links

namespace Service

def missedEntries (userId : String) : List LogEntry :=
  [.about .warning "notifier_send_failed" [("user_id", .text userId)] (.runtime "connection closed"),
    .of .debug "notifier_connection_unregistered" [("user_id", .text userId)]]

/-- The service after each of some connections of a user was tried once: those at which the try fails are dismissed with a
warning, and the others have received the message. -/
def sent (service : Service) (userId : String) (notice : Notice) (connections : List Connection) : Service :=
  { service with
    registry := service.registry.dismiss userId (service.links.failing connections)
    links := connections.foldl Links.tried service.links
    journal := { service.journal with
      entries := service.journal.entries ++ (service.links.failing connections).flatMap fun _ =>
        (missedEntries userId).map (·.within service.context)
      deliveries := service.journal.deliveries ++ (service.links.reached connections).map (.message · notice) } }

theorem sent_append (service : Service) (userId : String) (notice : Notice) (earlier later : List Connection) :
    (service.sent userId notice earlier).sent userId notice later = service.sent userId notice (earlier ++ later) := by
  simp [sent, Registry.dismiss, service.links.failing_append, service.links.reached_append]

theorem lookup_sent (service : Service) (userId other : String) (notice : Notice) (connections : List Connection) :
    (service.sent userId notice connections).registry.lookup other =
      if other = userId then (service.registry.lookup userId).diff (service.links.failing connections)
      else service.registry.lookup other :=
  service.registry.lookup_dismiss userId other _

end Service

namespace Delivery

open PaidAccess.Action

theorem run_attempt (userId : String) (notice : Notice) (connection : Connection) (service : Service) :
    (attempt userId notice connection).run service =
      (.ok (service.links.reached [connection]).length, service.sent userId notice [connection]) := by
  unfold attempt
  rw [run_recover, run_bind, sendTo, run_of]
  cases failing : service.links.fails connection with
  | false =>
    have delivered : service.sent userId notice [connection] =
        { service with links := service.links.tried connection }.delivered (.message connection notice) := by
      simp [Service.delivered, Service.sent, Links.failing, Links.reached, Links.tries, failing, Registry.dismiss]
    rw [delivered]
    simp [Links.reached, Links.tries, failing]
    rfl
  | true =>
    -- The warning is logged first, and then the connection is taken out.
    have warned : service.sent userId notice [connection] =
        { { service with links := service.links.tried connection }.logged
            (.about .warning "notifier_send_failed" [("user_id", .text userId)] (.runtime "connection closed")) with
          registry := service.registry.unregister userId connection }.logged
          (.of .debug "notifier_connection_unregistered" [("user_id", .text userId)]) := by
      simp [Service.logged, Service.sent, Links.failing, Links.reached, Links.tries, failing, Registry.dismiss,
        Service.missedEntries]
    rw [warned]
    simp [Links.reached, Links.tries, failing]
    rfl

theorem run_sendToAll (userId : String) (notice : Notice) (connections : List Connection) (service : Service) :
    (sendToAll userId notice connections).run service =
      (.ok (service.links.reached connections).length, service.sent userId notice connections) := by
  induction connections generalizing service with
  | nil => simp [Service.sent, sendToAll, Registry.dismiss, Links.failing, Links.reached, Links.tries]; rfl
  | cons first rest ih =>
    have later : (service.sent userId notice [first]).links = [first].foldl Links.tried service.links := rfl
    have both := service.links.reached_append [first] rest
    rw [sendToAll, run_bind, run_attempt]
    dsimp only
    rw [run_bind, ih, Service.sent_append, later, List.singleton_append] at *
    rw [both, List.length_append]
    rfl

theorem run_send {service : Service} (routed : service.deployment.notifier = .registry) (userId : String)
    (notice : Notice) :
    (send userId notice).run service =
      (.ok (service.links.reached (service.registry.lookup userId)).length,
        service.sent userId notice (service.registry.lookup userId)) := by
  have notifier : (read (·.deployment.notifier)).run service = (.ok .registry, service) := by rw [← routed]; rfl
  have looked : (read (·.registry.lookup userId)).run service = (.ok (service.registry.lookup userId), service) := rfl
  unfold send
  rw [run_bind, notifier]
  dsimp only
  rw [run_bind, looked]
  exact run_sendToAll userId notice _ service

end Delivery

end PaidAccess
