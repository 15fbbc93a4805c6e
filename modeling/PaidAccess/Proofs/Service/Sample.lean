import PaidAccess.Startup
import PaidAccess.Provider.Tables
import PaidAccess.Proofs.Service.Evaluation
import PaidAccess.Proofs.Store.Keyed
/-!
A service that starts with a provider made of tables, and a small shop to run it in: one user, two plans
and subscriptions in March 2026.
-/

namespace PaidAccess

def ProviderTables.around (tables : ProviderTables) (now : DateTime) : Surroundings :=
  ⟨now, tables.retrieve "subscription" tables.subscriptions, tables.retrieve "price" tables.prices⟩

theorem Startup.idle_at (deployment : Deployment) (now : DateTime) (store : MemoryStore) (tables : ProviderTables)
    (served : List ProviderRequest) :
    (Startup.idle deployment now (.memory store) (tables.provider served)).At (tables.around now) store :=
  ⟨rfl, rfl, fun _ => rfl, fun _ => rfl, fun _ => rfl, fun _ _ => rfl, fun _ _ => rfl⟩

namespace Sample

def deployment : Deployment where
  provider := ⟨"", "", "", "", "", "", "", none, none, none⟩
  billing := ⟨"", false, .ofInt 0, 0, false, 0⟩
  tolerance := 0
  origins := []
  tokens := ∅
  available := ⟨false, false, false, false, false⟩
  notifier := .silent

theorem march_length : monthLength 2026 3 = 31 := by decide

/-- A universal time so many days and seconds after the beginning of March 2026. It stays within the month. -/
def march (days seconds : Nat) : DateTime :=
  { DateTime.dayStart ⟨2026, 3, days % 31 + 1, by decide, by decide, by decide, by decide, Nat.le_add_left _ _,
      march_length.symm ▸ Nat.mod_lt days (by decide)⟩ with
    clock := seconds % 86400 * microsPerSecond
    clock_lt := Nat.mul_lt_mul_of_pos_right (Nat.mod_lt seconds (by decide)) (by decide) }

def stamp (days seconds : Int) : Value := .int (1772323200 + days * 86400 + seconds)

def user : User := ⟨"u1", none, none, .text "cus_1"⟩

def basic : Plan := ⟨"basic", "prod_basic", some 50, some 1024⟩

def studio : Plan := ⟨"studio", "prod_studio", some 500, some 10240⟩

def store : MemoryStore := ((MemoryStore.empty.addUser user).addPlan basic).addPlan studio

def subscription (id status product : String) : Value :=
  .record [("id", .text id), ("customer", .text "cus_1"), ("status", .text status),
    ("current_period_start", stamp 0 32400), ("current_period_end", stamp 30 32400),
    ("items", .record [("data", .list [.record [("price",
      .record [("id", .text "price_1"), ("product", .text product)])]])])]

def normal (id status product : String) : ProviderSubscription where
  id := id
  customerId := some "cus_1"
  status := status
  cancelAtPeriodEnd := false
  priceId := some "price_1"
  productId := some product
  periodStart := some (march 0 32400)
  periodEnd := some (march 30 32400)
  invoicePeriodStart := none
  invoicePeriodEnd := none
  metadata := []

def tables (id status product : String) : ProviderTables :=
  { ProviderTables.empty with subscriptions := .ofList [(id, subscription id status product)] }

def service (now : DateTime) (store : MemoryStore) (tables : ProviderTables) : Service :=
  Startup.idle deployment now (.memory store) (tables.provider [])

def event (source : EventSource) (id : String) : ReconcileEvent := .of source (some "cus_1") (some id) none

def checkout : ReconcileEvent := event .checkoutCompleted "sub_1"

theorem store_keyed : store.Keyed := ((MemoryStore.Keyed.empty.addUser user).addPlan basic).addPlan studio

theorem service_at (now : DateTime) (store : MemoryStore) (tables : ProviderTables) :
    (service now store tables).At (tables.around now) store :=
  Startup.idle_at deployment now store tables []

/-- A service at ten o'clock on the first, an hour after the user bought the basic plan. -/
def shop : Service := service (march 0 36000) store (tables "sub_1" "active" "prod_basic")

def around : Surroundings := (tables "sub_1" "active" "prod_basic").around (march 0 36000)

theorem shop_at : shop.At around store := service_at _ _ _

end Sample

end PaidAccess
