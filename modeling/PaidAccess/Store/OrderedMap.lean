/-!
Maps that keep the order in which their keys first arrived.
-/

namespace PaidAccess

structure OrderedMap (κ α : Type) where
  entries : List (κ × α)

namespace OrderedMap

variable {κ α : Type} [DecidableEq κ]

def empty : OrderedMap κ α := ⟨[]⟩

instance : EmptyCollection (OrderedMap κ α) := ⟨empty⟩

def lookupIn (key : κ) : List (κ × α) → Option α
  | [] => none
  | (other, value) :: rest => if other = key then some value else lookupIn key rest

def insertIn (key : κ) (value : α) : List (κ × α) → List (κ × α)
  | [] => [(key, value)]
  | (other, old) :: rest =>
      if other = key then (key, value) :: rest else (other, old) :: insertIn key value rest

def get? (map : OrderedMap κ α) (key : κ) : Option α := lookupIn key map.entries

def insert (map : OrderedMap κ α) (key : κ) (value : α) : OrderedMap κ α :=
  ⟨insertIn key value map.entries⟩

/-- Sets the value of a key unless it has one. -/
def insertNew (map : OrderedMap κ α) (key : κ) (value : α) : OrderedMap κ α :=
  match map.get? key with
  | some _ => map
  | none => map.insert key value

def erase (map : OrderedMap κ α) (key : κ) : OrderedMap κ α :=
  ⟨map.entries.filter fun entry => entry.1 ≠ key⟩

def eraseWhere (map : OrderedMap κ α) (test : κ → Bool) : OrderedMap κ α :=
  ⟨map.entries.filter fun entry => !test entry.1⟩

def values (map : OrderedMap κ α) : List α := map.entries.map (·.2)

def ofList (entries : List (κ × α)) : OrderedMap κ α :=
  entries.foldl (fun map entry => map.insert entry.1 entry.2) empty

end OrderedMap

end PaidAccess
