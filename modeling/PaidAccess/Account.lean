import PaidAccess.Validation.Lenient
import PaidAccess.Value.Equality
/-!
User accounts as the billing system sees them. Of an account it only ever changes the customer. Rows
hold the customer's id, but an account takes over whatever customer it is told.
-/

namespace PaidAccess

open Checked Lenient

structure User where
  id : String
  email : Option String
  fullName : Option String
  /-- The provider's customer that pays for this account, or null. -/
  customerId : Value
  deriving DecidableEq

namespace User

def customerOfValue (value : Value) : Checked Value := Value.ofText? <$> nullable text value

def ofValue : Value → Checked User :=
  model fun row =>
    User.mk <$> required "id" text row
      <*> optional "email" text row
      <*> optional "full_name" text row
      <*> defaulted "stripe_customer_id" .null customerOfValue row

def toValue (user : User) : Value :=
  .record [("id", .text user.id), ("email", .ofText? user.email),
    ("full_name", .ofText? user.fullName), ("stripe_customer_id", user.customerId)]

def customer? (user : User) : Option Value :=
  if user.customerId.truthy then some user.customerId else none

end User

/-- A user that the identity service vouches for. -/
structure AuthenticatedUser where
  id : String
  email : Option String
  deriving DecidableEq

namespace AuthenticatedUser

def ofValue : Value → Checked AuthenticatedUser :=
  model fun row => AuthenticatedUser.mk <$> required "id" text row <*> optional "email" text row

def toValue (user : AuthenticatedUser) : Value :=
  .record [("id", .text user.id), ("email", .ofText? user.email)]

end AuthenticatedUser

end PaidAccess
