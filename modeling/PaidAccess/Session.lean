import PaidAccess.Validation.Lenient
/-!
What a client asks for and is shown about its subscription, and what it is notified of.
-/

namespace PaidAccess

open Checked Lenient

inductive SessionKind where
  | checkout
  | portal
  deriving DecidableEq

namespace SessionKind

def name : SessionKind → String
  | .checkout => "checkout"
  | .portal => "portal"

def ofName? (name : String) : Option SessionKind :=
  if name = "checkout" then some .checkout
  else if name = "portal" then some .portal
  else none

def ofValue : Value → Checked SessionKind := Lenient.named ofName? .literalValue

end SessionKind

structure SessionResult where
  url : Option String
  kind : SessionKind
  sessionId : Option String
  deriving DecidableEq

namespace SessionResult

def ofValue : Value → Checked SessionResult :=
  model fun row =>
    SessionResult.mk <$> required "url" (nullable text) row
      <*> required "type" SessionKind.ofValue row
      <*> optional "session_id" text row

def toValue (session : SessionResult) : Value :=
  .record [("url", .ofText? session.url), ("type", .text session.kind.name),
    ("session_id", .ofText? session.sessionId)]

end SessionResult

structure SubscriptionInfo where
  planId : String
  expiresAt : DateTime
  cancelAtPeriodEnd : Bool
  creditsUsed : Int
  dailyCredits : Option Int
  storageMegabytes : Option Int
  createdAt : Option DateTime
  deriving DecidableEq

namespace SubscriptionInfo

def ofValue : Value → Checked SubscriptionInfo :=
  model fun row =>
    SubscriptionInfo.mk <$> required "plan_id" text row
      <*> required "expires_at" time row
      <*> required "cancel_at_period_end" flag row
      <*> defaulted "ai_credits_used" 0 integer row
      <*> optional "daily_ai_credit_limit" integer row
      <*> optional "storage_quota_mb" integer row
      <*> optional "created_at" time row

def toValue (stamp : DateTime → String) (info : SubscriptionInfo) : Value :=
  .record [("plan_id", .text info.planId), ("expires_at", .text (stamp info.expiresAt)),
    ("cancel_at_period_end", .bool info.cancelAtPeriodEnd),
    ("ai_credits_used", .int info.creditsUsed),
    ("daily_ai_credit_limit", .ofInt? info.dailyCredits),
    ("storage_quota_mb", .ofInt? info.storageMegabytes),
    ("created_at", .ofText? (info.createdAt.map stamp))]

end SubscriptionInfo

structure Notice where
  kind : String
  data : Fields

namespace Notice

def ofValue : Value → Checked Notice :=
  model fun row =>
    Notice.mk <$> required "type" text row <*> defaulted "data" [] (dictionary valid) row

def toValue (notice : Notice) : Value :=
  .record [("type", .text notice.kind), ("data", .record (Value.finiteFields notice.data))]

end Notice

structure CheckoutRequest where
  priceId : Option String
  planKey : Option String
  email : Option String
  deriving DecidableEq

namespace CheckoutRequest

/-- Whether a text has the form of a price id: letters and digits after a fixed beginning. -/
def isPriceId (content : String) : Bool :=
  match content.toList with
  | 'p' :: 'r' :: 'i' :: 'c' :: 'e' :: '_' :: rest => !rest.isEmpty && rest.all Char.isAlphanum
  | _ => false

def priceId? (value : Value) : Checked String :=
  (text value).andThen fun content =>
    written content fun _ => if isPriceId content then valid content else fault .stringPatternMismatch

def ofValue : Value → Checked CheckoutRequest :=
  model fun row =>
    CheckoutRequest.mk <$> optional "price_id" priceId? row
      <*> optional "plan_key" text row
      <*> optional "email" text row

def toValue (request : CheckoutRequest) : Value :=
  .record [("price_id", .ofText? request.priceId), ("plan_key", .ofText? request.planKey),
    ("email", .ofText? request.email)]

end CheckoutRequest

structure ConsumeRequest where
  amount : Int
  deriving DecidableEq

namespace ConsumeRequest

def ofValue : Value → Checked ConsumeRequest :=
  model fun row => ConsumeRequest.mk <$> defaulted "amount" 1 (integerWithin 1 10000) row

def toValue (request : ConsumeRequest) : Value := .record [("amount", .int request.amount)]

end ConsumeRequest

structure WebhookReceipt where
  received : Bool
  processed : Bool
  deriving DecidableEq

namespace WebhookReceipt

def ofValue : Value → Checked WebhookReceipt :=
  model fun row =>
    WebhookReceipt.mk <$> required "received" flag row <*> required "processed" flag row

def toValue (receipt : WebhookReceipt) : Value :=
  .record [("received", .bool receipt.received), ("processed", .bool receipt.processed)]

end WebhookReceipt

end PaidAccess
