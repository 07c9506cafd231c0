import Thought2Build.Billing.RazorpayHandlersCore

/-! `handle_razorpay_dispute`. The provider is asked only between two terminal events of one time. -/

namespace Thought2Build.Billing

/-- `_normalize_razorpay_dispute` -/
structure RazorpayDispute where
  disputeId : String
  paymentId : String
  eventCreatedAt : Int
  status : DisputeStatus
  amount : Int
  amountDeducted : Int := 0
  currency : String
  payment : RazorpayPayment := {}
  deriving DecidableEq

/-- What `get_dispute` answers -/
structure ProviderDispute where
  paymentId : Option String
  currency : Option String
  status : DisputeStatus
  amount : Int
  amountDeducted : Int

def DisputeStatus.terminal : DisputeStatus → Bool
  | .lost | .won | .closed | .closedLoss => true
  | _ => false

def DisputeStatus.closedAs (status : DisputeStatus) (deducted : Int) : DisputeStatus :=
  if status = .closed ∧ 0 < deducted then .closedLoss else status

def BillingDispute.stale (row : BillingDispute) (timestamp : Int) (state : DisputeStatus) : Bool :=
  decide (timestamp < row.eventCreatedAt) || row.status.terminal && !state.terminal ||
    timestamp = row.eventCreatedAt && row.status.terminal && row.status = state

namespace RazorpayDispute

variable (payload : RazorpayDispute)

def state : DisputeStatus := payload.status.closedAs payload.amountDeducted

def row (state : DisputeStatus) (amount deducted : Int) : BillingDispute where
  providerDisputeId := payload.disputeId
  providerPaymentId := payload.paymentId
  amountCents := if state = .closedLoss then deducted else amount
  currency := payload.currency
  status := state
  eventCreatedAt := payload.eventCreatedAt

/-- The row after an event that is not stale; `none` when the handler raises -/
def decided (getDispute : String → Option ProviderDispute) (row : Option BillingDispute) : Option BillingDispute :=
  if row.any fun row =>
      payload.eventCreatedAt = row.eventCreatedAt && row.status.terminal && payload.state.terminal then
    match getDispute payload.disputeId with
    | some current =>
        if current.paymentId = some payload.paymentId ∧ current.currency = some payload.currency then
          some (payload.row (current.status.closedAs current.amountDeducted) current.amount current.amountDeducted)
        else none
    | none => none
  else some (payload.row payload.state payload.amount payload.amountDeducted)

end RazorpayDispute

/-- `int(payment.get("amount_refunded") or 0)` -/
def RazorpayPayment.refundedCents (payment : RazorpayPayment) (python : PythonText) : Except PythonError Int :=
  if payment.amountRefunded.truthy then payment.amountRefunded.toInt python else .ok 0

namespace BillingStore

variable (store : BillingStore)

def dispute? (disputeId : String) : Option BillingDispute := store.disputes.find? (·.providerDisputeId = disputeId)

def recordDispute (row : BillingDispute) : BillingStore :=
  { store with disputes := row :: store.disputes.filter (·.providerDisputeId ≠ row.providerDisputeId) }

def settleDispute (python : PythonText) (session : Session) (payload : RazorpayDispute) (row : BillingDispute) :
    Except String BillingStore :=
  match store.packOfOrder .razorpay payload.paymentId with
  | none => .ok store
  | some position =>
      if (store.pack position).currency ≠ row.currency ∨ (store.pack position).priceCents < row.amountCents then
        .error PythonError.valueError.name
      else match payload.payment.refundedCents python with
        | .error error => .error error.name
        | .ok refundedCents => (store.settle session position refundedCents).mapError CreditError.name

end BillingStore

def handleRazorpayDispute (python : PythonText) (getDispute : String → Option ProviderDispute) (session : Session)
    (payload : RazorpayDispute) (store : BillingStore) : BillingStore × HandlerOutcome :=
  let row := store.dispute? payload.disputeId
  if row.any fun row => row.providerPaymentId ≠ payload.paymentId || row.currency ≠ payload.currency then
    (store, .raised PythonError.valueError.name)
  else if row.any (·.stale payload.eventCreatedAt payload.state) then (store, .committed none)
  else match payload.decided getDispute row with
    | none => (store, .raised PythonError.valueError.name)
    | some row =>
        match (store.recordDispute row).settleDispute python session payload row with
        | .error name => (store, .raised name)
        | .ok settled => (settled, .committed none)

end Thought2Build.Billing
