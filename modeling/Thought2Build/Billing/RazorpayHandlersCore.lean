import Thought2Build.Billing.LemonHandlersCore

/-! `handle_razorpay_link_paid` and the signed refunds it consults. -/

namespace Thought2Build.Billing

open Rows

structure RazorpayNotes where
  userId : JsonValue := .null
  checkoutRef : JsonValue := .null
  checkoutNonceHashFromWebhook : Option String := none
  environment : JsonValue := .null

structure RazorpayLink where
  paymentLinkId : JsonValue := .null
  referenceId : JsonValue := .null
  amount : JsonValue := .null
  status : JsonValue := .null
  orderId : JsonValue := .null

structure RazorpayLinkPaid where
  paymentId : String
  paymentLink : RazorpayLink := {}
  payment : RazorpayPayment := {}
  notes : RazorpayNotes := {}

structure RazorpaySettings where
  python : PythonText
  environment : String

/-- The checks of `_razorpay_link_paid_rejection` that come after the attempt's status. -/
def linkPaidRejection (settings : RazorpaySettings) (payload : RazorpayLinkPaid)
    (attempt : BillingCheckoutAttempt) : Except PythonError (Option Rejection) := do
  let payment := payload.payment
  let link := payload.paymentLink
  if payload.notes.environment ≠ .text settings.environment then return some .environmentMismatch
  if (← payment.amount.coerceInt settings.python) ≠ some attempt.priceCents then
    return some .paymentAmountMismatch
  if settings.python.upper payment.currency.strOrEmpty ≠ settings.python.upper attempt.currency then
    return some .paymentCurrencyMismatch
  if payment.status ≠ .text "captured" ∧ payment.status ≠ .text "refunded" then
    return some .paymentNotCaptured
  if payment.status = .text "refunded" then
    if ((← payment.amountRefunded.coerceInt settings.python).getD 0) < attempt.priceCents then
      return some .refundedPaymentMissingTotal
  if link.referenceId ≠ .text attempt.id then return some .linkReferenceMismatch
  if ¬link.paymentLinkId.truthy then return some .linkIdMissing
  if attempt.providerCheckoutId.any fun id => id ≠ "" ∧ link.paymentLinkId ≠ .text id then
    return some .linkIdMismatch
  if link.orderId.truthy ∧ ¬payment.orderId.same link.orderId then return some .paymentOrderMismatch
  if (← link.amount.coerceInt settings.python) ≠ some attempt.priceCents then
    return some .linkAmountMismatch
  if link.status ≠ .text "paid" then return some .linkStatusNotPaid
  return none

/-- `_razorpay_link_paid_rejection`; every status of the attempt is accepted. -/
def razorpayLinkPaidRejection (settings : RazorpaySettings) (payload : RazorpayLinkPaid) :
    Option BillingCheckoutAttempt → Except PythonError (Option Rejection)
  | none => .ok (some .attemptNotFound)
  | some attempt =>
      if attempt.provider ≠ .razorpay then .ok (some .providerMismatch)
      else match settings.python.uuid payload.notes.userId.str with
      | none => .ok (some .userIdInvalid)
      | some userId =>
          if userId ≠ attempt.userId then .ok (some .userIdMismatch)
          else if payload.notes.checkoutNonceHashFromWebhook ≠ some attempt.checkoutNonceHash then
            .ok (some .nonceMismatch)
          else if ¬(attempt.status.grantable ∨ attempt.status = .expired ∨
              attempt.status = .failed) then .ok (some .attemptStatusInvalid)
          else linkPaidRejection settings payload attempt

/-- `attempt.provider_checkout_id or link["payment_link_id"]`; the database takes only text. -/
def linkCheckoutId (payload : RazorpayLinkPaid) (attempt : BillingCheckoutAttempt) :
    Except PythonError String :=
  match attempt.providerCheckoutId with
  | some id => if id ≠ "" then .ok id else fromLink
  | none => fromLink
where
  fromLink :=
    match payload.paymentLink.paymentLinkId with
    | .text id => .ok id
    | _ => .error .dataError

def knownRefundCents (python : PythonText) (refunds : List RazorpayRefund) (paymentId : String) :
    Except PythonError Int := do
  let amounts ← (refunds.filter (·.paymentId = paymentId)).mapM fun refund =>
    if refund.payment.amountRefunded.truthy then refund.payment.amountRefunded.toInt python
    else .ok 0
  return match amounts.max? with
    | some greatest => greatest
    | none => 0

def linkRefundCents (settings : RazorpaySettings) (payload : RazorpayLinkPaid)
    (store : BillingStore) : Except PythonError Int := do
  let own ← payload.payment.amountRefunded.coerceInt settings.python
  let known ← knownRefundCents settings.python store.refunds payload.paymentId
  return max (own.getD 0) known

def linkTerms (settings : RazorpaySettings) (payload : RazorpayLinkPaid) (now : Int)
    (attempt : BillingCheckoutAttempt) (checkoutId : String) : Except PythonError PackTerms := do
  let createdAt ← payload.payment.createdAt.coerceInt settings.python
  let purchasedAt ← match createdAt with
    | some seconds => if seconds = 0 then .ok now else dateTime seconds
    | none => .ok now
  let expiresAt ← dateTime (purchasedAt + attempt.validityDays * 86400)
  return {
    provider := .razorpay, providerCheckoutId := some checkoutId
    providerOrderId := some payload.paymentId, credits := attempt.credits
    priceCents := attempt.priceCents, currency := attempt.currency
    providerOrderTotalCents := some attempt.priceCents, purchasedAt, expiresAt }

def BillingStore.settle (store : BillingStore) (session : Session) (position : Nat × Nat)
    (refundedCents : Int) : Except CreditError BillingStore := do
  let (account, _) ← settlePack session store.disputes position.2 refundedCents
    (store.account position.1)
  return store.setAccount position.1 account

def linkPaidDuplicate (settings : RazorpaySettings) (session : Session)
    (payload : RazorpayLinkPaid) (attempt : BillingCheckoutAttempt) (checkoutId : String)
    (existing : Nat × Nat) (store : BillingStore) : BillingStore × HandlerOutcome :=
  if (store.account existing.1).userId ≠ attempt.userId ∨
      (store.pack existing).providerOrderId ≠ some payload.paymentId then
    (store, .raised PythonError.valueError.name)
  else match linkRefundCents settings payload store with
    | .error error => (store, .raised error.name)
    | .ok refundCents =>
        match store.settle session existing refundCents with
        | .error error => (store, .raised error.name)
        | .ok settled =>
            (settled.updateAttempt attempt.checkoutRef fun attempt =>
              { attempt.complete payload.paymentId (session.clock 0) with
                providerCheckoutId := some checkoutId }, .committed none)

def linkPaidInsert (settings : RazorpaySettings) (session : Session)
    (payload : RazorpayLinkPaid) (attempt : BillingCheckoutAttempt) (checkoutId : String)
    (user : Nat) (store : BillingStore) : BillingStore × HandlerOutcome :=
  match linkTerms settings payload (session.clock 0) attempt checkoutId with
  | .error error => (store, .raised error.name)
  | .ok terms =>
      match store.grant session user terms (.billingPurchase .razorpay payload.paymentId) with
      | none => (store, .conflicted)
      | some granted =>
          match linkRefundCents settings payload store with
          | .error error => (store, .raised error.name)
          | .ok refundCents =>
              match granted.settle session (user, (store.account user).packs.length) refundCents with
              | .error error => (store, .raised error.name)
              | .ok settled =>
                  (settled.updateAttempt attempt.checkoutRef fun attempt =>
                    { attempt.granted payload.paymentId (session.clock 0) with
                      providerCheckoutId := some checkoutId }, .committed none)

def handleRazorpayLinkPaid (settings : RazorpaySettings) (session : Session)
    (payload : RazorpayLinkPaid) (store : BillingStore) : BillingStore × HandlerOutcome :=
  match store.attemptFor payload.notes.checkoutRef with
  | .error error => (store, .raised error.name)
  | .ok found =>
      match razorpayLinkPaidRejection settings payload found, found with
      | .error error, _ => (store, .raised error.name)
      | .ok (some reason), _ => (store, .committed (some reason.text))
      | .ok none, none => (store, .committed (some Rejection.attemptNotFound.text))
      | .ok none, some attempt =>
          match linkCheckoutId payload attempt, store.userOf attempt.userId with
          | .error error, _ => (store, .raised error.name)
          | .ok _, none => (store, .raised PythonError.runtimeError.name)
          | .ok checkoutId, some user =>
              match store.findExistingPack payload.paymentId (some checkoutId) .razorpay with
              | some existing =>
                  linkPaidDuplicate settings session payload attempt checkoutId existing store
              | none => linkPaidInsert settings session payload attempt checkoutId user store

end Thought2Build.Billing
