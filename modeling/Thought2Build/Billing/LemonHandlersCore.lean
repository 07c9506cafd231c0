import Thought2Build.Billing.StoreCore

/-!
`handle_order_created` and `handle_order_refunded`. A handler's transaction takes the store to the
one it commits; a rollback leaves the store as it was.
-/

namespace Thought2Build.Billing

/-- The `custom` block: what the checkout set on the order, with the nonce hashed. -/
structure LemonCustom where
  userId : JsonValue := .null
  checkoutRef : JsonValue := .null
  checkoutNonceHashFromWebhook : Option String := none

structure LemonPayload where
  orderId : String
  storeId : JsonValue := .null
  variantId : JsonValue := .null
  status : JsonValue := .null
  currency : JsonValue := .null
  testMode : JsonValue := .null
  itemPriceCents : JsonValue := .null
  orderTotalCents : JsonValue := .null
  discountTotalCents : JsonValue := .null
  refundedAmountCents : JsonValue := .null
  createdAt : JsonValue := .null
  custom : LemonCustom := {}

structure LemonSettings where
  python : PythonText
  storeId : String
  variantId : String
  testMode : Bool

/-- Reasons of `_order_created_rejection` and `_razorpay_link_paid_rejection`. -/
inductive Rejection where
  | attemptNotFound | providerMismatch | userIdInvalid | userIdMismatch | nonceMismatch
  | attemptStatusInvalid | storeMismatch | variantMismatch | testModeMismatch | statusNotPaid
  | currencyMismatch | discountPresent | priceMismatch
  | environmentMismatch | paymentAmountMismatch | paymentCurrencyMismatch | paymentNotCaptured
  | refundedPaymentMissingTotal | linkReferenceMismatch | linkIdMissing | linkIdMismatch
  | paymentOrderMismatch | linkAmountMismatch | linkStatusNotPaid
  deriving DecidableEq

def Rejection.text : Rejection → String
  | attemptNotFound => "attempt_not_found"
  | providerMismatch => "provider_mismatch"
  | userIdInvalid => "user_id_invalid"
  | userIdMismatch => "user_id_mismatch"
  | nonceMismatch => "nonce_mismatch"
  | attemptStatusInvalid => "attempt_status_invalid"
  | storeMismatch => "store_mismatch"
  | variantMismatch => "variant_mismatch"
  | testModeMismatch => "test_mode_mismatch"
  | statusNotPaid => "status_not_paid"
  | currencyMismatch => "currency_mismatch"
  | discountPresent => "discount_present"
  | priceMismatch => "price_mismatch"
  | environmentMismatch => "environment_mismatch"
  | paymentAmountMismatch => "payment_amount_mismatch"
  | paymentCurrencyMismatch => "payment_currency_mismatch"
  | paymentNotCaptured => "payment_not_captured"
  | refundedPaymentMissingTotal => "refunded_payment_missing_total"
  | linkReferenceMismatch => "link_reference_mismatch"
  | linkIdMissing => "link_id_missing"
  | linkIdMismatch => "link_id_mismatch"
  | paymentOrderMismatch => "payment_order_mismatch"
  | linkAmountMismatch => "link_amount_mismatch"
  | linkStatusNotPaid => "link_status_not_paid"

def AttemptStatus.grantable : AttemptStatus → Bool
  | .created | .providerCreated | .completed => true
  | .expired | .failed => false

def dateTime (seconds : Int) : Except PythonError Int :=
  if -62135596800 ≤ seconds ∧ seconds ≤ 253402300799 then .ok seconds else .error .overflowError

def FitsInteger (value : Int) : Prop := -2 ^ 31 ≤ value ∧ value < 2 ^ 31

instance (value : Int) : Decidable (FitsInteger value) := inferInstanceAs (Decidable (_ ∧ _))

def parseOrderTimestamp (python : PythonText) (now : Int) : JsonValue → Int
  | .text value => (python.fromIsoFormat (value.replace "Z" "+00:00")).getD now
  | _ => now

/-- The attempt behind a `checkout_ref`; the database rejects one that is not text. -/
def BillingStore.attemptFor (store : BillingStore) (checkoutRef : JsonValue) :
    Except PythonError (Option BillingCheckoutAttempt) :=
  if checkoutRef.truthy then
    match checkoutRef with
    | .text reference => .ok (store.attempt? reference)
    | _ => .error .dataError
  else .ok none

/-- The checks of `_order_created_rejection` that come after the attempt's status. -/
def orderRejection (settings : LemonSettings) (payload : LemonPayload)
    (attempt : BillingCheckoutAttempt) : Except PythonError (Option Rejection) := do
  if payload.storeId.str ≠ settings.storeId then return some .storeMismatch
  if payload.variantId.str ≠ settings.variantId then return some .variantMismatch
  if ¬payload.testMode.same (.bool settings.testMode) then return some .testModeMismatch
  if payload.status ≠ .text "paid" then return some .statusNotPaid
  if settings.python.upper payload.currency.strOrEmpty ≠ settings.python.upper attempt.currency then
    return some .currencyMismatch
  if (← payload.discountTotalCents.coerceInt settings.python) ≠ some 0 then
    return some .discountPresent
  if (← payload.itemPriceCents.coerceInt settings.python) ≠ some attempt.priceCents then
    return some .priceMismatch
  return none

def orderCreatedRejection (settings : LemonSettings) (payload : LemonPayload) :
    Option BillingCheckoutAttempt → Except PythonError (Option Rejection)
  | none => .ok (some .attemptNotFound)
  | some attempt =>
      match settings.python.uuid payload.custom.userId.str with
      | none => .ok (some .userIdInvalid)
      | some userId =>
          if userId ≠ attempt.userId then .ok (some .userIdMismatch)
          else if payload.custom.checkoutNonceHashFromWebhook ≠ some attempt.checkoutNonceHash then
            .ok (some .nonceMismatch)
          else if ¬attempt.status.grantable then .ok (some .attemptStatusInvalid)
          else orderRejection settings payload attempt

def orderTerms (settings : LemonSettings) (payload : LemonPayload) (now : Int)
    (attempt : BillingCheckoutAttempt) : Except PythonError PackTerms := do
  let total ← payload.orderTotalCents.coerceInt settings.python
  let purchasedAt := parseOrderTimestamp settings.python now payload.createdAt
  let expiresAt ← dateTime (purchasedAt + attempt.validityDays * 86400)
  if total.any fun total => ¬FitsInteger total then .error .dataError
  return {
    provider := .lemonsqueezy, providerCheckoutId := attempt.providerCheckoutId
    providerOrderId := some payload.orderId, credits := attempt.credits
    priceCents := attempt.priceCents, currency := attempt.currency
    providerOrderTotalCents := total, purchasedAt, expiresAt }

def BillingCheckoutAttempt.complete (orderId : String) (now : Int)
    (attempt : BillingCheckoutAttempt) : BillingCheckoutAttempt :=
  { attempt with
    status := .completed
    completedAt := some (attempt.completedAt.getD now)
    providerOrderId := some (attempt.providerOrderId.getD orderId) }

def BillingCheckoutAttempt.granted (orderId : String) (now : Int)
    (attempt : BillingCheckoutAttempt) : BillingCheckoutAttempt :=
  { attempt with
    status := .completed, completedAt := some now, providerOrderId := some orderId }

inductive OrderDecision where
  | reject (reason : Rejection)
  | duplicate (attempt : BillingCheckoutAttempt)
  | insert (attempt : BillingCheckoutAttempt) (user : Nat)

def orderCreatedDecision (settings : LemonSettings) (payload : LemonPayload)
    (store : BillingStore) : Except PythonError OrderDecision := do
  let found ← store.attemptFor payload.custom.checkoutRef
  match ← orderCreatedRejection settings payload found, found with
  | some reason, _ => return .reject reason
  | none, none => return .reject .attemptNotFound
  | none, some attempt =>
      match store.userOf attempt.userId with
      | none => .error .runtimeError
      | some user =>
          match store.findExistingPack payload.orderId attempt.providerCheckoutId .lemonsqueezy with
          | some _ => return .duplicate attempt
          | none => return .insert attempt user

/-- The rest of `handle_order_created`: the insert, the grant and the commit. -/
def orderCreatedInsert (settings : LemonSettings) (session : Session) (payload : LemonPayload)
    (attempt : BillingCheckoutAttempt) (user : Nat) (store : BillingStore) :
    BillingStore × HandlerOutcome :=
  match orderTerms settings payload (session.clock 0) attempt with
  | .error error => (store, .raised error.name)
  | .ok terms =>
      match store.grant session user terms (.billingPurchase .lemonsqueezy payload.orderId) with
      | none => (store, .conflicted)
      | some granted =>
          (granted.updateAttempt attempt.checkoutRef (·.granted payload.orderId (session.clock 0)),
            .committed none)

def handleOrderCreated (settings : LemonSettings) (session : Session) (payload : LemonPayload)
    (store : BillingStore) : BillingStore × HandlerOutcome :=
  match orderCreatedDecision settings payload store with
  | .error error => (store, .raised error.name)
  | .ok (.reject _) => (store, .committed none)
  | .ok (.duplicate attempt) =>
      (store.updateAttempt attempt.checkoutRef (·.complete payload.orderId (session.clock 0)),
        .committed none)
  | .ok (.insert attempt user) => orderCreatedInsert settings session payload attempt user store

/-! `handle_order_refunded` -/

def fullReversalStatuses : List String := ["refunded", "fraudulent"]

def reversalDecision (status : JsonValue) : Except PythonError (Bool × String) := do
  let fullOrFraud ← status.inTexts fullReversalStatuses
  return (fullOrFraud, if status = .text "fraudulent" then "fraud" else "refund")

def refundGiveUpSeconds : Int := 24 * 3600

def LemonCustom.proves (python : PythonText) (custom : LemonCustom)
    (attempt : BillingCheckoutAttempt) : Bool :=
  custom.checkoutNonceHashFromWebhook = some attempt.checkoutNonceHash &&
    python.uuid custom.userId.str = some attempt.userId

/-- `_refund_without_pack` (b): the attempt has expired and the refund has waited for a day. -/
def givesUp (attempt : BillingCheckoutAttempt) (receivedAt now : Int) : Bool :=
  (attempt.status = .expired || decide (attempt.expiresAt < now)) &&
    decide (now - receivedAt > refundGiveUpSeconds)

def refundWithoutPack (settings : LemonSettings) (custom : LemonCustom) (receivedAt now : Int)
    (store : BillingStore) : HandlerOutcome :=
  match store.attemptFor custom.checkoutRef with
  | .error error => .raised error.name
  | .ok none => .committed (some "refund_could_not_link_to_thought2build")
  | .ok (some attempt) =>
      if ¬custom.proves settings.python attempt then
        .committed (some "refund_could_not_link_to_thought2build")
      else if givesUp attempt receivedAt now then
        .committed (some "refund_pack_never_granted_attempt_expired")
      else .parked

def handleOrderRefunded (settings : LemonSettings) (session : Session) (payload : LemonPayload)
    (receivedAt : Int) (store : BillingStore) : BillingStore × HandlerOutcome :=
  match payload.refundedAmountCents.coerceInt settings.python, reversalDecision payload.status with
  | .ok refunded, .ok (fullOrFraud, reasonLabel) =>
      match store.packOfOrder .lemonsqueezy payload.orderId with
      | none =>
          (store, refundWithoutPack settings payload.custom receivedAt (session.clock 0) store)
      | some (user, packId) =>
          match applyRefundReversal session packId (refunded.getD 0) fullOrFraud reasonLabel none
            { account := store.account user, reads := 0 } with
          | .error error => (store, .raised error.name)
          | .ok (tx, _) => (store.setAccount user tx.account, .committed none)
  | .error error, _ => (store, .raised error.name)
  | _, .error error => (store, .raised error.name)

end Thought2Build.Billing
