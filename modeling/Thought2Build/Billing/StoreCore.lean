import Thought2Build.Library.JsonValues
import Thought2Build.Billing.SettlementCore
import Thought2Build.Billing.InboxCore

/-!
The tables that the billing handlers share: accounts, checkout attempts, disputes and the refunds
kept in the inbox. `create_checkout`, lane 3 and the purge change the attempts.
-/

namespace Thought2Build.Billing

inductive AttemptStatus where
  | created | providerCreated | completed | expired | failed
  deriving DecidableEq

structure BillingCheckoutAttempt where
  id : String
  checkoutRef : String
  userId : Nat
  provider : Provider
  providerCheckoutId : Option String := none
  checkoutNonceHash : String
  credits : Int
  priceCents : Int
  currency : String
  validityDays : Int
  status : AttemptStatus := .created
  providerOrderId : Option String := none
  createdAt : Int
  expiresAt : Int
  completedAt : Option Int := none

def BillingCheckoutAttempt.Checks (attempt : BillingCheckoutAttempt) : Prop :=
  0 < attempt.credits ∧ 0 < attempt.priceCents ∧ 0 < attempt.validityDays

structure RazorpayPayment where
  amount : JsonValue := .null
  currency : JsonValue := .null
  status : JsonValue := .null
  amountRefunded : JsonValue := .null
  refundStatus : JsonValue := .null
  createdAt : JsonValue := .null
  orderId : JsonValue := .null
  deriving DecidableEq

structure RazorpayRefund where
  paymentId : String
  payment : RazorpayPayment

/-- `refunds` are the payloads of all `refund.processed` rows in the inbox. -/
structure BillingStore where
  accounts : List Account
  attempts : List BillingCheckoutAttempt
  disputes : List BillingDispute := []
  refunds : List RazorpayRefund := []

def CreditError.name : CreditError → String
  | .insufficientCredits => "InsufficientCreditsError"
  | .integrityError => "IntegrityError"
  | .noResultFound => "NoResultFound"
  | .recursionLimit => "RecursionError"
  | _ => "ValueError"

def LedgerReason.namesOrder : LedgerReason → Bool
  | .billingPurchase _ _ | .adminBillingCorrection _ _ => true
  | _ => false

/-- Two users' rows respect the unique indexes on order ids, checkout ids and order reasons. -/
def Account.Apart (first second : Account) : Prop :=
  (∀ pack ∈ first.packs, ∀ other ∈ second.packs, pack.Distinct other) ∧
    ∀ entry ∈ first.ledger, ∀ other ∈ second.ledger,
      ¬(entry.reason.namesOrder = true ∧ entry.reason = other.reason)

instance : DecidableRel Account.Apart := fun _ _ => inferInstanceAs (Decidable (_ ∧ _))

namespace BillingStore

def account (store : BillingStore) (user : Nat) : Account :=
  store.accounts.getD user (Account.opened 0 0)

def userOf (store : BillingStore) (userId : Nat) : Option Nat :=
  store.accounts.findIdx? (·.userId = userId)

def setAccount (store : BillingStore) (user : Nat) (account : Account) : BillingStore :=
  { store with accounts := store.accounts.set user account }

def packIds (store : BillingStore) : List (Nat × Nat) :=
  (List.range store.accounts.length).flatMap fun user =>
    (List.range (store.account user).packs.length).map fun id => (user, id)

def pack (store : BillingStore) (position : Nat × Nat) : BillingCreditPack :=
  (store.account position.1).pack position.2

def attempt? (store : BillingStore) (checkoutRef : String) : Option BillingCheckoutAttempt :=
  store.attempts.find? (·.checkoutRef = checkoutRef)

def updateAttempt (store : BillingStore) (checkoutRef : String)
    (update : BillingCheckoutAttempt → BillingCheckoutAttempt) : BillingStore :=
  { store with attempts := store.attempts.map fun attempt =>
      if attempt.checkoutRef = checkoutRef then update attempt else attempt }

def Fits (store : BillingStore) (user : Nat) (account : Account) : Prop :=
  ∀ other < store.accounts.length, other ≠ user → (store.account other).Apart account

instance (store : BillingStore) (user : Nat) (account : Account) :
    Decidable (store.Fits user account) :=
  inferInstanceAs (Decidable (∀ other < store.accounts.length, _))

def findExistingPack (store : BillingStore) (orderId : String)
    (providerCheckoutId : Option String) (provider : Provider) : Option (Nat × Nat) :=
  store.packIds.find? fun position =>
    (store.pack position).provider = provider &&
      ((store.pack position).providerOrderId = some orderId ||
        providerCheckoutId.isSome && (store.pack position).providerCheckoutId = providerCheckoutId)

def packOfOrder (store : BillingStore) (provider : Provider) (orderId : String) :
    Option (Nat × Nat) :=
  store.packIds.find? fun position =>
    (store.pack position).provider = provider &&
      (store.pack position).providerOrderId = some orderId

/-- Inserts the pack, grants its credits and flushes; `none` when a constraint refuses it. -/
def grant (store : BillingStore) (session : Session) (user : Nat) (terms : PackTerms)
    (ledgerReason : LedgerReason) : Option BillingStore :=
  let account := store.account user
  let inserted := { account with packs := account.packs ++ [terms.pack] }
  if inserted.Constraints ∧ store.Fits user inserted then
    match grantCreditsWithDebtRecovery session account.packs.length terms.credits ledgerReason
      inserted with
    | some granted =>
        if store.Fits user granted then some (store.setAccount user granted) else none
    | none => none
  else none

/-! Commits on attempts -/

def retentionSeconds : Int := 30 * 86400

def providerCreated (store : BillingStore) (checkoutRef providerCheckoutId : String) :
    BillingStore :=
  store.updateAttempt checkoutRef fun attempt =>
    { attempt with status := .providerCreated, providerCheckoutId := some providerCheckoutId }

def providerFailed (store : BillingStore) (checkoutRef : String) : BillingStore :=
  store.updateAttempt checkoutRef fun attempt => { attempt with status := .failed }

def reconcileLane3 (store : BillingStore) (now : Int) : BillingStore :=
  { store with attempts := store.attempts.map fun attempt =>
      if (attempt.status = .created ∨ attempt.status = .providerCreated) ∧ attempt.expiresAt < now
      then { attempt with status := .expired } else attempt }

def purged (now : Int) (attempt : BillingCheckoutAttempt) : Bool :=
  (attempt.status = .expired || attempt.status = .failed || attempt.status = .completed) &&
    decide (attempt.createdAt < now - retentionSeconds) &&
    !(attempt.provider = .razorpay && attempt.status ≠ .completed &&
      attempt.providerCheckoutId.isSome)

def purge (store : BillingStore) (now : Int) : BillingStore :=
  { store with attempts := store.attempts.filter fun attempt => !purged now attempt }

end BillingStore

end Thought2Build.Billing
