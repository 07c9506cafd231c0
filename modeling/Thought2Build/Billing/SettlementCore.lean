import Thought2Build.Billing.CreditServiceCore

/-!
`settle_pack` of `services/razorpay_settlement.py`, and runs of the operations that
change an account. An operation that raises leaves the account as it was.
-/

namespace Thought2Build.Billing

open Rows

/-- `state` texts of a dispute; `other` is a text only the provider's API can send. -/
inductive DisputeStatus where
  | opened | underReview | actionRequired | lost | won | closed | closedLoss
  | other (text : String)
  deriving DecidableEq

structure BillingDispute where
  providerDisputeId : String
  providerPaymentId : String
  amountCents : Int
  currency : String
  status : DisputeStatus
  eventCreatedAt : Int

/-- Rows that `settle_pack` sums: decided against the merchant, same payment and currency. -/
def BillingDispute.counts (pack : BillingCreditPack) (dispute : BillingDispute) : Bool :=
  some dispute.providerPaymentId = pack.providerOrderId &&
    (dispute.status = .lost || dispute.status = .closedLoss) &&
    dispute.currency = pack.currency

def disputedCents (disputes : List BillingDispute) (pack : BillingCreditPack) : Int :=
  sumOf (fun dispute => if dispute.counts pack then dispute.amountCents else 0) disputes

def cashCents (pack : BillingCreditPack) (refundedCents : Int) : Int :=
  min pack.priceCents (max pack.providerRefundedTotalCentsSeen refundedCents)

def effectiveCents (disputes : List BillingDispute) (pack : BillingCreditPack)
    (refundedCents : Int) : Int :=
  min pack.priceCents (max (cashCents pack refundedCents) (disputedCents disputes pack))

structure SettlementOutcome where
  revoked : Int := 0
  debtCreated : Int := 0
  released : Int := 0
  disputed : Bool := false

def moveReversal (session : Session) (disputed : Bool) (packId : Nat) (effective : Int) (tx : Tx) :
    Except CreditError (Tx × SettlementOutcome) := do
  let pack := tx.account.pack packId
  let oldEffective := pack.refundedItemAmountCentsProcessed
  if effective > oldEffective then
    let (tx, reversal) ← applyRefundReversal session packId effective
      (effective = pack.priceCents) (if disputed then "dispute" else "refund")
      (some (.settlementReversal packId effective tx.account.ledger.length)) tx
    return (tx, {
      revoked := reversal.creditsRevoked, debtCreated := reversal.debtCreated, disputed })
  else if effective < oldEffective then
    let target := (pack.creditsPurchased - pack.creditsExpired) * effective / pack.priceCents
    let released := max 0 (pack.creditsRevoked - target)
    let tx ← releaseReversal session tx.account.fuel packId target tx
    let account := tx.account.setPack packId
      { tx.account.pack packId with refundedItemAmountCentsProcessed := effective }
    return ({ tx with account }, { released, disputed })
  else return (tx, { disputed })

def BillingCreditPack.settledStatus (pack : BillingCreditPack) (disputed : Bool)
    (cash effective now : Int) : PackStatus :=
  if effective = pack.priceCents then
    if disputed ∧ cash < pack.priceCents then .disputed else .refunded
  else if pack.expiresAt ≤ now then .expired
  else if pack.creditsRemaining ≠ 0 then .active
  else .consumed

def settlePack (session : Session) (disputes : List BillingDispute) (packId : Nat)
    (refundedCents : Int) (account : Account) :
    Except CreditError (Account × SettlementOutcome) := do
  let account := account.expireUserPacks (session.clock 0)
  if account.packs.length ≤ packId then throw .noResultFound
  let pack := account.pack packId
  let disputed := decide (disputedCents disputes pack ≠ 0)
  let cash := cashCents pack refundedCents
  let effective := effectiveCents disputes pack refundedCents
  let (tx, outcome) ← moveReversal session disputed packId effective { account, reads := 1 }
  let pack := tx.account.pack packId
  let account ← flush (tx.account.setPack packId { pack with
    providerRefundedTotalCentsSeen := cash
    status := pack.settledStatus disputed cash effective (session.clock tx.reads) })
  return (account, outcome)

/-! Runs -/

inductive Operation where
  | getBalance
  | credit (amount : Int) (reason : String)
  | grant (terms : PackTerms) (ledgerReason : LedgerReason)
  | deduct (amount : Int) (reason : String)
  | refund (ledgerEntryId : Nat) (userId : Option Nat)
  | applyRefundReversal (packId : Nat) (amountCents : Int) (fullOrFraud : Bool)
      (reasonLabel : String)
  | settlePack (packId : Nat) (disputes : List BillingDispute) (refundedCents : Int)

def Operation.Admissible : Operation → Prop
  | .credit amount _ => 0 < amount
  | .deduct amount _ => 0 ≤ amount
  | .grant _ (.billingPurchase _ _) => True
  | .grant _ (.adminBillingCorrection _ _) => True
  | .grant _ _ => False
  | _ => True

def Operation.perform (session : Session) (account : Account) :
    Operation → Except CreditError Account
  | .getBalance => Billing.getBalance session account
  | .credit amount reason => Billing.credit session amount reason account
  | .grant terms ledgerReason => Billing.grant session terms ledgerReason account
  | .deduct amount reason => Billing.deduct session amount reason account
  | .refund ledgerEntryId userId => do
      let (account, _) ← Billing.refund session account.fuel ledgerEntryId userId account
      return account
  | .applyRefundReversal packId amountCents fullOrFraud reasonLabel => do
      let (tx, _) ← Billing.applyRefundReversal session packId amountCents fullOrFraud
        reasonLabel none { account, reads := 0 }
      return tx.account
  | .settlePack packId disputes refundedCents => do
      let (account, _) ← Billing.settlePack session disputes packId refundedCents account
      return account

def Operation.step (session : Session) (account : Account) (operation : Operation) : Account :=
  match operation.perform session account with
  | .ok account => account
  | .error _ => account

structure Step where
  session : Session
  operation : Operation

def Step.after (step : Step) (account : Account) : Account :=
  step.operation.step step.session account

def Account.run (account : Account) (steps : List Step) : Account :=
  steps.foldl (fun account step => step.after account) account

end Thought2Build.Billing
