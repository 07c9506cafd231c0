import Thought2Build.Library.Rows

/-!
The rows behind one user's credit account: `users.credit_balance`, credit packs,
recoverable debts, allocations and the ledger. A UUID primary key is modelled by
the row's position in its table; the order of the UUIDs themselves is arbitrary
and comes with the `Session`.
-/

namespace Thought2Build.Billing

open Rows

inductive Provider where
  | lemonsqueezy | stripe | razorpay
  deriving DecidableEq

inductive PackStatus where
  | active | consumed | expired | refunded | disputed
  deriving DecidableEq

inductive DebtStatus where
  | pending | recovered
  deriving DecidableEq

structure BillingCreditPack where
  provider : Provider := .lemonsqueezy
  providerCheckoutId : Option String := none
  providerOrderId : Option String := none
  creditsPurchased : Int := 0
  creditsRemaining : Int := 0
  creditsConsumed : Int := 0
  creditsExpired : Int := 0
  creditsDebtRecovered : Int := 0
  creditsRevoked : Int := 0
  priceCents : Int := 0
  currency : String := ""
  paidItemAmountCents : Int := 0
  providerOrderTotalCents : Option Int := none
  providerRefundedTotalCentsSeen : Int := 0
  refundedItemAmountCentsProcessed : Int := 0
  status : PackStatus := .consumed
  purchasedAt : Int := 0
  expiresAt : Int := 0
  deriving DecidableEq

instance : Inhabited BillingCreditPack := ⟨{}⟩

/-- `remaining + consumed + expired + debt_recovered`, the accounted value. -/
def BillingCreditPack.accounted (pack : BillingCreditPack) : Int :=
  pack.creditsRemaining + pack.creditsConsumed + pack.creditsExpired + pack.creditsDebtRecovered

def BillingCreditPack.gap (pack : BillingCreditPack) : Int :=
  pack.creditsPurchased - pack.accounted

structure BillingCreditDebt where
  sourcePackId : Nat
  provider : Provider
  providerOrderId : Option String
  creditsOwed : Int
  creditsRecovered : Int
  status : DebtStatus
  reason : String
  createdAt : Int

instance : Inhabited BillingCreditDebt := ⟨⟨0, .lemonsqueezy, none, 0, 0, .recovered, "", 0⟩⟩

def BillingCreditDebt.outstanding (debt : BillingCreditDebt) : Int :=
  debt.creditsOwed - debt.creditsRecovered

/-- `recoveryForPackId = none` is consumption by an operation; otherwise the pack
supplied credits to cover the named pack's payment reversal. -/
structure CreditPackAllocation where
  ledgerEntryId : Nat
  packId : Nat
  recoveryForPackId : Option Nat
  amount : Int
  returnedAmount : Int
  deriving DecidableEq

instance : Inhabited CreditPackAllocation := ⟨⟨0, 0, none, 0, 0⟩⟩

def CreditPackAllocation.unreturned (allocation : CreditPackAllocation) : Int :=
  allocation.amount - allocation.returnedAmount

/-- The `reason` texts of `credit_ledger`. The `uuid4()` suffixes are the id of the
row that carries them. `operation` is a caller's own label (`generate`,
`signup_bonus`, …). -/
inductive LedgerReason where
  | operation (label : String)
  | refund (ledgerEntryId : Nat)
  | billingReversal (packId : Nat) (refundedItemCents : Int)
  | settlementReversal (packId : Nat) (effective : Int) (uuid : Nat)
  | debtRecovery (debtId packId : Nat)
  | disputeRelease (packId uuid : Nat)
  | billingPurchase (provider : Provider) (orderId : String)
  | adminBillingCorrection (provider : Provider) (orderId : String)
  deriving DecidableEq

/-- Reasons under one of the partial unique indexes (`refund:%`,
`debt_recovery:billing:%`, `billing_purchase:%`, `admin_billing_correction:%`). -/
def LedgerReason.unique : LedgerReason → Bool
  | .operation _ => false
  | .disputeRelease _ _ => false
  | _ => true

structure AllocationRecord where
  allocationVersion : Int
  unallocatedCredits : Int

structure CreditLedger where
  amount : Int
  reason : LedgerReason
  metadata : Option AllocationRecord
  createdAt : Int

structure Account where
  userId : Nat
  creditBalance : Int
  packs : List BillingCreditPack
  debts : List BillingCreditDebt
  allocations : List CreditPackAllocation
  ledger : List CreditLedger

/-- What one operation draws from its surroundings: successive clock readings, and
the orders SQL leaves open. -/
structure Session where
  clock : Nat → Int
  scanRank : Nat → Nat
  packUuid : Nat → Int
  allocationUuid : Nat → Int

inductive CreditError where
  | insufficientCredits
  | integrityError
  | noResultFound
  | refundSourceNotFound
  | incompleteAllocationHistory
  | allocationExceedsSource
  | legacyRecoveryRepair
  | legacyPaidDeduction
  | recursionLimit
  deriving DecidableEq

/-! CHECK constraints and unique indexes, tested when a session flushes. -/

def BillingCreditPack.Checks (pack : BillingCreditPack) : Prop :=
  0 < pack.creditsPurchased ∧
  0 ≤ pack.creditsRemaining ∧
  0 ≤ pack.creditsConsumed ∧
  0 ≤ pack.creditsExpired ∧
  0 ≤ pack.creditsDebtRecovered ∧
  0 ≤ pack.creditsRevoked ∧
  0 < pack.priceCents ∧
  0 < pack.paidItemAmountCents ∧
  (∀ total ∈ pack.providerOrderTotalCents, 0 ≤ total) ∧
  0 ≤ pack.providerRefundedTotalCentsSeen ∧
  0 ≤ pack.refundedItemAmountCentsProcessed ∧
  pack.creditsRemaining ≤ pack.creditsPurchased ∧
  pack.accounted ≤ pack.creditsPurchased ∧
  pack.refundedItemAmountCentsProcessed ≤ pack.paidItemAmountCents ∧
  (∀ total ∈ pack.providerOrderTotalCents, pack.providerRefundedTotalCentsSeen ≤ total) ∧
  pack.creditsRevoked ≤ pack.creditsPurchased

def BillingCreditDebt.Checks (debt : BillingCreditDebt) : Prop :=
  0 < debt.creditsOwed ∧ 0 ≤ debt.creditsRecovered ∧ debt.creditsRecovered ≤ debt.creditsOwed

def CreditPackAllocation.Checks (allocation : CreditPackAllocation) : Prop :=
  0 < allocation.amount ∧ 0 ≤ allocation.returnedAmount ∧
    allocation.returnedAmount ≤ allocation.amount

def BillingCreditPack.Distinct (first second : BillingCreditPack) : Prop :=
  ¬(first.provider = second.provider ∧ first.providerOrderId.isSome ∧
      first.providerOrderId = second.providerOrderId) ∧
  ¬(first.provider = second.provider ∧ first.providerCheckoutId.isSome ∧
      first.providerCheckoutId = second.providerCheckoutId)

instance (pack : BillingCreditPack) : Decidable pack.Checks := by
  unfold BillingCreditPack.Checks; infer_instance

instance (debt : BillingCreditDebt) : Decidable debt.Checks := by
  unfold BillingCreditDebt.Checks; infer_instance

instance (allocation : CreditPackAllocation) : Decidable allocation.Checks := by
  unfold CreditPackAllocation.Checks; infer_instance

instance : DecidableRel BillingCreditPack.Distinct := fun first second => by
  unfold BillingCreditPack.Distinct; infer_instance

structure Account.Constraints (account : Account) : Prop where
  packs : ∀ pack ∈ account.packs, pack.Checks
  debts : ∀ debt ∈ account.debts, debt.Checks
  allocations : ∀ allocation ∈ account.allocations, allocation.Checks
  packsDistinct : account.packs.Pairwise BillingCreditPack.Distinct
  debtSources : account.debts.Pairwise fun first second =>
    first.sourcePackId ≠ second.sourcePackId
  allocationKeys : account.allocations.Pairwise fun first second =>
    ¬(first.ledgerEntryId = second.ledgerEntryId ∧ first.packId = second.packId)
  ledgerReasons : account.ledger.Pairwise fun first second =>
    ¬(first.reason.unique = true ∧ first.reason = second.reason)

instance (account : Account) : Decidable account.Constraints :=
  decidable_of_iff
    ((∀ pack ∈ account.packs, pack.Checks) ∧
      (∀ debt ∈ account.debts, debt.Checks) ∧
      (∀ allocation ∈ account.allocations, allocation.Checks) ∧
      account.packs.Pairwise BillingCreditPack.Distinct ∧
      (account.debts.Pairwise fun first second => first.sourcePackId ≠ second.sourcePackId) ∧
      (account.allocations.Pairwise fun first second =>
        ¬(first.ledgerEntryId = second.ledgerEntryId ∧ first.packId = second.packId)) ∧
      account.ledger.Pairwise fun first second =>
        ¬(first.reason.unique = true ∧ first.reason = second.reason))
    ⟨fun ⟨a, b, c, d, e, f, g⟩ => ⟨a, b, c, d, e, f, g⟩,
      fun ⟨a, b, c, d, e, f, g⟩ => ⟨a, b, c, d, e, f, g⟩⟩

/-- `db.flush()`. An operation's last flush stands for all of its flushes. -/
def flush (account : Account) : Except CreditError Account :=
  if account.Constraints then .ok account else .error .integrityError

def Account.opened (userId : Nat) (balance : Int) : Account :=
  { userId, creditBalance := balance, packs := [], debts := [], allocations := [], ledger := [] }

/-! Row edits. -/

namespace Account

def pack (account : Account) (id : Nat) : BillingCreditPack := account.packs.getD id default

def debt (account : Account) (id : Nat) : BillingCreditDebt := account.debts.getD id default

def allocation (account : Account) (id : Nat) : CreditPackAllocation :=
  account.allocations.getD id default

def setPack (account : Account) (id : Nat) (pack : BillingCreditPack) : Account :=
  { account with packs := account.packs.set id pack }

def setDebt (account : Account) (id : Nat) (debt : BillingCreditDebt) : Account :=
  { account with debts := account.debts.set id debt }

def setAllocation (account : Account) (id : Nat) (allocation : CreditPackAllocation) : Account :=
  { account with allocations := account.allocations.set id allocation }

def addAllocation (account : Account) (allocation : CreditPackAllocation) : Account :=
  { account with allocations := account.allocations ++ [allocation] }

def addDebt (account : Account) (debt : BillingCreditDebt) : Account :=
  { account with debts := account.debts ++ [debt] }

def addLedger (account : Account) (entry : CreditLedger) : Account :=
  { account with ledger := account.ledger ++ [entry] }

def addBalance (account : Account) (amount : Int) : Account :=
  { account with creditBalance := account.creditBalance + amount }

def packsByExpiry (account : Account) (session : Session) : List Nat :=
  scan (fun id => (account.pack id).expiresAt) session.scanRank account.packs.length

end Account

end Thought2Build.Billing
