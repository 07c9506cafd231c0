import Thought2Build.Billing.AccountCore

/-!
`services/credit_service.py`, operation by operation, on the rows of one user.
An `Except.error` is a raised exception; the caller's transaction is then rolled
back. `Tx` carries the number of `datetime.now` readings the operation has made.
-/

namespace Thought2Build.Billing

open Rows

structure Tx where
  account : Account
  reads : Nat

/-! `_expire_user_packs` -/

def BillingCreditPack.lapsed (now : Int) (pack : BillingCreditPack) : Bool :=
  pack.status = .active && pack.expiresAt ≤ now

def BillingCreditPack.expire (pack : BillingCreditPack) : BillingCreditPack :=
  { pack with
    creditsExpired := pack.creditsExpired + pack.creditsRemaining
    status := .expired
    creditsRemaining := 0 }

namespace Account

def totalExpired (now : Int) (account : Account) : Int :=
  sumOf (fun pack => if pack.lapsed now then pack.creditsRemaining else 0) account.packs

def expireUserPacks (now : Int) (account : Account) : Account :=
  if account.packs.any (·.lapsed now) then
    { account with
      packs := account.packs.map fun pack => if pack.lapsed now then pack.expire else pack
      creditBalance := max 0 (account.creditBalance - account.totalExpired now) }
  else account

end Account

def getBalance (session : Session) (account : Account) : Except CreditError Account :=
  flush (account.expireUserPacks (session.clock 0))

def credit (session : Session) (amount : Int) (reason : String) (account : Account) :
    Except CreditError Account :=
  flush ((account.addBalance amount).addLedger {
    amount, reason := .operation reason, metadata := none, createdAt := session.clock 0 })

/-! `deduct` and `_drain_packs` -/

def drainFrom (ledgerEntryId : Nat) : List Nat → Int → Account → Account × Int
  | [], remaining, account => (account, remaining)
  | id :: ids, remaining, account =>
      if remaining ≤ 0 then (account, remaining)
      else
        let pack := account.pack id
        let drain := min pack.creditsRemaining remaining
        let account := account.setPack id { pack with
          creditsRemaining := pack.creditsRemaining - drain
          creditsConsumed := pack.creditsConsumed + drain
          status := if pack.creditsRemaining - drain = 0 then .consumed else pack.status }
        let account := if drain ≠ 0 then account.addAllocation {
          ledgerEntryId, packId := id, recoveryForPackId := none
          amount := drain, returnedAmount := 0 } else account
        drainFrom ledgerEntryId ids (remaining - drain) account

def drainPacks (session : Session) (amount : Int) (ledgerEntryId : Nat) (account : Account) :
    Account :=
  if amount ≤ 0 then account
  else
    let active := (account.packsByExpiry session).filter fun id =>
      (account.pack id).status = .active
    let (account, remaining) := drainFrom ledgerEntryId active amount account
    { account with
      ledger := account.ledger.modify ledgerEntryId fun entry =>
        { entry with
          metadata := some { allocationVersion := 1, unallocatedCredits := remaining } } }

def deduct (session : Session) (amount : Int) (reason : String) (account : Account) :
    Except CreditError Account :=
  let account := account.expireUserPacks (session.clock 0)
  if account.creditBalance < amount then .error .insufficientCredits
  else
    let ledgerEntryId := account.ledger.length
    let account := (account.addBalance (-amount)).addLedger {
      amount := -amount, reason := .operation reason, metadata := none
      createdAt := session.clock 0 }
    flush (drainPacks session amount ledgerEntryId account)

/-! `grant_credits_with_debt_recovery` -/

structure PackTerms where
  provider : Provider
  providerCheckoutId : Option String
  providerOrderId : Option String
  credits : Int
  priceCents : Int
  currency : String
  providerOrderTotalCents : Option Int
  purchasedAt : Int
  expiresAt : Int

def PackTerms.pack (terms : PackTerms) : BillingCreditPack :=
  { provider := terms.provider
    providerCheckoutId := terms.providerCheckoutId
    providerOrderId := terms.providerOrderId
    creditsPurchased := terms.credits
    creditsRemaining := terms.credits
    priceCents := terms.priceCents
    currency := terms.currency
    paidItemAmountCents := terms.priceCents
    providerOrderTotalCents := terms.providerOrderTotalCents
    status := .active
    purchasedAt := terms.purchasedAt
    expiresAt := terms.expiresAt }

/-- Settles pending debts out of pack `packId`; returns what the grant has left. -/
def settleDebts (session : Session) (packId : Nat) : List Nat → Int → Account → Account × Int
  | [], grantLeft, account => (account, grantLeft)
  | id :: ids, grantLeft, account =>
      if grantLeft ≤ 0 then (account, grantLeft)
      else
        let debt := account.debt id
        let take := min grantLeft debt.outstanding
        if take ≤ 0 then settleDebts session packId ids grantLeft account
        else
          let pack := account.pack packId
          let recovered := debt.creditsRecovered + take
          let recoveryEntryId := account.ledger.length
          let account := account.setPack packId { pack with
            creditsRemaining := pack.creditsRemaining - take
            creditsDebtRecovered := pack.creditsDebtRecovered + take }
          let account := account.setDebt id { debt with
            creditsRecovered := recovered
            status := if recovered ≥ debt.creditsOwed then .recovered else debt.status }
          let account := account.addLedger {
            amount := 0, reason := .debtRecovery id packId, metadata := none
            createdAt := session.clock 0 }
          let account := account.addAllocation {
            ledgerEntryId := recoveryEntryId, packId
            recoveryForPackId := some debt.sourcePackId, amount := take, returnedAmount := 0 }
          settleDebts session packId ids (grantLeft - take) account

/-- `none` when the SAVEPOINT is rolled back on an `IntegrityError`. -/
def grantCreditsWithDebtRecovery (session : Session) (packId : Nat) (grantedCredits : Int)
    (ledgerReason : LedgerReason) (account : Account) : Option Account :=
  let pending := (scan (fun id => (account.debt id).createdAt) session.scanRank
    account.debts.length).filter fun id => (account.debt id).status = .pending
  let (account, surplus) := settleDebts session packId pending grantedCredits account
  let account := (account.addBalance surplus).addLedger {
    amount := surplus, reason := ledgerReason, metadata := none, createdAt := session.clock 0 }
  (flush account).toOption

/-- The grant as every caller makes it: insert the fresh pack, flush, grant; a
refused grant rolls the caller's transaction back. -/
def grant (session : Session) (terms : PackTerms) (ledgerReason : LedgerReason)
    (account : Account) : Except CreditError Account := do
  let packId := account.packs.length
  let inserted ← flush { account with packs := account.packs ++ [terms.pack] }
  match grantCreditsWithDebtRecovery session packId terms.credits ledgerReason inserted with
  | some granted => .ok granted
  | none => .ok account

/-! `apply_refund_reversal` -/

structure RefundOutcome where
  newRefundedItemCents : Int
  creditsRevoked : Int
  immediateRevoke : Int
  debtCreated : Int
  applied : Bool
  deriving DecidableEq

def BillingCreditPack.providerTotalCents (pack : BillingCreditPack) : Int :=
  match pack.providerOrderTotalCents with
  | some total => max total pack.paidItemAmountCents
  | none => pack.paidItemAmountCents

/-- `provider_refunded_total_cents`, the reported amount clamped to the total. -/
def BillingCreditPack.refundedTotal (pack : BillingCreditPack) (amountCents : Int) : Int :=
  min (max amountCents 0) pack.providerTotalCents

/-- `new_refunded_item_cents`, the refund level after tax normalisation. -/
def BillingCreditPack.refundLevel (pack : BillingCreditPack) (amountCents : Int)
    (fullOrFraud : Bool) : Int :=
  let refunded := pack.refundedTotal amountCents
  if fullOrFraud ∨ refunded ≥ pack.providerTotalCents then pack.paidItemAmountCents
  else pack.paidItemAmountCents * refunded / pack.providerTotalCents

def BillingCreditPack.targetRevoked (pack : BillingCreditPack) (level : Int) : Int :=
  let refundable := pack.creditsPurchased - pack.creditsExpired
  if level = pack.paidItemAmountCents then refundable
  else refundable * level / pack.paidItemAmountCents

def BillingCreditPack.markProcessed (pack : BillingCreditPack) (level seen : Int) :
    BillingCreditPack :=
  { pack with
    refundedItemAmountCentsProcessed := max pack.refundedItemAmountCentsProcessed level
    providerRefundedTotalCentsSeen := max pack.providerRefundedTotalCentsSeen seen }

/-- Drains other active packs; returns the unmet need and `donor_allocations`. -/
def drainDonors (sourceId : Nat) :
    List Nat → Int → Account → Account × Int × List (Nat × Int)
  | [], need, account => (account, need, [])
  | id :: ids, need, account =>
      if need ≤ 0 then (account, need, [])
      else
        let pack := account.pack id
        if id = sourceId ∨ pack.status ≠ .active then drainDonors sourceId ids need account
        else
          let take := min pack.creditsRemaining need
          if take ≤ 0 then drainDonors sourceId ids need account
          else
            let account := account.setPack id { pack with
              creditsRemaining := pack.creditsRemaining - take
              creditsDebtRecovered := pack.creditsDebtRecovered + take
              status := if pack.creditsRemaining - take = 0 then .consumed else pack.status }
            let (account, left, donors) := drainDonors sourceId ids (need - take) account
            (account, left, (id, take) :: donors)

def Account.debtIdOf (account : Account) (sourceId : Nat) : Nat :=
  account.debts.findIdx fun debt => debt.sourcePackId = sourceId

def upsertRefundDebt (session : Session) (sourceId : Nat) (amount : Int) (reasonLabel : String)
    (account : Account) : Account :=
  let source := account.pack sourceId
  let id := account.debtIdOf sourceId
  if id < account.debts.length then
    let debt := account.debt id
    let owed := debt.creditsOwed + amount
    account.setDebt id { debt with
      creditsOwed := owed
      status := if debt.creditsRecovered < owed then .pending else debt.status }
  else account.addDebt {
    sourcePackId := sourceId, provider := source.provider
    providerOrderId := source.providerOrderId, creditsOwed := amount, creditsRecovered := 0
    status := .pending, reason := "refund_exceeded_remaining:" ++ reasonLabel
    createdAt := session.clock 0 }

def donorAllocation (ledgerEntryId sourceId : Nat) (donor : Nat × Int) : CreditPackAllocation :=
  { ledgerEntryId, packId := donor.1, recoveryForPackId := some sourceId
    amount := donor.2, returnedAmount := 0 }

/-- Steps 4–6 of `apply_refund_reversal`: revoke `revoke > 0` further credits from pack
`sourceId`, which reaches refund level `level`. -/
def revokeCredits (session : Session) (sourceId : Nat) (revoke level seen : Int)
    (reasonLabel : String) (ledgerReason : LedgerReason) (account : Account) :
    Account × RefundOutcome :=
  let source := account.pack sourceId
  let takeSource := min source.creditsRemaining revoke
  let locked := (account.packsByExpiry session).filter fun id =>
    (account.pack id).status = .active ∨ id = sourceId
  let account := account.setPack sourceId
    { source with creditsRemaining := source.creditsRemaining - takeSource }
  let (account, debtCreated, donors) := drainDonors sourceId locked (revoke - takeSource) account
  let immediateRevoke := takeSource + sumOf Prod.snd donors
  let account :=
    if debtCreated > 0 then upsertRefundDebt session sourceId debtCreated reasonLabel account
    else account
  let source := account.pack sourceId
  let account := account.setPack sourceId { source.markProcessed level seen with
    creditsRevoked := source.creditsRevoked + revoke
    status :=
      if level = source.paidItemAmountCents then .refunded
      else if source.status = .expired then .expired
      else if source.creditsRemaining > 0 then .active
      else .consumed }
  let account := { account with creditBalance := max 0 (account.creditBalance - immediateRevoke) }
  let ledgerEntryId := account.ledger.length
  let account := account.addLedger {
    amount := -immediateRevoke, reason := ledgerReason, metadata := none
    createdAt := session.clock 0 }
  let account := { account with
    allocations := account.allocations ++ donors.map (donorAllocation ledgerEntryId sourceId) }
  (account, {
    newRefundedItemCents := level, creditsRevoked := revoke, immediateRevoke, debtCreated
    applied := true })

def reverseRefund (session : Session) (sourceId : Nat) (amountCents : Int) (fullOrFraud : Bool)
    (reasonLabel : String) (ledgerReason : Option LedgerReason) (account : Account) :
    Account × RefundOutcome :=
  let source := account.pack sourceId
  let seen := source.refundedTotal amountCents
  let level := source.refundLevel amountCents fullOrFraud
  let noEffect : RefundOutcome := {
    newRefundedItemCents := level, creditsRevoked := 0, immediateRevoke := 0, debtCreated := 0
    applied := false }
  if level ≤ source.refundedItemAmountCentsProcessed then
    (account.setPack sourceId { source with
      providerRefundedTotalCentsSeen := max source.providerRefundedTotalCentsSeen seen }, noEffect)
  else
    let revoke := source.targetRevoked level - source.creditsRevoked
    if revoke ≤ 0 then (account.setPack sourceId (source.markProcessed level seen), noEffect)
    else revokeCredits session sourceId revoke level seen reasonLabel
      (ledgerReason.getD (.billingReversal sourceId level)) account

def applyRefundReversal (session : Session) (sourceId : Nat) (amountCents : Int)
    (fullOrFraud : Bool) (reasonLabel : String) (ledgerReason : Option LedgerReason) (tx : Tx) :
    Except CreditError (Tx × RefundOutcome) := do
  let account := tx.account.expireUserPacks (session.clock tx.reads)
  if account.packs.length ≤ sourceId then throw .refundSourceNotFound
  let (account, outcome) :=
    reverseRefund session sourceId amountCents fullOrFraud reasonLabel ledgerReason account
  let account ← flush account
  return ({ account, reads := tx.reads + 1 }, outcome)

/-! `_restore_pack_value` and `_return_reversal_recovery` -/

inductive Counter where
  | creditsConsumed | creditsDebtRecovered
  deriving DecidableEq

def Counter.read (counter : Counter) (pack : BillingCreditPack) : Int :=
  match counter with
  | .creditsConsumed => pack.creditsConsumed
  | .creditsDebtRecovered => pack.creditsDebtRecovered

def Counter.subtract (counter : Counter) (amount : Int) (pack : BillingCreditPack) :
    BillingCreditPack :=
  match counter with
  | .creditsConsumed => { pack with creditsConsumed := pack.creditsConsumed - amount }
  | .creditsDebtRecovered =>
      { pack with creditsDebtRecovered := pack.creditsDebtRecovered - amount }

/-- `absorbed`: the part of a restored amount that an earlier reversal already took. -/
def BillingCreditPack.absorbed (pack : BillingCreditPack) (amount : Int) : Int :=
  min amount (max 0 (pack.creditsRevoked - pack.gap))

def BillingCreditPack.restore (pack : BillingCreditPack) (counter : Counter) (amount now : Int) :
    BillingCreditPack :=
  let normal := amount - pack.absorbed amount
  let pack := counter.subtract amount pack
  let lapsed := pack.expiresAt ≤ now
  { pack with
    creditsExpired := if lapsed then pack.creditsExpired + normal else pack.creditsExpired
    creditsRemaining := if lapsed then pack.creditsRemaining else pack.creditsRemaining + normal
    status :=
      if lapsed then
        if pack.status = .refunded ∨ pack.status = .disputed then pack.status else .expired
      else if normal ≠ 0 then .active
      else pack.status }

/-- Cancels outstanding debt of pack `sourceId`; returns what is left of `amount`. -/
def cancelDebt (sourceId : Nat) (amount : Int) (account : Account) : Account × Int :=
  let id := account.debtIdOf sourceId
  if id < account.debts.length then
    let debt := account.debt id
    let take := min amount debt.outstanding
    let recovered := debt.creditsRecovered + take
    (account.setDebt id { debt with
      creditsRecovered := recovered
      status := if recovered = debt.creditsOwed then .recovered else debt.status }, amount - take)
  else (account, amount)

def returnRecoveries (restore : Nat → Int → Counter → Tx → Except CreditError (Tx × Int)) :
    List Nat → Int → Tx → Except CreditError (Tx × Int × Int)
  | [], amount, tx => .ok (tx, amount, 0)
  | id :: ids, amount, tx => do
      let recovery := tx.account.allocation id
      let take := min amount recovery.unreturned
      if take ≤ 0 then return (tx, amount, 0)
      let account := tx.account.setAllocation id
        { recovery with returnedAmount := recovery.returnedAmount + take }
      let (tx, restored) ← restore recovery.packId take .creditsDebtRecovered { tx with account }
      let (tx, left, usable) ← returnRecoveries restore ids (amount - take) tx
      return (tx, left, restored + usable)

def Account.recoveriesOf (account : Account) (session : Session) (sourceId : Nat) : List Nat :=
  (scan session.allocationUuid id account.allocations.length).filter fun id =>
    (account.allocation id).recoveryForPackId = some sourceId ∧
      (account.allocation id).returnedAmount < (account.allocation id).amount

def returnReversalRecovery (restore : Nat → Int → Counter → Tx → Except CreditError (Tx × Int))
    (session : Session) (sourceId : Nat) (amount : Int) (tx : Tx) :
    Except CreditError (Tx × Int) := do
  let (account, amount) := cancelDebt sourceId amount tx.account
  let (tx, left, usable) ← returnRecoveries restore (account.recoveriesOf session sourceId)
    amount { tx with account }
  if left ≠ 0 then throw .legacyRecoveryRepair
  return (tx, usable)

def restorePackValue (session : Session) :
    Nat → Nat → Int → Counter → Tx → Except CreditError (Tx × Int)
  | 0, _, _, _, _ => .error .recursionLimit
  | fuel + 1, packId, amount, counter, tx => do
      if amount ≤ 0 then return (tx, 0)
      if tx.account.packs.length ≤ packId then throw .noResultFound
      let pack := tx.account.pack packId
      if counter.read pack < amount then throw .allocationExceedsSource
      let now := session.clock tx.reads
      let absorbed := pack.absorbed amount
      let usable := if pack.expiresAt ≤ now then 0 else amount - absorbed
      let tx : Tx := {
        account := tx.account.setPack packId (pack.restore counter amount now)
        reads := tx.reads + 1 }
      if absorbed = 0 then return (tx, usable)
      let (tx, returned) ←
        returnReversalRecovery (restorePackValue session fuel) session packId absorbed tx
      return (tx, usable + returned)

/-! `release_reversal` -/

def BillingCreditPack.collectedElsewhere (pack : BillingCreditPack) (release : Int) : Int :=
  min release (max 0 (pack.creditsRevoked - pack.gap))

def BillingCreditPack.release (pack : BillingCreditPack) (release direct now : Int) :
    BillingCreditPack :=
  let lapsed := pack.expiresAt ≤ now
  { pack with
    creditsRevoked := pack.creditsRevoked - release
    creditsExpired := if lapsed then pack.creditsExpired + direct else pack.creditsExpired
    creditsRemaining := if lapsed then pack.creditsRemaining else pack.creditsRemaining + direct
    status :=
      if lapsed then .expired
      else if pack.creditsRemaining + direct = 0 then .consumed
      else .active }

def returnElsewhere (restore : Nat → Int → Counter → Tx → Except CreditError (Tx × Int))
    (session : Session) (sourceId : Nat) (collectedElsewhere : Int) (tx : Tx) :
    Except CreditError (Tx × Int) :=
  if collectedElsewhere ≠ 0 then
    returnReversalRecovery restore session sourceId collectedElsewhere tx
  else .ok (tx, 0)

def releaseReversal (session : Session) (fuel sourceId : Nat) (targetCreditsRevoked : Int)
    (tx : Tx) : Except CreditError Tx := do
  let source := tx.account.pack sourceId
  let release := max 0 (source.creditsRevoked - targetCreditsRevoked)
  if release = 0 then return tx
  let collectedElsewhere := source.collectedElsewhere release
  let (tx, usable) ←
    returnElsewhere (restorePackValue session fuel) session sourceId collectedElsewhere tx
  let direct := release - collectedElsewhere
  let now := session.clock tx.reads
  let source := tx.account.pack sourceId
  let account := tx.account.setPack sourceId (source.release release direct now)
  let usable := if source.expiresAt ≤ now then usable else usable + direct
  let account := (account.addBalance usable).addLedger {
    amount := usable, reason := .disputeRelease sourceId account.ledger.length
    metadata := none, createdAt := session.clock 0 }
  let account ← flush account
  return { account, reads := tx.reads + 1 }

/-! `refund` and `_restore_deduction` -/

def Account.fuel (account : Account) : Nat := account.packs.length + 1

def restoreAllocations (session : Session) (fuel : Nat) :
    List Nat → Tx → Except CreditError (Tx × Int)
  | [], tx => .ok (tx, 0)
  | id :: ids, tx => do
      let allocation := tx.account.allocation id
      let amount := allocation.unreturned
      let account := tx.account.setAllocation id
        { allocation with returnedAmount := allocation.returnedAmount + amount }
      let (tx, restored) ←
        restorePackValue session fuel allocation.packId amount .creditsConsumed { tx with account }
      let (tx, rest) ← restoreAllocations session fuel ids tx
      return (tx, restored + rest)

def Account.consumptionsOf (account : Account) (session : Session) (ledgerEntryId : Nat) :
    List Nat :=
  (scan (fun id => session.packUuid (account.allocation id).packId) id
    account.allocations.length).filter fun id =>
      (account.allocation id).ledgerEntryId = ledgerEntryId ∧
        (account.allocation id).recoveryForPackId = none

def restoreDeduction (session : Session) (fuel ledgerEntryId : Nat) (original : CreditLedger)
    (record : AllocationRecord) (tx : Tx) : Except CreditError (Tx × Int) := do
  let ids := tx.account.consumptionsOf session ledgerEntryId
  let allocated := (ids.map fun id => (tx.account.allocation id).amount).sum
  if record.unallocatedCredits + allocated ≠ |original.amount| then
    throw .incompleteAllocationHistory
  let (tx, restored) ← restoreAllocations session fuel ids tx
  return (tx, record.unallocatedCredits + restored)

/-- The SAVEPOINT of `refund`: the refund row, and the value it returns. -/
def refundSavepoint (session : Session) (fuel ledgerEntryId : Nat) (original : CreditLedger)
    (account : Account) : Except CreditError (Account × Int) := do
  let refundEntryId := account.ledger.length
  let account := account.addLedger {
    amount := |original.amount|, reason := .refund ledgerEntryId, metadata := none
    createdAt := session.clock 0 }
  match original.metadata with
  | some record =>
      if record.allocationVersion = 1 then
        let account := account.expireUserPacks (session.clock 0)
        let (tx, refundAmount) ←
          restoreDeduction session fuel ledgerEntryId original record { account, reads := 1 }
        let account ← flush { tx.account with
          ledger := tx.account.ledger.modify refundEntryId fun entry =>
            { entry with amount := refundAmount } }
        return (account, refundAmount)
      else legacy account
  | none => legacy account
where
  legacy (account : Account) : Except CreditError (Account × Int) :=
    if account.packs.any fun pack => pack.purchasedAt ≤ original.createdAt then
      .error .legacyPaidDeduction
    else (flush account).map fun account => (account, |original.amount|)

def refund (session : Session) (fuel ledgerEntryId : Nat) (userId : Option Nat)
    (account : Account) : Except CreditError (Account × Int) :=
  match account.ledger[ledgerEntryId]? with
  | none => .ok (account, 0)
  | some original =>
      if original.amount ≥ 0 then .ok (account, 0)
      else if ∃ user ∈ userId, user ≠ account.userId then .ok (account, 0)
      else if account.ledger.any fun entry => entry.reason = .refund ledgerEntryId then
        .ok (account, 0)
      else
        match refundSavepoint session fuel ledgerEntryId original account with
        | .ok (account, refundAmount) => .ok (account.addBalance refundAmount, refundAmount)
        | .error .integrityError => .ok (account, 0)
        | .error error => .error error

end Thought2Build.Billing
