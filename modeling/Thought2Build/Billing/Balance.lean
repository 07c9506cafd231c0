import Thought2Build.Billing.SpendablePacks

/-!
Balance conservation. The balance is what packs hold plus the credits outside packs, which the
ledger records row by row.
-/

namespace Thought2Build.Billing

open Rows Account

def CreditLedger.unallocated (entry : CreditLedger) : Int :=
  entry.metadata.elim 0 (·.unallocatedCredits)

/-- What a row moved outside packs: a credit, the unallocated part of a deduction, or that part
coming back with the deduction's refund. -/
def CreditLedger.nonPack (ledger : List CreditLedger) (entry : CreditLedger) : Int :=
  match entry.reason with
  | .operation _ => if entry.metadata = none then entry.amount else -entry.unallocated
  | .refund id => ledger[id]?.elim 0 (·.unallocated)
  | _ => 0

def CreditLedger.legacyRefund (ledger : List CreditLedger) (entry : CreditLedger) : Int :=
  match entry.reason with
  | .refund id => if ledger[id]?.elim true (·.metadata.isSome) then 0 else entry.amount
  | _ => 0

def Account.nonPackCredits (account : Account) : Int :=
  sumOf (·.nonPack account.ledger) account.ledger

def Account.legacyRefunds (account : Account) : Int :=
  sumOf (·.legacyRefund account.ledger) account.ledger

def Account.outside (opening : Int) (account : Account) : Int :=
  opening + account.nonPackCredits + account.legacyRefunds

section Outside

variable {before after : Account}

theorem CreditLedger.Filed.lookups {ledger rows : List CreditLedger} {entry : CreditLedger}
    (filed : entry.Filed ledger.length) :
    entry.nonPack (ledger ++ rows) = entry.nonPack ledger ∧
      entry.legacyRefund (ledger ++ rows) = entry.legacyRefund ledger := by
  simp only [CreditLedger.nonPack, CreditLedger.legacyRefund]
  cases reason : entry.reason with
  | refund id => simp only [List.getElem?_append_left (filed.refunds id reason), and_self]
  | _ => exact ⟨rfl, rfl⟩

theorem outside_append (booked : before.Booked) {rows : List CreditLedger}
    (ledger : after.ledger = before.ledger ++ rows) (opening : Int) :
    after.outside opening = before.outside opening +
      sumOf (fun row => row.nonPack after.ledger + row.legacyRefund after.ledger) rows := by
  have older : sumOf (·.nonPack after.ledger) before.ledger = before.nonPackCredits :=
    sumOf_congr fun entry member => ledger ▸ (booked.filed entry member).lookups.1
  have olderRefunds : sumOf (·.legacyRefund after.ledger) before.ledger = before.legacyRefunds :=
    sumOf_congr fun entry member => ledger ▸ (booked.filed entry member).lookups.2
  have credits : after.nonPackCredits =
      before.nonPackCredits + sumOf (·.nonPack after.ledger) rows := by
    rw [← older, ← sumOf_append, ← ledger, Account.nonPackCredits]
  have refunds : after.legacyRefunds =
      before.legacyRefunds + sumOf (·.legacyRefund after.ledger) rows := by
    rw [← olderRefunds, ← sumOf_append, ← ledger, Account.legacyRefunds]
  have total := sumOf_add (·.nonPack after.ledger) (·.legacyRefund after.ledger) rows
  rw [Account.outside, Account.outside, credits, refunds, total]
  omega

theorem CreditLedger.Silent.nothing {entry : CreditLedger} (silent : entry.Silent)
    (ledger : List CreditLedger) :
    entry.nonPack ledger + entry.legacyRefund ledger = 0 := by
  obtain ⟨-, operation, refund⟩ := silent
  simp only [CreditLedger.nonPack, CreditLedger.legacyRefund]
  cases reason : entry.reason with
  | operation label => exact absurd reason (operation label)
  | refund id => exact absurd reason (refund id)
  | _ => rfl

theorem Posted.outside (posted : Posted before after) (booked : before.Booked) (opening : Int) :
    after.outside opening = before.outside opening := by
  obtain ⟨rows, ledger, silent⟩ := posted.ledger
  rw [outside_append booked ledger, sumOf_zero fun row member => (silent row member).nothing _,
    Int.add_zero]

end Outside

structure Account.Balanced (opening : Int) (account : Account) : Prop where
  balance : account.creditBalance = account.outside opening + account.totalRemaining
  nonneg : 0 ≤ account.outside opening

section Steps

variable {session : Session} {opening : Int} {before after : Account}

theorem Account.Balanced.covered (balanced : before.Balanced opening) :
    before.totalRemaining ≤ before.creditBalance := by
  have := balanced.balance
  have := balanced.nonneg
  omega

theorem Account.Balanced.transfer {gain : Int} (balanced : before.Balanced opening)
    (booked : before.Booked) (transferred : Transferred session gain before after) :
    after.Balanced opening := by
  have outside := transferred.toPosted.outside booked opening
  have balance := transferred.creditBalance balanced.covered
  have remaining := transferred.remaining
  have before := balanced.balance
  refine ⟨?_, outside ▸ balanced.nonneg⟩
  omega

theorem Account.Balanced.sweep (balanced : before.Balanced opening) (sound : before.Sound)
    (session : Session) : (before.expireUserPacks (session.clock 0)).Balanced opening :=
  balanced.transfer sound.toBooked (.expireUserPacks sound.toSourced 0)

theorem Account.Balanced.credit {amount : Int} (balanced : before.Balanced opening)
    (booked : before.Booked) (positive : 0 < amount) (reason : String) :
    ((before.addBalance amount).addLedger (creditEntry session amount reason)).Balanced
      opening := by
  have outside := @outside_append before
    ((before.addBalance amount).addLedger (creditEntry session amount reason)) booked _ rfl opening
  have row : sumOf (fun row => row.nonPack ((before.addBalance amount).addLedger
        (creditEntry session amount reason)).ledger +
      row.legacyRefund ((before.addBalance amount).addLedger
        (creditEntry session amount reason)).ledger)
      [creditEntry session amount reason] = amount := by
    simp [CreditLedger.nonPack, CreditLedger.legacyRefund, creditEntry]
  rw [row] at outside
  obtain ⟨balance, nonneg⟩ := balanced
  refine ⟨?_, by omega⟩
  rw [outside]
  change before.creditBalance + amount = _ + before.totalRemaining
  omega

theorem Granted.balanced {terms : PackTerms} {ledgerReason : LedgerReason} {left : Int}
    {settled : Account} (granted : Granted session terms ledgerReason left settled before after)
    (quiet : ledgerReason.Quiet) (balanced : before.Balanced opening) (booked : before.Booked) :
    after.Balanced opening := by
  have outside := (granted.posted quiet).outside booked opening
  obtain ⟨-, -, settling, rfl, -⟩ := granted
  have inserted := (Moved.addPack before terms).remaining
  have remaining := settling.remaining
  have balance : settled.creditBalance = before.creditBalance := settling.creditBalance
  refine ⟨?_, outside ▸ balanced.nonneg⟩
  rw [outside]
  change settled.creditBalance + left = _ + settled.totalRemaining
  have := balanced.balance
  omega

theorem Deducted.balanced {amount left : Int} {reason : String}
    (deducted : Deducted session amount left reason before after) (nonneg : 0 ≤ amount)
    (balanced : before.Balanced opening) (booked : before.Booked) (spendable : before.Spendable) :
    after.Balanced opening := by
  have outside := outside_append booked deducted.ledger opening
  have row : sumOf (fun row => row.nonPack after.ledger + row.legacyRefund after.ledger)
      [deductionEntry session amount left reason] = -left := by
    have := deducted.leftNonneg
    have := deducted.leftLe
    by_cases positive : 0 < amount
    · simp [CreditLedger.nonPack, CreditLedger.legacyRefund, CreditLedger.unallocated,
        deductionEntry, positive]
    · simp only [CreditLedger.nonPack, CreditLedger.legacyRefund, deductionEntry, positive,
        if_false, if_true, sumOf_cons, sumOf_nil]
      omega
  rw [row] at outside
  have remaining : after.totalRemaining = before.totalRemaining + (left - amount) :=
    deducted.drained.remaining
  have balance := deducted.creditBalance
  have whole := balanced.balance
  have rest := balanced.nonneg
  refine ⟨by omega, ?_⟩
  by_cases some : 0 < left
  · have emptied := deducted.emptied some spendable
    have funded := deducted.funded
    omega
  · have := deducted.leftNonneg
    omega

theorem sumOf_refundEntry {ledger : List CreditLedger} {ledgerEntryId : Nat} {amount : Int}
    {original : CreditLedger} (found : ledger[ledgerEntryId]? = some original) :
    sumOf (fun row => row.nonPack ledger + row.legacyRefund ledger)
        [refundEntry session ledgerEntryId amount] =
      original.metadata.elim amount (·.unallocatedCredits) := by
  cases recorded : original.metadata <;>
    simp [CreditLedger.nonPack, CreditLedger.legacyRefund, CreditLedger.unallocated, refundEntry,
      found, recorded]

theorem Account.Balanced.refund {fuel ledgerEntryId : Nat} {userId : Option Nat} {amount : Int}
    (balanced : before.Balanced opening) (sound : before.Sound)
    (ran : refund session fuel ledgerEntryId userId before = .ok (after, amount)) :
    after.Balanced opening := by
  rcases refund_cases sound.rows sound.toBooked ran with
    rfl | ⟨original, found, -, -, ⟨unrecorded, legacy⟩ | ⟨record, usable, recorded, refunded⟩⟩
  · exact balanced
  · -- the whole amount comes back outside packs
    have outside := @outside_append before after sound.toBooked _
      (by rw [legacy.result]; rfl) opening
    rw [@sumOf_refundEntry session _ ledgerEntryId _ original, unrecorded] at outside
    · have whole := balanced.balance
      have rest := balanced.nonneg
      have nonneg := abs_nonneg original.amount
      have balance : after.creditBalance = before.creditBalance + |original.amount| := by
        rw [legacy.result]
        rfl
      have remaining : after.totalRemaining = before.totalRemaining := by
        rw [legacy.result]
        rfl
      simp only [Option.elim_none] at outside
      exact ⟨by omega, by omega⟩
    · rw [legacy.result]
      change (before.ledger ++ _)[ledgerEntryId]? = _
      rw [List.getElem?_append_left (List.getElem?_eq_some_iff.mp found).1, found]
  · -- the allocated part comes back in packs, the rest outside them
    have swept := balanced.sweep sound session
    have outside := outside_append (sound.toBooked.expireUserPacks _) refunded.ledger opening
    rw [@sumOf_refundEntry session _ ledgerEntryId _ original, recorded] at outside
    · have whole := swept.balance
      have rest := swept.nonneg
      have balance := refunded.creditBalance
      have remaining : after.totalRemaining =
          (before.expireUserPacks (session.clock 0)).totalRemaining + usable :=
        refunded.restored.remaining
      have history := sound.history ledgerEntryId original found record recorded
      simp only [Option.elim_some] at outside
      exact ⟨by omega, by omega⟩
    · rw [refunded.ledger, ledger_expireUserPacks,
        List.getElem?_append_left (List.getElem?_eq_some_iff.mp found).1, found]

theorem Operation.perform_balanced {operation : Operation} (sound : before.Sound)
    (spendable : before.Spendable) (balanced : before.Balanced opening)
    (admissible : operation.Admissible) (ran : operation.perform session before = .ok after) :
    after.Balanced opening := by
  have swept := balanced.sweep sound session
  have sweptBooked := sound.toBooked.expireUserPacks (session.clock 0)
  cases operation with
  | getBalance =>
      obtain ⟨rfl, -⟩ := getBalance_swept ran
      exact swept
  | credit amount reason =>
      obtain ⟨rfl, -⟩ := credit_credited ran
      exact balanced.credit sound.toBooked admissible reason
  | grant terms ledgerReason =>
      rcases grant_granted sound.rows ran with rfl | ⟨left, settled, granted⟩
      · exact balanced
      · exact granted.balanced admissible.quiet balanced sound.toBooked
  | deduct amount reason =>
      obtain ⟨left, deducted⟩ := deduct_deducted sound.rows admissible ran
      exact deducted.balanced admissible swept sweptBooked (spendable.expireUserPacks _)
  | refund ledgerEntryId userId =>
      obtain ⟨⟨result, amount⟩, refunded, returned⟩ := bind_eq_ok ran
      cases returned
      exact balanced.refund sound refunded
  | applyRefundReversal packId amountCents fullOrFraud reasonLabel =>
      obtain ⟨⟨tx, outcome⟩, reversed, returned⟩ := bind_eq_ok ran
      cases returned
      obtain ⟨-, transferred, -⟩ := applyRefundReversal_transferred sound.toSourced
        sound.toConstraints.priced (by simp) reversed
      exact swept.transfer sweptBooked transferred
  | settlePack packId disputes refundedCents =>
      obtain ⟨⟨result, outcome⟩, settled, returned⟩ := bind_eq_ok ran
      cases returned
      obtain ⟨-, gain, transferred⟩ := settlePack_transferred sound settled
      exact swept.transfer sweptBooked transferred

theorem Step.balanced {step : Step} (sound : before.Sound) (spendable : before.Spendable)
    (balanced : before.Balanced opening) (admissible : step.operation.Admissible) :
    (step.after before).Balanced opening := by
  simp only [Step.after, Operation.step]
  cases ran : step.operation.perform step.session before with
  | ok after => exact Operation.perform_balanced sound spendable balanced admissible ran
  | error error => exact balanced

end Steps

theorem Account.SteadyRun.balanced {opening : Int} {account : Account} {steps : List Step}
    (steady : account.SteadyRun steps) (sound : account.Sound) (spendable : account.Spendable)
    (balanced : account.Balanced opening) (admissible : Admissible steps) :
    (account.run steps).Balanced opening := by
  induction steps generalizing account with
  | nil => exact balanced
  | cons step steps ih =>
      have here := admissible step List.mem_cons_self
      exact ih steady.2 (Step.sound sound here).1 (Step.spendable sound spendable here steady.1)
        (Step.balanced sound spendable balanced here)
        fun later member => admissible later (List.mem_cons_of_mem _ member)

section Net

variable {account : Account}

theorem Account.Sourced.beyond (sourced : account.Sourced) {id : Nat}
    (beyond : account.packs.length ≤ id) :
    account.owedTo id = 0 ∧ account.recoveringFor id = 0 ∧ account.recoveredFrom id = 0 := by
  have blank := pack_beyond account beyond
  have clean : (account.pack id).excess = 0 := by
    rw [blank]
    rfl
  obtain ⟨owed, recovering⟩ := clear_of_clean sourced.rows (sourced.excess id) clean
  have recovered := sourced.recovered id
  rw [Account.recoveredDrift, blank] at recovered
  exact ⟨owed, recovering, by simpa [default] using recovered⟩

theorem sumOf_owedTo (sourced : account.Sourced) :
    sumOf account.owedTo (List.range account.packs.length) = account.totalOutstanding := by
  have grouped := @sumOf_group _ (fun debt : BillingCreditDebt => some debt.sourcePackId)
    (·.outstanding) account.debts account.packs.length
    (fun debt member => by
      obtain ⟨id, -, rfl⟩ := mem_debts.mp member
      have := sourced.rows.debts id
      simp only [BillingCreditDebt.outstanding]
      omega)
    (fun id beyond => by simpa [Account.owedTo, BillingCreditDebt.owedTo] using
      (sourced.beyond beyond).1)
  simp only [Option.some.injEq, reduceCtorEq, if_false] at grouped
  exact grouped

theorem allocations_nonneg (sound : account.RowsSound) :
    ∀ allocation ∈ account.allocations, 0 ≤ allocation.unreturned := by
  intro allocation member
  obtain ⟨id, -, rfl⟩ := mem_allocations.mp member
  exact unreturned_nonneg sound id

theorem sumOf_recoveringFor (sourced : account.Sourced) :
    sumOf account.recoveringFor (List.range account.packs.length) =
      sumOf account.recoveredFrom (List.range account.packs.length) := by
  have bySource := @sumOf_group _ CreditPackAllocation.recoveryForPackId (·.unreturned)
    account.allocations account.packs.length (allocations_nonneg sourced.rows) fun id beyond => (sourced.beyond beyond).2.1
  have payer : ∀ (allocation : CreditPackAllocation) (id : Nat),
      (if allocation.recoveryForPackId.map (fun _ => allocation.packId) = some id then
        allocation.unreturned else 0) = allocation.recoveredFrom id := by
    intro allocation id
    cases recovers : allocation.recoveryForPackId <;>
      simp [CreditPackAllocation.recoveredFrom, recovers]
  have byPayer := @sumOf_group _ (fun allocation : CreditPackAllocation =>
      allocation.recoveryForPackId.map fun _ => allocation.packId) (·.unreturned)
    account.allocations account.packs.length (allocations_nonneg sourced.rows)
    (fun id beyond => by
      simp only [payer]
      exact (sourced.beyond beyond).2.2)
  simp only [payer] at byPayer
  refine bySource.trans (Eq.trans ?_ byPayer.symm)
  simp [Option.map_eq_none_iff]

theorem totalRemaining_sub_totalOutstanding (sourced : account.Sourced) :
    account.totalRemaining - account.totalOutstanding =
      sumOf (fun pack => pack.creditsPurchased - pack.creditsConsumed - pack.creditsExpired -
        pack.creditsRevoked) account.packs := by
  have perPack : ∀ id, (account.pack id).creditsRemaining + account.recoveredFrom id =
      ((account.pack id).creditsPurchased - (account.pack id).creditsConsumed -
        (account.pack id).creditsExpired - (account.pack id).creditsRevoked) +
      (account.owedTo id + account.recoveringFor id) := by
    intro id
    have excess := sourced.excess id
    have recovered := sourced.recovered id
    simp only [Account.excessDrift, Account.recoveredDrift, BillingCreditPack.excess,
      BillingCreditPack.gap, BillingCreditPack.accounted] at excess recovered
    omega
  have total := @sumOf_congr _ _ _ (List.range account.packs.length) fun id _ => perPack id
  rw [sumOf_add, sumOf_add, sumOf_add, sumOf_owedTo sourced, sumOf_recoveringFor sourced] at total
  have remaining := sumOf_range (·.creditsRemaining) account.packs default
  have used := sumOf_range (fun pack : BillingCreditPack => pack.creditsPurchased -
    pack.creditsConsumed - pack.creditsExpired - pack.creditsRevoked) account.packs default
  simp only [Account.totalRemaining]
  simp only [Account.pack] at total
  omega

end Net

def Step.OneReading (step : Step) : Prop :=
  ∀ reading, step.session.clock reading = step.session.clock 0

theorem SteadyRun.ofOneReading {account : Account} {steps : List Step}
    (oneReading : ∀ step ∈ steps, step.OneReading) : account.SteadyRun steps := by
  induction steps generalizing account with
  | nil => trivial
  | cons step steps ih =>
      refine ⟨fun _ id _ reading => ?_, ih fun later member =>
        oneReading later (List.mem_cons_of_mem _ member)⟩
      rw [oneReading step List.mem_cons_self]

theorem balanced_opened (userId : Nat) {opening : Int} (nonneg : 0 ≤ opening) :
    (Account.opened userId opening).Balanced opening where
  balance := by
    change opening = opening + 0 + 0 + 0
    omega
  nonneg := by
    change 0 ≤ opening + 0 + 0
    omega

theorem Account.Balanced.unfloored {opening : Int} {account : Account} {session : Session}
    {packId reads : Nat} {amountCents : Int} {fullOrFraud : Bool} {reasonLabel : String}
    {ledgerReason : Option LedgerReason} {after : Tx} {outcome : RefundOutcome}
    (balanced : account.Balanced opening) (sourced : account.Sourced) (booked : account.Booked)
    (priced : account.Priced) (quiet : ∀ reason ∈ ledgerReason, reason.Quiet)
    (ran : applyRefundReversal session packId amountCents fullOrFraud reasonLabel ledgerReason
      { account, reads } = .ok (after, outcome)) :
    after.account.creditBalance =
      (account.expireUserPacks (session.clock reads)).creditBalance - outcome.immediateRevoke := by
  obtain ⟨-, transferred, -⟩ := applyRefundReversal_transferred sourced priced quiet ran
  have swept := balanced.transfer booked (@Transferred.expireUserPacks session account sourced reads)
  exact transferred.creditBalance swept.covered

/-- The balance is what packs hold plus the credits outside them, which never go negative, so no
floor on the balance is reached; with the outstanding debt taken off, it is the credits bought and
not yet used up plus those outside packs. -/
theorem balance_conservation (userId : Nat) (opening : Int) (nonneg : 0 ≤ opening)
    (steps : List Step) (admissible : Admissible steps)
    (oneReading : ∀ step ∈ steps, step.OneReading) :
    let account := (Account.opened userId opening).run steps
    let outside := opening + account.nonPackCredits + account.legacyRefunds
    account.creditBalance = outside + account.totalRemaining ∧ 0 ≤ outside ∧
    (∀ start : Account, (start = account ∨ ∃ now, start = account.expireUserPacks now) →
      (∀ now, (start.expireUserPacks now).creditBalance =
        start.creditBalance - start.totalExpired now) ∧
      ∀ session packId amountCents fullOrFraud reasonLabel ledgerReason reads after outcome,
        (∀ reason ∈ ledgerReason, reason.Quiet) →
        applyRefundReversal session packId amountCents fullOrFraud reasonLabel ledgerReason
          { account := start, reads } = .ok (after, outcome) →
        after.account.creditBalance =
          (start.expireUserPacks (session.clock reads)).creditBalance - outcome.immediateRevoke) ∧
    account.creditBalance - account.totalOutstanding = outside +
      sumOf (fun pack => pack.creditsPurchased - pack.creditsConsumed - pack.creditsExpired -
        pack.creditsRevoked) account.packs := by
  intro account outside
  have sound : account.Sound := .reached userId opening admissible
  have balanced : account.Balanced opening := (SteadyRun.ofOneReading oneReading).balanced
    (.opened userId opening) (spendable_opened userId opening) (balanced_opened userId nonneg)
    admissible
  refine ⟨balanced.balance, balanced.nonneg, fun start origin => ?_, ?_⟩
  · obtain ⟨startBalanced, sourced, booked, priced⟩ : start.Balanced opening ∧ start.Sourced ∧
        start.Booked ∧ start.Priced := by
      rcases origin with rfl | ⟨now, rfl⟩
      · exact ⟨balanced, sound.toSourced, sound.toBooked, sound.toConstraints.priced⟩
      · exact ⟨balanced.sweep sound (.at now), sound.toSourced.expireUserPacks now,
          sound.toBooked.expireUserPacks now, sound.toConstraints.priced.expireUserPacks now⟩
    refine ⟨fun now => creditBalance_expireUserPacks now start
      ((totalExpired_le now sourced.rows).trans startBalanced.covered), ?_⟩
    intro session packId amountCents fullOrFraud reasonLabel ledgerReason reads after outcome quiet
      ran
    exact startBalanced.unfloored sourced booked priced quiet ran
  · have balance := balanced.balance
    have net := totalRemaining_sub_totalOutstanding sound.toSourced
    change account.creditBalance = outside + account.totalRemaining at balance
    omega

theorem balance_conservation_refundedPurchase :
    let account := (Account.opened 0 5).run refundedPurchase
    account.creditBalance =
      5 + account.nonPackCredits + account.legacyRefunds + account.totalRemaining :=
  (balance_conservation 0 5 (by decide) refundedPurchase (by decide) (by
    intro step member reading
    simp only [refundedPurchase, List.mem_cons, List.not_mem_nil, or_false] at member
    rcases member with rfl | rfl | rfl <;> rfl)).1

theorem legacyRefund_adds_credits :
    let steps : List Step := [
      ⟨.at 0, .grant (lemonTerms "order" 10 5 100) (.billingPurchase .lemonsqueezy "order")⟩,
      ⟨.at 1, .applyRefundReversal 0 10 true "refund"⟩,
      ⟨.at 2, .refund 1 none⟩]
    let account := (Account.opened 0 0).run steps
    Admissible steps ∧ account.nonPackCredits = 0 ∧ account.totalRemaining = 0 ∧
      account.creditBalance = 10 := by
  decide

end Thought2Build.Billing
