import Thought2Build.Billing.Runs

/-!
What an operation writes, row by row. Every operation is a sequence of the edits below, so a fact
about rows that each edit keeps holds in every reached account.
-/

namespace Thought2Build.Billing

open Rows Account

inductive Edit : Account → Account → Prop
  | packs {before : Account} {rows : List BillingCreditPack}
      (kept : before.packs.length ≤ rows.length) : Edit before { before with packs := rows }
  | balance {before : Account} (amount : Int) : Edit before { before with creditBalance := amount }
  | allocations {before : Account} (rows : List CreditPackAllocation) :
      Edit before { before with allocations := rows }
  | recover {before : Account} (id : Nat) {take : Int} (positive : 0 < take) :
      Edit before (before.setDebt id ((before.debt id).recover take))
  | cancel {before : Account} (sourceId : Nat) {amount : Int} (nonneg : 0 ≤ amount) :
      Edit before (cancelDebt sourceId amount before).1
  | extend {before : Account} (session : Session) (sourceId : Nat) {amount : Int}
      (positive : 0 < amount) (reasonLabel : String) :
      Edit before (upsertRefundDebt session sourceId amount reasonLabel before)
  | write {before : Account} {entry : CreditLedger}
      (names : ∀ debtId packId, entry.reason = .debtRecovery debtId packId →
        packId < before.packs.length) : Edit before (before.addLedger entry)
  | amend {before : Account} (id : Nat) {change : CreditLedger → CreditLedger}
      (same : ∀ entry, (change entry).reason = entry.reason) :
      Edit before { before with ledger := before.ledger.modify id change }

def Edits : Account → Account → Prop := Relation.ReflTransGen Edit

namespace Edits

variable {first second third : Account}

theorem refl (account : Account) : Edits account account := Relation.ReflTransGen.refl

theorem trans (left : Edits first second) (right : Edits second third) : Edits first third :=
  Relation.ReflTransGen.trans left right

theorem single (edit : Edit first second) : Edits first second := Relation.ReflTransGen.single edit

theorem keep {motive : Account → Prop}
    (step : ∀ before after, Edit before after → motive before → motive after)
    (edits : Edits first second) (initial : motive first) : motive second := by
  induction edits with
  | refl => exact initial
  | tail _ edit ih => exact step _ _ edit ih

theorem setPack (account : Account) (id : Nat) (pack : BillingCreditPack) :
    Edits account (account.setPack id pack) :=
  single (.packs (@packs_length_setPack account id pack).ge)

theorem setAllocation (account : Account) (id : Nat) (allocation : CreditPackAllocation) :
    Edits account (account.setAllocation id allocation) :=
  single (.allocations _)

theorem addAllocation (account : Account) (allocation : CreditPackAllocation) :
    Edits account (account.addAllocation allocation) :=
  single (.allocations _)

theorem addBalance (account : Account) (amount : Int) : Edits account (account.addBalance amount) :=
  single (.balance _)

theorem addLedger (account : Account) {entry : CreditLedger}
    (other : ∀ debtId packId, entry.reason ≠ .debtRecovery debtId packId) :
    Edits account (account.addLedger entry) :=
  single (.write fun debtId packId same => absurd same (other debtId packId))

theorem expireUserPacks (account : Account) (now : Int) :
    Edits account (account.expireUserPacks now) := by
  rw [Account.expireUserPacks]
  split
  · exact (single (.packs (List.length_map _).ge)).trans (single (.balance _))
  · exact refl account

end Edits

section Operations

variable {session : Session} {account after : Account} {tx result : Tx}

theorem drainFrom_edits (ledgerEntryId : Nat) (ids : List Nat) (remaining : Int)
    (account : Account) : Edits account (drainFrom ledgerEntryId ids remaining account).1 := by
  induction ids generalizing remaining account with
  | nil => exact .refl account
  | cons id ids ih =>
      rw [drainFrom]
      split
      · exact .refl account
      · simp only
        refine Edits.trans ?_ (ih _ _)
        split
        · exact (Edits.setPack account id _).trans (.addAllocation _ _)
        · exact .setPack account id _

theorem drainPacks_edits (session : Session) (amount : Int) (ledgerEntryId : Nat)
    (account : Account) : Edits account (drainPacks session amount ledgerEntryId account) := by
  rw [drainPacks]
  split
  · exact .refl account
  · exact (drainFrom_edits _ _ _ _).trans (.single (.amend _ fun _ => rfl))

theorem deduct_edits {amount : Int} {reason : String}
    (ran : deduct session amount reason account = .ok after) : Edits account after := by
  simp only [deduct] at ran
  split at ran
  · cases ran
  · obtain ⟨rfl, -⟩ := Account.Constraints.flush ran
    refine Edits.trans ?_ (drainPacks_edits session amount _ _)
    exact (Edits.expireUserPacks account _).trans
      ((Edits.addBalance _ (-amount)).trans (.addLedger _ (by simp)))

theorem settleDebts_edits (session : Session) {packId : Nat} (ids : List Nat) (grantLeft : Int)
    (account : Account) (bound : packId < account.packs.length) :
    Edits account (settleDebts session packId ids grantLeft account).1 := by
  induction ids generalizing grantLeft account with
  | nil => exact .refl account
  | cons id ids ih =>
      rw [settleDebts]
      split
      · exact .refl account
      · simp only
        split
        · exact ih _ account bound
        · rename_i some
          have supplied := Edits.setPack account packId ((account.pack packId).supply
            (min grantLeft (account.debt id).outstanding) (account.pack packId).status)
          have present : packId < (account.setPack packId ((account.pack packId).supply
              (min grantLeft (account.debt id).outstanding)
              (account.pack packId).status)).packs.length := by
            rwa [packs_length_setPack]
          refine (supplied.trans ((Edits.single (.recover id (Int.not_le.mp some))).trans
            ((Edits.single (.write ?_)).trans (.addAllocation _ _)))).trans (ih _ _ ?_)
          · intro debtId other same
            obtain ⟨-, rfl⟩ := LedgerReason.debtRecovery.inj same
            exact present
          · exact present

theorem grantCredits_edits {packId : Nat} {granted : Int} {ledgerReason : LedgerReason}
    (bound : packId < account.packs.length)
    (purchase : ∀ debtId packId, ledgerReason ≠ .debtRecovery debtId packId)
    (ran : grantCreditsWithDebtRecovery session packId granted ledgerReason account = some after) :
    Edits account after := by
  obtain ⟨rfl, -⟩ := Account.Constraints.flush (Except.toOption_eq_some ran)
  exact (settleDebts_edits session _ _ account bound).trans
    ((Edits.addBalance _ _).trans (Edits.addLedger _ purchase))

theorem grant_edits {terms : PackTerms} {ledgerReason : LedgerReason}
    (purchase : ∀ debtId packId, ledgerReason ≠ .debtRecovery debtId packId)
    (ran : grant session terms ledgerReason account = .ok after) : Edits account after := by
  simp only [grant] at ran
  obtain ⟨inserted, flushed, ran⟩ := bind_eq_ok ran
  obtain ⟨rfl, -⟩ := Account.Constraints.flush flushed
  split at ran
  · rename_i result granted
    obtain rfl := Except.ok.inj ran
    have longer := packs_length_addPack account terms.pack
    exact (Edits.single (.packs longer.le)).trans (grantCredits_edits longer purchase granted)
  · obtain rfl := Except.ok.inj ran
    exact .refl _

theorem drainDonors_edits (sourceId : Nat) (ids : List Nat) (need : Int) (account : Account) :
    Edits account (drainDonors sourceId ids need account).1 := by
  induction ids generalizing need account with
  | nil => exact .refl account
  | cons id ids ih =>
      rw [drainDonors]
      split
      · exact .refl account
      simp only
      split
      · exact ih _ _
      split
      · exact ih _ _
      · exact (Edits.setPack account id _).trans (ih _ _)

theorem revokeCredits_edits (session : Session) (sourceId : Nat) (revoke level seen : Int)
    (reasonLabel : String) {ledgerReason : LedgerReason} (account : Account)
    (other : ∀ debtId packId, ledgerReason ≠ .debtRecovery debtId packId) :
    Edits account
      (revokeCredits session sourceId revoke level seen reasonLabel ledgerReason account).1 := by
  unfold revokeCredits
  extract_lets source take locked taken
  have drained := (Edits.setPack account sourceId { source with
    creditsRemaining := source.creditsRemaining - take }).trans
      (drainDonors_edits sourceId locked (revoke - take) taken)
  generalize drainDonors sourceId locked (revoke - take) taken = result at drained ⊢
  obtain ⟨supplied, debtCreated, donors⟩ := result
  dsimp -zeta only at drained ⊢
  extract_lets immediateRevoke owing source' processed returned balanced ledgerEntryId noted allocated
  have owed : Edits supplied owing := by
    unfold owing
    split
    · rename_i positive
      exact .single (.extend session sourceId positive reasonLabel)
    · exact .refl _
  have stored : Edits owing balanced := (Edits.setPack owing sourceId _).trans (.single (.balance _))
  have logged : Edits balanced noted := .addLedger balanced other
  exact ((drained.trans owed).trans (stored.trans logged)).trans (.single (.allocations _))

theorem reverseRefund_edits (session : Session) (sourceId : Nat) (amountCents : Int)
    (fullOrFraud : Bool) (reasonLabel : String) {ledgerReason : Option LedgerReason}
    (account : Account) (quiet : ∀ reason ∈ ledgerReason, ∀ debtId packId,
      reason ≠ .debtRecovery debtId packId) :
    Edits account (reverseRefund session sourceId amountCents fullOrFraud reasonLabel ledgerReason
      account).1 := by
  simp only [reverseRefund]
  split
  · exact .setPack account sourceId _
  · split
    · exact .setPack account sourceId _
    · refine revokeCredits_edits session sourceId _ _ _ reasonLabel account ?_
      cases ledgerReason with
      | none => simp
      | some reason => exact quiet reason rfl

theorem applyRefundReversal_edits {sourceId : Nat} {amountCents : Int} {fullOrFraud : Bool}
    {reasonLabel : String} {ledgerReason : Option LedgerReason} {outcome : RefundOutcome}
    (quiet : ∀ reason ∈ ledgerReason, ∀ debtId packId, reason ≠ .debtRecovery debtId packId)
    (ran : applyRefundReversal session sourceId amountCents fullOrFraud reasonLabel ledgerReason tx =
      .ok (result, outcome)) : Edits tx.account result.account := by
  simp only [applyRefundReversal] at ran
  split at ran
  · cases ran
  · obtain ⟨kept, flushed, returned⟩ := bind_eq_ok ran
    obtain ⟨rfl, -⟩ := Account.Constraints.flush flushed
    cases returned
    exact (Edits.expireUserPacks _ _).trans
      (reverseRefund_edits session sourceId amountCents fullOrFraud reasonLabel _ quiet)

section Restore

variable {restore : Nat → Int → Counter → Tx → Except CreditError (Tx × Int)}

theorem returnRecoveries_edits
    (spec : ∀ {packId amount counter before after usable},
      restore packId amount counter before = .ok (after, usable) →
      Edits before.account after.account)
    {ids : List Nat} {amount left usable : Int}
    (ran : returnRecoveries restore ids amount tx = .ok (result, left, usable)) :
    Edits tx.account result.account := by
  induction ids generalizing amount tx usable with
  | nil =>
      cases ran
      exact .refl _
  | cons id ids ih =>
      simp only [returnRecoveries] at ran
      split at ran
      · cases ran
        exact .refl _
      · obtain ⟨⟨middle, restored⟩, first, ran⟩ := bind_eq_ok ran
        obtain ⟨⟨last, rest, more⟩, later, returned⟩ := bind_eq_ok ran
        cases returned
        exact ((Edits.setAllocation _ _ _).trans (spec first)).trans (ih later)

theorem returnReversalRecovery_edits
    (spec : ∀ {packId amount counter before after usable},
      restore packId amount counter before = .ok (after, usable) →
      Edits before.account after.account)
    {sourceId : Nat} {amount usable : Int} (nonneg : 0 ≤ amount)
    (ran : returnReversalRecovery restore session sourceId amount tx = .ok (result, usable)) :
    Edits tx.account result.account := by
  simp only [returnReversalRecovery] at ran
  obtain ⟨⟨last, left, returned⟩, recovered, ran⟩ := bind_eq_ok ran
  split at ran
  · cases ran
  · cases ran
    exact (Edits.single (.cancel sourceId nonneg)).trans (returnRecoveries_edits spec recovered)

theorem restorePackValue_edits (session : Session) (fuel : Nat)
    {packId : Nat} {amount usable : Int} {counter : Counter} {before after : Tx}
    (ran : restorePackValue session fuel packId amount counter before = .ok (after, usable)) :
    Edits before.account after.account := by
  induction fuel generalizing packId amount usable counter before after with
  | zero => cases ran
  | succ fuel ih =>
      by_cases positive : 0 < amount
      · rw [restorePackValue_eq session fuel packId counter before positive] at ran
        split_ifs at ran with missing uncovered nothingAbsorbed
        · cases ran
          exact .setPack _ _ _
        · obtain ⟨⟨last, returned⟩, recovered, ran⟩ := bind_eq_ok ran
          cases ran
          exact (Edits.setPack _ _ _).trans (returnReversalRecovery_edits ih
            (BillingCreditPack.absorbed_nonneg positive.le) recovered)
      · simp only [restorePackValue, Int.not_lt.mp positive, if_true] at ran
        cases ran
        exact .refl _

end Restore

theorem restoreAllocations_edits {fuel : Nat} {ids : List Nat} {usable : Int}
    (ran : restoreAllocations session fuel ids tx = .ok (result, usable)) :
    Edits tx.account result.account := by
  induction ids generalizing tx usable with
  | nil =>
      cases ran
      exact .refl _
  | cons id ids ih =>
      simp only [restoreAllocations] at ran
      obtain ⟨⟨middle, restored⟩, first, ran⟩ := bind_eq_ok ran
      obtain ⟨⟨last, rest⟩, later, returned⟩ := bind_eq_ok ran
      cases returned
      exact ((Edits.setAllocation _ _ _).trans (restorePackValue_edits session fuel first)).trans
        (ih later)

theorem refundSavepoint_edits {fuel ledgerEntryId : Nat} {original : CreditLedger} {amount : Int}
    (ran : refundSavepoint session fuel ledgerEntryId original account = .ok (after, amount)) :
    Edits account after := by
  have filed : Edits account (account.addLedger {
      amount := |original.amount|, reason := .refund ledgerEntryId, metadata := none
      createdAt := session.clock 0 }) := .addLedger _ (by simp)
  have legacy : ∀ {account after : Account} {amount : Int},
      refundSavepoint.legacy original account = .ok (after, amount) → Edits account after := by
    intro account after amount ran
    simp only [refundSavepoint.legacy] at ran
    split at ran
    · cases ran
    · rcases flush_cases account with kept | refused
      · rw [kept] at ran
        cases ran
        exact .refl _
      · rw [refused] at ran
        cases ran
  simp only [refundSavepoint] at ran
  split at ran
  · split at ran
    · obtain ⟨⟨last, restored⟩, deduction, ran⟩ := bind_eq_ok ran
      obtain ⟨kept, flushed, returned⟩ := bind_eq_ok ran
      obtain ⟨rfl, -⟩ := Account.Constraints.flush flushed
      cases returned
      simp only [restoreDeduction] at deduction
      split at deduction
      · cases deduction
      · obtain ⟨⟨inner, usable⟩, restores, returned⟩ := bind_eq_ok deduction
        cases returned
        exact ((filed.trans (.expireUserPacks _ _)).trans (restoreAllocations_edits restores)).trans
          (.single (.amend _ fun _ => rfl))
    · exact filed.trans (legacy ran)
  · exact filed.trans (legacy ran)

theorem refund_edits {fuel ledgerEntryId : Nat} {userId : Option Nat} {amount : Int}
    (ran : refund session fuel ledgerEntryId userId account = .ok (after, amount)) :
    Edits account after := by
  simp only [refund] at ran
  split at ran
  · cases ran
    exact .refl _
  · rename_i original found
    split_ifs at ran
    · cases ran
      exact .refl _
    · cases ran
      exact .refl _
    · cases ran
      exact .refl _
    · split at ran
      · rename_i saved
        cases ran
        exact (refundSavepoint_edits saved).trans (.addBalance _ _)
      · cases ran
        exact .refl _
      · cases ran

theorem releaseReversal_edits {fuel sourceId : Nat} {target : Int}
    (ran : releaseReversal session fuel sourceId target tx = .ok result) :
    Edits tx.account result.account := by
  simp only [releaseReversal] at ran
  split at ran
  · cases ran
    exact .refl _
  · obtain ⟨⟨middle, usable⟩, elsewhere, ran⟩ := bind_eq_ok ran
    obtain ⟨kept, flushed, returned⟩ := bind_eq_ok ran
    obtain ⟨rfl, -⟩ := Account.Constraints.flush flushed
    cases returned
    have returned : Edits tx.account middle.account := by
      simp only [returnElsewhere] at elsewhere
      split at elsewhere
      · refine returnReversalRecovery_edits (restorePackValue_edits session fuel) ?_ elsewhere
        simp only [BillingCreditPack.collectedElsewhere]
        omega
      · cases elsewhere
        exact .refl _
    exact returned.trans ((Edits.setPack _ _ _).trans ((Edits.addBalance _ _).trans
      (Edits.addLedger _ (by simp))))

theorem moveReversal_edits {disputed : Bool} {packId : Nat} {effective : Int}
    {outcome : SettlementOutcome}
    (ran : moveReversal session disputed packId effective tx = .ok (result, outcome)) :
    Edits tx.account result.account := by
  simp only [moveReversal] at ran
  split at ran
  · obtain ⟨⟨last, reversal⟩, reversed, returned⟩ := bind_eq_ok ran
    cases returned
    exact applyRefundReversal_edits (by simp) reversed
  · split at ran
    · obtain ⟨last, released, returned⟩ := bind_eq_ok ran
      cases returned
      exact (releaseReversal_edits released).trans (.setPack _ _ _)
    · cases ran
      exact .refl _

theorem settlePack_edits {disputes : List BillingDispute} {packId : Nat} {refundedCents : Int}
    {outcome : SettlementOutcome}
    (ran : settlePack session disputes packId refundedCents account = .ok (after, outcome)) :
    Edits account after := by
  simp only [settlePack] at ran
  split at ran
  · cases ran
  · obtain ⟨⟨last, moved⟩, reversal, ran⟩ := bind_eq_ok ran
    obtain ⟨kept, flushed, returned⟩ := bind_eq_ok ran
    obtain ⟨rfl, -⟩ := Account.Constraints.flush flushed
    cases returned
    exact ((Edits.expireUserPacks account _).trans (moveReversal_edits reversal)).trans
      (.setPack _ _ _)

theorem Operation.Admissible.purchase {terms : PackTerms} {ledgerReason : LedgerReason}
    (admissible : (Operation.grant terms ledgerReason).Admissible) (debtId packId : Nat) :
    ledgerReason ≠ .debtRecovery debtId packId := by
  rintro rfl
  exact admissible

theorem Operation.perform_edits {operation : Operation} (admissible : operation.Admissible)
    (ran : operation.perform session account = .ok after) : Edits account after := by
  cases operation with
  | getBalance =>
      obtain ⟨rfl, -⟩ := getBalance_swept ran
      exact .expireUserPacks account _
  | credit amount reason =>
      obtain ⟨rfl, -⟩ := credit_credited ran
      exact (Edits.addBalance account amount).trans (.addLedger _ (by simp [creditEntry]))
  | grant terms ledgerReason => exact grant_edits admissible.purchase ran
  | deduct amount reason => exact deduct_edits ran
  | refund ledgerEntryId userId =>
      obtain ⟨⟨result, amount⟩, refunded, returned⟩ := bind_eq_ok ran
      cases returned
      exact refund_edits refunded
  | applyRefundReversal packId amountCents fullOrFraud reasonLabel =>
      obtain ⟨⟨tx, outcome⟩, reversed, returned⟩ := bind_eq_ok ran
      cases returned
      exact applyRefundReversal_edits (by simp) reversed
  | settlePack packId disputes refundedCents =>
      obtain ⟨⟨result, outcome⟩, settled, returned⟩ := bind_eq_ok ran
      cases returned
      exact settlePack_edits settled

theorem Step.edits {step : Step} (admissible : step.operation.Admissible) (account : Account) :
    Edits account (step.after account) := by
  simp only [Step.after, Operation.step]
  cases ran : step.operation.perform step.session account with
  | ok after => exact Operation.perform_edits admissible ran
  | error error => exact .refl account

end Operations

theorem Account.run_edits {account : Account} {steps : List Step} (admissible : Admissible steps) :
    Edits account (account.run steps) :=
  run_invariant (motive := Edits account)
    (fun step member _ edits => edits.trans (Step.edits (admissible step member) _)) (.refl account)

end Thought2Build.Billing
