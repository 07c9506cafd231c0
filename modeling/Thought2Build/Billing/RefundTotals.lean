import Thought2Build.Billing.RefundIdentity

/-!
All refunds of one deduction together. A restore returns at most what it is asked to, the refund row
outlives every later operation, and so one call pays and the others return nothing.
-/

namespace Thought2Build.Billing

open Rows Account

section Usable

variable {session : Session} {sourceId fuel : Nat} {amount usable : Int} {before after : Tx}
  {restore : Nat → Int → Counter → Tx → Except CreditError (Tx × Int)}

def ReturnsWithin (restore : Nat → Int → Counter → Tx → Except CreditError (Tx × Int)) : Prop :=
  ∀ {packId amount counter before after usable}, before.account.RowsSound → 0 ≤ amount →
    restore packId amount counter before = .ok (after, usable) → 0 ≤ usable ∧ usable ≤ amount

theorem returnRecoveries_within (spec : Restores session restore)
    (within : ReturnsWithin restore) {ids : List Nat} {left : Int}
    (rows : before.account.RowsSound) (nonneg : 0 ≤ amount)
    (recoveries : ∀ id ∈ ids, id < before.account.allocations.length ∧
      (before.account.allocation id).recoveryForPackId = some sourceId)
    (ran : returnRecoveries restore ids amount before = .ok (after, left, usable)) :
    0 ≤ usable ∧ usable ≤ amount - left := by
  induction ids generalizing amount before usable with
  | nil =>
      cases ran
      omega
  | cons id ids ih =>
      obtain ⟨bound, recovers⟩ := recoveries id List.mem_cons_self
      simp only [returnRecoveries] at ran
      split at ran
      · cases ran
        omega
      · rename_i some
        obtain ⟨⟨middle, restored⟩, first, ran⟩ := bind_eq_ok ran
        obtain ⟨⟨last, left', rest⟩, later, ran⟩ := bind_eq_ok ran
        cases ran
        have here := restored_recovery spec bound recovers (by omega) (by omega) first
        have returned := (Restored.returnAllocation session bound (by omega) (min_le_right amount
          (before.account.allocation id).unreturned)).rows rows
        have own := within returned (by omega) first
        have others := ih (here.rows rows) (by omega) (fun other member => by
          rw [here.allocationsLength, here.allocationRecovery]
          exact recoveries other (List.mem_cons_of_mem _ member)) later
        dsimp only at others ⊢
        omega

theorem returnReversalRecovery_within (spec : Restores session restore)
    (within : ReturnsWithin restore) (rows : before.account.RowsSound) (nonneg : 0 ≤ amount)
    (ran : returnReversalRecovery restore session sourceId amount before = .ok (after, usable)) :
    0 ≤ usable ∧ usable ≤ amount := by
  have cancelled := (Restored.cancelDebt session before.account sourceId nonneg).rows rows
  have leftNonneg := cancelDebt_left_nonneg sourceId nonneg before.account
  have leftLe : (cancelDebt sourceId amount before.account).2 ≤ amount := by
    simp only [cancelDebt]
    split
    · have owed := (rows.debts (before.account.debtIdOf sourceId)).2
      simp only [BillingCreditDebt.outstanding]
      omega
    · exact le_rfl
  simp only [returnReversalRecovery] at ran
  obtain ⟨⟨last, left, returned⟩, recoveries, ran⟩ := bind_eq_ok ran
  split at ran
  · cases ran
  · rename_i paid
    cases ran
    have rest := returnRecoveries_within spec within cancelled leftNonneg (fun id member => by
      obtain ⟨bound, recovers, -⟩ := mem_recoveriesOf.mp member
      exact ⟨bound, recovers⟩) recoveries
    have none : left = 0 := Decidable.not_not.mp paid
    dsimp only
    omega

theorem restorePackValue_within (session : Session) (fuel : Nat) :
    ReturnsWithin (restorePackValue session fuel) := by
  induction fuel with
  | zero =>
      intro _ _ _ _ _ _ _ _ ran
      cases ran
  | succ fuel ih =>
      intro packId amount counter before after usable rows nonneg ran
      by_cases positive : 0 < amount
      · have absorbed := (before.account.pack packId).absorbed_nonneg nonneg
        have absorbedLe : (before.account.pack packId).absorbed amount ≤ amount := min_le_left _ _
        have own : 0 ≤ before.usable session packId amount ∧
            before.usable session packId amount ≤
              amount - (before.account.pack packId).absorbed amount := by
          simp only [Tx.usable]
          split <;> omega
        rw [restorePackValue_eq session fuel packId counter before positive] at ran
        split_ifs at ran with missing uncovered nothing
        · cases ran
          omega
        · obtain ⟨⟨last, returned⟩, recovered, ran⟩ := bind_eq_ok ran
          cases ran
          have restored := (@Restored.restoreOwn session before packId counter amount (by omega)
            positive (Int.not_lt.mp uncovered)).rows rows
          have others := returnReversalRecovery_within (restorePackValue_restores session fuel) ih
            restored absorbed recovered
          omega
      · simp only [restorePackValue, Int.not_lt.mp positive, if_true] at ran
        cases ran
        omega

theorem restoreAllocations_within {ids : List Nat} (rows : before.account.RowsSound)
    (consumptions : ∀ id ∈ ids, id < before.account.allocations.length ∧
      (before.account.allocation id).recoveryForPackId = none)
    (ran : restoreAllocations session fuel ids before = .ok (after, usable)) :
    0 ≤ usable ∧ usable ≤ sumOf (fun id => (before.account.allocation id).amount) ids := by
  induction ids generalizing before usable with
  | nil =>
      cases ran
      exact ⟨le_rfl, le_rfl⟩
  | cons id ids ih =>
      obtain ⟨bound, consumes⟩ := consumptions id List.mem_cons_self
      simp only [restoreAllocations] at ran
      obtain ⟨⟨middle, restored⟩, first, ran⟩ := bind_eq_ok ran
      obtain ⟨⟨last, rest⟩, later, ran⟩ := bind_eq_ok ran
      cases ran
      have nonneg := unreturned_nonneg rows id
      have here := restored_consumption rows bound consumes first
      have returned := (Restored.returnAllocation session bound nonneg le_rfl).rows rows
      have own := restorePackValue_within session fuel returned nonneg first
      have others := ih (here.rows rows) (fun other member => by
        rw [here.allocationsLength, here.allocationRecovery]
        exact consumptions other (List.mem_cons_of_mem _ member)) later
      have amounts : sumOf (fun id => (middle.account.allocation id).amount) ids =
          sumOf (fun id => (before.account.allocation id).amount) ids :=
        sumOf_congr fun other _ => here.allocationAmount other
      have unreturnedLe : (before.account.allocation id).unreturned ≤
          (before.account.allocation id).amount := by
        have := (rows.allocations id).1
        simp only [CreditPackAllocation.unreturned]
        omega
      rw [sumOf_cons]
      omega

theorem restoreDeduction_within {ledgerEntryId : Nat} {original : CreditLedger}
    {record : AllocationRecord} (rows : before.account.RowsSound)
    (unallocated : 0 ≤ record.unallocatedCredits)
    (ran : restoreDeduction session fuel ledgerEntryId original record before =
      .ok (after, usable)) : 0 ≤ usable ∧ usable ≤ |original.amount| := by
  simp only [restoreDeduction] at ran
  split at ran
  · cases ran
  · rename_i complete
    obtain ⟨⟨last, restored⟩, slices, ran⟩ := bind_eq_ok ran
    cases ran
    have within := restoreAllocations_within rows
      (fun id member => ⟨(mem_consumptionsOf.mp member).1, (mem_consumptionsOf.mp member).2.2⟩) slices
    simp only [sumOf] at within
    omega

end Usable

section Call

variable {session : Session} {ledgerEntryId fuel : Nat} {userId : Option Nat} {returned : Int}
  {before after account : Account}

def Account.RefundFiled (account : Account) (ledgerEntryId : Nat) : Prop :=
  ∃ entry ∈ account.ledger, entry.reason = .refund ledgerEntryId

theorem refund_filed (filed : account.RefundFiled ledgerEntryId) :
    refund session fuel ledgerEntryId userId account = .ok (account, 0) := by
  obtain ⟨entry, member, same⟩ := filed
  have any : account.ledger.any fun entry => entry.reason = .refund ledgerEntryId :=
    List.any_eq_true.mpr ⟨entry, member, decide_eq_true same⟩
  simp only [refund]
  split
  · rfl
  · split_ifs <;> rfl

theorem refund_pays {original : CreditLedger} {label : String} (sound : before.Sound)
    (found : before.ledger[ledgerEntryId]? = some original)
    (operation : original.reason = .operation label)
    (ran : refund session fuel ledgerEntryId userId before = .ok (after, returned)) :
    (after = before ∧ returned = 0) ∨ (after.RefundFiled ledgerEntryId ∧
      0 ≤ returned ∧ returned ≤ -original.amount ∧
      after.creditBalance = (before.expireUserPacks (session.clock 0)).creditBalance + returned) := by
  simp only [refund, found] at ran
  split_ifs at ran with deduction other filed
  · cases ran
    exact .inl ⟨rfl, rfl⟩
  · cases ran
    exact .inl ⟨rfl, rfl⟩
  · cases ran
    exact .inl ⟨rfl, rfl⟩
  · split at ran
    · rename_i saved amount savepoint
      cases ran
      have recorded : ∃ record, original.metadata = some record := by
        cases metadata : original.metadata with
        | some record => exact ⟨record, rfl⟩
        | none =>
            have nonneg := (sound.filed original (List.mem_of_getElem? found)).deductions label
              operation metadata
            exact absurd nonneg (by omega)
      obtain ⟨record, recorded⟩ := recorded
      obtain ⟨current, unallocated, -⟩ := sound.history ledgerEntryId original found record recorded
      have refunded := refundSavepoint_refunded sound.rows recorded current savepoint
      have within : 0 ≤ returned ∧ returned ≤ |original.amount| := by
        simp only [refundSavepoint, recorded, current, if_true] at savepoint
        rw [expireUserPacks_addLedger] at savepoint
        obtain ⟨⟨last, restored⟩, inner, savepoint⟩ := bind_eq_ok savepoint
        obtain ⟨kept, flushed, savepoint⟩ := bind_eq_ok savepoint
        cases savepoint
        exact restoreDeduction_within ((sound.rows.expireUserPacks _).book _ _) unallocated inner
      have creditBalance := refunded.creditBalance
      rw [abs_of_neg (by omega)] at within
      have filed : (saved.addBalance returned).RefundFiled ledgerEntryId := by
        refine ⟨refundEntry session ledgerEntryId (record.unallocatedCredits +
          (returned - record.unallocatedCredits)), ?_, rfl⟩
        rw [refunded.ledger]
        exact List.mem_append_right _ (List.mem_singleton_self _)
      exact .inr ⟨filed, within.1, within.2, by omega⟩
    · cases ran
      exact .inl ⟨rfl, rfl⟩
    · cases ran

end Call

section Histories

variable {session : Session} {before after account : Account}

theorem Operation.perform_ledger {operation : Operation} (sound : before.Sound)
    (admissible : operation.Admissible)
    (ran : operation.perform session before = .ok after) : before.ledger <+: after.ledger := by
  have swept := ledger_expireUserPacks (session.clock 0) before
  cases operation with
  | getBalance =>
      obtain ⟨rfl, -⟩ := getBalance_swept ran
      rw [swept]
  | credit amount reason =>
      obtain ⟨rfl, -⟩ := credit_credited ran
      exact List.prefix_append _ _
  | grant terms ledgerReason =>
      rcases grant_granted sound.rows ran with rfl | ⟨left, settled, granted⟩
      · exact List.prefix_rfl
      · obtain ⟨rows, ledger, -⟩ := (granted.posted admissible.quiet).ledger
        exact ⟨rows, ledger.symm⟩
  | deduct amount reason =>
      obtain ⟨left, deducted⟩ := deduct_deducted sound.rows admissible ran
      exact ⟨_, by rw [deducted.ledger, swept]⟩
  | refund ledgerEntryId userId =>
      obtain ⟨⟨result, amount⟩, refunded, returned⟩ := bind_eq_ok ran
      cases returned
      rcases refund_cases sound.rows sound.toBooked refunded with
        rfl | ⟨original, -, -, -, ⟨-, legacy⟩ | ⟨record, usable, -, paid⟩⟩
      · exact List.prefix_rfl
      · rw [legacy.result]
        exact List.prefix_append _ _
      · exact ⟨_, by rw [paid.ledger, swept]⟩
  | applyRefundReversal packId amountCents fullOrFraud reasonLabel =>
      obtain ⟨⟨tx, outcome⟩, reversed, returned⟩ := bind_eq_ok ran
      cases returned
      obtain ⟨-, transferred, -⟩ := applyRefundReversal_transferred sound.toSourced
        sound.toConstraints.priced (by simp) reversed
      obtain ⟨rows, ledger, -⟩ := transferred.ledger
      exact ⟨rows, by rw [ledger, swept]⟩
  | settlePack packId disputes refundedCents =>
      obtain ⟨⟨result, outcome⟩, settled, returned⟩ := bind_eq_ok ran
      cases returned
      obtain ⟨-, gain, transferred⟩ := settlePack_transferred sound settled
      obtain ⟨rows, ledger, -⟩ := transferred.ledger
      exact ⟨rows, by rw [ledger, swept]⟩

theorem Step.ledger_kept {step : Step} (sound : account.Sound)
    (admissible : step.operation.Admissible) : account.ledger <+: (step.after account).ledger := by
  simp only [Step.after, Operation.step]
  cases ran : step.operation.perform step.session account with
  | ok after => exact Operation.perform_ledger sound admissible ran
  | error error => exact List.prefix_rfl

theorem Account.Sound.ledger_kept {steps : List Step} (sound : account.Sound)
    (admissible : Admissible steps) : account.ledger <+: (account.run steps).ledger := by
  induction steps generalizing account with
  | nil => exact List.prefix_rfl
  | cons step steps ih =>
      have here := admissible step List.mem_cons_self
      exact (Step.ledger_kept sound here).trans (ih (Step.sound sound here).1
        fun later member => admissible later (List.mem_cons_of_mem _ member))

theorem getElem?_kept {α : Type} {first second : List α} {place : Nat} {row : α}
    (longer : first <+: second) (found : first[place]? = some row) :
    second[place]? = some row := by
  obtain ⟨rest, rfl⟩ := longer
  rw [List.getElem?_append_left (List.getElem?_eq_some_iff.mp found).1, found]

theorem Account.RefundFiled.kept {ledgerEntryId : Nat}
    (filed : before.RefundFiled ledgerEntryId) (longer : before.ledger <+: after.ledger) :
    after.RefundFiled ledgerEntryId :=
  have ⟨entry, member, same⟩ := filed
  ⟨entry, longer.subset member, same⟩

def refundCall (session : Session) (ledgerEntryId : Nat) (userId : Option Nat) : Step :=
  ⟨session, .refund ledgerEntryId userId⟩

def Step.refunded (ledgerEntryId : Nat) (step : Step) (account : Account) : Int :=
  match step.operation with
  | .refund other userId =>
      if other = ledgerEntryId then
        match Billing.refund step.session account.fuel other userId account with
        | .ok (_, amount) => amount
        | .error _ => 0
      else 0
  | _ => 0

def Account.refundedAlong (ledgerEntryId : Nat) (account : Account) : List Step → Int
  | [] => 0
  | step :: steps =>
      step.refunded ledgerEntryId account + (step.after account).refundedAlong ledgerEntryId steps

section Entry

variable {ledgerEntryId : Nat} {original : CreditLedger} {label : String} {userId : Option Nat}

theorem refunded_filed (filed : account.RefundFiled ledgerEntryId) (step : Step) :
    step.refunded ledgerEntryId account = 0 := by
  simp only [Step.refunded]
  split
  · split_ifs with here
    · rw [here, refund_filed filed]
    · rfl
  · rfl

theorem Step.refunded_cases (step : Step) (sound : account.Sound)
    (found : account.ledger[ledgerEntryId]? = some original)
    (operation : original.reason = .operation label) :
    step.refunded ledgerEntryId account = 0 ∨
      ((step.after account).RefundFiled ledgerEntryId ∧
        0 ≤ step.refunded ledgerEntryId account ∧
        step.refunded ledgerEntryId account ≤ -original.amount) := by
  obtain ⟨session, call⟩ := step
  cases call with
  | refund other userId =>
      by_cases here : other = ledgerEntryId
      · subst here
        cases ran : Billing.refund session account.fuel other userId account with
        | error error =>
            left
            simp only [Step.refunded, if_true, ran]
        | ok result =>
            obtain ⟨after, returned⟩ := result
            have amount : Step.refunded other ⟨session, .refund other userId⟩ account = returned := by
              simp only [Step.refunded, if_true, ran]
            have after_eq : Step.after ⟨session, .refund other userId⟩ account = after :=
              Operation.step_ok (bind_of_ok ran _)
            rw [amount, after_eq]
            rcases refund_pays sound found operation ran with ⟨-, none⟩ | ⟨filed, nonneg, le, -⟩
            · exact .inl none
            · exact .inr ⟨filed, nonneg, le⟩
      · left
        simp only [Step.refunded, if_neg here]
  | _ => exact .inl rfl

theorem refundedAlong_filed (filed : account.RefundFiled ledgerEntryId) {steps : List Step}
    (sound : account.Sound) (admissible : Admissible steps) :
    account.refundedAlong ledgerEntryId steps = 0 := by
  induction steps generalizing account with
  | nil => rfl
  | cons step steps ih =>
      have here := admissible step List.mem_cons_self
      rw [Account.refundedAlong, refunded_filed filed,
        ih (filed.kept (Step.ledger_kept sound here)) (Step.sound sound here).1
          fun later member => admissible later (List.mem_cons_of_mem _ member)]
      rfl

theorem refundedAlong_le {steps : List Step} (sound : account.Sound)
    (admissible : Admissible steps) (found : account.ledger[ledgerEntryId]? = some original)
    (operation : original.reason = .operation label) :
    0 ≤ account.refundedAlong ledgerEntryId steps ∧
      account.refundedAlong ledgerEntryId steps ≤ max 0 (-original.amount) := by
  induction steps generalizing account with
  | nil => exact ⟨le_rfl, le_max_left _ _⟩
  | cons step steps ih =>
      have here := admissible step List.mem_cons_self
      have rest : Admissible steps := fun later member =>
        admissible later (List.mem_cons_of_mem _ member)
      have kept := (Step.sound sound here).1
      have longer := Step.ledger_kept sound here
      rw [Account.refundedAlong]
      rcases step.refunded_cases sound found operation with none | ⟨filed, nonneg, le⟩
      · rw [none, Int.zero_add]
        exact ih kept rest (getElem?_kept longer found)
      · rw [refundedAlong_filed filed kept rest, Int.add_zero]
        exact ⟨nonneg, le.trans (le_max_right _ _)⟩

theorem refundCall_effective (sound : account.Sound)
    (found : account.ledger[ledgerEntryId]? = some original)
    (operation : original.reason = .operation label)
    (effective : (refundCall session ledgerEntryId userId).after account ≠ account) :
    ((refundCall session ledgerEntryId userId).after account).RefundFiled ledgerEntryId ∧
      ((refundCall session ledgerEntryId userId).after account).creditBalance =
        (account.expireUserPacks (session.clock 0)).creditBalance +
          (refundCall session ledgerEntryId userId).refunded ledgerEntryId account := by
  cases ran : Billing.refund session account.fuel ledgerEntryId userId account with
  | error error => exact absurd (Operation.step_error (bind_of_error ran _)) effective
  | ok result =>
      obtain ⟨after, returned⟩ := result
      have after_eq : (refundCall session ledgerEntryId userId).after account = after :=
        Operation.step_ok (bind_of_ok ran _)
      have amount : (refundCall session ledgerEntryId userId).refunded ledgerEntryId account =
          returned := by
        simp only [Step.refunded, refundCall, if_true, ran]
      rw [after_eq] at effective ⊢
      rw [amount]
      rcases refund_pays sound found operation ran with ⟨same, -⟩ | ⟨filed, -, -, creditBalance⟩
      · exact absurd same effective
      · exact ⟨filed, creditBalance⟩

theorem refundCall_filed (filed : account.RefundFiled ledgerEntryId) :
    (refundCall session ledgerEntryId userId).after account = account ∧
      (refundCall session ledgerEntryId userId).refunded ledgerEntryId account = 0 :=
  ⟨Operation.step_ok (bind_of_ok (refund_filed filed) _), refunded_filed filed _⟩

end Entry

end Histories

/-- Deduct and refund on one clock value lead from the account swept at that value back to it; along
any later history the refunds of one deduction return at most its amount, the first call that
changes anything adds what it returns to the balance it swept, and later calls change nothing. -/
theorem deduct_refund_identity (userId : Nat) (opening : Int) (steps : List Step)
    (admissible : Admissible steps) :
    let account := (Account.opened userId opening).run steps
    (∀ now deducting refunding amount reason caller,
      (∀ reading, deducting.clock reading = now) → (∀ reading, refunding.clock reading = now) →
      0 ≤ amount → amount ≤ (account.expireUserPacks now).creditBalance →
      (∀ user ∈ caller, user = account.userId) →
      ∃ deducted restored, deduct deducting amount reason account = .ok deducted ∧
        refund refunding deducted.fuel account.ledger.length caller deducted =
          .ok (restored, amount) ∧
        SameValue (account.expireUserPacks now) restored) ∧
    (∀ now, account.Unlapsed now → account.expireUserPacks now = account) ∧
    ∀ ledgerEntryId entry label, account.ledger[ledgerEntryId]? = some entry →
      entry.reason = .operation label →
      (∀ later, Admissible later → 0 ≤ account.refundedAlong ledgerEntryId later ∧
        account.refundedAlong ledgerEntryId later ≤ max 0 (-entry.amount)) ∧
      ∀ first middle session caller, Admissible first → Admissible middle →
        let before := account.run first
        let call := refundCall session ledgerEntryId caller
        call.after before ≠ before →
        (call.after before).creditBalance =
          (before.expireUserPacks (session.clock 0)).creditBalance +
            call.refunded ledgerEntryId before ∧
        ∀ again asking, let reached := (call.after before).run middle
          (refundCall again ledgerEntryId asking).after reached = reached ∧
            (refundCall again ledgerEntryId asking).refunded ledgerEntryId reached = 0 := by
  intro account
  have sound := Account.Sound.reached userId opening admissible
  refine ⟨fun now deducting refunding amount reason caller deductFixed refundFixed nonneg covered
    own => refund_deducted deductFixed refundFixed sound nonneg covered own,
    fun now unlapsed => expireUserPacks_unlapsed unlapsed,
    fun ledgerEntryId entry label found operation => ⟨fun later laterAdmissible =>
      refundedAlong_le sound laterAdmissible found operation, ?_⟩⟩
  intro first middle session caller firstAdmissible middleAdmissible before call effective
  have beforeSound := (sound.run firstAdmissible).1
  have kept := getElem?_kept (sound.ledger_kept firstAdmissible) found
  obtain ⟨filed, creditBalance⟩ := refundCall_effective beforeSound kept operation effective
  have callSound := (@Step.sound before call beforeSound trivial).1
  exact ⟨creditBalance, fun again asking =>
    refundCall_filed (filed.kept (callSound.ledger_kept middleAdmissible))⟩

def twoPurchases : List Step := [
  ⟨.at 0, .grant (lemonTerms "first" 10 0 100) (.billingPurchase .lemonsqueezy "first")⟩,
  ⟨.at 0, .grant (lemonTerms "second" 10 0 1000) (.billingPurchase .lemonsqueezy "second")⟩]

theorem deduct_refund_identity_twoPurchases :
    let account := (Account.opened 0 5).run twoPurchases
    ∃ deducted restored, deduct (.at 50) 23 "generate" account = .ok deducted ∧
      refund (.at 50) deducted.fuel 2 none deducted = .ok (restored, 23) ∧
      SameValue (account.expireUserPacks 50) restored :=
  (deduct_refund_identity 0 5 twoPurchases (by decide)).1 50 (.at 50) (.at 50) 23 "generate" none
    (fun _ => rfl) (fun _ => rfl) (by decide) (by decide) (fun _ member => nomatch member)

theorem deduct_refund_sweeps_lapsed_pack :
    let account := (Account.opened 0 5).run twoPurchases
    ∃ deducted restored, deduct (.at 200) 3 "generate" account = .ok deducted ∧
      refund (.at 200) deducted.fuel account.ledger.length none deducted = .ok (restored, 3) ∧
      account.creditBalance = 25 ∧ restored.creditBalance = 15 ∧
      (account.pack 0).creditsRemaining = 10 ∧ (restored.pack 0).creditsRemaining = 0 :=
  ⟨_, _, rfl, rfl, by decide, by decide, by decide, by decide⟩

end Thought2Build.Billing
