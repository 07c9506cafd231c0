import Thought2Build.Billing.Runs

/-!
Which packs hold spendable credits. `refund` and `settle_pack` write a pack's status from a later
clock reading than the sweep's, so the answer depends on where an expiry falls between the two.
-/

namespace Thought2Build.Billing

open Rows Account

def Operation.RereadsClock : Operation → Prop
  | .refund _ _ => True
  | .settlePack _ _ _ => True
  | _ => False

def Step.Steady (step : Step) (account : Account) : Prop :=
  step.operation.RereadsClock → account.Steady step.session

def Account.SteadyRun (account : Account) : List Step → Prop
  | [] => True
  | step :: steps => step.Steady account ∧ (step.after account).SteadyRun steps

def Session.frozen (session : Session) : Session :=
  { session with clock := fun _ => session.clock 0 }

theorem steady_frozen (session : Session) (account : Account) : account.Steady session.frozen :=
  fun _ _ _ => .rfl

section Steps

variable {session : Session} {before after : Account}

theorem Account.Spendable.expireUserPacks (spendable : before.Spendable) (now : Int) :
    (before.expireUserPacks now).Spendable := by
  intro id inactive
  rw [pack_expireUserPacks] at inactive ⊢
  split
  · rfl
  · rename_i fresh
    rw [if_neg fresh] at inactive
    exact spendable id inactive

theorem Granted.spendable {terms : PackTerms} {ledgerReason : LedgerReason} {left : Int}
    {settled : Account} (granted : Granted session terms ledgerReason left settled before after)
    (spendable : before.Spendable) : after.Spendable := by
  obtain ⟨-, -, settling, rfl, -⟩ := granted
  intro id inactive
  change (settled.pack id).status ≠ .active at inactive
  change (settled.pack id).creditsRemaining = 0
  by_cases fresh : id = before.packs.length
  · subst fresh
    rw [settling.own.2.1, pack_addPack, if_pos rfl] at inactive
    exact absurd rfl inactive
  · rw [settling.others id fresh, pack_addPack, if_neg fresh] at inactive ⊢
    exact spendable id inactive

theorem spendable_applyRefundReversal {packId : Nat} {amountCents : Int} {fullOrFraud : Bool}
    {reasonLabel : String} {tx : Tx} {outcome : RefundOutcome} (sound : before.Sound)
    (spendable : before.Spendable)
    (ran : applyRefundReversal session packId amountCents fullOrFraud reasonLabel none
      { account := before, reads := 0 } = .ok (tx, outcome)) : tx.account.Spendable := by
  change applyRefundReversal session.frozen packId amountCents fullOrFraud reasonLabel none
    { account := before, reads := 0 } = .ok (tx, outcome) at ran
  obtain ⟨-, transferred, -⟩ := applyRefundReversal_transferred sound.toSourced
    sound.toConstraints.priced (by simp) ran
  exact (transferred.settled (spendable.settled (steady_frozen session before))).spendable

theorem spendable_refund {fuel ledgerEntryId : Nat} {userId : Option Nat} {amount : Int}
    (sound : before.Sound) (spendable : before.Spendable) (steady : before.Steady session)
    (ran : refund session fuel ledgerEntryId userId before = .ok (after, amount)) :
    after.Spendable := by
  rcases refund_cases sound.rows sound.toBooked ran with
    rfl | ⟨original, -, -, -, ⟨-, legacy⟩ | ⟨record, usable, -, refunded⟩⟩
  · exact spendable
  · rw [legacy.result]
    exact spendable
  · have swept := spendable.settled steady
    exact (refunded.restored.settled ⟨swept.steady, swept.swept, swept.spendable⟩).spendable

theorem Operation.perform_spendable {operation : Operation} (sound : before.Sound)
    (spendable : before.Spendable) (admissible : operation.Admissible)
    (steady : operation.RereadsClock → before.Steady session)
    (ran : operation.perform session before = .ok after) : after.Spendable := by
  cases operation with
  | getBalance =>
      obtain ⟨rfl, -⟩ := getBalance_swept ran
      exact spendable.expireUserPacks _
  | credit amount reason =>
      obtain ⟨rfl, -⟩ := credit_credited ran
      exact spendable
  | grant terms ledgerReason =>
      rcases grant_granted sound.rows ran with rfl | ⟨left, settled, granted⟩
      · exact spendable
      · exact granted.spendable spendable
  | deduct amount reason =>
      obtain ⟨left, deducted⟩ := deduct_deducted sound.rows admissible ran
      exact deducted.drained.spendable (spendable.expireUserPacks (session.clock 0))
  | refund ledgerEntryId userId =>
      obtain ⟨⟨result, amount⟩, refunded, returned⟩ := bind_eq_ok ran
      cases returned
      exact spendable_refund sound spendable (steady trivial) refunded
  | applyRefundReversal packId amountCents fullOrFraud reasonLabel =>
      obtain ⟨⟨tx, outcome⟩, reversed, returned⟩ := bind_eq_ok ran
      cases returned
      exact spendable_applyRefundReversal sound spendable reversed
  | settlePack packId disputes refundedCents =>
      obtain ⟨⟨result, outcome⟩, settled, returned⟩ := bind_eq_ok ran
      cases returned
      obtain ⟨-, gain, transferred⟩ := settlePack_transferred sound settled
      exact (transferred.settled (spendable.settled (steady trivial))).spendable

theorem Step.spendable {step : Step} (sound : before.Sound) (spendable : before.Spendable)
    (admissible : step.operation.Admissible) (steady : step.Steady before) :
    (step.after before).Spendable := by
  simp only [Step.after, Operation.step]
  cases ran : step.operation.perform step.session before with
  | ok after => exact Operation.perform_spendable sound spendable admissible steady ran
  | error error => exact spendable

end Steps

theorem Account.SteadyRun.spendable {account : Account} {steps : List Step}
    (steady : account.SteadyRun steps) (sound : account.Sound) (spendable : account.Spendable)
    (admissible : Admissible steps) : (account.run steps).Spendable := by
  induction steps generalizing account with
  | nil => exact spendable
  | cons step steps ih =>
      have here := admissible step List.mem_cons_self
      exact ih steady.2 (Step.sound sound here).1 (Step.spendable sound spendable here steady.1)
        fun later member => admissible later (List.mem_cons_of_mem _ member)

theorem Account.SteadyRun.take {account : Account} {steps : List Step}
    (steady : account.SteadyRun steps) (count : Nat) : account.SteadyRun (steps.take count) := by
  induction steps generalizing account count with
  | nil => simp [Account.SteadyRun]
  | cons step steps ih =>
      cases count with
      | zero => trivial
      | succ count => exact ⟨steady.1, ih steady.2 count⟩

theorem spendable_opened (userId : Nat) (balance : Int) :
    (Account.opened userId balance).Spendable := fun _ _ => rfl

/-- In a run whose refunds and settlements see no pack expire between their readings, only active
packs hold credits after every step. -/
theorem inactive_packs_empty (userId : Nat) (balance : Int) (steps : List Step)
    (admissible : Admissible steps) (steady : (Account.opened userId balance).SteadyRun steps)
    (count : Nat) :
    ∀ pack ∈ ((Account.opened userId balance).run (steps.take count)).packs,
      pack.status ≠ .active → pack.creditsRemaining = 0 := by
  intro pack member inactive
  obtain ⟨id, -, rfl⟩ := mem_packs.mp member
  exact (steady.take count).spendable (.opened userId balance) (spendable_opened userId balance)
    (fun step member => admissible step (List.mem_of_mem_take member)) id inactive

theorem inactive_packs_empty_refundedPurchase :
    (((Account.opened 0 0).run
      ((refundedPurchase ++ [Step.mk (.at 3) (.refund 1 none)]).take 4)).pack 0).creditsRemaining = 0 :=
  inactive_packs_empty 0 0 (refundedPurchase ++ [Step.mk (.at 3) (.refund 1 none)]) (by decide)
    ⟨fun reread => reread.elim, fun reread => reread.elim, fun reread => reread.elim,
      fun _ _ _ _ => .rfl, trivial⟩ 4 _ (by decide) (by decide)

def Session.acrossExpiry : Session :=
  { Session.at 99 with clock := fun reading => if reading = 0 then 99 else 100 }

theorem expired_pack_keeps_credits :
    let steps : List Step := [
      ⟨.at 0, .grant (lemonTerms "order" 10 0 100) (.billingPurchase .lemonsqueezy "order")⟩,
      ⟨.acrossExpiry, .settlePack 0 [] 0⟩]
    let account := (Account.opened 0 0).run steps
    Admissible steps ∧ (account.pack 0).status = .expired ∧
      (account.pack 0).creditsRemaining = 10 ∧ account.creditBalance = 10 := by
  decide

end Thought2Build.Billing
