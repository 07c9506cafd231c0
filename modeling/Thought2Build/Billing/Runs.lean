import Thought2Build.Billing.Settlements

/-!
Runs of `CreditService` operations and `settle_pack`: what each step keeps, and what therefore
holds in every account a run reaches. The clocks of the sessions are arbitrary.
-/

namespace Thought2Build.Billing

open Rows Account

section Steps

variable {session : Session} {before after : Account}

theorem Account.Sound.opened (userId : Nat) (balance : Int) :
    (Account.opened userId balance).Sound where
  rows := ⟨fun _ => BillingCreditPack.sound_default, fun _ => ⟨le_rfl, le_rfl⟩, fun _ => ⟨le_rfl, le_rfl⟩⟩
  excess _ := rfl
  consumed _ := rfl
  recovered _ := rfl
  ranked := ⟨fun _ => 0, fun _ _ ⟨_, bound, _⟩ => absurd bound (Nat.not_lt_zero _)⟩
  filed _ member := nomatch member
  entries _ member := nomatch member
  history _ _ found := nomatch found
  toConstraints := by constructor <;> simp [Account.opened]

theorem Account.Sound.transfer {gain : Int} (sound : before.Sound)
    (transferred : Transferred session gain (before.expireUserPacks (session.clock 0)) after)
    (constraints : after.Constraints) : after.Sound where
  toSourced := transferred.sourced (sound.toSourced.expireUserPacks _)
  toBooked := transferred.toPosted.booked (sound.toBooked.expireUserPacks _)
  toConstraints := constraints

theorem getBalance_swept (ran : getBalance session before = .ok after) :
    after = before.expireUserPacks (session.clock 0) ∧ after.Constraints := by
  obtain ⟨rfl, constraints⟩ := Account.Constraints.flush ran
  exact ⟨rfl, constraints⟩

def creditEntry (session : Session) (amount : Int) (reason : String) : CreditLedger :=
  { amount, reason := .operation reason, metadata := none, createdAt := session.clock 0 }

theorem credit_credited {amount : Int} {reason : String}
    (ran : credit session amount reason before = .ok after) :
    after = (before.addBalance amount).addLedger (creditEntry session amount reason) ∧
      after.Constraints := by
  obtain ⟨rfl, constraints⟩ := Account.Constraints.flush ran
  exact ⟨rfl, constraints⟩

theorem creditEntry_filed {amount : Int} (positive : 0 < amount) (reason : String) (count : Nat) :
    (creditEntry session amount reason).Filed count :=
  ⟨fun _ refunds => LedgerReason.noConfusion refunds, fun _ _ _ => positive.le⟩

theorem Account.Sound.getBalance (sound : before.Sound)
    (ran : getBalance session before = .ok after) : after.Sound := by
  obtain ⟨rfl, constraints⟩ := getBalance_swept ran
  exact sound.transfer (.refl session (sound.toSourced.expireUserPacks _)) constraints

theorem Account.Sound.credit {amount : Int} {reason : String} (sound : before.Sound)
    (positive : 0 < amount) (ran : credit session amount reason before = .ok after) :
    after.Sound := by
  obtain ⟨rfl, constraints⟩ := credit_credited ran
  refine {
    toSourced := sound.toSourced.book _ _
    toBooked := sound.toBooked.append rfl (fun _ member => .inl member) (fun _ _ => rfl)
      (fun row member => List.mem_singleton.mp member ▸ creditEntry_filed positive reason _)
      fun id entry found record recorded => ?_
    toConstraints := constraints }
  rw [List.mem_singleton.mp (List.mem_of_getElem? found)] at recorded
  cases recorded

theorem settlePack_settled {disputes : List BillingDispute} {packId : Nat}
    {refundedCents : Int} {outcome : SettlementOutcome} (sound : before.Sound)
    (ran : settlePack session disputes packId refundedCents before = .ok (after, outcome)) :
    ∃ gain, after.Constraints ∧
      Transferred session gain (before.expireUserPacks (session.clock 0)) after ∧
      ((before.pack packId).provider = .razorpay →
        Stamps (before.expireUserPacks (session.clock 0)) after) := by
  rcases settlePack_cases session disputes packId refundedCents sound.toSourced sound.debtSources
      sound.toConstraints.priced with
    ⟨missing, -⟩ | refused | ⟨settled, outcome, gain, result, facts⟩
  · rw [ran] at missing
    cases missing
  · rw [ran] at refused
    cases refused
  · rw [ran] at result
    cases result
    exact ⟨gain, facts⟩

theorem settlePack_transferred {disputes : List BillingDispute} {packId : Nat}
    {refundedCents : Int} {outcome : SettlementOutcome} (sound : before.Sound)
    (ran : settlePack session disputes packId refundedCents before = .ok (after, outcome)) :
    after.Constraints ∧ ∃ gain,
      Transferred session gain (before.expireUserPacks (session.clock 0)) after := by
  obtain ⟨gain, constraints, transferred, -⟩ := settlePack_settled sound ran
  exact ⟨constraints, gain, transferred⟩

theorem Operation.Admissible.quiet {terms : PackTerms} {ledgerReason : LedgerReason}
    (admissible : (Operation.grant terms ledgerReason).Admissible) : ledgerReason.Quiet := by
  cases ledgerReason <;> first | exact admissible.elim | exact ⟨by simp, by simp⟩

theorem Operation.perform_sound {operation : Operation} (sound : before.Sound)
    (admissible : operation.Admissible) (ran : operation.perform session before = .ok after) :
    after.Sound ∧ Ages before after := by
  have swept := Ages.expireUserPacks sound.rows (session.clock 0)
  cases operation with
  | getBalance =>
      obtain ⟨rfl, -⟩ := getBalance_swept ran
      exact ⟨sound.getBalance ran, swept⟩
  | credit amount reason =>
      obtain ⟨rfl, -⟩ := credit_credited ran
      exact ⟨sound.credit admissible ran, (Ages.refl before).ofPacks rfl⟩
  | grant terms ledgerReason =>
      refine ⟨sound.grant admissible.quiet ran, ?_⟩
      rcases grant_granted sound.rows ran with rfl | ⟨left, settled, granted⟩
      · exact .refl _
      · obtain ⟨-, -, settling, rfl, -⟩ := granted
        exact ((Ages.addPack before terms.pack).trans settling.toAges).ofPacks rfl
  | deduct amount reason =>
      refine ⟨sound.deduct admissible ran, ?_⟩
      obtain ⟨left, deducted⟩ := deduct_deducted sound.rows admissible ran
      exact (swept.book _ _).trans deducted.drained.toAges
  | refund ledgerEntryId userId =>
      obtain ⟨⟨result, amount⟩, refunded, returned⟩ := bind_eq_ok ran
      cases returned
      refine ⟨sound.refund refunded, ?_⟩
      rcases refund_cases sound.rows sound.toBooked refunded with
        rfl | ⟨original, -, -, -, ⟨-, legacy⟩ | ⟨record, usable, -, refunded⟩⟩
      · exact .refl _
      · rw [legacy.result]
        exact (Ages.refl before).ofPacks rfl
      · exact (swept.book _ _).trans
          (refunded.restored.ages ((sound.rows.expireUserPacks _).book _ _))
  | applyRefundReversal packId amountCents fullOrFraud reasonLabel =>
      obtain ⟨⟨tx, outcome⟩, reversed, returned⟩ := bind_eq_ok ran
      cases returned
      refine ⟨sound.applyRefundReversal reversed, ?_⟩
      obtain ⟨-, transferred, -⟩ := applyRefundReversal_transferred sound.toSourced
        sound.toConstraints.priced (by simp) reversed
      exact swept.trans transferred.toAges
  | settlePack packId disputes refundedCents =>
      obtain ⟨⟨result, outcome⟩, settled, returned⟩ := bind_eq_ok ran
      cases returned
      obtain ⟨constraints, gain, transferred⟩ := settlePack_transferred sound settled
      exact ⟨sound.transfer transferred constraints, swept.trans transferred.toAges⟩

end Steps

def Admissible (steps : List Step) : Prop := ∀ step ∈ steps, step.operation.Admissible

instance : DecidablePred Operation.Admissible := fun operation => by
  cases operation with
  | grant terms ledgerReason =>
      cases ledgerReason <;> first | exact .isTrue trivial | exact .isFalse id
  | credit amount reason => exact inferInstanceAs (Decidable (0 < amount))
  | deduct amount reason => exact inferInstanceAs (Decidable (0 ≤ amount))
  | _ => exact .isTrue trivial

instance (steps : List Step) : Decidable (Admissible steps) :=
  inferInstanceAs (Decidable (∀ step ∈ steps, step.operation.Admissible))

theorem Step.sound {account : Account} {step : Step} (sound : account.Sound)
    (admissible : step.operation.Admissible) :
    (step.after account).Sound ∧ Ages account (step.after account) := by
  simp only [Step.after, Operation.step]
  cases ran : step.operation.perform step.session account with
  | ok after => exact Operation.perform_sound sound admissible ran
  | error error => exact ⟨sound, .refl account⟩

theorem Account.run_invariant {motive : Account → Prop} {steps : List Step}
    (kept : ∀ step ∈ steps, ∀ account : Account, motive account → motive (step.after account))
    {account : Account} (initial : motive account) : motive (account.run steps) := by
  induction steps generalizing account with
  | nil => exact initial
  | cons step steps ih =>
      exact ih (fun later member => kept later (List.mem_cons_of_mem _ member))
        (kept step List.mem_cons_self account initial)

theorem Account.Sound.run {account : Account} {steps : List Step} (sound : account.Sound)
    (admissible : Admissible steps) :
    (account.run steps).Sound ∧ Ages account (account.run steps) :=
  run_invariant (motive := fun after => after.Sound ∧ Ages account after)
    (fun step member _ ⟨sound, ages⟩ =>
      have ⟨kept, aged⟩ := Step.sound sound (admissible step member)
      ⟨kept, ages.trans aged⟩)
    ⟨sound, .refl account⟩

theorem Account.Sound.reached (userId : Nat) (balance : Int) {steps : List Step}
    (admissible : Admissible steps) : ((Account.opened userId balance).run steps).Sound :=
  ((Account.Sound.opened userId balance).run admissible).1

def Session.at (now : Int) : Session :=
  { clock := fun _ => now, scanRank := id, packUuid := Int.ofNat, allocationUuid := Int.ofNat }

def lemonTerms (orderId : String) (credits purchasedAt expiresAt : Int) : PackTerms :=
  { provider := .lemonsqueezy
    providerCheckoutId := none
    providerOrderId := some orderId
    credits
    priceCents := credits
    currency := "USD"
    providerOrderTotalCents := none
    purchasedAt
    expiresAt }

def refundedPurchase : List Step := [
  ⟨.at 0, .grant (lemonTerms "order" 10 0 100) (.billingPurchase .lemonsqueezy "order")⟩,
  ⟨.at 1, .deduct 3 "generate"⟩,
  ⟨.at 2, .applyRefundReversal 0 10 true "refund"⟩]

end Thought2Build.Billing
