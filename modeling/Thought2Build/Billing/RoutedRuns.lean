import Thought2Build.Billing.Runs

/-!
Runs as the webhook handlers make them: `settle_pack` takes Razorpay packs, a direct reversal takes
the packs of other providers. The reversal rows of such a run never repeat.
-/

namespace Thought2Build.Billing

open Rows Account

def Operation.Routed (account : Account) : Operation → Prop
  | .applyRefundReversal packId _ _ _ => (account.pack packId).provider ≠ .razorpay
  | .settlePack packId _ _ => (account.pack packId).provider = .razorpay
  | _ => True

def Account.RoutedRun (account : Account) : List Step → Prop
  | [] => True
  | step :: steps => step.operation.Routed account ∧ (step.after account).RoutedRun steps

section Steps

variable {session : Session} {before after : Account}

theorem Granted.stamps {terms : PackTerms} {ledgerReason : LedgerReason} {left : Int}
    {settled : Account} (granted : Granted session terms ledgerReason left settled before after)
    (admissible : (Operation.grant terms ledgerReason).Admissible) : Stamps before after := by
  obtain ⟨-, -, settling, rfl, -⟩ := granted
  have kept : ∀ id < before.packs.length, settled.pack id = before.pack id := fun id bound => by
    rw [settling.others id bound.ne, pack_addPack, if_neg bound.ne]
  obtain ⟨rows, ledger, -⟩ := settling.ledger
  refine {
    packsLength := ?_
    ledgerLength := ?_
    provider := fun id bound => congrArg (·.provider) (kept id bound)
    processed := fun id bound _ =>
      (congrArg (·.refundedItemAmountCentsProcessed) (kept id bound)).ge
    rows := fun entry member => ?_ }
  · change _ ≤ settled.packs.length
    rw [settling.packsLength]
    exact (before.packs_length_addPack _).le
  · change _ ≤ (settled.ledger ++ [_]).length
    rw [ledger, List.length_append, List.length_append]
    exact Nat.le_add_right_of_le (Nat.le_add_right _ _)
  · rcases List.mem_append.mp member with earlier | written
    · rcases settling.written entry earlier with older | ⟨debtId, reason⟩
      · exact .inl older
      · exact .inr (.other (by simp [reason]) (by simp [reason]))
    · right
      rw [List.mem_singleton.mp written]
      cases ledgerReason <;> first | exact admissible.elim | exact .other (by simp [grantEntry]) (by simp [grantEntry])

theorem Deducted.stamps {amount left : Int} {reason : String}
    (deducted : Deducted session amount left reason before after) : Stamps before after :=
  .append deducted.drained.packsLength deducted.drained.sameTerms deducted.drained.processed
    deducted.ledger (by simp [deductionEntry]) (by simp [deductionEntry])

theorem stamps_refund {fuel ledgerEntryId : Nat} {userId : Option Nat} {amount : Int}
    (sound : before.Sound)
    (ran : refund session fuel ledgerEntryId userId before = .ok (after, amount)) :
    Stamps before after := by
  rcases refund_cases sound.rows sound.toBooked ran with
    rfl | ⟨original, -, -, -, ⟨-, legacy⟩ | ⟨record, usable, -, refunded⟩⟩
  · exact .refl _
  · rw [legacy.result]
    exact .append rfl (fun _ _ => .refl _) (fun _ => rfl) rfl (by simp [refundEntry])
      (by simp [refundEntry])
  · have frame := refunded.restored.toFrame
    exact (Stamps.expireUserPacks before _).trans (.append frame.packsLength
      (fun id _ => frame.terms id) frame.processed refunded.ledger (by simp [refundEntry])
      (by simp [refundEntry]))

theorem Operation.perform_stamps {operation : Operation} (sound : before.Sound)
    (admissible : operation.Admissible) (routed : operation.Routed before)
    (ran : operation.perform session before = .ok after) : Stamps before after := by
  have swept := Stamps.expireUserPacks before (session.clock 0)
  cases operation with
  | getBalance =>
      obtain ⟨rfl, -⟩ := getBalance_swept ran
      exact swept
  | credit amount reason =>
      obtain ⟨rfl, -⟩ := credit_credited ran
      exact .append rfl (fun _ _ => .refl _) (fun _ => rfl) rfl (by simp [creditEntry])
        (by simp [creditEntry])
  | grant terms ledgerReason =>
      rcases grant_granted sound.rows ran with rfl | ⟨left, settled, granted⟩
      · exact .refl _
      · exact granted.stamps admissible
  | deduct amount reason =>
      obtain ⟨left, deducted⟩ := deduct_deducted sound.rows admissible ran
      exact swept.trans deducted.stamps
  | refund ledgerEntryId userId =>
      obtain ⟨⟨result, amount⟩, refunded, returned⟩ := bind_eq_ok ran
      cases returned
      exact stamps_refund sound refunded
  | applyRefundReversal packId amountCents fullOrFraud reasonLabel =>
      obtain ⟨⟨tx, outcome⟩, reversed, returned⟩ := bind_eq_ok ran
      cases returned
      obtain ⟨-, -, -, bound, result⟩ := applyRefundReversal_transferred sound.toSourced
        sound.toConstraints.priced (by simp) reversed
      have stamps := @Stamps.reverseRefund session packId _ amountCents fullOrFraud reasonLabel
        none (sound.toSourced.expireUserPacks (session.clock 0))
        (by rwa [packs_length_expireUserPacks]) (by simp)
      rw [result] at stamps
      exact swept.trans stamps
  | settlePack packId disputes refundedCents =>
      obtain ⟨⟨result, outcome⟩, settled, returned⟩ := bind_eq_ok ran
      cases returned
      obtain ⟨gain, -, -, stamps⟩ := settlePack_settled sound settled
      exact swept.trans (stamps routed)

theorem Step.stamped {step : Step} (sound : before.Sound) (stamped : before.Stamped)
    (admissible : step.operation.Admissible) (routed : step.operation.Routed before) :
    (step.after before).Stamped := by
  simp only [Step.after, Operation.step]
  cases ran : step.operation.perform step.session before with
  | ok after => exact (Operation.perform_stamps sound admissible routed ran).run stamped
  | error error => exact stamped

end Steps

theorem Account.RoutedRun.stamped {account : Account} {steps : List Step}
    (routed : account.RoutedRun steps) (sound : account.Sound) (stamped : account.Stamped)
    (admissible : Admissible steps) : (account.run steps).Stamped := by
  induction steps generalizing account with
  | nil => exact stamped
  | cons step steps ih =>
      have here := admissible step List.mem_cons_self
      exact ih routed.2 (Step.sound sound here).1 (Step.stamped sound stamped here routed.1)
        fun later member => admissible later (List.mem_cons_of_mem _ member)

theorem Account.Stamped.opened (userId : Nat) (balance : Int) :
    (Account.opened userId balance).Stamped := fun _ member => nomatch member

end Thought2Build.Billing
