import Thought2Build.Billing.RefundReports

/-!
Which refunds can be recorded. The clamp of a reversal takes the greater of the order total and the
item amount, the CHECK only the order total; what is reported beyond both sides of that gap is lost.
-/

namespace Thought2Build.Billing

open Rows Account

def BillingCreditPack.Recordable (pack : BillingCreditPack) (amountCents : Int) : Prop :=
  ∀ total ∈ pack.providerOrderTotalCents,
    pack.paidItemAmountCents ≤ total ∨ amountCents ≤ total

/-- The `ledger_reason` of the two callers: none from the refund handlers, one with a fresh uuid
from `settle_pack`. -/
inductive Account.CallerReason (account : Account) (packId : Nat) : Option LedgerReason → Prop
  | handler (notRazorpay : (account.pack packId).provider ≠ .razorpay) :
      CallerReason account packId none
  | settlement (effective : Int) :
      CallerReason account packId
        (some (.settlementReversal packId effective account.ledger.length))

theorem refundedTotal_le_iff {pack : BillingCreditPack} {amountCents total : Int}
    (known : pack.providerOrderTotalCents = some total) (nonneg : 0 ≤ total) :
    pack.refundedTotal amountCents ≤ total ↔
      pack.paidItemAmountCents ≤ total ∨ amountCents ≤ total := by
  simp only [BillingCreditPack.refundedTotal, BillingCreditPack.providerTotalCents, known]
  omega

theorem recordable_iff {pack : BillingCreditPack} (checks : pack.Checks) (amountCents : Int) :
    (∀ total ∈ pack.providerOrderTotalCents, pack.refundedTotal amountCents ≤ total) ↔
      pack.Recordable amountCents := by
  obtain ⟨-, -, -, -, -, -, -, -, totalNonneg, -⟩ := checks
  exact forall₂_congr fun total known => refundedTotal_le_iff known (totalNonneg total known)

theorem recordable_of_terms {first second : BillingCreditPack} (terms : first.SameTerms second)
    (amountCents : Int) : second.Recordable amountCents ↔ first.Recordable amountCents := by
  simp only [BillingCreditPack.Recordable, terms.orderTotal, terms.paidItem]

section Reasons

variable {account : Account} {packId : Nat} {ledgerReason : Option LedgerReason}

theorem Account.CallerReason.quiet (caller : account.CallerReason packId ledgerReason) :
    ∀ reason ∈ ledgerReason, reason.Quiet := by
  cases caller with
  | handler => simp
  | settlement effective => simp [LedgerReason.Quiet]

theorem Account.CallerReason.expireUserPacks (caller : account.CallerReason packId ledgerReason)
    (now : Int) : (account.expireUserPacks now).CallerReason packId ledgerReason := by
  cases caller with
  | handler notRazorpay =>
      exact .handler ((sameTerms_expireUserPacks now account packId).provider ▸ notRazorpay)
  | settlement effective =>
      have same : (account.expireUserPacks now).ledger = account.ledger := by simp
      exact same ▸ .settlement effective

theorem Account.CallerReason.fresh {amountCents : Int} {fullOrFraud : Bool}
    (caller : account.CallerReason packId ledgerReason) (stamped : account.Stamped)
    (advances : (account.pack packId).refundedItemAmountCentsProcessed <
      (account.pack packId).refundLevel amountCents fullOrFraud) :
    ∀ older ∈ account.ledger, older.reason ≠ ledgerReason.getD
      (.billingReversal packId
        ((account.pack packId).refundLevel amountCents fullOrFraud)) := by
  intro older member same
  cases caller with
  | handler notRazorpay =>
      have reached := ((stamped older member).level _ _ same).2 notRazorpay
      exact absurd reached (not_le.mpr advances)
  | settlement effective =>
      exact absurd ((stamped older member).uuid _ _ _ same) (lt_irrefl _)

end Reasons

section Reversal

variable {session : Session} {packId : Nat} {amountCents : Int} {fullOrFraud : Bool}
  {reasonLabel : String} {ledgerReason : Option LedgerReason} {account : Account}

theorem reverseRefund_sourceChecks (sound : account.Sound) (bound : packId < account.packs.length)
    (quiet : ∀ reason ∈ ledgerReason, reason.Quiet) :
    ((reverseRefund session packId amountCents fullOrFraud reasonLabel ledgerReason account).1.pack
        packId).Checks ↔
      (account.pack packId).Recordable amountCents := by
  have checks := sound.packs _ (mem_packs.mpr ⟨packId, bound, rfl⟩)
  have paid := (sound.toConstraints.priced packId bound).1
  have reversed := @reverseRefund_reversedTo session packId account amountCents fullOrFraud
    reasonLabel ledgerReason sound.toSourced bound
  rw [← recordable_iff checks amountCents]
  constructor
  · intro rowChecks total known
    obtain ⟨-, -, -, -, -, -, -, -, -, -, -, -, -, -, seenLe, -⟩ := rowChecks
    have below := seenLe total ((reversed.sameTerms packId).orderTotal.symm ▸ known)
    rw [reversed.source] at below
    exact (le_max_right _ _).trans below
  · intro within
    obtain ⟨-, transferred⟩ := reverseRefund_transferred session amountCents fullOrFraud reasonLabel
      sound.toSourced bound paid quiet
    have level_le := (refundLevel_bounds amountCents fullOrFraud paid).2
    exact reversed.packChecks sound.packs transferred.rows level_le within _
      (mem_packs.mpr ⟨packId, reversed.packsLength ▸ bound, rfl⟩)

theorem reverseRefund_flushes (sound : account.Sound) (stamped : account.Stamped)
    (bound : packId < account.packs.length) (caller : account.CallerReason packId ledgerReason) :
    (reverseRefund session packId amountCents fullOrFraud reasonLabel ledgerReason
        account).1.Constraints ↔
      (account.pack packId).Recordable amountCents := by
  have checks := sound.packs _ (mem_packs.mpr ⟨packId, bound, rfl⟩)
  rw [← recordable_iff checks amountCents]
  exact reverseRefund_constraints amountCents fullOrFraud reasonLabel sound bound caller.quiet
    fun advances => caller.fresh stamped advances

theorem applyRefundReversal_recorded {reads : Nat} (sound : account.Sound)
    (stamped : account.Stamped) (bound : packId < account.packs.length)
    (caller : account.CallerReason packId ledgerReason) :
    (∃ result, applyRefundReversal session packId amountCents fullOrFraud reasonLabel ledgerReason
        { account, reads } = .ok result) ↔
      (account.pack packId).Recordable amountCents := by
  have terms := sameTerms_expireUserPacks (session.clock reads) account packId
  have present : packId < (account.expireUserPacks (session.clock reads)).packs.length := by
    rwa [packs_length_expireUserPacks]
  have flushes := @reverseRefund_flushes session packId amountCents fullOrFraud reasonLabel
    ledgerReason _ (sound.expireUserPacks (session.clock reads))
    ((Stamps.expireUserPacks account (session.clock reads)).run stamped) present
    (caller.expireUserPacks (session.clock reads))
  rw [applyRefundReversal_swept session amountCents fullOrFraud reasonLabel ledgerReason reads rfl
    present, ← recordable_of_terms terms, ← flushes]
  constructor
  · rintro ⟨result, ran⟩
    obtain ⟨after, flushed, -⟩ := bind_eq_ok ran
    obtain ⟨rfl, constraints⟩ := Account.Constraints.flush flushed
    exact constraints
  · intro constraints
    have committed : flush _ = .ok _ := if_pos constraints
    exact ⟨_, bind_of_ok committed _⟩

end Reversal

/-- A refund can be recorded exactly when the order total, if known, covers the item amount or the
reported amount: then the source row passes every CHECK and the reversal returns. -/
theorem refund_recorded_iff (account : Account) (sound : account.Sound) (stamped : account.Stamped)
    (packId : Nat) (bound : packId < account.packs.length) (session : Session) (reads : Nat)
    (amountCents : Int) (fullOrFraud : Bool) (reasonLabel : String)
    (ledgerReason : Option LedgerReason) (caller : account.CallerReason packId ledgerReason) :
    (((reverseRefund session packId amountCents fullOrFraud reasonLabel ledgerReason
        (account.expireUserPacks (session.clock reads))).1.pack packId).Checks ↔
      (account.pack packId).Recordable amountCents) ∧
    ((∃ result, applyRefundReversal session packId amountCents fullOrFraud reasonLabel ledgerReason
        { account, reads } = .ok result) ↔
      (account.pack packId).Recordable amountCents) := by
  have terms := sameTerms_expireUserPacks (session.clock reads) account packId
  have present : packId < (account.expireUserPacks (session.clock reads)).packs.length := by
    rwa [packs_length_expireUserPacks]
  refine ⟨?_, applyRefundReversal_recorded sound stamped bound caller⟩
  rw [← recordable_of_terms terms]
  exact reverseRefund_sourceChecks (sound.expireUserPacks _) present caller.quiet

theorem refund_recorded_iff_partlySpent :
    let account := (Account.opened 0 0).run (refundedPurchase.take 2)
    ∃ result, applyRefundReversal (.at 3) 0 10 false "refund" none { account, reads := 0 } =
      .ok result := by
  intro account
  have routed : (Account.opened 0 0).RoutedRun (refundedPurchase.take 2) :=
    ⟨trivial, trivial, trivial⟩
  exact (refund_recorded_iff account (.reached 0 0 (by decide))
    (routed.stamped (.opened 0 0) (.opened 0 0) (by decide)) 0 (by decide) (.at 3) 0 10 false
    "refund" none (.handler (by decide))).2.mpr (by
      intro total known
      have unknown : (account.pack 0).providerOrderTotalCents = none := by decide
      rw [unknown] at known
      cases known)

theorem refund_above_order_total_is_refused :
    let terms := { lemonTerms "order" 10 0 100 with providerOrderTotalCents := some 8 }
    let account := (Account.opened 0 0).run
      [⟨.at 0, .grant terms (.billingPurchase .lemonsqueezy "order")⟩]
    (account.pack 0).Checks ∧
      ¬((reverseRefund (.at 1) 0 10 false "refund" none account).1.pack 0).Checks ∧
      (applyRefundReversal (.at 1) 0 10 false "refund" none { account, reads := 0 }).map
        (fun result => result.2) = .error .integrityError := by
  decide

end Thought2Build.Billing
