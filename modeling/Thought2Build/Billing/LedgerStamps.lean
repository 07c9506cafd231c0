import Thought2Build.Billing.ReversalCommits

/-!
The keys that reversals leave in the ledger: a refund row carries a level that its pack has reached,
a settlement row a uuid that later rows do not repeat.
-/

namespace Thought2Build.Billing

open Rows Account

structure CreditLedger.Stamped (account : Account) (entry : CreditLedger) : Prop where
  level : ∀ id level, entry.reason = .billingReversal id level → id < account.packs.length ∧
    ((account.pack id).provider ≠ .razorpay →
      level ≤ (account.pack id).refundedItemAmountCentsProcessed)
  uuid : ∀ id level uuid, entry.reason = .settlementReversal id level uuid →
    uuid < account.ledger.length

def Account.Stamped (account : Account) : Prop := ∀ entry ∈ account.ledger, entry.Stamped account

structure Stamps (before after : Account) : Prop where
  packsLength : before.packs.length ≤ after.packs.length
  ledgerLength : before.ledger.length ≤ after.ledger.length
  provider : ∀ id < before.packs.length, (after.pack id).provider = (before.pack id).provider
  processed : ∀ id < before.packs.length, (before.pack id).provider ≠ .razorpay →
    (before.pack id).refundedItemAmountCentsProcessed ≤
      (after.pack id).refundedItemAmountCentsProcessed
  rows : ∀ entry ∈ after.ledger, entry ∈ before.ledger ∨ entry.Stamped after

theorem CreditLedger.Stamped.other {account : Account} {entry : CreditLedger}
    (billing : ∀ id level, entry.reason ≠ .billingReversal id level)
    (settlement : ∀ id level uuid, entry.reason ≠ .settlementReversal id level uuid) :
    entry.Stamped account :=
  ⟨fun id level same => absurd same (billing id level),
    fun id level uuid same => absurd same (settlement id level uuid)⟩

namespace Stamps

variable {first second third : Account}

theorem refl (account : Account) : Stamps account account :=
  ⟨le_rfl, le_rfl, fun _ _ => rfl, fun _ _ _ => le_rfl, fun _ member => .inl member⟩

theorem stamped {entry : CreditLedger} (stamps : Stamps first second)
    (stamped : entry.Stamped first) : entry.Stamped second where
  level id level same := by
    obtain ⟨bound, reached⟩ := stamped.level id level same
    refine ⟨bound.trans_le stamps.packsLength, fun other => ?_⟩
    rw [stamps.provider id bound] at other
    exact (reached other).trans (stamps.processed id bound other)
  uuid id level uuid same := (stamped.uuid id level uuid same).trans_le stamps.ledgerLength

theorem trans (left : Stamps first second) (right : Stamps second third) : Stamps first third where
  packsLength := left.packsLength.trans right.packsLength
  ledgerLength := left.ledgerLength.trans right.ledgerLength
  provider id bound :=
    (right.provider id (bound.trans_le left.packsLength)).trans (left.provider id bound)
  processed id bound other := (left.processed id bound other).trans
    (right.processed id (bound.trans_le left.packsLength) (by rwa [left.provider id bound]))
  rows entry member := by
    rcases right.rows entry member with earlier | written
    · exact (left.rows entry earlier).imp id right.stamped
    · exact .inr written

theorem run (stamps : Stamps first second) (stamped : first.Stamped) : second.Stamped := by
  intro entry member
  rcases stamps.rows entry member with earlier | written
  · exact stamps.stamped (stamped entry earlier)
  · exact written

theorem expireUserPacks (account : Account) (now : Int) :
    Stamps account (account.expireUserPacks now) where
  packsLength := (packs_length_expireUserPacks now account).ge
  ledgerLength := by rw [ledger_expireUserPacks]
  provider id _ := (sameTerms_expireUserPacks now account id).provider
  processed id _ _ := (processed_expireUserPacks now account id).ge
  rows entry member := by
    rw [ledger_expireUserPacks] at member
    exact .inl member

theorem append {entry : CreditLedger} (packsLength : second.packs.length = first.packs.length)
    (terms : ∀ id < first.packs.length, (first.pack id).SameTerms (second.pack id))
    (processed : ∀ id, (second.pack id).refundedItemAmountCentsProcessed =
      (first.pack id).refundedItemAmountCentsProcessed)
    (ledger : second.ledger = first.ledger ++ [entry])
    (billing : ∀ id level, entry.reason ≠ .billingReversal id level)
    (settlement : ∀ id level uuid, entry.reason ≠ .settlementReversal id level uuid) :
    Stamps first second where
  packsLength := packsLength.ge
  ledgerLength := by
    rw [ledger, List.length_append]
    omega
  provider id bound := (terms id bound).provider
  processed id _ _ := (processed id).ge
  rows entry member := by
    rw [ledger] at member
    refine (List.mem_append.mp member).imp id fun written => ?_
    rw [List.mem_singleton.mp written]
    exact .other billing settlement

theorem setPack {account : Account} {id : Nat} {pack : BillingCreditPack}
    (razorpay : (account.pack id).provider = .razorpay)
    (provider : pack.provider = (account.pack id).provider) :
    Stamps account (account.setPack id pack) where
  packsLength := (packs_length_setPack pack).ge
  ledgerLength := le_rfl
  provider other _ := column_setPack (·.provider) provider other
  processed other _ notRazorpay := by
    have different : other ≠ id := by
      rintro rfl
      exact notRazorpay razorpay
    rw [pack_setPack_ne different]
  rows _ member := .inl member

end Stamps

section Reversal

variable {session : Session} {sourceId : Nat} {account : Account}

theorem ledger_reverseRefund (amountCents : Int) (fullOrFraud : Bool) (reasonLabel : String)
    (ledgerReason : Option LedgerReason) (sourced : account.Sourced)
    (bound : sourceId < account.packs.length) :
    (reverseRefund session sourceId amountCents fullOrFraud reasonLabel ledgerReason
        account).1.ledger = account.ledger ∨
      ∃ entry, (reverseRefund session sourceId amountCents fullOrFraud reasonLabel ledgerReason
          account).1.ledger = account.ledger ++ [entry] ∧
        entry.reason = ledgerReason.getD (.billingReversal sourceId
          ((account.pack sourceId).refundLevel amountCents fullOrFraud)) := by
  simp only [reverseRefund]
  split
  · exact .inl rfl
  split
  · exact .inl rfl
  · right
    obtain ⟨drained, debtCreated, donors, owed, -, -, supplied, owing, closed⟩ :=
      revokeCredits_close session ((account.pack sourceId).refundLevel amountCents fullOrFraud)
        ((account.pack sourceId).refundedTotal amountCents) reasonLabel
        (ledgerReason.getD (.billingReversal sourceId
          ((account.pack sourceId).refundLevel amountCents fullOrFraud))) sourced bound
    have ledger : owed.ledger = account.ledger := by
      rw [owing.rest, supplied.rest]
      rfl
    rw [closed, ← ledger]
    exact ⟨_, rfl, rfl⟩

theorem Stamps.reverseRefund (amountCents : Int) (fullOrFraud : Bool) (reasonLabel : String)
    {ledgerReason : Option LedgerReason} (sourced : account.Sourced)
    (bound : sourceId < account.packs.length)
    (given : ∀ reason ∈ ledgerReason, (∀ id level, reason ≠ .billingReversal id level) ∧
      ∀ id level uuid, reason = .settlementReversal id level uuid →
        uuid ≤ account.ledger.length) :
    Stamps account (Billing.reverseRefund session sourceId amountCents fullOrFraud reasonLabel
      ledgerReason account).1 := by
  have reversed := @reverseRefund_reversedTo session sourceId account amountCents fullOrFraud
    reasonLabel ledgerReason sourced bound
  have ledger := @ledger_reverseRefund session sourceId account amountCents fullOrFraud reasonLabel
    ledgerReason sourced bound
  generalize (Billing.reverseRefund session sourceId amountCents fullOrFraud reasonLabel
    ledgerReason account).1 = result at reversed ledger
  refine {
    packsLength := reversed.packsLength.ge
    ledgerLength := ?_
    provider := fun id _ => (reversed.sameTerms id).provider
    processed := fun id _ _ => ?_
    rows := fun entry member => ?_ }
  · rcases ledger with same | ⟨entry, same, -⟩ <;> simp [same]
  · by_cases here : id = sourceId
    · rw [here, reversed.source]
      exact le_max_left _ _
    · rw [reversed.others id here, (meters_give _ _).2]
  · rcases ledger with same | ⟨written, same, reason⟩
    · exact .inl (same ▸ member)
    rw [same] at member
    rcases List.mem_append.mp member with earlier | here
    · exact .inl earlier
    right
    rw [List.mem_singleton.mp here]
    cases stated : ledgerReason with
    | none =>
        rw [stated, Option.getD_none] at reason
        refine ⟨fun id level refunded => ?_, fun id level uuid settled => ?_⟩
        · rw [reason] at refunded
          cases refunded
          rw [reversed.packsLength, reversed.source]
          exact ⟨bound, fun _ => le_max_right _ _⟩
        · rw [reason] at settled
          cases settled
    | some stamp =>
        obtain ⟨billing, settlement⟩ := given stamp stated
        rw [stated, Option.getD_some] at reason
        refine ⟨fun id level refunded => absurd (reason ▸ refunded) (billing id level),
          fun id level uuid settled => ?_⟩
        have := settlement id level uuid (reason ▸ settled)
        rw [same, List.length_append, List.length_singleton]
        omega

end Reversal

end Thought2Build.Billing
