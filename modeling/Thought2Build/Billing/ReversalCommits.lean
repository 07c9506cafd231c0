import Thought2Build.Billing.ReversalEffects

/-!
Which reversals the database accepts. Of everything tested at the flush, a reversal can only break
the bound of the refunded total by the order total.
-/

namespace Thought2Build.Billing

open Rows Account Waterfall

theorem BillingCreditPack.Checks.carry {before after : BillingCreditPack} (checks : before.Checks)
    (sound : after.Sound) (terms : before.SameTerms after)
    (seen : 0 ≤ after.providerRefundedTotalCentsSeen)
    (seenLe : ∀ total ∈ before.providerOrderTotalCents,
      after.providerRefundedTotalCentsSeen ≤ total)
    (processed : 0 ≤ after.refundedItemAmountCentsProcessed)
    (processedLe : after.refundedItemAmountCentsProcessed ≤ before.paidItemAmountCents) :
    after.Checks := by
  obtain ⟨purchased, -, -, -, -, -, price, paid, total, -⟩ := checks
  obtain ⟨h1, h2, h3, h4, h5, h6, h7, -⟩ := sound
  simp only [BillingCreditPack.gap] at h5 h6
  refine ⟨terms.purchased ▸ purchased, h1, h2, h3, h4, h5.trans h6, terms.priceCents ▸ price,
    terms.paidItem ▸ paid, terms.orderTotal ▸ total, seen, processed, ?_, ?_,
    terms.paidItem ▸ processedLe, terms.orderTotal ▸ seenLe, ?_⟩ <;> omega

theorem sameTerms_give (pack : BillingCreditPack) (take : Int) : pack.SameTerms (pack.give take) := by
  rw [BillingCreditPack.give]
  split
  · exact .refl pack
  · constructor <;> rfl

theorem meters_give (pack : BillingCreditPack) (take : Int) :
    (pack.give take).providerRefundedTotalCentsSeen = pack.providerRefundedTotalCentsSeen ∧
      (pack.give take).refundedItemAmountCentsProcessed =
        pack.refundedItemAmountCentsProcessed := by
  rw [BillingCreditPack.give]
  split <;> exact ⟨rfl, rfl⟩

section Packs

variable {session : Session} {sourceId : Nat} {level seen : Int} {before after : Account}

theorem ReversedTo.sameTerms (reversed : ReversedTo session sourceId level seen before after)
    (id : Nat) : (before.pack id).SameTerms (after.pack id) := by
  by_cases here : id = sourceId
  · rw [here, reversed.source]
    constructor <;> rfl
  · rw [reversed.others id here]
    exact sameTerms_give _ _

theorem ReversedTo.packChecks (reversed : ReversedTo session sourceId level seen before after)
    (checks : ∀ pack ∈ before.packs, pack.Checks) (rows : after.RowsSound)
    (level_le : level ≤ (before.pack sourceId).paidItemAmountCents)
    (within : ∀ total ∈ (before.pack sourceId).providerOrderTotalCents, seen ≤ total) :
    ∀ pack ∈ after.packs, pack.Checks := by
  intro pack member
  obtain ⟨id, bound, rfl⟩ := mem_packs.mp member
  rw [reversed.packsLength] at bound
  have earlier := checks _ (mem_packs.mpr ⟨id, bound, rfl⟩)
  have meters := earlier
  obtain ⟨-, -, -, -, -, -, -, -, -, seenNonneg, processed, -, -, processedLe, seenLe, -⟩ := meters
  by_cases here : id = sourceId
  · subst here
    refine earlier.carry (rows.packs id) (reversed.sameTerms id) ?_ (fun total given => ?_) ?_ ?_ <;>
      rw [reversed.source]
    · exact seenNonneg.trans (le_max_left _ _)
    · exact max_le (seenLe total given) (within total given)
    · exact processed.trans (le_max_left _ _)
    · exact max_le processedLe level_le
  · obtain ⟨sameSeen, sameProcessed⟩ := meters_give (before.pack id)
      (poured (before.donorCapacity sourceId) (before.packsByExpiry session)
        ((before.pack sourceId).uncovered level) id)
    rw [← reversed.others id here] at sameSeen sameProcessed
    exact earlier.carry (rows.packs id) (reversed.sameTerms id) (by omega)
      (fun total given => sameSeen ▸ seenLe total given) (by omega) (by omega)

end Packs

theorem packsDistinct_of_terms {before after : Account}
    (distinct : before.packs.Pairwise BillingCreditPack.Distinct)
    (length : after.packs.length = before.packs.length)
    (terms : ∀ id, (before.pack id).SameTerms (after.pack id)) :
    after.packs.Pairwise BillingCreditPack.Distinct := by
  rw [List.pairwise_iff_getElem] at distinct ⊢
  intro first second firstBound secondBound earlier
  have apart := distinct first second (length ▸ firstBound) (length ▸ secondBound) earlier
  have get : ∀ (account : Account) id (bound : id < account.packs.length),
      account.packs[id] = account.pack id := fun account id bound => by
    simp [Account.pack, bound]
  rw [get] at apart ⊢
  rw [get] at apart ⊢
  have left := terms first
  have right := terms second
  simp only [BillingCreditPack.Distinct] at apart ⊢
  rwa [left.provider, left.orderId, left.checkoutId, right.provider, right.orderId,
    right.checkoutId]

theorem Account.Sound.expireUserPacks {account : Account} (sound : account.Sound) (now : Int) :
    (account.expireUserPacks now).Sound := by
  have terms := sameTerms_expireUserPacks now account
  have rows := sound.rows.expireUserPacks now
  refine {
    toSourced := sound.toSourced.expireUserPacks now
    toBooked := sound.toBooked.expireUserPacks now
    packs := fun pack member => ?_
    debts := by simpa using sound.debts
    allocations := by simpa using sound.allocations
    packsDistinct := packsDistinct_of_terms sound.packsDistinct
      (packs_length_expireUserPacks now account) terms
    debtSources := by simpa using sound.debtSources
    allocationKeys := by simpa using sound.allocationKeys
    ledgerReasons := by simpa using sound.ledgerReasons }
  obtain ⟨id, bound, rfl⟩ := mem_packs.mp member
  rw [packs_length_expireUserPacks] at bound
  have earlier := sound.packs _ (mem_packs.mpr ⟨id, bound, rfl⟩)
  have meters := earlier
  obtain ⟨-, -, -, -, -, -, -, -, -, seen, processed, -, -, processedLe, seenLe, -⟩ := meters
  have sameProcessed := processed_expireUserPacks now account id
  have sameSeen : ((account.expireUserPacks now).pack id).providerRefundedTotalCentsSeen =
      (account.pack id).providerRefundedTotalCentsSeen := by
    rw [pack_expireUserPacks]
    split <;> rfl
  exact earlier.carry (rows.packs id) (terms id) (by omega)
    (fun total given => sameSeen ▸ seenLe total given) (by omega) (by omega)

section Rows

variable {session : Session} {sourceId : Nat} {amount : Int} {reasonLabel : String}
  {account : Account}

theorem debtIdOf_absent (missing : account.debts.length ≤ account.debtIdOf sourceId) :
    ∀ debt ∈ account.debts, debt.sourcePackId ≠ sourceId := by
  have none := List.findIdx_eq_length.mp (le_antisymm List.findIdx_le_length missing)
  exact fun debt member => of_decide_eq_false (none debt member)

theorem upsertRefundDebt_checks (positive : 0 < amount)
    (checks : ∀ debt ∈ account.debts, debt.Checks) :
    ∀ debt ∈ (upsertRefundDebt session sourceId amount reasonLabel account).debts,
      debt.Checks := by
  intro debt member
  simp only [upsertRefundDebt] at member
  split at member
  · rename_i found
    rcases List.mem_or_eq_of_mem_set member with older | rfl
    · exact checks debt older
    · obtain ⟨owed, recovered, le⟩ := checks _ (mem_debts.mpr ⟨_, found, rfl⟩)
      exact ⟨Int.add_pos owed positive, recovered, le.trans (Int.le_add_of_nonneg_right positive.le)⟩
  · rcases List.mem_append.mp member with older | newer
    · exact checks debt older
    · rw [List.mem_singleton.mp newer]
      exact ⟨positive, le_rfl, positive.le⟩

theorem upsertRefundDebt_sources
    (distinct : account.debts.Pairwise fun first second =>
      first.sourcePackId ≠ second.sourcePackId) :
    (upsertRefundDebt session sourceId amount reasonLabel account).debts.Pairwise
      fun first second => first.sourcePackId ≠ second.sourcePackId := by
  simp only [upsertRefundDebt]
  split
  · rename_i found
    refine debtSources_carry distinct (List.length_set ..) fun id => ?_
    rw [debt_setDebt]
    split
    · rename_i here
      rw [here.1]
    · rfl
  · rename_i missing
    refine List.pairwise_append.mpr ⟨distinct, List.pairwise_singleton _ _, ?_⟩
    intro debt older newer member
    rw [List.mem_singleton.mp member]
    exact debtIdOf_absent (Nat.not_lt.mp missing) debt older

theorem drainDonors_sublist (sourceId : Nat) (ids : List Nat) (need : Int) (account : Account) :
    ((drainDonors sourceId ids need account).2.2.map Prod.fst).Sublist ids := by
  induction ids generalizing need account with
  | nil => exact .slnil
  | cons id ids ih =>
      rw [drainDonors]
      split
      · exact List.nil_sublist _
      simp only
      split
      · exact (ih _ _).cons _
      split
      · exact (ih _ _).cons _
      · exact (ih _ _).cons_cons _

theorem donorAllocations_checks {donors : List (Nat × Int)} {ledgerEntryId : Nat}
    (checks : ∀ allocation ∈ account.allocations, allocation.Checks)
    (positive : ∀ donor ∈ donors, 0 < donor.2) :
    ∀ allocation ∈ account.allocations ++ donors.map (donorAllocation ledgerEntryId sourceId),
      allocation.Checks := by
  intro allocation member
  rcases List.mem_append.mp member with older | newer
  · exact checks allocation older
  · obtain ⟨donor, given, rfl⟩ := List.mem_map.mp newer
    exact ⟨positive donor given, le_rfl, (positive donor given).le⟩

theorem donorAllocations_keys {donors : List (Nat × Int)}
    (keys : account.allocations.Pairwise fun first second =>
      ¬(first.ledgerEntryId = second.ledgerEntryId ∧ first.packId = second.packId))
    (entries : ∀ allocation ∈ account.allocations,
      allocation.ledgerEntryId < account.ledger.length)
    (distinct : (donors.map Prod.fst).Nodup) :
    (account.allocations ++
      donors.map (donorAllocation account.ledger.length sourceId)).Pairwise fun first second =>
        ¬(first.ledgerEntryId = second.ledgerEntryId ∧ first.packId = second.packId) := by
  refine List.pairwise_append.mpr ⟨keys, ?_, fun older was newer is same => ?_⟩
  · rw [List.pairwise_map]
    exact (List.pairwise_map.mp distinct).imp fun apart same => apart same.2
  · obtain ⟨donor, -, rfl⟩ := List.mem_map.mp is
    exact (entries older was).ne same.1

theorem ledgerReasons_append {entry : CreditLedger}
    (distinct : account.ledger.Pairwise fun first second =>
      ¬(first.reason.unique = true ∧ first.reason = second.reason))
    (fresh : ∀ older ∈ account.ledger, older.reason ≠ entry.reason) :
    (account.ledger ++ [entry]).Pairwise fun first second =>
      ¬(first.reason.unique = true ∧ first.reason = second.reason) := by
  refine List.pairwise_append.mpr ⟨distinct, List.pairwise_singleton _ _, ?_⟩
  intro older was newer is same
  rw [List.mem_singleton.mp is] at same
  exact fresh older was same.2

end Rows

section Commits

variable {session : Session} {sourceId : Nat} {revoke level seen : Int} {reasonLabel : String}
  {account : Account}

theorem revokeCredits_constraints {ledgerReason : LedgerReason} (sound : account.Sound)
    (bound : sourceId < account.packs.length)
    (fresh : ∀ older ∈ account.ledger, older.reason ≠ ledgerReason)
    {result : Account}
    (ran : (revokeCredits session sourceId revoke level seen reasonLabel ledgerReason account).1 =
      result)
    (packs : ∀ pack ∈ result.packs, pack.Checks)
    (packsDistinct : result.packs.Pairwise BillingCreditPack.Distinct) : result.Constraints := by
  obtain ⟨drained, debtCreated, donors, owed, drain, debt, supplied, owing, closed⟩ :=
    revokeCredits_close session level seen reasonLabel ledgerReason sound.toSourced bound
  rw [closed] at ran
  have distinct : (donors.map Prod.fst).Nodup := by
    have sublist := drainDonors_sublist sourceId ((account.packsByExpiry session).filter fun id =>
        (account.pack id).status = .active ∨ id = sourceId)
      (revoke - min (account.pack sourceId).creditsRemaining revoke)
      (account.takeOwn sourceId (min (account.pack sourceId).creditsRemaining revoke))
    rw [drain] at sublist
    exact sublist.nodup ((scan_nodup _ _ _).filter _)
  have ledger : owed.ledger = account.ledger := by
    rw [owing.rest, supplied.rest]
    rfl
  have allocations : owed.allocations = account.allocations := by
    rw [owing.rest, supplied.rest]
    rfl
  have debts : drained.debts = account.debts := by
    rw [supplied.rest]
    rfl
  subst ran
  refine {
    packs
    packsDistinct
    debts := ?_
    allocations := ?_
    debtSources := ?_
    allocationKeys := ?_
    ledgerReasons := ?_ }
  · change ∀ debt ∈ owed.debts, debt.Checks
    rw [← debt]
    split
    · rename_i positive
      exact upsertRefundDebt_checks positive (debts ▸ sound.debts)
    · exact debts ▸ sound.debts
  · change ∀ allocation ∈ owed.allocations ++ _, _
    rw [allocations]
    exact donorAllocations_checks sound.allocations fun donor given =>
      (supplied.donors donor given).2.2.1
  · change owed.debts.Pairwise _
    rw [← debt]
    split
    · exact upsertRefundDebt_sources (debts ▸ sound.debtSources)
    · exact debts ▸ sound.debtSources
  · change (owed.allocations ++ donors.map (donorAllocation owed.ledger.length sourceId)).Pairwise _
    rw [allocations, ledger]
    exact donorAllocations_keys sound.allocationKeys sound.entries distinct
  · change (owed.ledger ++ _).Pairwise _
    rw [ledger]
    exact ledgerReasons_append sound.ledgerReasons fresh

theorem Account.Constraints.setPack {pack : BillingCreditPack}
    (constraints : account.Constraints)
    (packs : ∀ row ∈ (account.setPack sourceId pack).packs, row.Checks)
    (packsDistinct : (account.setPack sourceId pack).packs.Pairwise BillingCreditPack.Distinct) :
    (account.setPack sourceId pack).Constraints :=
  { constraints with packs, packsDistinct }

theorem reverseRefund_constraints (amountCents : Int) (fullOrFraud : Bool) (reasonLabel : String)
    {ledgerReason : Option LedgerReason} (sound : account.Sound)
    (bound : sourceId < account.packs.length) (quiet : ∀ reason ∈ ledgerReason, reason.Quiet)
    (fresh : (account.pack sourceId).refundedItemAmountCentsProcessed <
        (account.pack sourceId).refundLevel amountCents fullOrFraud →
      ∀ older ∈ account.ledger, older.reason ≠ ledgerReason.getD
        (.billingReversal sourceId ((account.pack sourceId).refundLevel amountCents fullOrFraud))) :
    (reverseRefund session sourceId amountCents fullOrFraud reasonLabel ledgerReason
        account).1.Constraints ↔
      ∀ total ∈ (account.pack sourceId).providerOrderTotalCents,
        (account.pack sourceId).refundedTotal amountCents ≤ total := by
  have paid := (sound.toConstraints.priced sourceId bound).1
  have reversed := @reverseRefund_reversedTo session sourceId account amountCents fullOrFraud
    reasonLabel ledgerReason sound.toSourced bound
  have level_le := (refundLevel_bounds amountCents fullOrFraud paid).2
  constructor
  · intro constraints total given
    have checks := constraints.packs _ (mem_packs.mpr ⟨sourceId, reversed.packsLength ▸ bound, rfl⟩)
    obtain ⟨-, -, -, -, -, -, -, -, -, -, -, -, -, -, seenLe, -⟩ := checks
    have below := seenLe total ((reversed.sameTerms sourceId).orderTotal.symm ▸ given)
    rw [reversed.source] at below
    exact (le_max_right _ _).trans below
  · intro within
    obtain ⟨-, transferred⟩ := reverseRefund_transferred session amountCents fullOrFraud reasonLabel
      sound.toSourced bound paid quiet
    have packs := reversed.packChecks sound.packs transferred.rows level_le within
    have distinct := packsDistinct_of_terms sound.packsDistinct reversed.packsLength
      reversed.sameTerms
    clear reversed transferred
    simp only [reverseRefund] at packs distinct ⊢
    split at packs <;> rename_i reached
    · simp only [reached, if_true] at distinct ⊢
      exact sound.toConstraints.setPack packs distinct
    · split at packs <;> rename_i nothing
      · simp only [reached, nothing, if_true, if_false] at distinct ⊢
        exact sound.toConstraints.setPack packs distinct
      · simp only [reached, nothing, if_false] at distinct ⊢
        exact revokeCredits_constraints sound bound (fresh (Int.not_le.mp reached)) rfl packs distinct

end Commits

end Thought2Build.Billing
