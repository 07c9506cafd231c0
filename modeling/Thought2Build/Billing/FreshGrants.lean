import Thought2Build.Billing.ReversalCommits

/-!
A grant commits in every account that satisfies the schema, as long as its own keys are new:
neither the settled debts nor their audit rows can break a constraint.
-/

namespace Thought2Build.Billing

open Rows Account

structure Account.Referenced (account : Account) : Prop where
  entries : ∀ allocation ∈ account.allocations, allocation.ledgerEntryId < account.ledger.length
  recoveries : ∀ entry ∈ account.ledger, ∀ debtId packId,
    entry.reason = .debtRecovery debtId packId → packId < account.packs.length

/-- An account in the middle of a grant out of pack `packId`, of which `left` credits are left
and the debts `ids` are still to come. -/
structure Account.Granting (packId : Nat) (left : Int) (ids : List Nat) (account : Account) : Prop
    where
  constraints : account.Constraints
  bound : packId < account.packs.length
  own : (account.pack packId).creditsRemaining = left
  entries : ∀ allocation ∈ account.allocations, allocation.ledgerEntryId < account.ledger.length
  unsettled : ∀ entry ∈ account.ledger, ∀ id ∈ ids, entry.reason ≠ .debtRecovery id packId

theorem BillingCreditPack.Checks.supply {pack : BillingCreditPack} {amount : Int}
    {status : PackStatus} (checks : pack.Checks) (nonneg : 0 ≤ amount)
    (covered : amount ≤ pack.creditsRemaining) : (pack.supply amount status).Checks := by
  simp only [BillingCreditPack.Checks, BillingCreditPack.accounted, BillingCreditPack.supply]
    at checks ⊢
  obtain ⟨h1, h2, h3, h4, h5, h6, h7, h8, h9, h10, h11, h12, h13, h14, h15, h16⟩ := checks
  refine ⟨h1, ?_, h3, h4, ?_, h6, h7, h8, h9, h10, h11, ?_, ?_, h14, h15, h16⟩ <;> omega

theorem BillingCreditDebt.Checks.recover {debt : BillingCreditDebt} {take : Int}
    (checks : debt.Checks) (nonneg : 0 ≤ take) (owed : take ≤ debt.outstanding) :
    (debt.recover take).Checks :=
  ⟨checks.1, debtRecover_bounds checks.2 nonneg owed⟩

theorem checks_of_mem_set {α : Type} {holds : α → Prop} {rows : List α} {position : Nat} {row : α}
    (all : ∀ other ∈ rows, holds other) (here : holds row) :
    ∀ other ∈ rows.set position row, holds other := by
  intro other member
  rcases List.mem_or_eq_of_mem_set member with older | rfl
  · exact all other older
  · exact here

section Settle

variable {session : Session} {packId id : Nat} {left take : Int} {ids : List Nat}
  {account : Account}

theorem Account.Granting.settleDebt (session : Session)
    (granting : account.Granting packId left (id :: ids)) (once : id ∉ ids)
    (bound : id < account.debts.length) (positive : 0 < take) (available : take ≤ left)
    (owed : take ≤ (account.debt id).outstanding) :
    (account.settleDebt session packId id take).Granting packId (left - take) ids := by
  obtain ⟨constraints, packBound, own, entries, unsettled⟩ := granting
  have packChecks := constraints.packs _ (mem_packs.mpr ⟨packId, packBound, rfl⟩)
  have debtChecks := constraints.debts _ (mem_debts.mpr ⟨id, bound, rfl⟩)
  refine ⟨⟨?_, ?_, ?_, ?_, ?_, ?_, ?_⟩, ?_, ?_, ?_, ?_⟩
  · exact checks_of_mem_set constraints.packs (packChecks.supply positive.le (own.symm ▸ available))
  · exact checks_of_mem_set constraints.debts (debtChecks.recover positive.le owed)
  · intro allocation member
    rcases List.mem_append.mp member with older | newer
    · exact constraints.allocations allocation older
    · rw [List.mem_singleton.mp newer]
      exact ⟨positive, le_rfl, positive.le⟩
  · apply packsDistinct_of_terms constraints.packsDistinct (packs_length_setPack _)
    intro other
    rw [pack_setPack]
    split
    · rename_i here
      rw [here.1]
      constructor <;> rfl
    · exact .refl _
  · apply debtSources_carry constraints.debtSources List.length_set
    intro other
    change ((account.setDebt id _).debt other).sourcePackId = _
    rw [debt_setDebt]
    split
    · rename_i here
      rw [here.1]
      rfl
    · rfl
  · refine List.pairwise_append.mpr ⟨constraints.allocationKeys, List.pairwise_singleton _ _, ?_⟩
    intro older was newer is same
    rw [List.mem_singleton.mp is] at same
    exact (entries older was).ne same.1
  · apply ledgerReasons_append constraints.ledgerReasons
    intro older was
    exact unsettled older was id List.mem_cons_self
  · exact (packs_length_setPack _).symm ▸ packBound
  · change ((account.setPack packId _).pack packId).creditsRemaining = _
    rw [pack_setPack_self packBound]
    simp only [BillingCreditPack.supply, own]
  · intro allocation member
    change _ < (account.ledger ++ [_]).length
    rw [List.length_append, List.length_singleton]
    rcases List.mem_append.mp member with older | newer
    · have := entries allocation older
      omega
    · rw [List.mem_singleton.mp newer]
      exact Nat.lt_succ_self _
  · intro entry member other later
    rcases List.mem_append.mp member with older | newer
    · exact unsettled entry older other (List.mem_cons_of_mem _ later)
    · rw [List.mem_singleton.mp newer]
      rintro same
      obtain ⟨rfl, -⟩ := LedgerReason.debtRecovery.inj same
      exact once later

structure Account.SettlesOnly (packId : Nat) (before after : Account) : Prop where
  packsLength : after.packs.length = before.packs.length
  terms : ∀ other, (before.pack other).SameTerms (after.pack other)
  processed : ∀ other, (after.pack other).refundedItemAmountCentsProcessed =
    (before.pack other).refundedItemAmountCentsProcessed
  written : ∀ entry ∈ after.ledger,
    entry ∈ before.ledger ∨ ∃ debtId, entry.reason = .debtRecovery debtId packId

theorem Account.SettlesOnly.refl (packId : Nat) (account : Account) :
    account.SettlesOnly packId account :=
  ⟨rfl, fun _ => .refl _, fun _ => rfl, fun _ => .inl⟩

theorem Account.SettlesOnly.trans {first second third : Account}
    (here : first.SettlesOnly packId second) (later : second.SettlesOnly packId third) :
    first.SettlesOnly packId third where
  packsLength := later.packsLength.trans here.packsLength
  terms other := (here.terms other).trans (later.terms other)
  processed other := (later.processed other).trans (here.processed other)
  written entry member := (later.written entry member).elim (here.written entry) .inr

theorem settleDebt_settlesOnly (session : Session) (packId id : Nat) (take : Int)
    (account : Account) : account.SettlesOnly packId (account.settleDebt session packId id take) where
  packsLength := packs_length_setPack _
  terms other := by
    change (account.pack other).SameTerms ((account.setPack packId _).pack other)
    rw [pack_setPack]
    split
    · rename_i here
      rw [here.1]
      constructor <;> rfl
    · exact .refl _
  processed other := by
    change ((account.setPack packId _).pack other).refundedItemAmountCentsProcessed = _
    rw [pack_setPack]
    split
    · rename_i here
      rw [here.1]
      rfl
    · rfl
  written entry member := by
    rcases List.mem_append.mp member with older | newer
    · exact .inl older
    · rw [List.mem_singleton.mp newer]
      exact .inr ⟨id, rfl⟩

theorem settleDebts_settlesOnly (session : Session) (packId : Nat) (ids : List Nat) (left : Int)
    (account : Account) : account.SettlesOnly packId (settleDebts session packId ids left account).1 := by
  induction ids generalizing left account with
  | nil => exact .refl packId account
  | cons id ids ih =>
      rw [settleDebts]
      split
      · exact .refl packId account
      · simp only
        split
        · exact ih left account
        · exact (settleDebt_settlesOnly session packId id _ account).trans (ih _ _)

theorem grantCredits_settlesOnly {granted : Int} {ledgerReason : LedgerReason} {after : Account}
    (ran : grantCreditsWithDebtRecovery session packId granted ledgerReason account = some after) :
    after.packs.length = account.packs.length ∧
      (∀ other, (account.pack other).SameTerms (after.pack other)) ∧
      (∀ other, (after.pack other).refundedItemAmountCentsProcessed =
        (account.pack other).refundedItemAmountCentsProcessed) ∧
      ∀ entry ∈ after.ledger, entry ∈ account.ledger ∨ entry.reason = ledgerReason ∨
        ∃ debtId, entry.reason = .debtRecovery debtId packId := by
  obtain ⟨rfl, -⟩ := Account.Constraints.flush (Except.toOption_eq_some ran)
  have settled := settleDebts_settlesOnly session packId ((scan
    (fun id => (account.debt id).createdAt) session.scanRank account.debts.length).filter
      fun id => decide ((account.debt id).status = .pending)) granted account
  refine ⟨settled.packsLength, settled.terms, settled.processed, ?_⟩
  intro entry member
  rcases List.mem_append.mp member with older | newer
  · exact (settled.written entry older).imp_right .inr
  · rw [List.mem_singleton.mp newer]
    exact .inr (.inl rfl)

theorem Account.Granting.settleDebts (granting : account.Granting packId left ids)
    (once : ids.Nodup) (bounds : ∀ id ∈ ids, id < account.debts.length) :
    (settleDebts session packId ids left account).1.Constraints := by
  induction ids generalizing left account with
  | nil => exact granting.constraints
  | cons id ids ih =>
      obtain ⟨fresh, rest⟩ := List.nodup_cons.mp once
      rw [Billing.settleDebts]
      split
      · exact granting.constraints
      · rename_i some
        simp only
        split
        · apply ih _ rest
          · exact fun other member => bounds other (List.mem_cons_of_mem _ member)
          · exact { granting with
              unsettled := fun entry member other later =>
                granting.unsettled entry member other (List.mem_cons_of_mem _ later) }
        · have step := granting.settleDebt session fresh (bounds id List.mem_cons_self)
            (by omega : 0 < min left (account.debt id).outstanding) (min_le_left _ _)
            (min_le_right _ _)
          apply ih step rest
          intro other member
          have := bounds other (List.mem_cons_of_mem _ member)
          exact this.trans_eq List.length_set.symm

end Settle

theorem grant_commits (session : Session) {terms : PackTerms} {ledgerReason : LedgerReason}
    {account : Account} (constraints : account.Constraints) (referenced : account.Referenced)
    (checks : terms.pack.Checks) (distinct : ∀ pack ∈ account.packs, pack.Distinct terms.pack)
    (unwritten : ∀ entry ∈ account.ledger, entry.reason ≠ ledgerReason)
    (purchase : ∀ debtId packId, ledgerReason ≠ .debtRecovery debtId packId) :
    (account.addPack terms.pack).Constraints ∧
      ∃ after, grantCreditsWithDebtRecovery session account.packs.length terms.credits ledgerReason
        (account.addPack terms.pack) = some after := by
  have inserted : (account.addPack terms.pack).Constraints := {
    constraints with
    packs := fun pack member => by
      rcases List.mem_append.mp member with older | newer
      · exact constraints.packs pack older
      · rw [List.mem_singleton.mp newer]
        exact checks
    packsDistinct := by
      refine List.pairwise_append.mpr ⟨constraints.packsDistinct, List.pairwise_singleton _ _, ?_⟩
      intro older was newer is
      rw [List.mem_singleton.mp is]
      exact distinct older was }
  refine ⟨inserted, ?_⟩
  have once := (scan_nodup (fun id => ((account.addPack terms.pack).debt id).createdAt)
    session.scanRank (account.addPack terms.pack).debts.length).filter
      fun id => decide (((account.addPack terms.pack).debt id).status = .pending)
  have settled := @Account.Granting.settleDebts session account.packs.length terms.credits _
    (account.addPack terms.pack) {
      constraints := inserted
      bound := packs_length_addPack _ _
      own := by rw [pack_addPack, if_pos rfl]; rfl
      entries := referenced.entries
      unsettled := fun entry member id _ same =>
        (referenced.recoveries entry member id _ same).false } once
    fun id member => mem_scan.mp (List.mem_filter.mp member).1
  simp only [grantCreditsWithDebtRecovery, flush]
  rw [if_pos]
  · exact ⟨_, rfl⟩
  · refine { settled with ledgerReasons := ledgerReasons_append settled.ledgerReasons ?_ }
    intro older was same
    rcases (settleDebts_settlesOnly _ _ _ _ _).written older was with earlier | ⟨debtId, recovery⟩
    · exact unwritten older earlier same
    · exact purchase debtId _ (same.symm.trans recovery)

end Thought2Build.Billing
