import Thought2Build.Billing.LentCredits

/-!
Deduct and refund. On one clock value the refund of a deduction puts back every credit, pack column
and debt; a later refund of the same row changes nothing.
-/

namespace Thought2Build.Billing

open Rows Account

section Deduct

variable {session : Session} {ledgerEntryId : Nat} {amount now : Int} {swept account : Account}

structure Slices (ledgerEntryId : Nat) (account : Account) : Prop where
  checks : ∀ allocation ∈ account.allocations, allocation.Checks
  keys : account.allocations.Pairwise fun first second =>
    ¬(first.ledgerEntryId = second.ledgerEntryId ∧ first.packId = second.packId)
  whole : ∀ allocation ∈ account.allocations, allocation.ledgerEntryId = ledgerEntryId →
    allocation.returnedAmount = 0

theorem Slices.drainPack {id : Nat} {drain : Int} (slices : Slices ledgerEntryId account)
    (nonneg : 0 ≤ drain)
    (unused : ∀ allocation ∈ account.allocations, allocation.ledgerEntryId = ledgerEntryId →
      allocation.packId ≠ id) :
    Slices ledgerEntryId (account.drainPack ledgerEntryId id drain) := by
  have written : ∀ allocation ∈ (account.drainPack ledgerEntryId id drain).allocations,
      allocation ∈ account.allocations ∨ 0 < drain ∧ allocation = {
        ledgerEntryId, packId := id, recoveryForPackId := none, amount := drain
        returnedAmount := 0 } := by
    intro allocation member
    rcases List.mem_append.mp member with older | newer
    · exact .inl older
    · split at newer
      · exact .inr ⟨by omega, List.mem_singleton.mp newer⟩
      · cases newer
  refine ⟨fun allocation member => ?_, ?_, fun allocation member same => ?_⟩
  · rcases written allocation member with older | ⟨positive, rfl⟩
    · exact slices.checks allocation older
    · exact ⟨positive, le_rfl, nonneg⟩
  · change (account.allocations ++ _).Pairwise _
    split
    · refine List.pairwise_append.mpr ⟨slices.keys, List.pairwise_singleton _ _, ?_⟩
      intro older was newer is same
      rw [List.mem_singleton.mp is] at same
      exact unused older was same.1 same.2
    · rw [List.append_nil]
      exact slices.keys
  · rcases written allocation member with older | ⟨-, rfl⟩
    · exact slices.whole allocation older same
    · rfl

theorem Slices.drainFrom {ids : List Nat} (slices : Slices ledgerEntryId account)
    (once : ids.Nodup) (bounds : ∀ id ∈ ids, id < account.packs.length) (nonneg : 0 ≤ amount)
    (sound : account.RowsSound)
    (unused : ∀ allocation ∈ account.allocations, allocation.ledgerEntryId = ledgerEntryId →
      allocation.packId ∉ ids) :
    Slices ledgerEntryId (drainFrom ledgerEntryId ids amount account).1 := by
  induction ids generalizing amount account with
  | nil => exact slices
  | cons id ids ih =>
      obtain ⟨fresh, once⟩ := List.nodup_cons.mp once
      rw [drainFrom_cons]
      split
      · exact slices
      · have remaining := (sound.packs id).remaining
        have here : Drained ledgerEntryId amount _ account _ := Drained.drainPack sound
          (bounds id List.mem_cons_self) (le_min remaining nonneg) (min_le_left _ _)
        refine ih (slices.drainPack (le_min remaining nonneg) fun allocation member same is =>
            unused allocation member same (is ▸ List.mem_cons_self)) once
          (fun other member => here.packsLength ▸ bounds other (List.mem_cons_of_mem _ member))
          (sub_nonneg.mpr (min_le_right _ _)) here.rows fun allocation member same => ?_
        rcases List.mem_append.mp member with older | newer
        · exact fun later => unused allocation older same (List.mem_cons_of_mem _ later)
        · split at newer
          · rw [List.mem_singleton.mp newer]
            exact fresh
          · cases newer

theorem BillingCreditPack.Checks.lend {pack : BillingCreditPack} {lent : Int}
    {status : PackStatus} (checks : pack.Checks) (nonneg : 0 ≤ lent)
    (covered : lent ≤ pack.creditsRemaining) : (pack.lend lent status).Checks := by
  simp only [BillingCreditPack.Checks, BillingCreditPack.accounted, BillingCreditPack.lend]
    at checks ⊢
  obtain ⟨h1, h2, h3, h4, h5, h6, h7, h8, h9, h10, h11, h12, h13, h14, h15, h16⟩ := checks
  refine ⟨h1, ?_, ?_, h4, h5, h6, h7, h8, h9, h10, h11, ?_, ?_, h14, h15, h16⟩ <;> omega

theorem Lending.constraints (lending : Lending ledgerEntryId swept account)
    (checks : ∀ allocation ∈ account.allocations, allocation.Checks)
    (keys : account.allocations.Pairwise fun first second =>
      ¬(first.ledgerEntryId = second.ledgerEntryId ∧ first.packId = second.packId))
    (constraints : swept.Constraints)
    (covered : ∀ id, account.lentTo ledgerEntryId id ≤ (swept.pack id).creditsRemaining)
    (ledgerReasons : account.ledger.Pairwise fun first second =>
      ¬(first.reason.unique = true ∧ first.reason = second.reason)) : account.Constraints where
  packs pack member := by
    obtain ⟨id, bound, rfl⟩ := mem_packs.mp member
    rw [lending.packs id]
    rw [lending.packsLength] at bound
    exact (constraints.packs _ (mem_packs.mpr ⟨id, bound, rfl⟩)).lend (lentTo_nonneg lending)
      (covered id)
  debts := lending.debts ▸ constraints.debts
  allocations := checks
  packsDistinct := by
    refine packsDistinct_of_terms constraints.packsDistinct lending.packsLength fun id => ?_
    rw [lending.packs id]
    constructor <;> rfl
  debtSources := lending.debts ▸ constraints.debtSources
  allocationKeys := keys
  ledgerReasons

def Account.charge (swept : Account) (session : Session) (amount : Int) (reason : String) :
    Account :=
  (swept.addBalance (-amount)).addLedger {
    amount := -amount, reason := .operation reason, metadata := none
    createdAt := session.clock 0 }

theorem drainPacks_lends {reason : String} (sound : swept.Sound) (nonneg : 0 ≤ amount) :
    let drained := drainPacks session amount swept.ledger.length
      (swept.charge session amount reason)
    Lending swept.ledger.length swept drained ∧ Slices swept.ledger.length drained := by
  intro drained
  have start : Lending swept.ledger.length swept (swept.charge session amount reason) :=
    Lending.start sound.entries _ _
  have slices : Slices swept.ledger.length (swept.charge session amount reason) := {
    checks := sound.allocations
    keys := sound.allocationKeys
    whole := fun allocation member same => absurd same (sound.entries allocation member).ne }
  have rows : (swept.charge session amount reason).RowsSound :=
    ⟨sound.rows.packs, sound.rows.debts, sound.rows.allocations⟩
  by_cases nothing : amount ≤ 0
  · simp only [drained, drainPacks, if_pos nothing]
    exact ⟨start, slices⟩
  · have listed := fun id (member : id ∈ ((swept.charge session amount reason).packsByExpiry
        session).filter fun id => ((swept.charge session amount reason).pack id).status = .active) =>
      mem_packsByExpiry.mp member
    have lending := start.drainFrom (fun id member => (listed id member).1)
      (fun id member => of_decide_eq_true (listed id member).2) nonneg rows
    have kept := slices.drainFrom ((scan_nodup _ _ _).filter _)
      (fun id member => (listed id member).1) nonneg rows
      fun allocation member same => absurd same (sound.entries allocation member).ne
    simp only [drained, drainPacks, if_neg nothing]
    exact ⟨lending.rebook _ _, kept.checks, kept.keys, kept.whole⟩

theorem drainPacks_charge {reason : String} (sound : swept.RowsSound) :
    let drained := drainPacks session amount swept.ledger.length
      (swept.charge session amount reason)
    drained.RowsSound ∧
      ∃ left, drained.ledger = swept.ledger ++ [deductionEntry session amount left reason] := by
  have rows : (swept.charge session amount reason).RowsSound :=
    ⟨sound.packs, sound.debts, sound.allocations⟩
  by_cases nothing : amount ≤ 0
  · simp only [drainPacks, if_pos nothing]
    exact ⟨rows, 0, by
      simp [Account.charge, Account.addLedger, Account.addBalance, deductionEntry,
        Int.not_lt.mpr nothing]⟩
  · obtain ⟨left, drained, -, -, step, result, -⟩ := @drainPacks_drained session amount
      swept.ledger.length (swept.charge session amount reason) (by omega) rows
    simp only [result]
    exact ⟨⟨step.rows.packs, step.rows.debts, step.rows.allocations⟩, left, by
      simp [Account.charge, Account.addLedger, Account.addBalance, deductionEntry,
        Int.not_le.mp nothing, modify_last]⟩

theorem ledgerReasons_operation {entry : CreditLedger} {label : String}
    (distinct : account.ledger.Pairwise fun first second =>
      ¬(first.reason.unique = true ∧ first.reason = second.reason))
    (operation : entry.reason = .operation label) :
    (account.ledger ++ [entry]).Pairwise fun first second =>
      ¬(first.reason.unique = true ∧ first.reason = second.reason) := by
  refine List.pairwise_append.mpr ⟨distinct, List.pairwise_singleton _ _, ?_⟩
  rintro older - newer is ⟨unique, same⟩
  rw [same, List.mem_singleton.mp is, operation] at unique
  cases unique

theorem deduct_commits {reason : String} (sound : account.Sound) (nonneg : 0 ≤ amount)
    (covered : amount ≤ (account.expireUserPacks (session.clock 0)).creditBalance) :
    ∃ after, deduct session amount reason account = .ok after ∧
      Lending account.ledger.length (account.expireUserPacks (session.clock 0)) after ∧
      Slices account.ledger.length after := by
  have sweptSound := sound.expireUserPacks (session.clock 0)
  have ledger := ledger_expireUserPacks (session.clock 0) account
  simp only [deduct]
  generalize account.expireUserPacks (session.clock 0) = swept at *
  obtain ⟨lending, slices⟩ := @drainPacks_lends session amount swept reason sweptSound nonneg
  rw [if_neg (Int.not_lt.mpr covered), ← ledger]
  obtain ⟨rows, left, written⟩ := @drainPacks_charge session amount swept reason sweptSound.rows
  refine ⟨_, if_pos (lending.constraints slices.checks slices.keys sweptSound.toConstraints
    (fun id => ?_) ?_), lending, slices⟩
  · have row := congrArg (·.creditsRemaining) (lending.packs id)
    have remaining := (rows.packs id).remaining
    simp only [BillingCreditPack.lend] at row
    omega
  · have reasons := @ledgerReasons_operation swept
      (deductionEntry session amount left reason) reason sweptSound.ledgerReasons rfl
    rwa [← written] at reasons

end Deduct

structure SameValue (first second : Account) : Prop where
  creditBalance : second.creditBalance = first.creditBalance
  packsLength : second.packs.length = first.packs.length
  counters : ∀ id, (second.pack id).creditsRemaining = (first.pack id).creditsRemaining ∧
    (second.pack id).creditsConsumed = (first.pack id).creditsConsumed ∧
    (second.pack id).creditsExpired = (first.pack id).creditsExpired ∧
    (second.pack id).creditsDebtRecovered = (first.pack id).creditsDebtRecovered ∧
    (second.pack id).creditsRevoked = (first.pack id).creditsRevoked
  debts : second.debts = first.debts

section Refund

variable {session : Session} {ledgerEntryId : Nat} {amount now : Int} {swept account : Account}

theorem Lending.unlapsed (lending : Lending ledgerEntryId swept account)
    (unlapsed : swept.Unlapsed now) : account.Unlapsed now := by
  intro id active
  rw [lending.packs id]
  exact unlapsed id (lending.live id active)

theorem lentTo_zero
    (back : ∀ id < account.allocations.length,
      (account.allocation id).ledgerEntryId = ledgerEntryId →
      (account.allocation id).recoveryForPackId = none → (account.allocation id).unreturned = 0)
    (packId : Nat) : account.lentTo ledgerEntryId packId = 0 := by
  refine sumOf_zero fun allocation member => ?_
  obtain ⟨id, bound, rfl⟩ := mem_allocations.mp member
  simp only [CreditPackAllocation.lentTo]
  split
  · rename_i slice
    exact back id bound slice.1 slice.2.1
  · rfl

theorem Lending.sameValue (lending : Lending ledgerEntryId swept account)
    (nothing : ∀ packId, account.lentTo ledgerEntryId packId = 0)
    (creditBalance : account.creditBalance = swept.creditBalance) : SameValue swept account where
  creditBalance
  packsLength := lending.packsLength
  counters id := by
    rw [lending.packs id, nothing]
    simp [BillingCreditPack.lend]
  debts := lending.debts

theorem TakenBack.constraints {ids : List Nat} {before after : Account}
    (taken : TakenBack ids before after)
    (checks : ∀ allocation ∈ before.allocations, allocation.Checks)
    (keys : before.allocations.Pairwise fun first second =>
      ¬(first.ledgerEntryId = second.ledgerEntryId ∧ first.packId = second.packId)) :
    (∀ allocation ∈ after.allocations, allocation.Checks) ∧
      after.allocations.Pairwise fun first second =>
        ¬(first.ledgerEntryId = second.ledgerEntryId ∧ first.packId = second.packId) := by
  constructor
  · intro allocation member
    obtain ⟨id, bound, rfl⟩ := mem_allocations.mp member
    obtain ⟨positive, nonneg, le⟩ := checks _ (mem_allocations.mpr ⟨id, taken.length ▸ bound, rfl⟩)
    have amount := taken.amount id
    have unreturned : (after.allocation id).unreturned = (before.allocation id).unreturned ∨
        (after.allocation id).unreturned = 0 := by
      by_cases member : id ∈ ids
      · exact .inr (taken.taken id member)
      · exact .inl (taken.others id member)
    simp only [CreditPackAllocation.unreturned] at unreturned
    exact ⟨by omega, by omega, by omega⟩
  · rw [List.pairwise_iff_getElem] at keys ⊢
    intro first second firstBound secondBound earlier
    have apart := keys first second (taken.length ▸ firstBound) (taken.length ▸ secondBound) earlier
    have get : ∀ (account : Account) id (bound : id < account.allocations.length),
        account.allocations[id] = account.allocation id := fun account id bound => by
      simp [Account.allocation, bound]
    rw [get, get] at apart ⊢
    rwa [taken.entry, taken.entry, taken.packId, taken.packId]

theorem refundSavepoint_lent {original : CreditLedger} {record : AllocationRecord}
    (fixed : ∀ reading, session.clock reading = now) (fuel : Nat) (sound : account.Sound)
    (sweptSound : swept.Sound) (unlapsed : swept.Unlapsed now)
    (lending : Lending ledgerEntryId swept account) (slices : Slices ledgerEntryId account)
    (found : account.ledger[ledgerEntryId]? = some original)
    (recorded : original.metadata = some record)
    (unrefunded : ∀ entry ∈ account.ledger, entry.reason ≠ .refund ledgerEntryId) :
    ∃ restored, refundSavepoint session (fuel + 1) ledgerEntryId original account =
        .ok (restored, |original.amount|) ∧
      restored.creditBalance = account.creditBalance ∧ Lending ledgerEntryId swept restored ∧
      ∀ packId, restored.lentTo ledgerEntryId packId = 0 := by
  obtain ⟨current, -, history⟩ := sound.history ledgerEntryId original found record recorded
  have idle : account.expireUserPacks (session.clock 0) = account := by
    rw [fixed]
    exact expireUserPacks_unlapsed (lending.unlapsed unlapsed)
  obtain ⟨last, ran, lent, taken⟩ := @Lending.restoreAllocations ledgerEntryId swept now session
    fixed fuel (account.consumptionsOf session ledgerEntryId)
    ⟨account.addLedger (refundEntry session ledgerEntryId |original.amount|), 1⟩
    (lending.rebook _ _) sweptSound.rows unlapsed ((scan_nodup _ _ _).filter _)
    fun id member => mem_consumptionsOf.mp member
  have back : ∀ packId, last.account.lentTo ledgerEntryId packId = 0 :=
    lentTo_zero fun id bound entry consumes => by
      rw [taken.length] at bound
      rw [taken.entry] at entry
      rw [taken.recovery] at consumes
      exact taken.taken id (mem_consumptionsOf.mpr ⟨bound, entry, consumes⟩)
  have total : record.unallocatedCredits + sumOf (fun id => (account.allocation id).unreturned)
      (account.consumptionsOf session ledgerEntryId) = |original.amount| := by
    rw [← history, ← sumOf_consumptionsOf account session]
    congr 1
    refine sumOf_congr fun id member => ?_
    obtain ⟨bound, entry, -⟩ := mem_consumptionsOf.mp member
    have whole := slices.whole _ (mem_allocations.mpr ⟨id, bound, rfl⟩) entry
    simp only [CreditPackAllocation.unreturned, whole, Int.sub_zero]
  have complete : ¬record.unallocatedCredits + ((account.consumptionsOf session ledgerEntryId).map
      fun id => (account.allocation id).amount).sum ≠ |original.amount| := by
    rw [Decidable.not_not, ← history, ← sumOf_consumptionsOf account session]
    rfl
  have deduction : restoreDeduction session (fuel + 1) ledgerEntryId original record
      ⟨account.addLedger (refundEntry session ledgerEntryId |original.amount|), 1⟩ =
        .ok (last, |original.amount|) := by
    simp only [restoreDeduction]
    refine (if_neg complete).trans ((bind_of_ok ran _).trans ?_)
    change Except.ok (last, _) = _
    rw [← total]
    rfl
  have frame := (restoreDeduction_restored (sound.rows.book _ _) deduction).toFrame
  have ledger : last.account.ledger.modify account.ledger.length
      (fun entry => { entry with amount := |original.amount| }) =
        account.ledger ++ [refundEntry session ledgerEntryId |original.amount|] := by
    rw [frame.ledger]
    exact modify_last _ _ _
  obtain ⟨checks, keys⟩ := taken.constraints sound.allocations sound.allocationKeys
  have constraints : Account.Constraints { last.account with
      ledger := account.ledger ++ [refundEntry session ledgerEntryId |original.amount|] } := by
    refine (lent.rebook last.account.creditBalance _).constraints checks keys
      sweptSound.toConstraints (fun id => ?_) (ledgerReasons_append sound.ledgerReasons unrefunded)
    exact (back id).trans_le (sweptSound.rows.packs id).remaining
  have committed : flush { last.account with
      ledger := account.ledger ++ [refundEntry session ledgerEntryId |original.amount|] } = .ok _ :=
    if_pos constraints
  refine ⟨{ last.account with
      ledger := account.ledger ++ [refundEntry session ledgerEntryId |original.amount|] }, ?_, ?_,
    lent.rebook last.account.creditBalance _, back⟩
  · simp only [refundSavepoint, recorded, current, if_true]
    rw [expireUserPacks_addLedger, idle]
    refine (bind_of_ok deduction _).trans ?_
    rw [ledger]
    exact bind_of_ok committed _
  · exact frame.balance

theorem deduct_nothing {reason : String} {after : Account}
    (ran : deduct session 0 reason account = .ok after) :
    SameValue (account.expireUserPacks (session.clock 0)) after := by
  simp only [deduct] at ran
  split at ran
  · cases ran
  · obtain ⟨rfl, -⟩ := Account.Constraints.flush ran
    exact ⟨Int.add_zero _, rfl, fun id => ⟨rfl, rfl, rfl, rfl, rfl⟩, rfl⟩

theorem refund_deducted {deducting refunding : Session} {reason : String} {userId : Option Nat}
    (deductFixed : ∀ reading, deducting.clock reading = now)
    (refundFixed : ∀ reading, refunding.clock reading = now) (sound : account.Sound)
    (nonneg : 0 ≤ amount) (covered : amount ≤ (account.expireUserPacks now).creditBalance)
    (own : ∀ user ∈ userId, user = account.userId) :
    ∃ deducted restored, deduct deducting amount reason account = .ok deducted ∧
      refund refunding deducted.fuel account.ledger.length userId deducted =
        .ok (restored, amount) ∧
      SameValue (account.expireUserPacks now) restored := by
  have sweptSound := sound.expireUserPacks now
  have unlapsed := unlapsed_expireUserPacks now account
  have sweptId := userId_expireUserPacks now account
  have sweptLedger := ledger_expireUserPacks now account
  have reading := deductFixed 0
  obtain ⟨deducted, ran, lending, slices⟩ := @deduct_commits deducting amount account reason sound
    nonneg (by rwa [reading])
  obtain ⟨left, facts⟩ := deduct_deducted sound.rows nonneg ran
  have deductedSound := sound.deduct nonneg ran
  have unmoved := fun nothing : amount = 0 => deduct_nothing (nothing ▸ ran)
  rw [reading] at lending facts unmoved
  generalize account.expireUserPacks now = swept at *
  have entry : deducted.ledger[account.ledger.length]? =
      some (deductionEntry deducting amount left reason) := by
    rw [facts.ledger, sweptLedger]
    simp
  have ownId : ¬∃ user ∈ userId, user ≠ deducted.userId := by
    rintro ⟨user, member, other⟩
    exact other ((own user member).trans (lending.userId.trans sweptId).symm)
  have unrefunded : ∀ row ∈ deducted.ledger, row.reason ≠ .refund account.ledger.length := by
    intro row member same
    rw [facts.ledger] at member
    rcases List.mem_append.mp member with older | newer
    · have earlier := (sweptSound.filed row older).refunds _ same
      rw [sweptLedger] at earlier
      exact absurd earlier (lt_irrefl _)
    · rw [List.mem_singleton.mp newer] at same
      cases same
  have absent : ¬(deducted.ledger.any fun row => row.reason = .refund account.ledger.length) := by
    intro any
    obtain ⟨row, member, same⟩ := List.any_eq_true.mp any
    exact unrefunded row member (of_decide_eq_true same)
  by_cases nothing : amount = 0
  · -- an empty deduction moves nothing and its refund is refused
    subst nothing
    refine ⟨deducted, deducted, ran, ?_, ?_⟩
    · simp only [refund, entry]
      exact if_pos (by simp [deductionEntry])
    · exact unmoved rfl
  · have positive : 0 < amount := by omega
    have negative : ¬(deductionEntry deducting amount left reason).amount ≥ 0 := by
      simp only [deductionEntry]
      omega
    obtain ⟨restored, saved, creditBalance, lent, back⟩ := @refundSavepoint_lent refunding
      account.ledger.length now swept deducted (deductionEntry deducting amount left reason) _
      refundFixed deducted.packs.length deductedSound sweptSound unlapsed lending slices entry
      (if_pos positive) unrefunded
    have size : |(deductionEntry deducting amount left reason).amount| = amount := by
      rw [deductionEntry, abs_neg, abs_of_pos positive]
    rw [size] at saved
    refine ⟨deducted, restored.addBalance amount, ran, ?_, ?_⟩
    · simp only [refund, entry]
      rw [if_neg negative, if_neg ownId, if_neg absent, Account.fuel, saved]
    · refine (lent.rebook (restored.creditBalance + amount) restored.ledger).sameValue back ?_
      change restored.creditBalance + amount = _
      rw [creditBalance, facts.creditBalance]
      omega

end Refund

end Thought2Build.Billing
