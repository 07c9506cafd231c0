import Thought2Build.Billing.RefundReports

/-!
A deduction lends pack credits and its refund takes them back. Until then a pack of the swept
account is short of exactly what the deduction still has from it; a pack that lent anything had
nothing collected elsewhere, so a returned slice is never absorbed.
-/

namespace Thought2Build.Billing

open Rows Account

def CreditPackAllocation.lentTo (ledgerEntryId packId : Nat) (allocation : CreditPackAllocation) :
    Int :=
  if allocation.ledgerEntryId = ledgerEntryId ∧ allocation.recoveryForPackId = none ∧
    allocation.packId = packId then allocation.unreturned else 0

def Account.lentTo (account : Account) (ledgerEntryId packId : Nat) : Int :=
  sumOf (·.lentTo ledgerEntryId packId) account.allocations

def BillingCreditPack.lend (pack : BillingCreditPack) (lent : Int) (status : PackStatus) :
    BillingCreditPack :=
  { pack with
    creditsRemaining := pack.creditsRemaining - lent
    creditsConsumed := pack.creditsConsumed + lent
    status }

/-- `account` is the swept account but for what the deduction `ledgerEntryId` still has. -/
structure Lending (ledgerEntryId : Nat) (swept account : Account) : Prop where
  userId : account.userId = swept.userId
  packsLength : account.packs.length = swept.packs.length
  debts : account.debts = swept.debts
  packs : ∀ id, account.pack id =
    (swept.pack id).lend (account.lentTo ledgerEntryId id) (account.pack id).status
  live : ∀ id, (account.pack id).status = .active → (swept.pack id).status = .active
  slices : ∀ allocation ∈ account.allocations, allocation.ledgerEntryId = ledgerEntryId →
    allocation.recoveryForPackId = none → 0 ≤ allocation.unreturned ∧
      allocation.packId < account.packs.length ∧
      (swept.pack allocation.packId).status = .active ∧
      0 < (swept.pack allocation.packId).creditsRemaining

section Lend

variable {ledgerEntryId packId id : Nat} {swept account : Account} {drain amount now : Int}
  {allocation : CreditPackAllocation} {pack : BillingCreditPack} {status : PackStatus}

theorem restore_lend (clean : pack.creditsRevoked = pack.gap) (fresh : now < pack.expiresAt)
    (positive : 0 < amount) (lent : Int) :
    (pack.lend lent status).absorbed amount = 0 ∧
      (pack.lend lent status).restore .creditsConsumed amount now =
        pack.lend (lent - amount) .active := by
  have none : (pack.lend lent status).absorbed amount = 0 := by
    simp only [BillingCreditPack.absorbed, BillingCreditPack.lend, BillingCreditPack.gap,
      BillingCreditPack.accounted] at clean ⊢
    omega
  have expiry : ¬(pack.lend lent status).expiresAt ≤ now := Int.not_le.mpr fresh
  refine ⟨none, ?_⟩
  simp only [BillingCreditPack.restore, none, Int.sub_zero, Counter.subtract, expiry, if_false,
    ne_eq, positive.ne', not_false_eq_true, if_true]
  simp only [BillingCreditPack.lend, BillingCreditPack.mk.injEq, true_and, and_true]
  omega

theorem lentTo_row_nonneg (lending : Lending ledgerEntryId swept account) :
    ∀ allocation ∈ account.allocations, 0 ≤ allocation.lentTo ledgerEntryId packId := by
  intro allocation member
  simp only [CreditPackAllocation.lentTo]
  split
  · rename_i slice
    exact (lending.slices allocation member slice.1 slice.2.1).1
  · exact le_rfl

theorem lentTo_nonneg (lending : Lending ledgerEntryId swept account) :
    0 ≤ account.lentTo ledgerEntryId packId :=
  sumOf_nonneg (lentTo_row_nonneg lending)

theorem unreturned_le_lentTo (lending : Lending ledgerEntryId swept account)
    (bound : id < account.allocations.length)
    (entry : (account.allocation id).ledgerEntryId = ledgerEntryId)
    (consumes : (account.allocation id).recoveryForPackId = none) :
    (account.allocation id).unreturned ≤
      account.lentTo ledgerEntryId (account.allocation id).packId := by
  have own : (account.allocation id).lentTo ledgerEntryId (account.allocation id).packId =
      (account.allocation id).unreturned := if_pos ⟨entry, consumes, rfl⟩
  rw [← own]
  exact column_le_sumOf (getElem?_of_lt bound default) (lentTo_row_nonneg lending)

theorem Lending.start (entries : ∀ allocation ∈ swept.allocations,
    allocation.ledgerEntryId < swept.ledger.length) (creditBalance : Int)
    (ledger : List CreditLedger) :
    Lending swept.ledger.length swept { swept with creditBalance, ledger } where
  userId := rfl
  packsLength := rfl
  debts := rfl
  packs id := by
    have nothing : Account.lentTo { swept with creditBalance, ledger } swept.ledger.length id = 0 :=
      sumOf_zero fun allocation member => if_neg fun slice =>
        (entries allocation member).ne slice.1
    rw [nothing]
    simp [BillingCreditPack.lend, Account.pack]
  live _ active := active
  slices allocation member same := absurd same (entries allocation member).ne

theorem Lending.rebook (lending : Lending ledgerEntryId swept account) (creditBalance : Int)
    (ledger : List CreditLedger) :
    Lending ledgerEntryId swept { account with creditBalance, ledger } :=
  ⟨lending.userId, lending.packsLength, lending.debts, lending.packs, lending.live,
    lending.slices⟩

theorem lentTo_drainPack (other : Nat) :
    (account.drainPack ledgerEntryId id drain).lentTo ledgerEntryId other =
      account.lentTo ledgerEntryId other + if other = id then drain else 0 := by
  simp only [Account.drainPack, Account.lentTo, sumOf_append]
  rw [sumOf_optional fun nothing => by
    simp [CreditPackAllocation.lentTo, CreditPackAllocation.unreturned,
      Decidable.not_not.mp nothing]]
  simp only [CreditPackAllocation.lentTo, CreditPackAllocation.unreturned, Int.sub_zero, true_and]
  exact congrArg _ (if_congr eq_comm rfl rfl)

theorem Lending.drainPack (lending : Lending ledgerEntryId swept account)
    (bound : id < account.packs.length) (active : (swept.pack id).status = .active)
    (nonneg : 0 ≤ drain) (covered : drain ≤ (account.pack id).creditsRemaining) :
    Lending ledgerEntryId swept (account.drainPack ledgerEntryId id drain) where
  userId := lending.userId
  packsLength := (packs_length_setPack _).trans lending.packsLength
  debts := lending.debts
  packs other := by
    rw [lentTo_drainPack]
    change (account.setPack id _).pack other = _
    by_cases here : other = id
    · subst here
      have row := lending.packs other
      change _ = (swept.pack other).lend _ ((account.setPack other _).pack other).status
      rw [pack_setPack_self bound, if_pos rfl]
      simp only [BillingCreditPack.lend] at row ⊢
      rw [row]
      simp only [BillingCreditPack.mk.injEq, true_and, and_true]
      omega
    · change _ = (swept.pack other).lend _ ((account.setPack id _).pack other).status
      rw [pack_setPack_ne here, if_neg here, Int.add_zero]
      exact lending.packs other
  live other := setPack_cases
    (motive := fun pack => pack.status = .active → (swept.pack other).status = .active)
    (fun same _ => same ▸ active) (lending.live other)
  slices allocation member entry consumes := by
    change _ ∧ _ < (account.setPack id _).packs.length ∧ _
    rw [packs_length_setPack]
    rcases List.mem_append.mp member with older | newer
    · exact lending.slices allocation older entry consumes
    · split at newer
      · rename_i some
        rw [List.mem_singleton.mp newer]
        have row := congrArg (·.creditsRemaining) (lending.packs id)
        have lent := @lentTo_nonneg _ id _ _ lending
        simp only [BillingCreditPack.lend] at row
        refine ⟨?_, bound, active, ?_⟩
        · simp only [CreditPackAllocation.unreturned]
          omega
        · change 0 < (swept.pack id).creditsRemaining
          omega
      · cases newer

theorem Lending.drainFrom (lending : Lending ledgerEntryId swept account) {ids : List Nat}
    (bounds : ∀ id ∈ ids, id < account.packs.length)
    (active : ∀ id ∈ ids, (swept.pack id).status = .active) (nonneg : 0 ≤ amount)
    (sound : account.RowsSound) :
    Lending ledgerEntryId swept (drainFrom ledgerEntryId ids amount account).1 := by
  induction ids generalizing amount account with
  | nil => exact lending
  | cons id ids ih =>
      rw [drainFrom_cons]
      split
      · exact lending
      · have remaining := (sound.packs id).remaining
        have bound := bounds id List.mem_cons_self
        have here : Drained ledgerEntryId amount _ account _ := Drained.drainPack sound bound
          (le_min remaining nonneg) (min_le_left _ _)
        exact ih (lending.drainPack bound (active id List.mem_cons_self) (le_min remaining nonneg)
            (min_le_left _ _))
          (fun other member => here.packsLength ▸ bounds other (List.mem_cons_of_mem _ member))
          (fun other member => active other (List.mem_cons_of_mem _ member))
          (sub_nonneg.mpr (min_le_right _ _)) here.rows

theorem lentTo_returnAllocation (bound : id < account.allocations.length)
    (entry : (account.allocation id).ledgerEntryId = ledgerEntryId)
    (consumes : (account.allocation id).recoveryForPackId = none) (other : Nat) :
    (account.returnAllocation id amount).lentTo ledgerEntryId other =
      account.lentTo ledgerEntryId other -
        if other = (account.allocation id).packId then amount else 0 := by
  change sumOf _ (account.allocations.set id _) = _
  rw [sumOf_set (getElem?_of_lt bound default)]
  change _ - (account.allocation id).lentTo ledgerEntryId other + _ = _
  simp only [CreditPackAllocation.lentTo, CreditPackAllocation.unreturned, entry, consumes,
    true_and, Account.lentTo]
  by_cases here : other = (account.allocation id).packId
  · simp only [here, if_true]
    omega
  · simp only [Ne.symm here, here, if_false]
    omega

theorem Lending.restoreRow (lending : Lending ledgerEntryId swept account)
    (sound : swept.RowsSound) (unlapsed : swept.Unlapsed now)
    (bound : id < account.allocations.length)
    (entry : (account.allocation id).ledgerEntryId = ledgerEntryId)
    (consumes : (account.allocation id).recoveryForPackId = none)
    (amount_eq : amount = (account.allocation id).unreturned) (positive : 0 < amount) :
    let packId := (account.allocation id).packId
    (account.pack packId).absorbed amount = 0 ∧ now < (account.pack packId).expiresAt ∧
      amount ≤ (account.pack packId).creditsConsumed ∧ packId < account.packs.length ∧
      Lending ledgerEntryId swept ((account.returnAllocation id amount).setPack packId
        ((account.pack packId).restore .creditsConsumed amount now)) := by
  intro packId
  have listed := mem_allocations.mpr ⟨id, bound, rfl⟩
  obtain ⟨-, packBound, active, lent⟩ := lending.slices _ listed entry consumes
  change packId < _ at packBound
  have row := lending.packs packId
  have fresh : now < (swept.pack packId).expiresAt := unlapsed packId active
  have clean := (sound.packs packId).clean lent
  have covered : amount ≤ account.lentTo ledgerEntryId packId :=
    amount_eq ▸ unreturned_le_lentTo lending bound entry consumes
  have consumed := (sound.packs packId).consumed
  obtain ⟨none, restored⟩ := @restore_lend amount now (swept.pack packId)
    (account.pack packId).status clean fresh positive (account.lentTo ledgerEntryId packId)
  rw [← row] at none restored
  refine ⟨none, ?_, ?_, packBound, ?_⟩
  · rw [row]
    exact fresh
  · rw [row]
    change amount ≤ _ + account.lentTo ledgerEntryId packId
    omega
  rw [restored]
  refine ⟨lending.userId, (packs_length_setPack _).trans lending.packsLength, lending.debts,
    fun other => ?_, fun other => ?_, fun allocation member same consuming => ?_⟩
  · change _ = (swept.pack other).lend ((account.returnAllocation id amount).lentTo _ other) _
    rw [lentTo_returnAllocation bound entry consumes]
    by_cases here : other = packId
    · rw [here, @pack_setPack_self (account.returnAllocation id amount) packId packBound,
        if_pos rfl]
      rfl
    · rw [@pack_setPack_ne (account.returnAllocation id amount) packId other here, if_neg here,
        Int.sub_zero]
      exact lending.packs other
  · exact setPack_cases
      (motive := fun pack => pack.status = .active → (swept.pack other).status = .active)
      (fun same _ => same ▸ active) (lending.live other)
  · rw [packs_length_setPack]
    rcases List.mem_or_eq_of_mem_set member with older | rfl
    · exact lending.slices allocation older same consuming
    · refine ⟨?_, packBound, active, lent⟩
      simp only [CreditPackAllocation.unreturned] at amount_eq ⊢
      omega

structure TakenBack (ids : List Nat) (before after : Account) : Prop where
  length : after.allocations.length = before.allocations.length
  entry : ∀ id, (after.allocation id).ledgerEntryId = (before.allocation id).ledgerEntryId
  recovery : ∀ id,
    (after.allocation id).recoveryForPackId = (before.allocation id).recoveryForPackId
  packId : ∀ id, (after.allocation id).packId = (before.allocation id).packId
  amount : ∀ id, (after.allocation id).amount = (before.allocation id).amount
  others : ∀ id ∉ ids, (after.allocation id).unreturned = (before.allocation id).unreturned
  taken : ∀ id ∈ ids, (after.allocation id).unreturned = 0

theorem unreturned_returnAllocation (bound : id < account.allocations.length) (other : Nat) :
    ((account.returnAllocation id amount).allocation other).unreturned =
      (account.allocation other).unreturned - if other = id then amount else 0 := by
  have same := (Frame.returnAllocation account id amount).allocationAmount other
  have returned := @returnedAmount_returnAllocation account id amount bound other
  simp only [CreditPackAllocation.unreturned, same, returned, single]
  omega

theorem restorePackValue_whole {session : Session} (fixed : ∀ reading, session.clock reading = now)
    (fuel : Nat) {tx : Tx} (positive : 0 < amount) (bound : packId < tx.account.packs.length)
    (covered : amount ≤ (tx.account.pack packId).creditsConsumed)
    (whole : (tx.account.pack packId).absorbed amount = 0)
    (fresh : now < (tx.account.pack packId).expiresAt) :
    restorePackValue session (fuel + 1) packId amount .creditsConsumed tx =
      .ok ({
        account := tx.account.setPack packId
          ((tx.account.pack packId).restore .creditsConsumed amount now)
        reads := tx.reads + 1 }, amount) := by
  have enough : ¬Counter.creditsConsumed.read (tx.account.pack packId) < amount :=
    Int.not_lt.mpr covered
  rw [restorePackValue_eq session fuel _ _ _ positive, if_neg (Nat.not_le.mpr bound),
    if_neg enough, if_pos whole]
  simp only [Tx.usable, Tx.restorePack, fixed]
  rw [if_neg (Int.not_le.mpr fresh), whole, Int.sub_zero]

theorem returnAllocation_zero (bound : id < account.allocations.length) :
    account.returnAllocation id 0 = account := by
  have same : account.allocations.set id (account.allocation id) = account.allocations := by
    simp [Account.allocation, bound]
  simp only [Account.returnAllocation, Account.setAllocation, Int.add_zero, same]

theorem Lending.restoreAllocations {session : Session} (fixed : ∀ reading, session.clock reading = now)
    (fuel : Nat) {ids : List Nat} {tx : Tx} (lending : Lending ledgerEntryId swept tx.account)
    (sound : swept.RowsSound) (unlapsed : swept.Unlapsed now) (once : ids.Nodup)
    (consumptions : ∀ id ∈ ids, id < tx.account.allocations.length ∧
      (tx.account.allocation id).ledgerEntryId = ledgerEntryId ∧
      (tx.account.allocation id).recoveryForPackId = none) :
    ∃ after, restoreAllocations session (fuel + 1) ids tx =
        .ok (after, sumOf (fun id => (tx.account.allocation id).unreturned) ids) ∧
      Lending ledgerEntryId swept after.account ∧ TakenBack ids tx.account after.account := by
  induction ids generalizing tx with
  | nil =>
      exact ⟨tx, rfl, lending, rfl, fun _ => rfl, fun _ => rfl, fun _ => rfl, fun _ => rfl,
        fun _ _ => rfl, fun _ member => nomatch member⟩
  | cons id ids ih =>
      obtain ⟨fresh, once⟩ := List.nodup_cons.mp once
      obtain ⟨bound, entry, consumes⟩ := consumptions id List.mem_cons_self
      have listed := mem_allocations.mpr ⟨id, bound, rfl⟩
      obtain ⟨nonneg, -⟩ := lending.slices _ listed entry consumes
      have step : ∃ middle, restorePackValue session (fuel + 1) (tx.account.allocation id).packId
            (tx.account.allocation id).unreturned .creditsConsumed { tx with
              account := tx.account.returnAllocation id (tx.account.allocation id).unreturned } =
          .ok (middle, (tx.account.allocation id).unreturned) ∧
          Lending ledgerEntryId swept middle.account ∧ middle.account.allocations =
            (tx.account.returnAllocation id (tx.account.allocation id).unreturned).allocations := by
        by_cases positive : 0 < (tx.account.allocation id).unreturned
        · obtain ⟨none, fresh, covered, packBound, lent⟩ := lending.restoreRow sound unlapsed bound
            entry consumes rfl positive
          refine ⟨⟨_, tx.reads + 1⟩, ?_, lent, rfl⟩
          exact restorePackValue_whole fixed fuel positive packBound covered none fresh
        · have nothing : (tx.account.allocation id).unreturned = 0 := by omega
          rw [nothing, returnAllocation_zero bound]
          exact ⟨tx, rfl, lending, rfl⟩
      obtain ⟨middle, ran, lent, allocations⟩ := step
      have row : ∀ other, middle.account.allocation other =
          (tx.account.returnAllocation id (tx.account.allocation id).unreturned).allocation other :=
        fun other => congrArg (·.getD other default) allocations
      have frame := Frame.returnAllocation tx.account id (tx.account.allocation id).unreturned
      have length : middle.account.allocations.length = tx.account.allocations.length := by
        rw [allocations, frame.allocationsLength]
      have unreturned : ∀ other, (middle.account.allocation other).unreturned =
          (tx.account.allocation other).unreturned -
            if other = id then (tx.account.allocation id).unreturned else 0 := fun other => by
        rw [row, unreturned_returnAllocation bound]
      have entries : ∀ other, (middle.account.allocation other).ledgerEntryId =
          (tx.account.allocation other).ledgerEntryId := fun other => by
        rw [row, frame.allocationEntry]
      have recoveries : ∀ other, (middle.account.allocation other).recoveryForPackId =
          (tx.account.allocation other).recoveryForPackId := fun other => by
        rw [row, frame.allocationRecovery]
      obtain ⟨after, later, kept, taken⟩ := ih lent once fun other member => by
        rw [length, entries, recoveries]
        exact consumptions other (List.mem_cons_of_mem _ member)
      have sameRest : sumOf (fun other => (middle.account.allocation other).unreturned) ids =
          sumOf (fun other => (tx.account.allocation other).unreturned) ids :=
        sumOf_congr fun other member => by
          have different : other ≠ id := by
            rintro rfl
            exact fresh member
          rw [unreturned, if_neg different, Int.sub_zero]
      refine ⟨after, ?_, kept, taken.length.trans length,
        fun other => (taken.entry other).trans (entries other),
        fun other => (taken.recovery other).trans (recoveries other), fun other => ?_,
        fun other => ?_, fun other absent => ?_, fun other member => ?_⟩
      · simp only [Billing.restoreAllocations, sumOf_cons]
        rw [Account.returnAllocation] at ran
        rw [bind_of_ok ran, bind_of_ok later, sameRest]
        rfl
      · rw [taken.packId, row, frame.allocationPack]
      · rw [taken.amount, row, frame.allocationAmount]
      · obtain ⟨different, absent⟩ := not_or.mp (mt List.mem_cons.mpr absent)
        rw [taken.others other absent, unreturned, if_neg different, Int.sub_zero]
      · rcases List.mem_cons.mp member with rfl | member
        · rw [taken.others other fresh, unreturned, if_pos rfl, Int.sub_self]
        · exact taken.taken other member

end Lend

end Thought2Build.Billing
