import Thought2Build.Billing.Soundness

/-!
`deduct` keeps the account invariant: the FIFO drain moves credits from `remaining` to
`consumed` and records every slice.
-/

namespace Thought2Build.Billing

open Rows Account

/-- What a drain charged to ledger row `ledgerEntryId` may change. -/
structure Drained (ledgerEntryId : Nat) (amount left : Int) (before after : Account) : Prop
    extends Moved before after (left - amount) (fun _ => 0) (fun _ => 0) fun _ => 0,
      Ages before after where
  ledger : after.ledger = before.ledger
  creditBalance : after.creditBalance = before.creditBalance
  packsLength : after.packs.length = before.packs.length
  rows : after.RowsSound
  donates : ∀ source donor, after.Donates source donor → before.Donates source donor
  charged : ∀ id, after.chargedTo id = before.chargedTo id + single ledgerEntryId (amount - left) id
  entries : ∀ allocation ∈ after.allocations,
    allocation ∈ before.allocations ∨ allocation.ledgerEntryId = ledgerEntryId
  lower : ∀ id, (after.pack id).creditsRemaining ≤ (before.pack id).creditsRemaining
  processed : ∀ id, (after.pack id).refundedItemAmountCentsProcessed =
    (before.pack id).refundedItemAmountCentsProcessed
  spendable : before.Spendable → after.Spendable

namespace Drained

variable {ledgerEntryId : Nat} {amount middle left : Int} {first second third : Account}

theorem refl (sound : first.RowsSound) : Drained ledgerEntryId amount amount first first where
  toMoved := (Moved.refl first).congr (by omega) (fun _ => rfl) (fun _ => rfl) fun _ => rfl
  toAges := .refl first
  ledger := rfl
  creditBalance := rfl
  packsLength := rfl
  rows := sound
  donates _ _ donates := donates
  charged id := by simp [single]
  entries _ member := .inl member
  lower _ := le_rfl
  processed _ := rfl
  spendable spendable := spendable

theorem trans (here : Drained ledgerEntryId amount middle first second)
    (later : Drained ledgerEntryId middle left second third) :
    Drained ledgerEntryId amount left first third where
  toMoved := (here.toMoved.trans later.toMoved).congr (by omega) (fun _ => rfl) (fun _ => rfl)
    fun _ => rfl
  toAges := here.toAges.trans later.toAges
  ledger := later.ledger.trans here.ledger
  creditBalance := later.creditBalance.trans here.creditBalance
  packsLength := later.packsLength.trans here.packsLength
  rows := later.rows
  donates source donor donates := here.donates source donor (later.donates source donor donates)
  charged id := by
    rw [later.charged, here.charged]
    simp only [single]
    split <;> omega
  entries allocation member := by
    rcases later.entries allocation member with older | here'
    · exact here.entries allocation older
    · exact .inr here'
  lower id := (later.lower id).trans (here.lower id)
  processed id := (later.processed id).trans (here.processed id)
  spendable spendable := later.spendable (here.spendable spendable)

theorem rebook (drained : Drained ledgerEntryId amount left first second) (creditBalance : Int)
    (ledger : List CreditLedger) : Drained ledgerEntryId amount left
      { first with creditBalance, ledger } { second with creditBalance, ledger } where
  toMoved := ⟨drained.remaining, drained.excess, drained.consumed, drained.recovered⟩
  toAges := ⟨drained.length, drained.sameTerms, drained.expiredMono⟩
  ledger := rfl
  creditBalance := rfl
  packsLength := drained.packsLength
  rows := ⟨drained.rows.packs, drained.rows.debts, drained.rows.allocations⟩
  donates := drained.donates
  charged := drained.charged
  entries := drained.entries
  lower := drained.lower
  processed := drained.processed
  spendable := drained.spendable

end Drained

theorem BillingCreditPack.Sound.drain {pack : BillingCreditPack} {amount : Int} {status : PackStatus}
    (sound : pack.Sound) (nonneg : 0 ≤ amount) (covered : amount ≤ pack.creditsRemaining)
    (kept : status = pack.status ∨ status = .consumed ∧ pack.creditsRemaining - amount = 0) :
    { pack with
      creditsRemaining := pack.creditsRemaining - amount
      creditsConsumed := pack.creditsConsumed + amount
      status }.Sound := by
  obtain ⟨h1, h2, h3, h4, h5, h6, h7, h8, h9, h10, h11, h12⟩ := sound
  simp only [BillingCreditPack.gap, BillingCreditPack.accounted] at *
  constructor <;> simp only [BillingCreditPack.gap, BillingCreditPack.accounted] <;> grind

def Account.drainPack (account : Account) (ledgerEntryId id : Nat) (drain : Int) : Account :=
  let pack := account.pack id
  let account := account.setPack id { pack with
    creditsRemaining := pack.creditsRemaining - drain
    creditsConsumed := pack.creditsConsumed + drain
    status := if pack.creditsRemaining - drain = 0 then .consumed else pack.status }
  { account with
    allocations := account.allocations ++
      if drain ≠ 0 then [{
        ledgerEntryId, packId := id, recoveryForPackId := none, amount := drain
        returnedAmount := 0 }]
      else [] }

theorem Drained.drainPack {account : Account} {ledgerEntryId id : Nat} {amount drain : Int}
    (sound : account.RowsSound) (bound : id < account.packs.length) (nonneg : 0 ≤ drain)
    (covered : drain ≤ (account.pack id).creditsRemaining) :
    Drained ledgerEntryId amount (amount - drain) account
      (account.drainPack ledgerEntryId id drain) where
  toMoved := by
    refine ((Moved.setPack bound _).trans (Moved.addAllocations _)).congr ?_ (fun other => ?_)
      (fun other => ?_) fun other => ?_
    · change _ - drain - _ + 0 = _
      omega
    · rw [sumOf_optional fun _ => by simp [CreditPackAllocation.recoveringFor]]
      simp only [BillingCreditPack.excess, BillingCreditPack.gap, BillingCreditPack.accounted,
        CreditPackAllocation.recoveringFor, single]
      grind
    · rw [sumOf_optional fun nothing => by
        simp [CreditPackAllocation.consumedFrom, CreditPackAllocation.unreturned,
          Decidable.not_not.mp nothing]]
      simp only [CreditPackAllocation.consumedFrom, CreditPackAllocation.unreturned, single]
      grind
    · rw [sumOf_optional fun _ => by simp [CreditPackAllocation.recoveredFrom]]
      simp only [CreditPackAllocation.recoveredFrom, single]
      grind
  toAges := Ages.editPack rfl (by constructor <;> rfl) le_rfl
  ledger := rfl
  creditBalance := rfl
  packsLength := packs_length_setPack _
  rows := by
    refine (sound.setPack ((sound.packs id).drain nonneg covered ?_)).addAllocations ?_
    · split
      · rename_i empty
        exact .inr ⟨rfl, empty⟩
      · exact .inl rfl
    · intro row member
      split at member
      · rw [List.mem_singleton] at member
        subst member
        exact ⟨le_rfl, nonneg⟩
      · cases member
  donates source donor := by
    simp only [donates_iff]
    rintro ⟨row, member, recovers, rest⟩
    rcases List.mem_append.mp member with older | newer
    · exact ⟨row, older, recovers, rest⟩
    · split at newer
      · rw [List.mem_singleton] at newer
        subst newer
        cases recovers
      · cases newer
  charged other := by
    simp only [Account.drainPack, Account.chargedTo, sumOf_append, Account.setPack]
    rw [sumOf_optional fun nothing => by
      simp [CreditPackAllocation.chargedTo, Decidable.not_not.mp nothing]]
    simp only [CreditPackAllocation.chargedTo, single]
    grind
  entries row member := by
    rcases List.mem_append.mp member with older | newer
    · exact .inl older
    · split at newer
      · rw [List.mem_singleton] at newer
        subst newer
        exact .inr rfl
      · cases newer
  lower other := by
    refine setPack_cases (motive := fun after =>
      after.creditsRemaining ≤ (account.pack other).creditsRemaining) ?_ le_rfl
    rintro rfl
    change _ - drain ≤ _
    omega
  processed := column_setPack (·.refundedItemAmountCentsProcessed) rfl
  spendable spendable other := by
    refine setPack_cases (motive := fun after =>
      after.status ≠ .active → after.creditsRemaining = 0) (fun _ => ?_) (spendable other)
    have := spendable id
    intro inactive
    change _ - drain = 0
    grind

theorem creditsRemaining_drainPack {account : Account} {id : Nat}
    (bound : id < account.packs.length) (ledgerEntryId : Nat) (drain : Int) :
    ((account.drainPack ledgerEntryId id drain).pack id).creditsRemaining =
      (account.pack id).creditsRemaining - drain :=
  congrArg (·.creditsRemaining) (pack_setPack_self bound _)

theorem drainFrom_cons (ledgerEntryId id : Nat) (ids : List Nat) (remaining : Int)
    (account : Account) :
    drainFrom ledgerEntryId (id :: ids) remaining account =
      if remaining ≤ 0 then (account, remaining)
      else
        let drain := min (account.pack id).creditsRemaining remaining
        drainFrom ledgerEntryId ids (remaining - drain)
          (account.drainPack ledgerEntryId id drain) := by
  simp only [drainFrom, Account.drainPack]
  by_cases nothing : min (account.pack id).creditsRemaining remaining = 0
  · simp [nothing]
  · simp [nothing, Account.addAllocation]

theorem drainFrom_drained (ledgerEntryId : Nat) {ids : List Nat} {amount : Int}
    {account : Account} (nonneg : 0 ≤ amount) (bounds : ∀ id ∈ ids, id < account.packs.length)
    (sound : account.RowsSound) :
    let result := drainFrom ledgerEntryId ids amount account
    0 ≤ result.2 ∧ result.2 ≤ amount ∧ Drained ledgerEntryId amount result.2 account result.1 ∧
      (0 < result.2 → ∀ id ∈ ids, (result.1.pack id).creditsRemaining ≤ 0) := by
  induction ids generalizing amount account with
  | nil => exact ⟨nonneg, le_rfl, .refl sound, fun _ _ member => nomatch member⟩
  | cons id ids ih =>
      rw [drainFrom_cons]
      by_cases done : amount ≤ 0
      · simp only [done, if_true]
        exact ⟨nonneg, le_rfl, .refl sound, fun positive => absurd positive (by omega)⟩
      · simp only [done, if_false]
        have remaining := (sound.packs id).remaining
        have here : Drained ledgerEntryId amount _ account _ := Drained.drainPack sound
          (bounds id (by simp)) (le_min remaining nonneg) (min_le_left _ _)
        obtain ⟨leftNonneg, leftLe, later, emptied⟩ := ih
          (sub_nonneg.mpr (min_le_right _ _))
          (fun other member => here.packsLength ▸ bounds other (by simp [member])) here.rows
        refine ⟨leftNonneg, leftLe.trans (sub_le_self _ (le_min remaining nonneg)),
          here.trans later, fun positive other member => ?_⟩
        rcases List.mem_cons.mp member with rfl | member
        · -- a slice that left something to drain emptied its pack
          have lower := later.lower other
          rw [creditsRemaining_drainPack (bounds other (by simp))] at lower
          have : (account.pack other).creditsRemaining ≤ amount := by
            by_contra larger
            rw [min_eq_right (by omega)] at leftLe leftNonneg positive
            omega
          omega
        · exact emptied positive other member

theorem mem_packsByExpiry {account : Account} {session : Session} {kept : Nat → Bool} {id : Nat} :
    id ∈ (account.packsByExpiry session).filter kept ↔
      id < account.packs.length ∧ kept id = true := by
  simp [Account.packsByExpiry]

theorem drainPacks_drained (session : Session) {amount : Int} (ledgerEntryId : Nat)
    {account : Account} (positive : 0 < amount) (sound : account.RowsSound) :
    ∃ left drained, 0 ≤ left ∧ left ≤ amount ∧
      Drained ledgerEntryId amount left account drained ∧
      drainPacks session amount ledgerEntryId account =
        { drained with ledger := account.ledger.modify ledgerEntryId fun entry =>
          { entry with
            metadata := some { allocationVersion := 1, unallocatedCredits := left } } } ∧
      (0 < left → account.Spendable → drained.totalRemaining = 0) := by
  obtain ⟨leftNonneg, leftLe, drained, emptied⟩ := drainFrom_drained ledgerEntryId positive.le
    (fun id member => (mem_packsByExpiry.mp member).1) sound
  refine ⟨_, _, leftNonneg, leftLe, drained, ?_, fun some spendable => ?_⟩
  · simp only [drainPacks, Int.not_le.mpr positive, if_false]
    rw [← drained.ledger]
  · apply sumOf_zero
    intro pack member
    obtain ⟨id, bound, rfl⟩ := mem_packs.mp member
    have nonneg := (drained.rows.packs id).remaining
    by_cases active : (account.pack id).status = .active
    · have := emptied some id (mem_packsByExpiry.mpr
        ⟨drained.packsLength ▸ bound, decide_eq_true active⟩)
      omega
    · have := spendable id active
      have := drained.lower id
      omega

def deductionEntry (session : Session) (amount left : Int) (reason : String) : CreditLedger :=
  { amount := -amount
    reason := .operation reason
    metadata := if 0 < amount then some { allocationVersion := 1, unallocatedCredits := left }
      else none
    createdAt := session.clock 0 }

/-- A deduction that left `left` credits unallocated. -/
structure Deducted (session : Session) (amount left : Int) (reason : String)
    (swept after : Account) : Prop where
  leftNonneg : 0 ≤ left
  leftLe : left ≤ amount
  funded : amount ≤ swept.creditBalance
  creditBalance : after.creditBalance = swept.creditBalance - amount
  ledger : after.ledger = swept.ledger ++ [deductionEntry session amount left reason]
  drained : Drained swept.ledger.length amount left
    { swept with creditBalance := after.creditBalance, ledger := after.ledger } after
  emptied : 0 < left → swept.Spendable → after.totalRemaining = 0
  constraints : after.Constraints

theorem deduct_deducted {session : Session} {amount : Int} {reason : String}
    {before after : Account} (sound : before.RowsSound) (nonneg : 0 ≤ amount)
    (ran : deduct session amount reason before = .ok after) :
    ∃ left, Deducted session amount left reason
      (before.expireUserPacks (session.clock 0)) after := by
  have sweptSound := sound.expireUserPacks (session.clock 0)
  simp only [deduct] at ran
  generalize before.expireUserPacks (session.clock 0) = swept at ran sweptSound ⊢
  split at ran
  · cases ran
  rename_i funded
  obtain ⟨rfl, constraints⟩ := Account.Constraints.flush ran
  by_cases nothing : amount ≤ 0
  · obtain rfl : amount = 0 := by omega
    refine ⟨0, le_rfl, le_rfl, by omega, ?_, ?_, ?_, fun positive => absurd positive (by omega),
      constraints⟩
    · simp [drainPacks, Account.addBalance, Account.addLedger]
    · simp [drainPacks, Account.addBalance, Account.addLedger, deductionEntry]
    · exact .refl ⟨sweptSound.packs, sweptSound.debts, sweptSound.allocations⟩
  · -- the drain runs after the balance and the ledger row are written
    obtain ⟨left, drained, leftNonneg, leftLe, step, result, emptied⟩ := @drainPacks_drained session amount
      swept.ledger.length ((swept.addBalance (-amount)).addLedger {
        amount := -amount, reason := .operation reason, metadata := none
        createdAt := session.clock 0 }) (by omega)
      ⟨sweptSound.packs, sweptSound.debts, sweptSound.allocations⟩
    rw [result] at constraints ⊢
    refine ⟨left, leftNonneg, leftLe, by omega, ?_, ?_, step.rebook _ _, emptied, constraints⟩
    · exact step.creditBalance
    · simp [Account.addLedger, Account.addBalance, deductionEntry, Int.not_le.mp nothing,
        modify_last]

theorem Deducted.sourced {session : Session} {amount left : Int} {reason : String}
    {swept after : Account} (deducted : Deducted session amount left reason swept after)
    (sourced : swept.Sourced) : after.Sourced :=
  sourced.move ⟨deducted.drained.remaining, deducted.drained.excess, deducted.drained.consumed,
    deducted.drained.recovered⟩ deducted.drained.rows (sourced.ranked.mono deducted.drained.donates)

theorem Deducted.booked {session : Session} {amount left : Int} {reason : String}
    {swept after : Account} (deducted : Deducted session amount left reason swept after)
    (booked : swept.Booked) : after.Booked := by
  have charged : ∀ id, after.chargedTo id =
      swept.chargedTo id + single swept.ledger.length (amount - left) id := deducted.drained.charged
  refine booked.append deducted.ledger (fun allocation member => ?_) (fun id older => ?_)
    (fun row member => ?_) fun id entry found record recorded => ?_
  · rcases deducted.drained.entries allocation member with older | newer
    · exact .inl older
    · right
      rw [newer, deducted.ledger]
      simp
  · rw [charged, single, if_neg (by omega), Int.add_zero]
  · rw [List.mem_singleton.mp member]
    refine ⟨fun _ => by simp [deductionEntry], fun _ _ unrecorded => ?_⟩
    simp only [deductionEntry, ite_eq_right_iff, reduceCtorEq, imp_false] at unrecorded ⊢
    omega
  · obtain ⟨rfl, rfl⟩ : id = 0 ∧ deductionEntry session amount left reason = entry := by
      cases id with
      | zero => exact ⟨rfl, Option.some.inj found⟩
      | succ id => cases found
    simp only [deductionEntry] at recorded ⊢
    split at recorded
    · rename_i positive
      simp only [Option.mem_def, Option.some.injEq] at recorded
      subst recorded
      refine ⟨rfl, deducted.leftNonneg, ?_⟩
      rw [Nat.add_zero, charged, booked.uncharged le_rfl, single, if_pos rfl, abs_neg,
        abs_of_pos positive]
      change left + (0 + (amount - left)) = amount
      omega
    · cases recorded

theorem Account.Sound.deduct {session : Session} {amount : Int} {reason : String}
    {before after : Account} (sound : before.Sound) (nonneg : 0 ≤ amount)
    (ran : deduct session amount reason before = .ok after) : after.Sound := by
  obtain ⟨left, deducted⟩ := deduct_deducted sound.rows nonneg ran
  exact {
    toSourced := deducted.sourced (sound.toSourced.expireUserPacks _)
    toBooked := deducted.booked (sound.toBooked.expireUserPacks _)
    toConstraints := deducted.constraints }

end Thought2Build.Billing
