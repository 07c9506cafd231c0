import Thought2Build.Billing.Drains

/-!
`grant_credits_with_debt_recovery` keeps the account invariant. The fresh pack is the
only donor of the debts it settles, and nothing recovers for it yet.
-/

namespace Thought2Build.Billing

open Rows Account

def BillingCreditPack.supply (pack : BillingCreditPack) (amount : Int) (status : PackStatus) :
    BillingCreditPack :=
  { pack with
    creditsRemaining := pack.creditsRemaining - amount
    creditsDebtRecovered := pack.creditsDebtRecovered + amount
    status }

theorem BillingCreditPack.Sound.supply {pack : BillingCreditPack} {amount : Int}
    {status : PackStatus} (sound : pack.Sound) (nonneg : 0 ≤ amount)
    (covered : amount ≤ pack.creditsRemaining)
    (kept : status = pack.status ∨ status = .consumed ∧ pack.creditsRemaining - amount = 0) :
    (pack.supply amount status).Sound := by
  obtain ⟨h1, h2, h3, h4, h5, h6, h7, h8, h9, h10, h11, h12⟩ := sound
  simp only [BillingCreditPack.gap, BillingCreditPack.accounted] at *
  constructor <;>
    simp only [BillingCreditPack.supply, BillingCreditPack.gap, BillingCreditPack.accounted] <;>
    grind

@[simp] theorem BillingCreditPack.excess_supply (pack : BillingCreditPack) (amount : Int)
    (status : PackStatus) : (pack.supply amount status).excess = pack.excess := by
  simp only [BillingCreditPack.excess, BillingCreditPack.gap, BillingCreditPack.accounted,
    BillingCreditPack.supply]
  omega

/-- Debts settled out of pack `packId`, whose grant goes down from `granted` to `left`. -/
structure Settling (packId : Nat) (granted left : Int) (before after : Account) : Prop
    extends Moved before after (left - granted) (fun _ => 0) (fun _ => 0) fun _ => 0,
      Posted before after, Ages before after where
  rows : after.RowsSound
  creditBalance : after.creditBalance = before.creditBalance
  userId : after.userId = before.userId
  packsLength : after.packs.length = before.packs.length
  debtsLength : after.debts.length = before.debts.length
  others : ∀ id, id ≠ packId → after.pack id = before.pack id
  own : (after.pack packId).excess = (before.pack packId).excess ∧
    (after.pack packId).status = (before.pack packId).status ∧
    (after.pack packId).creditsRemaining = (before.pack packId).creditsRemaining - (granted - left)
  donates : ∀ source donor, after.Donates source donor → before.Donates source donor ∨ donor = packId
  written : ∀ entry ∈ after.ledger,
    entry ∈ before.ledger ∨ ∃ debtId, entry.reason = .debtRecovery debtId packId

namespace Settling

variable {packId : Nat} {granted middle left : Int} {first second third : Account}

theorem refl (sound : first.RowsSound) : Settling packId granted granted first first where
  toMoved := (Moved.refl first).congr (by omega) (fun _ => rfl) (fun _ => rfl) fun _ => rfl
  toPosted := .refl first
  toAges := .refl first
  rows := sound
  creditBalance := rfl
  userId := rfl
  packsLength := rfl
  debtsLength := rfl
  others _ _ := rfl
  own := ⟨rfl, rfl, by omega⟩
  donates _ _ donates := .inl donates
  written _ member := .inl member

theorem trans (here : Settling packId granted middle first second)
    (later : Settling packId middle left second third) :
    Settling packId granted left first third where
  toMoved := (here.toMoved.trans later.toMoved).congr (by omega) (fun _ => rfl) (fun _ => rfl)
    fun _ => rfl
  toPosted := here.toPosted.trans later.toPosted
  toAges := here.toAges.trans later.toAges
  rows := later.rows
  creditBalance := later.creditBalance.trans here.creditBalance
  userId := later.userId.trans here.userId
  packsLength := later.packsLength.trans here.packsLength
  debtsLength := later.debtsLength.trans here.debtsLength
  others id different := (later.others id different).trans (here.others id different)
  own := ⟨later.own.1.trans here.own.1, later.own.2.1.trans here.own.2.1, by
    have := here.own.2.2
    have := later.own.2.2
    omega⟩
  donates source donor donates := (later.donates source donor donates).elim
    (here.donates source donor) .inr
  written entry member := (later.written entry member).elim (here.written entry) .inr

end Settling

def BillingCreditDebt.recover (debt : BillingCreditDebt) (take : Int) : BillingCreditDebt :=
  { debt with
    creditsRecovered := debt.creditsRecovered + take
    status := if debt.creditsRecovered + take ≥ debt.creditsOwed then .recovered else debt.status }

theorem debtRecover_bounds {debt : BillingCreditDebt} {take : Int}
    (bounds : 0 ≤ debt.creditsRecovered ∧ debt.creditsRecovered ≤ debt.creditsOwed)
    (nonneg : 0 ≤ take) (owed : take ≤ debt.outstanding) :
    0 ≤ (debt.recover take).creditsRecovered ∧
      (debt.recover take).creditsRecovered ≤ (debt.recover take).creditsOwed := by
  simp only [BillingCreditDebt.recover, BillingCreditDebt.outstanding] at *
  omega

def Account.settleDebt (account : Account) (session : Session) (packId id : Nat) (take : Int) :
    Account :=
  let debt := account.debt id
  let pack := account.pack packId
  let recoveryEntryId := account.ledger.length
  let account := account.setPack packId (pack.supply take pack.status)
  let account := account.setDebt id (debt.recover take)
  let account := account.addLedger {
    amount := 0, reason := .debtRecovery id packId, metadata := none
    createdAt := session.clock 0 }
  account.addAllocation {
    ledgerEntryId := recoveryEntryId, packId
    recoveryForPackId := some debt.sourcePackId, amount := take, returnedAmount := 0 }

theorem Settling.settleDebt (session : Session) {account : Account} {packId id : Nat}
    {granted take : Int} (sound : account.RowsSound) (packBound : packId < account.packs.length)
    (bound : id < account.debts.length) (positive : 0 < take)
    (available : take ≤ (account.pack packId).creditsRemaining)
    (owed : take ≤ (account.debt id).outstanding) :
    Settling packId granted (granted - take) account
      (account.settleDebt session packId id take) where
  toMoved := by
    let supplied := (account.pack packId).supply take (account.pack packId).status
    have packMove := Moved.setPack packBound supplied
    have debtMove := @Moved.setDebt (account.setPack packId supplied) id bound
      ((account.debt id).recover take) rfl
    refine (((packMove.trans debtMove).trans (Moved.book _ _ _)).trans
      (Moved.addAllocations _)).congr ?_ (fun other => ?_) (fun other => ?_) fun other => ?_
    · simp only [supplied, BillingCreditPack.supply]
      omega
    · change _ + single (account.debt id).sourcePackId
        ((account.debt id).outstanding - _) other + 0 + _ = _
      simp only [supplied, BillingCreditPack.excess_supply, sumOf_cons, sumOf_nil,
        CreditPackAllocation.recoveringFor, CreditPackAllocation.unreturned, single,
        BillingCreditDebt.outstanding, BillingCreditDebt.recover, Option.some.injEq]
      grind
    · simp [CreditPackAllocation.consumedFrom, single, supplied, BillingCreditPack.supply]
    · simp only [supplied, sumOf_cons, sumOf_nil, CreditPackAllocation.recoveredFrom,
        CreditPackAllocation.unreturned, single, BillingCreditPack.supply]
      grind
  rows := by
    have packSound := (sound.packs packId).supply positive.le available (.inl rfl)
    have debtBounds := sound.debts id
    have settled := @Account.RowsSound.setDebt _ (@Account.RowsSound.setPack _ sound packId _
      packSound) id _ (debtRecover_bounds debtBounds positive.le owed)
    refine (settled.book _ _).addAllocations fun row member => ?_
    rw [List.mem_singleton] at member
    subst member
    exact ⟨le_rfl, positive.le⟩
  toAges := Ages.editPack rfl (by constructor <;> rfl) le_rfl
  creditBalance := rfl
  userId := rfl
  packsLength := packs_length_setPack _
  debtsLength := List.length_set
  others other different := pack_setPack_ne different _
  own := by
    have after : (account.settleDebt session packId id take).pack packId = _ :=
      pack_setPack_self packBound _
    rw [after]
    refine ⟨BillingCreditPack.excess_supply _ _ _, rfl, ?_⟩
    · change _ - take = _
      omega
  ledger := ⟨_, rfl, fun row member => by
    rw [List.mem_singleton] at member
    subst member
    exact ⟨rfl, fun _ => by simp, fun _ => by simp⟩⟩
  entries entries allocation member := by
    change _ < (account.ledger ++ [_]).length
    rw [List.length_append, List.length_singleton]
    rcases List.mem_append.mp member with older | newer
    · have := entries allocation older
      omega
    · rw [List.mem_singleton] at newer
      subst newer
      exact Nat.lt_succ_self _
  charged other := by
    simp [Account.settleDebt, Account.chargedTo, Account.addAllocation, Account.addLedger,
      Account.setDebt, Account.setPack, CreditPackAllocation.chargedTo]
  donates source donor := by
    simp only [donates_iff]
    rintro ⟨row, member, recovers, pays, rest⟩
    rcases List.mem_append.mp member with older | newer
    · exact .inl ⟨row, older, recovers, pays, rest⟩
    · rw [List.mem_singleton] at newer
      subst newer
      exact .inr pays.symm
  written entry member := by
    refine (List.mem_append.mp member).imp (fun older => older) fun newer => ⟨id, ?_⟩
    rw [List.mem_singleton.mp newer]

theorem settleDebts_settling (session : Session) {packId : Nat} {ids : List Nat} {granted : Int}
    {account : Account} (sound : account.RowsSound) (packBound : packId < account.packs.length)
    (bounds : ∀ id ∈ ids, id < account.debts.length) (nonneg : 0 ≤ granted)
    (available : granted ≤ (account.pack packId).creditsRemaining) :
    let result := settleDebts session packId ids granted account
    0 ≤ result.2 ∧ Settling packId granted result.2 account result.1 := by
  induction ids generalizing granted account with
  | nil => exact ⟨nonneg, .refl sound⟩
  | cons id ids ih =>
      have rest : ∀ other ∈ ids, other < account.debts.length :=
        fun other member => bounds other (by simp [member])
      rw [settleDebts]
      by_cases spent : granted ≤ 0
      · rw [if_pos spent]
        exact ⟨nonneg, .refl sound⟩
      · rw [if_neg spent]
        by_cases settled : min granted (account.debt id).outstanding ≤ 0
        · simp only [settled, if_true]
          exact ih sound packBound rest nonneg available
        · simp only [settled, if_false]
          have here : Settling packId granted (granted - min granted (account.debt id).outstanding)
              account _ := Settling.settleDebt session sound packBound (bounds id (by simp)) (by omega)
            ((min_le_left _ _).trans available) (min_le_right _ _)
          have remaining := here.own.2.2
          obtain ⟨leftNonneg, later⟩ := @ih (granted - min granted (account.debt id).outstanding) _
            here.rows (here.packsLength ▸ packBound)
            (fun other member => here.debtsLength ▸ rest other member) (by omega) (by omega)
          exact ⟨leftNonneg, here.trans later⟩

theorem Except.toOption_eq_some {ε α : Type} {computed : Except ε α} {value : α}
    (found : computed.toOption = some value) : computed = .ok value := by
  cases computed with
  | error error => cases found
  | ok value' => exact congrArg Except.ok (Option.some.inj found)

def grantEntry (session : Session) (amount : Int) (reason : LedgerReason) : CreditLedger :=
  { amount, reason, metadata := none, createdAt := session.clock 0 }

theorem grantCredits_settling {session : Session} {packId : Nat} {granted : Int}
    {ledgerReason : LedgerReason} {before after : Account} (sound : before.RowsSound)
    (packBound : packId < before.packs.length) (nonneg : 0 ≤ granted)
    (available : granted ≤ (before.pack packId).creditsRemaining)
    (ran : grantCreditsWithDebtRecovery session packId granted ledgerReason before = some after) :
    ∃ left settled, 0 ≤ left ∧ Settling packId granted left before settled ∧
      after = (settled.addBalance left).addLedger (grantEntry session left ledgerReason) ∧
      after.Constraints := by
  obtain ⟨leftNonneg, settling⟩ := settleDebts_settling session sound packBound
    (fun id member => mem_scan.mp (List.mem_filter.mp member).1) nonneg available
  obtain ⟨rfl, constraints⟩ := Account.Constraints.flush (Except.toOption_eq_some ran)
  exact ⟨_, _, leftNonneg, settling, rfl, constraints⟩

def Account.addPack (account : Account) (pack : BillingCreditPack) : Account :=
  { account with packs := account.packs ++ [pack] }

theorem Account.packs_length_addPack (account : Account) (pack : BillingCreditPack) :
    account.packs.length < (account.addPack pack).packs.length := by
  simp [Account.addPack]

theorem pack_addPack (account : Account) (pack : BillingCreditPack) (id : Nat) :
    (account.addPack pack).pack id =
      if id = account.packs.length then pack else account.pack id :=
  getD_append

theorem Ages.addPack (account : Account) (pack : BillingCreditPack) :
    Ages account (account.addPack pack) where
  length := (packs_length_addPack account pack).le
  sameTerms id bound := by
    rw [pack_addPack, if_neg bound.ne]
    exact .refl _
  expiredMono id bound := by rw [pack_addPack, if_neg bound.ne]

theorem Moved.addPack (account : Account) (terms : PackTerms) :
    Moved account (account.addPack terms.pack) terms.credits (fun _ => 0) (fun _ => 0)
      fun _ => 0 where
  remaining := by simp [Account.totalRemaining, Account.addPack, PackTerms.pack]
  excess id := by
    change _ - (account.owedTo id + account.recoveringFor id) = _
    simp only [Account.excessDrift, pack_addPack]
    split
    · rename_i fresh
      rw [pack_beyond account fresh.ge]
      simp [BillingCreditPack.excess, BillingCreditPack.gap, BillingCreditPack.accounted,
        PackTerms.pack, default]
    · omega
  consumed id := by
    change _ - account.consumedFrom id = _
    simp only [Account.consumedDrift, pack_addPack]
    split
    · rename_i fresh
      rw [pack_beyond account fresh.ge]
      simp [PackTerms.pack, default]
    · omega
  recovered id := by
    change _ - account.recoveredFrom id = _
    simp only [Account.recoveredDrift, pack_addPack]
    split
    · rename_i fresh
      rw [pack_beyond account fresh.ge]
      simp [PackTerms.pack, default]
    · omega

theorem PackTerms.sound {terms : PackTerms} (checks : terms.pack.Checks) : terms.pack.Sound := by
  obtain ⟨purchased, -, -, -, -, -, -, paid, -⟩ := checks
  simp only [PackTerms.pack] at purchased paid
  constructor <;>
    simp only [PackTerms.pack, BillingCreditPack.gap, BillingCreditPack.accounted] <;>
    first | omega | simp

theorem Account.RowsSound.addPack {account : Account} (sound : account.RowsSound)
    {pack : BillingCreditPack} (packSound : pack.Sound) : (account.addPack pack).RowsSound where
  packs id := by
    rw [pack_addPack]
    split
    · exact packSound
    · exact sound.packs id
  debts := sound.debts
  allocations := sound.allocations

/-- A grant that left `left` credits after the pending debts. -/
structure Granted (session : Session) (terms : PackTerms) (ledgerReason : LedgerReason)
    (left : Int) (settled before after : Account) : Prop where
  leftNonneg : 0 ≤ left
  inserted : (before.addPack terms.pack).Constraints
  settling : Settling before.packs.length terms.credits left (before.addPack terms.pack) settled
  result : after = (settled.addBalance left).addLedger (grantEntry session left ledgerReason)
  constraints : after.Constraints

theorem grant_granted {session : Session} {terms : PackTerms} {ledgerReason : LedgerReason}
    {before after : Account} (sound : before.RowsSound)
    (ran : grant session terms ledgerReason before = .ok after) :
    after = before ∨
      ∃ left settled, Granted session terms ledgerReason left settled before after := by
  simp only [grant] at ran
  obtain ⟨inserted, flushed, ran⟩ := bind_eq_ok ran
  obtain ⟨rfl, constraints⟩ := Account.Constraints.flush flushed
  have packChecks : terms.pack.Checks := constraints.packs _ (by simp)
  split at ran
  · rename_i result granted
    obtain rfl := Except.ok.inj ran
    obtain ⟨left, settled, leftNonneg, settling, rfl, after⟩ := grantCredits_settling
      (sound.addPack (PackTerms.sound packChecks)) (before.packs_length_addPack _)
      packChecks.1.le (by
        rw [pack_addPack, if_pos rfl]
        exact le_rfl) granted
    exact .inr ⟨left, settled, leftNonneg, constraints, settling, rfl, after⟩
  · exact .inl (Except.ok.inj ran).symm

theorem Granted.sourced {session : Session} {terms : PackTerms} {ledgerReason : LedgerReason}
    {left : Int} {settled before after : Account}
    (granted : Granted session terms ledgerReason left settled before after)
    (sourced : before.Sourced) : after.Sourced := by
  obtain ⟨-, inserted, settling, rfl, -⟩ := granted
  have packSound := PackTerms.sound (inserted.packs terms.pack (by simp [Account.addPack]))
  have fresh : (before.addPack terms.pack).Sourced := sourced.move (Moved.addPack before terms)
    (sourced.rows.addPack packSound) sourced.ranked
  refine (fresh.move settling.toMoved settling.rows (fresh.ranked.extend fun source donor donates => ?_)).book _ _
  -- every new edge ends in the fresh pack, which has no excess to recover
  rcases settling.donates source donor donates with older | rfl
  · exact .inl older
  · right
    apply not_donates settling.rows
    · rw [settling.excess, fresh.excess]
      rfl
    · rw [settling.own.1, pack_addPack, if_pos rfl]
      simp [BillingCreditPack.excess, BillingCreditPack.gap, BillingCreditPack.accounted,
        PackTerms.pack]

theorem Granted.posted {session : Session} {terms : PackTerms} {ledgerReason : LedgerReason}
    {left : Int} {settled before after : Account}
    (granted : Granted session terms ledgerReason left settled before after)
    (quiet : ledgerReason.Quiet) : Posted before after := by
  obtain ⟨-, -, settling, rfl, -⟩ := granted
  obtain ⟨rows, ledger, silent⟩ := settling.ledger
  refine ⟨⟨rows ++ [grantEntry session left ledgerReason], ?_, fun row member => ?_⟩,
    fun entries allocation member => ?_, settling.charged⟩
  · change settled.ledger ++ _ = _
    rw [ledger, List.append_assoc]
    rfl
  · rcases List.mem_append.mp member with recovery | surplus
    · exact silent row recovery
    · rw [List.mem_singleton.mp surplus]
      exact ⟨rfl, quiet⟩
  · have := settling.entries entries allocation member
    change _ < (settled.ledger ++ _).length
    rw [List.length_append]
    omega

theorem Account.Sound.grant {session : Session} {terms : PackTerms} {ledgerReason : LedgerReason}
    {before after : Account} (sound : before.Sound) (quiet : ledgerReason.Quiet)
    (ran : grant session terms ledgerReason before = .ok after) : after.Sound := by
  rcases grant_granted sound.rows ran with rfl | ⟨left, settled, granted⟩
  · exact sound
  · exact {
      toSourced := granted.sourced sound.toSourced
      toBooked := (granted.posted quiet).booked sound.toBooked
      toConstraints := granted.constraints }

end Thought2Build.Billing
