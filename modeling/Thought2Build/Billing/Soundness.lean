import Thought2Build.Billing.RestoreTermination

/-!
The account invariant. `Sourced` ties every pack counter to debts and allocations and
ranks reversed packs above their donors; `Booked` ties allocations to the ledger.
-/

namespace Thought2Build.Billing

open Rows Account

structure Account.Sourced (account : Account) : Prop where
  rows : account.RowsSound
  excess : ∀ id, account.excessDrift id = 0
  consumed : ∀ id, account.consumedDrift id = 0
  recovered : ∀ id, account.recoveredDrift id = 0
  ranked : Ranked account.Donates

/-- A ledger row among `count` rows: refunds name one of them, and an operation without an
allocation record took nothing. -/
structure CreditLedger.Filed (count : Nat) (entry : CreditLedger) : Prop where
  refunds : ∀ id, entry.reason = .refund id → id < count
  deductions : ∀ label, entry.reason = .operation label → entry.metadata = none → 0 ≤ entry.amount

structure Account.Booked (account : Account) : Prop where
  filed : ∀ entry ∈ account.ledger, entry.Filed account.ledger.length
  entries : ∀ allocation ∈ account.allocations, allocation.ledgerEntryId < account.ledger.length
  history : ∀ id entry, account.ledger[id]? = some entry → ∀ record ∈ entry.metadata,
    record.allocationVersion = 1 ∧ 0 ≤ record.unallocatedCredits ∧
      record.unallocatedCredits + account.chargedTo id = |entry.amount|

structure Account.Sound (account : Account) : Prop
    extends account.Sourced, account.Booked, account.Constraints

theorem Account.Constraints.flush {account after : Account} (flushed : flush account = .ok after) :
    after = account ∧ account.Constraints := by
  simp only [Billing.flush] at flushed
  split at flushed
  · rename_i constraints
    exact ⟨(Except.ok.inj flushed).symm, constraints⟩
  · cases flushed

theorem flush_cases (account : Account) :
    flush account = .ok account ∨ flush account = .error .integrityError := by
  simp only [flush]
  split
  · exact .inl rfl
  · exact .inr rfl

theorem Account.Constraints.addBalance {account : Account} (constraints : account.Constraints)
    (amount : Int) : (account.addBalance amount).Constraints :=
  ⟨constraints.packs, constraints.debts, constraints.allocations, constraints.packsDistinct,
    constraints.debtSources, constraints.allocationKeys, constraints.ledgerReasons⟩

theorem donates_iff {account : Account} {source donor : Nat} :
    account.Donates source donor ↔ ∃ allocation ∈ account.allocations,
      allocation.recoveryForPackId = some source ∧ allocation.packId = donor ∧
        0 < allocation.unreturned := by
  constructor
  · rintro ⟨id, bound, recovers, pays, unreturned⟩
    exact ⟨_, mem_allocations.mpr ⟨id, bound, rfl⟩, recovers, pays, unreturned⟩
  · rintro ⟨allocation, member, recovers, pays, unreturned⟩
    obtain ⟨id, bound, rfl⟩ := mem_allocations.mp member
    exact ⟨id, bound, recovers, pays, unreturned⟩

theorem Account.RowsSound.book {account : Account} (sound : account.RowsSound)
    (creditBalance : Int) (ledger : List CreditLedger) :
    { account with creditBalance, ledger }.RowsSound :=
  ⟨sound.packs, sound.debts, sound.allocations⟩

theorem Account.RowsSound.addAllocations {account : Account} (sound : account.RowsSound)
    {rows : List CreditPackAllocation}
    (bounds : ∀ row ∈ rows, 0 ≤ row.returnedAmount ∧ row.returnedAmount ≤ row.amount) :
    { account with allocations := account.allocations ++ rows }.RowsSound where
  packs := sound.packs
  debts := sound.debts
  allocations := getD_cases (motive := fun row : CreditPackAllocation =>
      0 ≤ row.returnedAmount ∧ row.returnedAmount ≤ row.amount) (by decide) fun row member => by
    rcases List.mem_append.mp member with older | newer
    · obtain ⟨id, -, rfl⟩ := mem_allocations.mp older
      exact sound.allocations id
    · exact bounds row newer

theorem Account.RowsSound.setPack {account : Account} (sound : account.RowsSound) {id : Nat}
    {pack : BillingCreditPack} (packSound : pack.Sound) : (account.setPack id pack).RowsSound where
  packs _ := setPack_cases (fun _ => packSound) (sound.packs _)
  debts := sound.debts
  allocations := sound.allocations

theorem Account.RowsSound.setDebt {account : Account} (sound : account.RowsSound) {id : Nat}
    {debt : BillingCreditDebt}
    (bounds : 0 ≤ debt.creditsRecovered ∧ debt.creditsRecovered ≤ debt.creditsOwed) :
    (account.setDebt id debt).RowsSound where
  packs := sound.packs
  debts other := by
    rw [debt_setDebt]
    split
    · exact bounds
    · exact sound.debts other
  allocations := sound.allocations

section Sourced

variable {account before after : Account}

theorem Account.Sourced.move {remaining : Int} (sourced : before.Sourced)
    (moved : Moved before after remaining (fun _ => 0) (fun _ => 0) fun _ => 0)
    (rows : after.RowsSound) (ranked : Ranked after.Donates) : after.Sourced where
  rows := rows
  excess id := by rw [moved.excess, sourced.excess]; rfl
  consumed id := by rw [moved.consumed, sourced.consumed]; rfl
  recovered id := by rw [moved.recovered, sourced.recovered]; rfl
  ranked := ranked

theorem unreturned_le_recoveringFor (sound : account.RowsSound) {id sourceId : Nat}
    (bound : id < account.allocations.length)
    (recovers : (account.allocation id).recoveryForPackId = some sourceId) :
    (account.allocation id).unreturned ≤ account.recoveringFor sourceId := by
  have below : (account.allocation id).recoveringFor sourceId ≤ account.recoveringFor sourceId := by
    apply column_le_sumOf (getElem?_of_lt bound default)
    intro allocation member
    obtain ⟨other, -, rfl⟩ := mem_allocations.mp member
    have := unreturned_nonneg sound other
    simp only [CreditPackAllocation.recoveringFor]
    split <;> omega
  simpa [CreditPackAllocation.recoveringFor, recovers] using below

theorem Account.Sourced.book (sourced : account.Sourced) (creditBalance : Int)
    (ledger : List CreditLedger) : { account with creditBalance, ledger }.Sourced :=
  ⟨sourced.rows.book _ _, sourced.excess, sourced.consumed, sourced.recovered, sourced.ranked⟩

theorem clear_of_clean {packId : Nat} (sound : account.RowsSound)
    (drift : account.excessDrift packId = 0) (clean : (account.pack packId).excess = 0) :
    account.owedTo packId = 0 ∧ account.recoveringFor packId = 0 := by
  have owed := owedTo_nonneg sound packId
  have recovering := recoveringFor_nonneg sound packId
  simp only [Account.excessDrift] at drift
  omega

theorem not_donates {packId : Nat} (sound : account.RowsSound)
    (drift : account.excessDrift packId = 0) (clean : (account.pack packId).excess = 0)
    (donor : Nat) : ¬account.Donates packId donor := by
  rintro ⟨id, bound, recovers, -, unreturned⟩
  have := unreturned_le_recoveringFor sound bound recovers
  have := (clear_of_clean sound drift clean).2
  omega

theorem Account.Sourced.donor_bound (sourced : account.Sourced) {source donor : Nat}
    (donates : account.Donates source donor) : donor < account.packs.length := by
  obtain ⟨id, bound, recovers, rfl, unreturned⟩ := donates
  have := unreturned_le_recoveredFrom sourced.rows bound (by simp [recovers])
  have drift := sourced.recovered (account.allocation id).packId
  simp only [Account.recoveredDrift] at drift
  exact pack_bound (·.creditsDebtRecovered) rfl (by omega)

theorem debtSources_of_pairwise
    (distinct : account.debts.Pairwise fun first second =>
      first.sourcePackId ≠ second.sourcePackId) :
    ∀ first < account.debts.length, ∀ second < account.debts.length,
      (account.debt first).sourcePackId = (account.debt second).sourcePackId → first = second := by
  intro first firstBound second secondBound same
  rw [List.pairwise_iff_getElem] at distinct
  have get : ∀ id (bound : id < account.debts.length), account.debt id = account.debts[id] := by
    intro id bound
    simp [Account.debt, bound]
  rw [get first firstBound, get second secondBound] at same
  rcases Nat.lt_trichotomy first second with earlier | rfl | later
  · exact absurd same (distinct first second firstBound secondBound earlier)
  · rfl
  · exact absurd same.symm (distinct second first secondBound firstBound later)

theorem debtSources_carry {after : Account}
    (distinct : account.debts.Pairwise fun first second =>
      first.sourcePackId ≠ second.sourcePackId)
    (length : after.debts.length = account.debts.length)
    (sources : ∀ id, (after.debt id).sourcePackId = (account.debt id).sourcePackId) :
    after.debts.Pairwise fun first second => first.sourcePackId ≠ second.sourcePackId := by
  have distinct := debtSources_of_pairwise distinct
  rw [List.pairwise_iff_getElem]
  intro first second firstBound secondBound earlier same
  have get : ∀ id (bound : id < after.debts.length), after.debts[id] = after.debt id := by
    intro id bound
    simp [Account.debt, bound]
  rw [get first firstBound, get second secondBound, sources, sources] at same
  have := distinct first (length ▸ firstBound) second (length ▸ secondBound) same
  omega

theorem Account.Sourced.backed (sourced : account.Sourced)
    (distinct : account.debts.Pairwise fun first second =>
      first.sourcePackId ≠ second.sourcePackId) :
    ∃ rank : Nat → Nat, (∀ id, rank id ≤ account.packs.length) ∧
      ∀ height, account.Backed rank height := by
  obtain ⟨rank, falls, low⟩ := sourced.ranked.bounded fun _ _ => sourced.donor_bound
  exact ⟨rank, low, fun height => {
    rows := sourced.rows
    debtSources := debtSources_of_pairwise distinct
    falls := falls
    excess := fun id _ => (sourced.excess id).le
    recovered := fun id _ => (sourced.recovered id).ge }⟩

end Sourced

section Booked

variable {account before after : Account}

theorem Account.Booked.uncharged (booked : account.Booked) {id : Nat}
    (future : account.ledger.length ≤ id) : account.chargedTo id = 0 := by
  apply sumOf_zero
  intro allocation member
  have earlier := booked.entries allocation member
  exact if_neg fun same => by omega

theorem Account.Booked.append (booked : before.Booked) {rows : List CreditLedger}
    (ledger : after.ledger = before.ledger ++ rows)
    (entries : ∀ allocation ∈ after.allocations,
      allocation ∈ before.allocations ∨ allocation.ledgerEntryId < after.ledger.length)
    (charged : ∀ id < before.ledger.length, after.chargedTo id = before.chargedTo id)
    (filed : ∀ row ∈ rows, row.Filed before.ledger.length)
    (history : ∀ id entry, rows[id]? = some entry → ∀ record ∈ entry.metadata,
      record.allocationVersion = 1 ∧ 0 ≤ record.unallocatedCredits ∧
        record.unallocatedCredits + after.chargedTo (before.ledger.length + id) =
          |entry.amount|) : after.Booked where
  filed entry member := by
    have grown : before.ledger.length ≤ after.ledger.length := by
      rw [ledger, List.length_append]
      omega
    rw [ledger] at member
    have kind := (List.mem_append.mp member).elim (booked.filed entry) (filed entry)
    exact ⟨fun id refunds => (kind.refunds id refunds).trans_le grown, kind.deductions⟩
  entries allocation member := by
    rcases entries allocation member with older | newer
    · have := booked.entries allocation older
      rw [ledger, List.length_append]
      omega
    · exact newer
  history id entry found record recorded := by
    rw [ledger] at found
    by_cases older : id < before.ledger.length
    · rw [List.getElem?_append_left older] at found
      rw [charged id older]
      exact booked.history id entry found record recorded
    · rw [List.getElem?_append_right (by omega)] at found
      have := history _ entry found record recorded
      rwa [show before.ledger.length + (id - before.ledger.length) = id by omega] at this

def LedgerReason.Quiet (reason : LedgerReason) : Prop :=
  (∀ label, reason ≠ .operation label) ∧ ∀ id, reason ≠ .refund id

def CreditLedger.Silent (entry : CreditLedger) : Prop :=
  entry.metadata = none ∧ entry.reason.Quiet

theorem CreditLedger.Silent.filed {entry : CreditLedger} (silent : entry.Silent) (count : Nat) :
    entry.Filed count :=
  ⟨fun id refunds => absurd refunds (silent.2.2 id),
    fun label operation _ => absurd operation (silent.2.1 label)⟩

structure Posted (before after : Account) : Prop where
  ledger : ∃ rows, after.ledger = before.ledger ++ rows ∧ ∀ row ∈ rows, row.Silent
  entries : (∀ allocation ∈ before.allocations, allocation.ledgerEntryId < before.ledger.length) →
    ∀ allocation ∈ after.allocations, allocation.ledgerEntryId < after.ledger.length
  charged : ∀ id, after.chargedTo id = before.chargedTo id

theorem Posted.refl (account : Account) : Posted account account :=
  ⟨⟨[], by simp, fun _ member => nomatch member⟩, fun entries => entries, fun _ => rfl⟩

theorem Posted.trans {first second third : Account} (left : Posted first second)
    (right : Posted second third) : Posted first third where
  ledger := by
    obtain ⟨rows, ledger, silent⟩ := left.ledger
    obtain ⟨rows', ledger', silent'⟩ := right.ledger
    refine ⟨rows ++ rows', by rw [ledger', ledger, List.append_assoc], fun row member => ?_⟩
    exact (List.mem_append.mp member).elim (silent row) (silent' row)
  entries entries := right.entries (left.entries entries)
  charged id := (right.charged id).trans (left.charged id)

theorem Posted.booked (posted : Posted before after) (booked : before.Booked) : after.Booked := by
  obtain ⟨rows, ledger, silent⟩ := posted.ledger
  refine booked.append ledger (fun allocation member => .inr
    (posted.entries booked.entries allocation member)) (fun id _ => posted.charged id)
    (fun row member => (silent row member).filed _) fun id entry found record recorded => ?_
  rw [(silent entry (List.mem_of_getElem? found)).1] at recorded
  cases recorded

end Booked

section Sweep

variable (now : Int) (account : Account)

theorem packs_expireUserPacks : (account.expireUserPacks now).packs =
    account.packs.map fun pack => if pack.lapsed now then pack.expire else pack := by
  simp only [Account.expireUserPacks]
  split
  · rfl
  · rename_i none
    simp only [List.any_eq_true, not_exists, not_and, Bool.not_eq_true] at none
    symm
    exact (List.map_congr_left fun pack member => by simp [none pack member]).trans
      (List.map_id _)

theorem pack_expireUserPacks (id : Nat) : (account.expireUserPacks now).pack id =
    if (account.pack id).lapsed now then (account.pack id).expire else account.pack id := by
  rw [Account.pack, packs_expireUserPacks]
  exact getD_map rfl

@[simp] theorem packs_length_expireUserPacks :
    (account.expireUserPacks now).packs.length = account.packs.length := by
  simp [packs_expireUserPacks]

@[simp] theorem debts_expireUserPacks : (account.expireUserPacks now).debts = account.debts := by
  simp only [Account.expireUserPacks]
  split <;> rfl

@[simp] theorem allocations_expireUserPacks :
    (account.expireUserPacks now).allocations = account.allocations := by
  simp only [Account.expireUserPacks]
  split <;> rfl

@[simp] theorem ledger_expireUserPacks :
    (account.expireUserPacks now).ledger = account.ledger := by
  simp only [Account.expireUserPacks]
  split <;> rfl

@[simp] theorem userId_expireUserPacks :
    (account.expireUserPacks now).userId = account.userId := by
  simp only [Account.expireUserPacks]
  split <;> rfl

theorem expireUserPacks_addLedger (entry : CreditLedger) :
    (account.addLedger entry).expireUserPacks now =
      (account.expireUserPacks now).addLedger entry := by
  cases lapsed : account.packs.any (·.lapsed now) <;>
    simp [Account.expireUserPacks, Account.addLedger, Account.totalExpired, lapsed]

theorem creditBalance_expireUserPacks (covered : account.totalExpired now ≤ account.creditBalance) :
    (account.expireUserPacks now).creditBalance =
      account.creditBalance - account.totalExpired now := by
  simp only [Account.expireUserPacks]
  split
  · change max 0 _ = _
    omega
  · rename_i none
    simp only [List.any_eq_true, not_exists, not_and, Bool.not_eq_true] at none
    have : account.totalExpired now = 0 := sumOf_zero fun pack member => by
      simp [none pack member]
    omega

theorem Moved.expireUserPacks : Moved account (account.expireUserPacks now)
    (-account.totalExpired now) (fun _ => 0) (fun _ => 0) fun _ => 0 where
  remaining := by
    rw [Account.totalRemaining, packs_expireUserPacks, sumOf_map, Account.totalRemaining,
      ← Int.sub_eq_add_neg, eq_sub_iff_add_eq, Account.totalExpired, ← sumOf_add]
    apply sumOf_congr
    intro pack _
    cases pack.lapsed now <;> simp [BillingCreditPack.expire]
  excess id := by
    simp only [Account.excessDrift, Account.owedTo, Account.recoveringFor, pack_expireUserPacks,
      debts_expireUserPacks, allocations_expireUserPacks, BillingCreditPack.excess,
      BillingCreditPack.gap, BillingCreditPack.accounted]
    split
    · simp only [BillingCreditPack.expire]
      omega
    · omega
  consumed id := by
    simp only [Account.consumedDrift, Account.consumedFrom, pack_expireUserPacks,
      allocations_expireUserPacks]
    split
    · simp only [BillingCreditPack.expire]
      omega
    · omega
  recovered id := by
    simp only [Account.recoveredDrift, Account.recoveredFrom, pack_expireUserPacks,
      allocations_expireUserPacks]
    split
    · simp only [BillingCreditPack.expire]
      omega
    · omega

end Sweep

theorem BillingCreditPack.Sound.expire {pack : BillingCreditPack} (sound : pack.Sound) :
    pack.expire.Sound := by
  obtain ⟨h1, h2, h3, h4, h5, h6, h7, h8, h9, h10, h11, h12⟩ := sound
  simp only [BillingCreditPack.gap, BillingCreditPack.accounted] at *
  constructor <;>
    simp only [BillingCreditPack.expire, BillingCreditPack.gap, BillingCreditPack.accounted] <;>
    grind

theorem Account.RowsSound.expireUserPacks {account : Account} (sound : account.RowsSound)
    (now : Int) : (account.expireUserPacks now).RowsSound where
  packs id := by
    rw [pack_expireUserPacks]
    split
    · exact (sound.packs id).expire
    · exact sound.packs id
  debts id := by
    rw [Account.debt, debts_expireUserPacks]
    exact sound.debts id
  allocations id := by
    rw [Account.allocation, allocations_expireUserPacks]
    exact sound.allocations id

theorem Account.Sourced.expireUserPacks {account : Account} (sourced : account.Sourced)
    (now : Int) : (account.expireUserPacks now).Sourced :=
  sourced.move (.expireUserPacks now account) (sourced.rows.expireUserPacks now)
    (sourced.ranked.mono fun source donor donates => by
      simpa [Account.Donates, Account.allocation] using donates)

theorem Account.Booked.expireUserPacks {account : Account} (booked : account.Booked)
    (now : Int) : (account.expireUserPacks now).Booked where
  filed := by simpa using booked.filed
  entries := by simpa using booked.entries
  history := by simpa [Account.chargedTo] using booked.history

theorem sameTerms_expireUserPacks (now : Int) (account : Account) (id : Nat) :
    (account.pack id).SameTerms ((account.expireUserPacks now).pack id) := by
  rw [pack_expireUserPacks]
  split
  · constructor <;> rfl
  · exact .refl _

theorem processed_expireUserPacks (now : Int) (account : Account) (id : Nat) :
    ((account.expireUserPacks now).pack id).refundedItemAmountCentsProcessed =
      (account.pack id).refundedItemAmountCentsProcessed := by
  rw [pack_expireUserPacks]
  split <;> rfl

theorem Ages.expireUserPacks {account : Account} (sound : account.RowsSound) (now : Int) :
    Ages account (account.expireUserPacks now) where
  length := (packs_length_expireUserPacks now account).ge
  sameTerms id _ := sameTerms_expireUserPacks now account id
  expiredMono id _ := by
    have := (sound.packs id).remaining
    rw [pack_expireUserPacks]
    split
    · change _ ≤ _ + _
      omega
    · exact le_rfl

theorem totalRemaining_nonneg {account : Account} (sound : account.RowsSound) :
    0 ≤ account.totalRemaining := by
  apply sumOf_nonneg
  intro pack member
  obtain ⟨id, -, rfl⟩ := mem_packs.mp member
  exact (sound.packs id).remaining

theorem totalExpired_le (now : Int) {account : Account} (sound : account.RowsSound) :
    account.totalExpired now ≤ account.totalRemaining := by
  apply sumOf_mono
  intro pack member
  obtain ⟨id, -, rfl⟩ := mem_packs.mp member
  have := (sound.packs id).remaining
  split <;> omega

theorem Account.Spendable.settled {session : Session} {account : Account}
    (spendable : account.Spendable) (steady : account.Steady session) :
    (account.expireUserPacks (session.clock 0)).Settled session := by
  constructor
  · intro id bound reading
    rw [packs_length_expireUserPacks] at bound
    rw [pack_expireUserPacks]
    split
    · exact steady id bound reading
    · exact steady id bound reading
  · intro id lapsed
    rw [pack_expireUserPacks] at lapsed ⊢
    split
    · simp [BillingCreditPack.expire]
    · rename_i fresh
      rw [if_neg fresh] at lapsed
      simp only [BillingCreditPack.lapsed] at fresh
      grind
  · intro id inactive
    rw [pack_expireUserPacks] at inactive ⊢
    split
    · rfl
    · rename_i fresh
      rw [if_neg fresh] at inactive
      exact spendable id inactive

/-- A stretch of an operation that raises the balance and the spendable total by the same
`gain`, keeps the provenance invariant and writes silent ledger rows only. -/
structure Transferred (session : Session) (gain : Int) (before after : Account) : Prop
    extends Moved before after gain (fun _ => 0) (fun _ => 0) fun _ => 0,
      Posted before after, Ages before after where
  rows : after.RowsSound
  ranked : Ranked after.Donates
  packsLength : after.packs.length = before.packs.length
  creditBalance : before.totalRemaining ≤ before.creditBalance →
    after.creditBalance = before.creditBalance + gain
  settled : before.Settled session → after.Settled session

namespace Transferred

variable {session : Session} {gain gain' : Int} {first second third : Account}

theorem sourced (transferred : Transferred session gain first second) (sourced : first.Sourced) :
    second.Sourced :=
  sourced.move transferred.toMoved transferred.rows transferred.ranked

theorem refl (session : Session) {account : Account} (sourced : account.Sourced) :
    Transferred session 0 account account where
  toMoved := .refl account
  toPosted := .refl account
  toAges := .refl account
  rows := sourced.rows
  ranked := sourced.ranked
  packsLength := rfl
  creditBalance _ := (Int.add_zero _).symm
  settled settled := settled

theorem trans (left : Transferred session gain first second)
    (right : Transferred session gain' second third) :
    Transferred session (gain + gain') first third where
  toMoved := left.toMoved.trans right.toMoved
  toPosted := left.toPosted.trans right.toPosted
  toAges := left.toAges.trans right.toAges
  rows := right.rows
  ranked := right.ranked
  packsLength := right.packsLength.trans left.packsLength
  creditBalance covered := by
    have middle := left.creditBalance covered
    have remaining := left.remaining
    rw [right.creditBalance (by omega), middle]
    omega
  settled settled := right.settled (left.settled settled)

theorem expireUserPacks {account : Account} (sourced : account.Sourced) (reading : Nat) :
    Transferred session (-account.totalExpired (session.clock reading)) account
      (account.expireUserPacks (session.clock reading)) where
  toMoved := .expireUserPacks _ account
  toPosted := by
    refine ⟨⟨[], by simp, fun _ member => nomatch member⟩, fun entries => ?_, fun id => ?_⟩
    · simpa using entries
    · simp [Account.chargedTo]
  toAges := .expireUserPacks sourced.rows _
  rows := sourced.rows.expireUserPacks _
  ranked := (sourced.expireUserPacks _).ranked
  packsLength := packs_length_expireUserPacks _ account
  creditBalance covered := by
    rw [creditBalance_expireUserPacks _ _
      ((totalExpired_le _ sourced.rows).trans covered)]
    omega
  settled settled := by
    have same : ∀ id, (account.expireUserPacks (session.clock reading)).pack id =
        account.pack id := by
      intro id
      rw [pack_expireUserPacks, if_neg]
      intro lapsed
      simp only [BillingCreditPack.lapsed, Bool.and_eq_true, decide_eq_true_eq] at lapsed
      have bound : id < account.packs.length := by
        by_contra beyond
        rw [pack_beyond account (Nat.not_lt.mp beyond)] at lapsed
        cases lapsed.1
      exact settled.swept id ((settled.steady id bound reading).mp lapsed.2) lapsed.1
    refine ⟨fun id bound reading' => ?_, fun id => ?_, fun id => ?_⟩ <;> rw [same]
    · exact settled.steady id (packs_length_expireUserPacks _ account ▸ bound) reading'
    · exact settled.swept id
    · exact settled.spendable id

end Transferred

end Thought2Build.Billing
