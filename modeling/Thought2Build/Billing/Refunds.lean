import Thought2Build.Billing.Soundness

/-!
`refund` and `_restore_deduction`: every consumed slice goes back through
`_restore_pack_value`, which always finds the provenance it needs.
-/

namespace Thought2Build.Billing

open Rows Account

section Restored

variable {session : Session} {before after : Account} {usable : Int}

theorem Restored.sourced
    (step : Restored session before after usable (fun _ => 0) (fun _ => 0) fun _ => 0)
    (sourced : before.Sourced) : after.Sourced :=
  sourced.move step.toMoved (step.rows sourced.rows)
    (sourced.ranked.mono fun _ _ donates => step.donates sourced.rows donates)

theorem Restored.debtSources {excess consumed recovered : Nat → Int}
    (step : Restored session before after usable excess consumed recovered)
    (distinct : before.debts.Pairwise fun first second =>
      first.sourcePackId ≠ second.sourcePackId) :
    after.debts.Pairwise fun first second => first.sourcePackId ≠ second.sourcePackId :=
  debtSources_carry distinct step.debtsLength step.debtSource

theorem Frame.chargedTo (frame : Frame before after) (id : Nat) :
    after.chargedTo id = before.chargedTo id := by
  have same : ∀ row, ((after.allocation row).chargedTo id) = (before.allocation row).chargedTo id := by
    intro row
    simp only [CreditPackAllocation.chargedTo, frame.allocationEntry, frame.allocationRecovery,
      frame.allocationAmount]
  calc after.chargedTo id
      = sumOf (fun row => (after.allocation row).chargedTo id)
          (List.range after.allocations.length) :=
        (sumOf_range (fun row : CreditPackAllocation => row.chargedTo id) _ default).symm
    _ = sumOf (fun row => (before.allocation row).chargedTo id)
          (List.range before.allocations.length) := by
        rw [frame.allocationsLength]
        exact sumOf_congr fun row _ => same row
    _ = before.chargedTo id := 
        sumOf_range (fun row : CreditPackAllocation => row.chargedTo id) _ default

theorem Frame.entries (frame : Frame before after) {count : Nat}
    (entries : ∀ allocation ∈ before.allocations, allocation.ledgerEntryId < count) :
    ∀ allocation ∈ after.allocations, allocation.ledgerEntryId < count := by
  intro allocation member
  obtain ⟨id, bound, rfl⟩ := mem_allocations.mp member
  rw [frame.allocationEntry]
  exact entries _ (mem_allocations.mpr ⟨id, frame.allocationsLength ▸ bound, rfl⟩)

end Restored

section Deduction

variable {session : Session} {fuel : Nat}

theorem restored_consumption {before after : Tx} {id : Nat} {usable : Int}
    (sound : before.account.RowsSound) (bound : id < before.account.allocations.length)
    (consumes : (before.account.allocation id).recoveryForPackId = none)
    (ran :
      let allocation := before.account.allocation id
      let account := before.account.returnAllocation id allocation.unreturned
      restorePackValue session fuel allocation.packId allocation.unreturned .creditsConsumed
        { before with account } = .ok (after, usable)) :
    Restored session before.account after.account usable (fun _ => 0) (fun _ => 0)
      fun _ => 0 := by
  have nonneg := unreturned_nonneg sound id
  refine ((Restored.returnAllocation session bound nonneg le_rfl).trans
    (restorePackValue_restores session fuel nonneg ran)).congr (by omega) (fun other => ?_)
    (fun other => ?_) fun other => ?_
  · simp [consumes]
  · simp only [consumes, Counter.consumedShift, single]
    grind
  · simp [consumes, Counter.recoveredShift]

theorem restoreAllocations_restored {ids : List Nat} {before after : Tx} {usable : Int}
    (sound : before.account.RowsSound)
    (consumptions : ∀ id ∈ ids, id < before.account.allocations.length ∧
      (before.account.allocation id).recoveryForPackId = none)
    (ran : restoreAllocations session fuel ids before = .ok (after, usable)) :
    Restored session before.account after.account usable (fun _ => 0) (fun _ => 0)
      fun _ => 0 := by
  induction ids generalizing before usable with
  | nil =>
      simp only [restoreAllocations, Except.ok.injEq, Prod.mk.injEq] at ran
      obtain ⟨rfl, rfl⟩ := ran
      exact .refl _
  | cons id ids ih =>
      obtain ⟨bound, consumes⟩ := consumptions id (by simp)
      simp only [restoreAllocations] at ran
      obtain ⟨⟨middle, restored⟩, first, ran⟩ := bind_eq_ok ran
      obtain ⟨⟨last, rest⟩, later, ran⟩ := bind_eq_ok ran
      simp only [pure, Except.pure, Except.ok.injEq, Prod.mk.injEq] at ran
      obtain ⟨rfl, rfl⟩ := ran
      have here := restored_consumption sound bound consumes first
      refine (here.trans (ih (here.rows sound) (fun other member => ?_) later)).congr rfl
        (fun _ => rfl) (fun _ => rfl) fun _ => rfl
      rw [here.allocationsLength, here.allocationRecovery]
      exact consumptions other (by simp [member])

theorem restoreAllocations_returns {ids : List Nat} {tx : Tx} (sourced : tx.account.Sourced)
    (distinct : tx.account.debts.Pairwise fun first second =>
      first.sourcePackId ≠ second.sourcePackId)
    (enough : tx.account.packs.length < fuel)
    (consumptions : ∀ id ∈ ids, id < tx.account.allocations.length ∧
      (tx.account.allocation id).recoveryForPackId = none) :
    ∃ after usable, restoreAllocations session fuel ids tx = .ok (after, usable) := by
  induction ids generalizing tx with
  | nil => exact ⟨_, _, rfl⟩
  | cons id ids ih =>
      obtain ⟨bound, consumes⟩ := consumptions id (by simp)
      obtain ⟨rank, low, backed⟩ := sourced.backed distinct
      have nonneg := unreturned_nonneg sourced.rows id
      have covered := unreturned_le_consumedFrom sourced.rows bound consumes
      have drift := sourced.consumed (tx.account.allocation id).packId
      simp only [Account.consumedDrift] at drift
      have returned := Restored.returnAllocation session bound nonneg le_rfl
      have middleBacked := returned.backed (backed (rank (tx.account.allocation id).packId + 1))
        (fun other _ => by simp [consumes, sourced.excess])
        (fun other _ => by simp [consumes, sourced.recovered])
      have rankLow := low (tx.account.allocation id).packId
      obtain ⟨middle, restored, ran, -⟩ := @restorePackValue_returns rank session fuel _
        (tx.account.allocation id).unreturned .creditsConsumed
        { tx with account := tx.account.returnAllocation id _ } (by omega) middleBacked (by
          change _ ≤ (tx.account.pack (tx.account.allocation id).packId).creditsConsumed
          omega)
      have here := restored_consumption sourced.rows bound consumes ran
      obtain ⟨after, usable, rest⟩ := ih (here.sourced sourced) (here.debtSources distinct)
        (here.packsLength ▸ enough) (fun other member => by
          rw [here.allocationsLength, here.allocationRecovery]
          exact consumptions other (by simp [member]))
      refine ⟨after, restored + usable, ?_⟩
      simp only [restoreAllocations]
      rw [Account.returnAllocation] at ran
      rw [ran]
      change (restoreAllocations session fuel ids middle >>= _) = _
      rw [rest]
      rfl

theorem mem_consumptionsOf {account : Account} {ledgerEntryId id : Nat} :
    id ∈ account.consumptionsOf session ledgerEntryId ↔ id < account.allocations.length ∧
      (account.allocation id).ledgerEntryId = ledgerEntryId ∧
      (account.allocation id).recoveryForPackId = none := by
  simp [Account.consumptionsOf]

theorem sumOf_consumptionsOf (account : Account) (session : Session) (ledgerEntryId : Nat) :
    sumOf (fun id => (account.allocation id).amount) (account.consumptionsOf session ledgerEntryId) =
      account.chargedTo ledgerEntryId := by
  have dropped : ∀ id < account.allocations.length,
      decide ((account.allocation id).ledgerEntryId = ledgerEntryId ∧
        (account.allocation id).recoveryForPackId = none) = false →
      (account.allocation id).chargedTo ledgerEntryId = 0 :=
    fun id _ excluded => if_neg (of_decide_eq_false excluded)
  refine Eq.trans (sumOf_congr fun id member => ?_) (sumOf_scan_filter dropped)
  exact (if_pos (mem_consumptionsOf.mp member).2).symm

theorem restoreDeduction_restored {ledgerEntryId : Nat} {original : CreditLedger}
    {record : AllocationRecord} {before after : Tx} {refundAmount : Int}
    (sound : before.account.RowsSound)
    (ran : restoreDeduction session fuel ledgerEntryId original record before =
      .ok (after, refundAmount)) :
    Restored session before.account after.account (refundAmount - record.unallocatedCredits)
      (fun _ => 0) (fun _ => 0) fun _ => 0 := by
  simp only [restoreDeduction] at ran
  split at ran
  · cases ran
  · obtain ⟨⟨last, restored⟩, slices, ran⟩ := bind_eq_ok ran
    simp only [pure, Except.pure, Except.ok.injEq, Prod.mk.injEq] at ran
    obtain ⟨rfl, rfl⟩ := ran
    have step := restoreAllocations_restored sound
      (fun id member => ⟨(mem_consumptionsOf.mp member).1, (mem_consumptionsOf.mp member).2.2⟩) slices
    exact step.congr (by omega) (fun _ => rfl) (fun _ => rfl) fun _ => rfl

theorem restoreDeduction_returns {ledgerEntryId : Nat} {original : CreditLedger}
    {record : AllocationRecord} {tx : Tx} (sourced : tx.account.Sourced)
    (distinct : tx.account.debts.Pairwise fun first second =>
      first.sourcePackId ≠ second.sourcePackId)
    (enough : tx.account.packs.length < fuel)
    (history : record.unallocatedCredits + tx.account.chargedTo ledgerEntryId = |original.amount|) :
    ∃ after refundAmount, restoreDeduction session fuel ledgerEntryId original record tx =
      .ok (after, refundAmount) := by
  obtain ⟨after, usable, ran⟩ := @restoreAllocations_returns session fuel _ tx sourced distinct
    enough fun id member => ⟨(mem_consumptionsOf.mp member).1, (mem_consumptionsOf.mp member).2.2⟩
  refine ⟨after, record.unallocatedCredits + usable, ?_⟩
  simp only [restoreDeduction]
  rw [if_neg]
  · rw [ran]
    rfl
  · rw [Decidable.not_not, ← history, ← sumOf_consumptionsOf tx.account session]
    rfl

theorem restoreAllocations_agree {more : Nat} (enough : fuel ≤ more) {ids : List Nat} {tx : Tx}
    {result : Tx × Int} (ran : restoreAllocations session fuel ids tx = .ok result) :
    restoreAllocations session more ids tx = .ok result := by
  induction ids generalizing tx result with
  | nil => exact ran
  | cons id ids ih =>
      simp only [restoreAllocations] at ran ⊢
      obtain ⟨⟨middle, restored⟩, here, ran⟩ := bind_eq_ok ran
      obtain ⟨last, later, ran⟩ := bind_eq_ok ran
      rw [bind_of_ok (restorePackValue_agree session enough _ _ _ _ _ here), bind_of_ok (ih later)]
      exact ran

theorem restoreDeduction_agree {more : Nat} (enough : fuel ≤ more) {ledgerEntryId : Nat}
    {original : CreditLedger} {record : AllocationRecord} {tx : Tx} {result : Tx × Int}
    (ran : restoreDeduction session fuel ledgerEntryId original record tx = .ok result) :
    restoreDeduction session more ledgerEntryId original record tx = .ok result := by
  simp only [restoreDeduction] at ran ⊢
  split at ran
  · cases ran
  · rename_i complete
    rw [if_neg complete]
    obtain ⟨restored, slices, ran⟩ := bind_eq_ok ran
    rw [bind_of_ok (restoreAllocations_agree enough slices)]
    exact ran

end Deduction

def refundEntry (session : Session) (ledgerEntryId : Nat) (amount : Int) : CreditLedger :=
  { amount, reason := .refund ledgerEntryId, metadata := none, createdAt := session.clock 0 }

theorem refundEntry_filed {session : Session} {ledgerEntryId count : Nat} {amount : Int}
    (bound : ledgerEntryId < count) : (refundEntry session ledgerEntryId amount).Filed count :=
  ⟨fun _ same => LedgerReason.refund.inj same ▸ bound, fun _ same => by cases same⟩

/-- The refund of a recorded deduction, of which packs got `usable` back. -/
structure Refunded (session : Session) (ledgerEntryId : Nat) (unallocated usable : Int)
    (swept after : Account) : Prop where
  restored : Restored session
    { swept with creditBalance := after.creditBalance, ledger := after.ledger } after usable
    (fun _ => 0) (fun _ => 0) fun _ => 0
  creditBalance : after.creditBalance = swept.creditBalance + (unallocated + usable)
  ledger : after.ledger =
    swept.ledger ++ [refundEntry session ledgerEntryId (unallocated + usable)]
  constraints : after.Constraints

structure LegacyRefunded (session : Session) (ledgerEntryId : Nat) (original : CreditLedger)
    (before after : Account) : Prop where
  result : after =
    (before.addLedger (refundEntry session ledgerEntryId |original.amount|)).addBalance |original.amount|
  older : ∀ pack ∈ before.packs, original.createdAt < pack.purchasedAt
  constraints : after.Constraints

theorem refundSavepoint_refunded {session : Session} {fuel ledgerEntryId : Nat}
    {original : CreditLedger} {record : AllocationRecord} {before after : Account}
    {refundAmount : Int} (sound : before.RowsSound) (recorded : original.metadata = some record)
    (current : record.allocationVersion = 1)
    (ran : refundSavepoint session fuel ledgerEntryId original before = .ok (after, refundAmount)) :
    Refunded session ledgerEntryId record.unallocatedCredits
      (refundAmount - record.unallocatedCredits) (before.expireUserPacks (session.clock 0))
      (after.addBalance refundAmount) := by
  simp only [refundSavepoint, recorded, current, if_true] at ran
  rw [expireUserPacks_addLedger] at ran
  have sweptSound := sound.expireUserPacks (session.clock 0)
  rw [← ledger_expireUserPacks (session.clock 0) before] at ran
  generalize before.expireUserPacks (session.clock 0) = swept at ran sweptSound ⊢
  obtain ⟨⟨tx, restored⟩, deduction, ran⟩ := bind_eq_ok ran
  obtain ⟨flushed, kept, ran⟩ := bind_eq_ok ran
  obtain ⟨rfl, constraints⟩ := Account.Constraints.flush kept
  simp only [pure, Except.pure, Except.ok.injEq, Prod.mk.injEq] at ran
  obtain ⟨rfl, rfl⟩ := ran
  have step := restoreDeduction_restored (sweptSound.book _ _) deduction
  refine ⟨step.rebook _ _, ?_, ?_, constraints.addBalance _⟩
  · change tx.account.creditBalance + _ = _
    rw [step.balance]
    change swept.creditBalance + _ = _
    omega
  · change tx.account.ledger.modify _ _ = _
    rw [step.ledger]
    simp [Account.addLedger, modify_last, refundEntry]

theorem refundSavepoint_legacy {session : Session} {fuel ledgerEntryId : Nat}
    {original : CreditLedger} {before after : Account} {refundAmount : Int}
    (unrecorded : original.metadata = none)
    (ran : refundSavepoint session fuel ledgerEntryId original before = .ok (after, refundAmount)) :
    LegacyRefunded session ledgerEntryId original before (after.addBalance refundAmount) := by
  simp only [refundSavepoint, unrecorded, refundSavepoint.legacy] at ran
  split at ran
  · cases ran
  rename_i older
  cases flushed : flush (before.addLedger {
      amount := |original.amount|, reason := .refund ledgerEntryId, metadata := none
      createdAt := session.clock 0 }) with
  | error error =>
      rw [flushed] at ran
      cases ran
  | ok value =>
      rw [flushed] at ran
      obtain ⟨rfl, constraints⟩ := Account.Constraints.flush flushed
      simp only [Except.map, Except.ok.injEq, Prod.mk.injEq] at ran
      obtain ⟨rfl, rfl⟩ := ran
      refine ⟨rfl, fun pack member => ?_, constraints.addBalance _⟩
      by_contra earlier
      apply older
      rw [List.any_eq_true]
      exact ⟨pack, member, decide_eq_true (Int.not_lt.mp earlier)⟩

theorem refund_cases {session : Session} {fuel ledgerEntryId : Nat} {userId : Option Nat}
    {before after : Account} {amount : Int} (sound : before.RowsSound) (booked : before.Booked)
    (ran : refund session fuel ledgerEntryId userId before = .ok (after, amount)) :
    after = before ∨ ∃ original, before.ledger[ledgerEntryId]? = some original ∧
      original.amount < 0 ∧ (∀ entry ∈ before.ledger, entry.reason ≠ .refund ledgerEntryId) ∧
      ((original.metadata = none ∧
          LegacyRefunded session ledgerEntryId original before after) ∨
        ∃ record usable, original.metadata = some record ∧
          Refunded session ledgerEntryId record.unallocatedCredits usable
            (before.expireUserPacks (session.clock 0)) after) := by
  have unchanged : ∀ {result : Account × Int},
      (Except.ok (before, 0) : Except CreditError (Account × Int)) = .ok result →
      result.1 = before := by
    rintro _ ⟨⟩
    rfl
  simp only [refund] at ran
  split at ran
  · exact .inl (unchanged ran)
  rename_i original found
  split at ran
  · exact .inl (unchanged ran)
  split at ran
  · exact .inl (unchanged ran)
  split at ran
  · exact .inl (unchanged ran)
  rename_i deduction _ fresh
  split at ran
  · rename_i saved refundAmount savepoint
    obtain ⟨rfl, rfl⟩ := Prod.mk.inj (Except.ok.inj ran)
    refine .inr ⟨original, found, by omega, fun entry member same => fresh ?_, ?_⟩
    · rw [List.any_eq_true]
      exact ⟨entry, member, decide_eq_true same⟩
    · cases recorded : original.metadata with
      | none => exact .inl ⟨rfl, refundSavepoint_legacy recorded savepoint⟩
      | some record =>
          have history := booked.history ledgerEntryId original found record recorded
          exact .inr ⟨record, _, rfl, refundSavepoint_refunded sound recorded history.1 savepoint⟩
  · exact .inl (unchanged ran)
  · cases ran

theorem Account.Sourced.refunded {session : Session} {ledgerEntryId : Nat}
    {unallocated usable : Int} {swept after : Account} (sourced : swept.Sourced)
    (refunded : Refunded session ledgerEntryId unallocated usable swept after) : after.Sourced :=
  refunded.restored.sourced (sourced.book _ _)

theorem Account.Booked.refunded {session : Session} {ledgerEntryId : Nat}
    {unallocated usable : Int} {swept after : Account} (booked : swept.Booked)
    (bound : ledgerEntryId < swept.ledger.length) (refunded : Refunded session ledgerEntryId unallocated usable swept after) : after.Booked := by
  refine booked.append refunded.ledger (fun allocation member => ?_)
    (fun id _ => refunded.restored.toFrame.chargedTo id)
    (fun row member => (List.mem_singleton.mp member) ▸ refundEntry_filed bound) fun id entry found record recorded => ?_
  · right
    rw [refunded.ledger, List.length_append]
    have := refunded.restored.toFrame.entries booked.entries allocation member
    omega
  · have single := List.mem_singleton.mp (List.mem_of_getElem? found)
    rw [single] at recorded
    cases recorded

theorem Account.Sound.refund {session : Session} {fuel ledgerEntryId : Nat} {userId : Option Nat}
    {before after : Account} {amount : Int} (sound : before.Sound)
    (ran : refund session fuel ledgerEntryId userId before = .ok (after, amount)) :
    after.Sound := by
  rcases refund_cases sound.rows sound.toBooked ran with
    rfl | ⟨original, found, -, -, ⟨-, legacy⟩ | ⟨record, usable, -, refunded⟩⟩
  · exact sound
  · obtain ⟨rfl, -, constraints⟩ := legacy
    refine {
      toSourced := sound.toSourced.book _ _
      toBooked := sound.toBooked.append rfl (fun _ member => .inl member) (fun _ _ => rfl)
        (fun row member => (List.mem_singleton.mp member) ▸
          refundEntry_filed (List.getElem?_eq_some_iff.mp found).1)
        fun id entry found record recorded => ?_
      toConstraints := constraints }
    have single := List.mem_singleton.mp (List.mem_of_getElem? found)
    rw [single] at recorded
    cases recorded
  · exact {
      toSourced := (sound.toSourced.expireUserPacks _).refunded refunded
      toBooked := (sound.toBooked.expireUserPacks _).refunded (by
        rw [ledger_expireUserPacks]
        exact (List.getElem?_eq_some_iff.mp found).1) refunded
      toConstraints := refunded.constraints }

theorem refund_restoreDeduction {session : Session} {fuel ledgerEntryId : Nat} {account : Account}
    {original : CreditLedger} {record : AllocationRecord} (sound : account.Sound)
    (enough : account.packs.length < fuel)
    (found : account.ledger[ledgerEntryId]? = some original)
    (recorded : original.metadata = some record) :
    let tx : Tx := {
      account := (account.expireUserPacks (session.clock 0)).addLedger
        (refundEntry session ledgerEntryId |original.amount|)
      reads := 1 }
    ∃ after refundAmount, restoreDeduction session fuel ledgerEntryId original record tx =
      .ok (after, refundAmount) := by
  obtain ⟨-, -, history⟩ := sound.history ledgerEntryId original found record recorded
  exact restoreDeduction_returns ((sound.toSourced.expireUserPacks _).book _ _)
    (by simpa [Account.addLedger] using sound.debtSources)
    (by simpa [Account.addLedger] using enough)
    (by simpa [Account.addLedger, Account.chargedTo] using history)

theorem refund_returns {session : Session} {fuel ledgerEntryId : Nat} {userId : Option Nat}
    {account : Account} {original : CreditLedger} {record : AllocationRecord}
    (sound : account.Sound) (enough : account.packs.length < fuel)
    (found : account.ledger[ledgerEntryId]? = some original)
    (recorded : original.metadata = some record) :
    ∃ result, refund session fuel ledgerEntryId userId account = .ok result := by
  obtain ⟨current, -⟩ := sound.history ledgerEntryId original found record recorded
  obtain ⟨tx, refundAmount, deduction⟩ := @refund_restoreDeduction session fuel ledgerEntryId
    account original record sound enough found recorded
  have savepoint : (∃ result, refundSavepoint session fuel ledgerEntryId original account =
      .ok result) ∨
      refundSavepoint session fuel ledgerEntryId original account = .error .integrityError := by
    simp only [refundSavepoint, recorded, current, if_true]
    rw [expireUserPacks_addLedger]
    rw [refundEntry] at deduction
    rw [deduction]
    change (∃ result, (flush _ >>= _) = _) ∨ (flush _ >>= _) = _
    rcases flush_cases { tx.account with
        ledger := tx.account.ledger.modify account.ledger.length fun entry =>
          { entry with amount := refundAmount } } with kept | refused
    · rw [kept]
      exact .inl ⟨_, rfl⟩
    · rw [refused]
      exact .inr rfl
  simp only [refund, found]
  split_ifs
  · exact ⟨_, rfl⟩
  · exact ⟨_, rfl⟩
  · exact ⟨_, rfl⟩
  · rcases savepoint with ⟨result, saved⟩ | refused
    · rw [saved]
      exact ⟨_, rfl⟩
    · rw [refused]
      exact ⟨_, rfl⟩

theorem refund_fuel {session : Session} {fuel : Nat} (ledgerEntryId : Nat) (userId : Option Nat)
    {account : Account} (sound : account.Sound) (enough : account.packs.length < fuel) :
    refund session fuel ledgerEntryId userId account =
      refund session account.fuel ledgerEntryId userId account := by
  cases found : account.ledger[ledgerEntryId]? with
  | none => simp only [refund, found]
  | some original =>
      have savepoint : refundSavepoint session fuel ledgerEntryId original account =
          refundSavepoint session account.fuel ledgerEntryId original account := by
        cases recorded : original.metadata with
        | none => simp only [refundSavepoint, recorded]
        | some record =>
            obtain ⟨current, -⟩ := sound.history ledgerEntryId original found record recorded
            obtain ⟨tx, refundAmount, deduction⟩ := @refund_restoreDeduction session account.fuel
              ledgerEntryId account original record sound (Nat.lt_succ_self _) found recorded
            have agreed := restoreDeduction_agree (Nat.succ_le_of_lt enough) deduction
            simp only [refundEntry] at deduction agreed
            simp only [refundSavepoint, recorded, current, if_true]
            rw [expireUserPacks_addLedger, agreed, deduction]
      simp only [refund, found, savepoint]

end Thought2Build.Billing
