import Thought2Build.Library.Ranked
import Thought2Build.Billing.Restores

/-!
Total correctness of the restore recursion. With a rank that falls from every reversed
pack to its donors, and enough recorded provenance below that rank, the recursion
returns normally, and it only touches recoveries of packs it can reach.
-/

namespace Thought2Build.Billing

open Rows Account

def Account.Donates (account : Account) (source donor : Nat) : Prop :=
  ∃ id < account.allocations.length, (account.allocation id).recoveryForPackId = some source ∧
    (account.allocation id).packId = donor ∧ 0 < (account.allocation id).unreturned

/-- Every reversal of a pack ranked below `height` can be paid back from recorded provenance. -/
structure Account.Backed (rank : Nat → Nat) (height : Nat) (account : Account) : Prop where
  rows : account.RowsSound
  debtSources : ∀ first < account.debts.length, ∀ second < account.debts.length,
    (account.debt first).sourcePackId = (account.debt second).sourcePackId → first = second
  falls : ∀ source donor, account.Donates source donor → rank donor < rank source
  excess : ∀ id, rank id < height → account.excessDrift id ≤ 0
  recovered : ∀ id, rank id < height → 0 ≤ account.recoveredDrift id

section Sums

variable {account : Account} {rank : Nat → Nat} {height : Nat}

theorem unreturned_nonneg (sound : account.RowsSound) (id : Nat) :
    0 ≤ (account.allocation id).unreturned := by
  have := sound.allocations id
  simp only [CreditPackAllocation.unreturned]
  omega

theorem recoveringFor_nonneg (sound : account.RowsSound) (sourceId : Nat) :
    0 ≤ account.recoveringFor sourceId := by
  apply sumOf_nonneg
  intro allocation member
  obtain ⟨id, -, rfl⟩ := mem_allocations.mp member
  have := unreturned_nonneg sound id
  simp only [CreditPackAllocation.recoveringFor]
  split <;> omega

theorem owedTo_nonneg (sound : account.RowsSound) (sourceId : Nat) :
    0 ≤ account.owedTo sourceId := by
  apply sumOf_nonneg
  intro debt member
  obtain ⟨id, -, rfl⟩ := mem_debts.mp member
  have := sound.debts id
  simp only [BillingCreditDebt.owedTo, BillingCreditDebt.outstanding]
  split <;> omega

theorem unreturned_le_recoveredFrom (sound : account.RowsSound) {id : Nat}
    (bound : id < account.allocations.length)
    (recovers : (account.allocation id).recoveryForPackId ≠ none) :
    (account.allocation id).unreturned ≤ account.recoveredFrom (account.allocation id).packId := by
  have below : (account.allocation id).recoveredFrom (account.allocation id).packId ≤
      account.recoveredFrom (account.allocation id).packId := by
    apply column_le_sumOf (getElem?_of_lt bound default)
    intro allocation member
    obtain ⟨other, -, rfl⟩ := mem_allocations.mp member
    have := unreturned_nonneg sound other
    simp only [CreditPackAllocation.recoveredFrom]
    split <;> omega
  simpa [CreditPackAllocation.recoveredFrom, recovers] using below

theorem unreturned_le_consumedFrom (sound : account.RowsSound) {id : Nat}
    (bound : id < account.allocations.length)
    (consumes : (account.allocation id).recoveryForPackId = none) :
    (account.allocation id).unreturned ≤ account.consumedFrom (account.allocation id).packId := by
  have below : (account.allocation id).consumedFrom (account.allocation id).packId ≤
      account.consumedFrom (account.allocation id).packId := by
    apply column_le_sumOf (getElem?_of_lt bound default)
    intro allocation member
    obtain ⟨other, -, rfl⟩ := mem_allocations.mp member
    have := unreturned_nonneg sound other
    simp only [CreditPackAllocation.consumedFrom]
    split <;> omega
  simpa [CreditPackAllocation.consumedFrom, consumes] using below

theorem pack_bound {packId : Nat} (column : BillingCreditPack → Int)
    (blank : column default = 0) (positive : 0 < column (account.pack packId)) :
    packId < account.packs.length := by
  by_contra beyond
  rw [Account.pack, List.getD_eq_getElem?_getD, List.getElem?_eq_none (by omega),
    Option.getD_none, blank] at positive
  omega

theorem owedTo_eq (backed : account.Backed rank height) (sourceId : Nat) :
    account.owedTo sourceId =
      if account.debtIdOf sourceId < account.debts.length then
        (account.debt (account.debtIdOf sourceId)).outstanding
      else 0 := by
  split
  · rename_i found
    have source := debtIdOf_source found
    rw [Account.owedTo, sumOf_single (getElem?_of_lt found default)]
    · simp only [BillingCreditDebt.owedTo]
      exact if_pos source
    · intro other debt present different
      have bound := (List.getElem?_eq_some_iff.mp present).1
      rw [getElem?_of_lt bound default, Option.some.injEq] at present
      subst present
      refine if_neg fun same => different ?_
      exact backed.debtSources other bound _ found (same.trans source.symm)
  · rename_i missing
    apply sumOf_zero
    intro debt member
    have unmatched := List.findIdx_eq_length.mp (Nat.le_antisymm List.findIdx_le_length
      (Nat.not_lt.mp missing)) debt member
    exact if_neg (of_decide_eq_false unmatched)

theorem cancelDebt_left (backed : account.Backed rank height) (sourceId : Nat) {amount : Int}
    (nonneg : 0 ≤ amount) :
    (cancelDebt sourceId amount account).2 = amount - min amount (account.owedTo sourceId) := by
  rw [owedTo_eq backed, cancelDebt]
  split
  · rfl
  · rw [min_eq_right nonneg, Int.sub_zero]

end Sums

section Backed

variable {session : Session} {rank : Nat → Nat} {height : Nat} {before after : Account}
  {usable : Int} {excess consumed recovered : Nat → Int}

theorem Restored.donates (step : Restored session before after usable excess consumed recovered)
    (sound : before.RowsSound) {source donor : Nat} (donates : after.Donates source donor) :
    before.Donates source donor := by
  obtain ⟨id, bound, recovers, pays, unreturned⟩ := donates
  have returned := step.returned sound id
  have amount := step.allocationAmount id
  refine ⟨id, step.allocationsLength ▸ bound, step.allocationRecovery id ▸ recovers,
    step.allocationPack id ▸ pays, ?_⟩
  simp only [CreditPackAllocation.unreturned] at unreturned ⊢
  omega

theorem Restored.backed (step : Restored session before after usable excess consumed recovered)
    (backed : before.Backed rank height)
    (covered : ∀ id, rank id < height → before.excessDrift id + excess id ≤ 0)
    (supplied : ∀ id, rank id < height → 0 ≤ before.recoveredDrift id + recovered id) :
    after.Backed rank height where
  rows := step.rows backed.rows
  debtSources := by
    intro first firstBound second secondBound same
    rw [step.debtsLength] at firstBound secondBound
    rw [step.debtSource, step.debtSource] at same
    exact backed.debtSources first firstBound second secondBound same
  falls source donor donates := backed.falls source donor (step.donates backed.rows donates)
  excess id low := step.excess id ▸ covered id low
  recovered id low := step.recovered id ▸ supplied id low

theorem Account.Backed.lower {account : Account} {height' : Nat} (backed : account.Backed rank height)
    (lower : height' ≤ height) : account.Backed rank height' :=
  { backed with
    excess := fun id low => backed.excess id (by omega)
    recovered := fun id low => backed.recovered id (by omega) }

/-- Packs ranked from `packFloor` on and recoveries for packs ranked from `recoveryFloor` on
are as they were. -/
structure Untouched (rank : Nat → Nat) (packFloor recoveryFloor : Nat) (before after : Account) :
    Prop where
  packs : ∀ id, packFloor ≤ rank id → after.pack id = before.pack id
  recoveries : ∀ id, (∀ source, (before.allocation id).recoveryForPackId = some source →
    recoveryFloor ≤ rank source) → after.allocation id = before.allocation id

namespace Untouched

variable {packFloor recoveryFloor packFloor' recoveryFloor' : Nat} {first second third : Account}

theorem refl (account : Account) : Untouched rank packFloor recoveryFloor account account :=
  ⟨fun _ _ => rfl, fun _ _ => rfl⟩

theorem trans (left : Untouched rank packFloor recoveryFloor first second)
    (right : Untouched rank packFloor recoveryFloor second third) :
    Untouched rank packFloor recoveryFloor first third where
  packs id high := (right.packs id high).trans (left.packs id high)
  recoveries id high := by
    have same := left.recoveries id high
    rw [right.recoveries id (by rw [same]; exact high), same]

theorem raise (untouched : Untouched rank packFloor recoveryFloor first second)
    (packs : packFloor ≤ packFloor') (recoveries : recoveryFloor ≤ recoveryFloor') :
    Untouched rank packFloor' recoveryFloor' first second where
  packs id high := untouched.packs id (packs.trans high)
  recoveries id high := untouched.recoveries id fun source found =>
    recoveries.trans (high source found)

theorem setPack {account : Account} {id : Nat} {pack : BillingCreditPack} {recoveryFloor : Nat} :
    Untouched rank (rank id + 1) recoveryFloor account (account.setPack id pack) where
  packs other high := pack_setPack_ne (by rintro rfl; omega) pack
  recoveries _ _ := rfl

theorem returnAllocation {account : Account} {id sourceId packFloor : Nat} {take : Int}
    (recovers : (account.allocation id).recoveryForPackId = some sourceId) :
    Untouched rank packFloor (rank sourceId + 1) account (account.returnAllocation id take) where
  packs _ _ := rfl
  recoveries other high := by
    rw [Account.returnAllocation, allocation_setAllocation]
    split
    · rename_i here
      have := high sourceId (here.1 ▸ recovers)
      omega
    · rfl

theorem cancelDebt {account : Account} {sourceId packFloor recoveryFloor : Nat} {amount : Int} :
    Untouched rank packFloor recoveryFloor account (cancelDebt sourceId amount account).1 where
  packs _ _ := by simp [Account.pack]
  recoveries _ _ := by simp [Account.allocation]

end Untouched

end Backed

section Total

variable {session : Session} {rank : Nat → Nat} {sourceId : Nat}

def ReturnsBelow (rank : Nat → Nat) (top : Nat)
    (restore : Nat → Int → Counter → Tx → Except CreditError (Tx × Int)) : Prop :=
  ∀ {packId amount counter tx}, rank packId < top → tx.account.Backed rank (rank packId + 1) →
    amount ≤ counter.read (tx.account.pack packId) →
    ∃ after usable, restore packId amount counter tx = .ok (after, usable) ∧
      Untouched rank (rank packId + 1) (rank packId + 1) tx.account after.account

variable {restore : Nat → Int → Counter → Tx → Except CreditError (Tx × Int)}

theorem recovery_returns (spec : Restores session restore)
    (below : ReturnsBelow rank (rank sourceId) restore) {id : Nat} {take : Int} {tx : Tx}
    (bound : id < tx.account.allocations.length)
    (recovers : (tx.account.allocation id).recoveryForPackId = some sourceId)
    (positive : 0 < take) (available : take ≤ (tx.account.allocation id).unreturned)
    (backed : tx.account.Backed rank (rank sourceId)) :
    ∃ after usable, restore (tx.account.allocation id).packId take .creditsDebtRecovered
        { tx with account := tx.account.returnAllocation id take } = .ok (after, usable) ∧
      after.account.Backed rank (rank sourceId) ∧
      (∀ other, other ≠ id → (tx.account.allocation other).recoveryForPackId = some sourceId →
        after.account.allocation other = tx.account.allocation other) ∧
      Untouched rank (rank sourceId) (rank sourceId + 1) tx.account after.account := by
  have donorLower := backed.falls sourceId _ ⟨id, bound, recovers, rfl, by omega⟩
  have returned := Restored.returnAllocation session bound positive.le available
  have middleBacked := returned.backed backed
    (fun other low => by
      have : sourceId ≠ other := by rintro rfl; omega
      simp only [recovers, Option.some.injEq, this, if_false, Int.add_zero]
      exact backed.excess other low)
    (fun other low => by
      have := backed.recovered other low
      split <;> omega)
  have paid : take ≤ (tx.account.pack (tx.account.allocation id).packId).creditsDebtRecovered := by
    have supply := backed.recovered _ donorLower
    have := unreturned_le_recoveredFrom backed.rows bound (by simp [recovers])
    simp only [Account.recoveredDrift] at supply
    omega
  obtain ⟨after, usable, ran, untouched⟩ := @below _ take .creditsDebtRecovered
    { tx with account := tx.account.returnAllocation id take } donorLower
    (middleBacked.lower donorLower) paid
  have here := restored_recovery spec bound recovers positive.le available ran
  refine ⟨after, usable, ran, ?_, ?_, ?_⟩
  · refine here.backed backed (fun other low => ?_) fun other low => ?_
    · have : other ≠ sourceId := by rintro rfl; omega
      simp only [single, this, if_false, Int.add_zero]
      exact backed.excess other low
    · rw [Int.add_zero]
      exact backed.recovered other low
  · intro other different recovers'
    have same : (tx.account.returnAllocation id take).allocation other =
        tx.account.allocation other := by
      simp [Account.returnAllocation, allocation_setAllocation, different]
    rw [← same]
    apply untouched.recoveries
    intro source found
    rw [same, recovers', Option.some.injEq] at found
    exact found ▸ donorLower
  · exact (Untouched.returnAllocation recovers).trans
      (untouched.raise donorLower (donorLower.trans (Nat.lt_succ_self _)))

theorem returnRecoveries_returns (spec : Restores session restore)
    (below : ReturnsBelow rank (rank sourceId) restore) {ids : List Nat} {amount : Int}
    {tx : Tx} (nonneg : 0 ≤ amount) (distinct : ids.Nodup)
    (recoveries : ∀ id ∈ ids, id < tx.account.allocations.length ∧
      (tx.account.allocation id).recoveryForPackId = some sourceId ∧
      0 < (tx.account.allocation id).unreturned)
    (backed : tx.account.Backed rank (rank sourceId))
    (enough : amount ≤ sumOf (fun id => (tx.account.allocation id).unreturned) ids) :
    ∃ after usable, returnRecoveries restore ids amount tx = .ok (after, 0, usable) ∧
      Untouched rank (rank sourceId) (rank sourceId + 1) tx.account after.account := by
  induction ids generalizing amount tx with
  | nil =>
      simp only [sumOf_nil] at enough
      obtain rfl : amount = 0 := by omega
      exact ⟨tx, 0, rfl, .refl _⟩
  | cons id ids ih =>
      obtain ⟨bound, recovers, unreturned⟩ := recoveries id (by simp)
      obtain ⟨fresh, distinct⟩ := List.nodup_cons.mp distinct
      simp only [returnRecoveries]
      by_cases stop : min amount (tx.account.allocation id).unreturned ≤ 0
      · obtain rfl : amount = 0 := by omega
        exact ⟨tx, 0, if_pos stop, .refl _⟩
      · simp only [stop, if_false]
        obtain ⟨middle, restored, ran, middleBacked, others, untouched⟩ :=
          recovery_returns spec below bound recovers (Int.not_le.mp stop) (min_le_right _ _) backed
        have later : ∀ other ∈ ids,
            middle.account.allocation other = tx.account.allocation other := fun other member =>
          others other (by rintro rfl; exact fresh member) (recoveries other (by simp [member])).2.1
        have here := restored_recovery spec bound recovers (Int.not_le.mp stop).le
          (min_le_right _ _) ran
        obtain ⟨after, usable, rest, untouched'⟩ := @ih
          (amount - min amount (tx.account.allocation id).unreturned) middle (by omega) distinct
          (fun other member => by
            rw [later other member, here.allocationsLength]
            exact recoveries other (by simp [member]))
          middleBacked
          (by
            have nonneg : 0 ≤ sumOf (fun id => (tx.account.allocation id).unreturned) ids :=
              sumOf_nonneg fun other member => (recoveries other (by simp [member])).2.2.le
            rw [sumOf_congr fun other member => congrArg (·.unreturned) (later other member)]
            simp only [sumOf_cons] at enough
            omega)
        refine ⟨after, restored + usable, ?_, untouched.trans untouched'⟩
        rw [Account.returnAllocation] at ran
        rw [ran]
        change (returnRecoveries restore ids _ middle >>= _) = _
        rw [rest]
        rfl

theorem sumOf_recoveriesOf {account : Account} (sound : account.RowsSound) (session : Session)
    (sourceId : Nat) :
    sumOf (fun id => (account.allocation id).unreturned) (account.recoveriesOf session sourceId) =
      account.recoveringFor sourceId := by
  have dropped : ∀ id < account.allocations.length,
      decide ((account.allocation id).recoveryForPackId = some sourceId ∧
        (account.allocation id).returnedAmount < (account.allocation id).amount) = false →
      (account.allocation id).recoveringFor sourceId = 0 := by
    intro id _ excluded
    have bounds := sound.allocations id
    have excluded := of_decide_eq_false excluded
    simp only [CreditPackAllocation.recoveringFor, CreditPackAllocation.unreturned]
    split
    · rename_i recovers
      have : ¬(account.allocation id).returnedAmount < (account.allocation id).amount :=
        fun less => excluded ⟨recovers, less⟩
      omega
    · rfl
  refine Eq.trans (sumOf_congr fun id member => ?_) (sumOf_scan_filter dropped)
  have recovers := (mem_recoveriesOf.mp member).2.1
  exact (if_pos recovers).symm

theorem recoveriesOf_nodup (account : Account) (session : Session) (sourceId : Nat) :
    (account.recoveriesOf session sourceId).Nodup :=
  (scan_nodup _ _ _).filter _

theorem returnReversalRecovery_returns (spec : Restores session restore)
    (below : ReturnsBelow rank (rank sourceId) restore) {amount : Int} {tx : Tx}
    (nonneg : 0 ≤ amount) (backed : tx.account.Backed rank (rank sourceId))
    (enough : amount ≤ tx.account.owedTo sourceId + tx.account.recoveringFor sourceId) :
    ∃ after usable,
      returnReversalRecovery restore session sourceId amount tx = .ok (after, usable) ∧
      Untouched rank (rank sourceId) (rank sourceId + 1) tx.account after.account := by
  have cancelled := Restored.cancelDebt session tx.account sourceId nonneg
  have left := cancelDebt_left backed sourceId nonneg
  have cancelledBacked := cancelled.backed backed
    (fun other low => by
      have : other ≠ sourceId := by rintro rfl; omega
      simp only [single, this, if_false, Int.add_zero]
      exact backed.excess other low)
    (fun other low => by
      rw [Int.add_zero]
      exact backed.recovered other low)
  have total := sumOf_recoveriesOf cancelledBacked.rows session sourceId
  have unchanged : (cancelDebt sourceId amount tx.account).1.recoveringFor sourceId =
      tx.account.recoveringFor sourceId := by
    simp [Account.recoveringFor]
  have recoveringNonneg := recoveringFor_nonneg backed.rows sourceId
  obtain ⟨after, usable, ran, untouched⟩ := @returnRecoveries_returns session rank sourceId restore
    spec below ((cancelDebt sourceId amount tx.account).1.recoveriesOf session sourceId)
    (cancelDebt sourceId amount tx.account).2
    { tx with account := (cancelDebt sourceId amount tx.account).1 } (by omega)
    (recoveriesOf_nodup _ session sourceId)
    (fun id member => by
      obtain ⟨bound, recovers, part⟩ := mem_recoveriesOf.mp member
      exact ⟨bound, recovers, Int.sub_pos.mpr part⟩)
    cancelledBacked (by
      change _ ≤ sumOf (fun id => ((cancelDebt sourceId amount tx.account).1.allocation
        id).unreturned) _
      omega)
  refine ⟨after, usable, ?_, Untouched.cancelDebt.trans untouched⟩
  simp only [returnReversalRecovery]
  rw [ran]
  rfl

theorem restorePackValue_returns (session : Session) {fuel : Nat} :
    ReturnsBelow rank fuel (restorePackValue session fuel) := by
  induction fuel with
  | zero => intro _ _ _ _ low; omega
  | succ fuel ih =>
      intro packId amount counter tx low backed covered
      by_cases positive : 0 < amount
      · have bound : packId < tx.account.packs.length :=
          pack_bound counter.read (by cases counter <;> rfl) (lt_of_lt_of_le positive covered)
        rw [restorePackValue_eq session fuel packId counter tx positive, if_neg (by omega),
          if_neg (by omega)]
        have own : Restored session tx.account _ _ _ _ _ :=
          Restored.restoreOwn bound positive covered
        split
        · exact ⟨_, _, rfl, .setPack⟩
        · have drift := backed.excess packId (by omega)
          have owed := owedTo_nonneg backed.rows packId
          have recovering := recoveringFor_nonneg backed.rows packId
          have absorbedNonneg := (tx.account.pack packId).absorbed_nonneg positive.le
          obtain ⟨after, usable, ran, untouched⟩ := @returnReversalRecovery_returns session rank
            packId _ (restorePackValue_restores session fuel)
            (fun lower => ih (by omega))
            ((tx.account.pack packId).absorbed amount) (tx.restorePack session packId amount counter)
            absorbedNonneg
            (own.backed (backed.lower (by omega)) (fun other low => by
                have : other ≠ packId := by rintro rfl; omega
                simp only [single, this, if_false, Int.add_zero]
                exact backed.excess other (by omega))
              (fun other low => by
                have : other ≠ packId := by rintro rfl; omega
                cases counter <;>
                  simp only [Counter.recoveredShift, single, this, if_false, Int.add_zero] <;>
                  exact backed.recovered other (by omega)))
            (by
              change _ ≤ tx.account.owedTo packId + tx.account.recoveringFor packId
              simp only [Account.excessDrift, BillingCreditPack.excess] at drift
              simp only [BillingCreditPack.absorbed]
              omega)
          refine ⟨after, tx.usable session packId amount + usable, ?_,
            Untouched.setPack.trans (untouched.raise (Nat.le_succ _) le_rfl)⟩
          rw [ran]
          rfl
      · refine ⟨tx, 0, ?_, .refl _⟩
        simp [restorePackValue, show amount ≤ 0 by omega, pure, Except.pure]

end Total

section Fuel

variable {restore restore' : Nat → Int → Counter → Tx → Except CreditError (Tx × Int)}

theorem returnRecoveries_agree
    (agree : ∀ packId amount counter tx result,
      restore packId amount counter tx = .ok result → restore' packId amount counter tx = .ok result)
    {ids : List Nat} {amount : Int} {tx : Tx} {result : Tx × Int × Int}
    (ran : returnRecoveries restore ids amount tx = .ok result) :
    returnRecoveries restore' ids amount tx = .ok result := by
  induction ids generalizing amount tx result with
  | nil => exact ran
  | cons id ids ih =>
      simp only [returnRecoveries] at ran ⊢
      split at ran
      · rename_i stop
        rw [if_pos stop]
        exact ran
      · rename_i more
        rw [if_neg more]
        obtain ⟨⟨middle, restored⟩, here, ran⟩ := bind_eq_ok ran
        obtain ⟨last, later, ran⟩ := bind_eq_ok ran
        rw [bind_of_ok (agree _ _ _ _ _ here), bind_of_ok (ih later)]
        exact ran

theorem returnReversalRecovery_agree
    (agree : ∀ packId amount counter tx result,
      restore packId amount counter tx = .ok result → restore' packId amount counter tx = .ok result)
    {session : Session} {sourceId : Nat} {amount : Int} {tx : Tx} {result : Tx × Int}
    (ran : returnReversalRecovery restore session sourceId amount tx = .ok result) :
    returnReversalRecovery restore' session sourceId amount tx = .ok result := by
  simp only [returnReversalRecovery] at ran ⊢
  obtain ⟨returned, recoveries, ran⟩ := bind_eq_ok ran
  rw [bind_of_ok (returnRecoveries_agree agree recoveries)]
  exact ran

theorem restorePackValue_agree (session : Session) {fuel more : Nat} (enough : fuel ≤ more)
    (packId : Nat) (amount : Int) (counter : Counter) (tx : Tx) (result : Tx × Int)
    (ran : restorePackValue session fuel packId amount counter tx = .ok result) :
    restorePackValue session more packId amount counter tx = .ok result := by
  induction fuel generalizing more packId amount counter tx result with
  | zero => cases ran
  | succ fuel ih =>
      obtain _ | more := more
      · omega
      by_cases positive : 0 < amount
      · rw [restorePackValue_eq session _ packId counter tx positive] at ran ⊢
        split at ran
        · cases ran
        split at ran
        · cases ran
        split at ran
        · rename_i present covered absorbed
          rw [if_neg present, if_neg covered, if_pos absorbed]
          exact ran
        rename_i present covered absorbed
        rw [if_neg present, if_neg covered, if_neg absorbed]
        obtain ⟨returned, recovered, ran⟩ := bind_eq_ok ran
        rw [bind_of_ok (returnReversalRecovery_agree
          (ih (Nat.le_of_succ_le_succ enough)) recovered)]
        exact ran
      · simpa [restorePackValue, show amount ≤ 0 by omega] using ran

end Fuel
end Thought2Build.Billing
