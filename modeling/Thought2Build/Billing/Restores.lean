import Thought2Build.Billing.Provenance

/-!
Partial correctness of the restore recursion: whatever `_restore_pack_value` and
`_return_reversal_recovery` return normally, they moved between pack counters, debts
and allocations without creating or losing value.
-/

namespace Thought2Build.Billing

open Rows Account

theorem bind_eq_ok {ε α β : Type} {first : Except ε α} {next : α → Except ε β} {result : β}
    (ran : first >>= next = .ok result) : ∃ value, first = .ok value ∧ next value = .ok result := by
  cases first with
  | error error => cases ran
  | ok value => exact ⟨value, rfl, ran⟩

theorem bind_of_ok {ε α β : Type} {first : Except ε α} {value : α} (ran : first = .ok value)
    (next : α → Except ε β) : first >>= next = next value := by
  rw [ran]
  rfl

theorem bind_of_error {ε α β : Type} {first : Except ε α} {error : ε} (ran : first = .error error)
    (next : α → Except ε β) : first >>= next = .error error := by
  rw [ran]
  rfl

structure Account.RowsSound (account : Account) : Prop where
  packs : ∀ id, (account.pack id).Sound
  debts : ∀ id, 0 ≤ (account.debt id).creditsRecovered ∧
    (account.debt id).creditsRecovered ≤ (account.debt id).creditsOwed
  allocations : ∀ id, 0 ≤ (account.allocation id).returnedAmount ∧
    (account.allocation id).returnedAmount ≤ (account.allocation id).amount

def Account.Steady (session : Session) (account : Account) : Prop :=
  ∀ id < account.packs.length, ∀ reading,
    (account.pack id).expiresAt ≤ session.clock reading ↔
      (account.pack id).expiresAt ≤ session.clock 0

def Account.Spendable (account : Account) : Prop :=
  ∀ id, (account.pack id).status ≠ .active → (account.pack id).creditsRemaining = 0

structure Account.Settled (session : Session) (account : Account) : Prop where
  steady : account.Steady session
  swept : ∀ id, (account.pack id).expiresAt ≤ session.clock 0 → (account.pack id).status ≠ .active
  spendable : account.Spendable

theorem Account.Settled.setPack {session : Session} {account : Account} {id : Nat}
    {pack : BillingCreditPack} (settled : account.Settled session)
    (expiresAt : pack.expiresAt = (account.pack id).expiresAt)
    (swept : pack.expiresAt ≤ session.clock 0 → pack.status ≠ .active)
    (spendable : pack.status ≠ .active → pack.creditsRemaining = 0) :
    (account.setPack id pack).Settled session where
  steady other bound reading := by
    rw [column_setPack (·.expiresAt) expiresAt]
    exact settled.steady other (packs_length_setPack pack ▸ bound) reading
  swept other := setPack_cases (motive := fun pack =>
    pack.expiresAt ≤ session.clock 0 → pack.status ≠ .active) (fun _ => swept) (settled.swept other)
  spendable other := setPack_cases (motive := fun pack =>
    pack.status ≠ .active → pack.creditsRemaining = 0) (fun _ => spendable)
    (settled.spendable other)

structure Frame (before after : Account) : Prop where
  packsLength : after.packs.length = before.packs.length
  debtsLength : after.debts.length = before.debts.length
  allocationsLength : after.allocations.length = before.allocations.length
  ledger : after.ledger = before.ledger
  balance : after.creditBalance = before.creditBalance
  userId : after.userId = before.userId
  terms : ∀ id, (before.pack id).SameTerms (after.pack id)
  revoked : ∀ id, (after.pack id).creditsRevoked = (before.pack id).creditsRevoked
  processed : ∀ id, (after.pack id).refundedItemAmountCentsProcessed =
    (before.pack id).refundedItemAmountCentsProcessed
  seen : ∀ id, (after.pack id).providerRefundedTotalCentsSeen =
    (before.pack id).providerRefundedTotalCentsSeen
  debtSource : ∀ id, (after.debt id).sourcePackId = (before.debt id).sourcePackId
  debtOwed : ∀ id, (after.debt id).creditsOwed = (before.debt id).creditsOwed
  allocationEntry : ∀ id,
    (after.allocation id).ledgerEntryId = (before.allocation id).ledgerEntryId
  allocationPack : ∀ id, (after.allocation id).packId = (before.allocation id).packId
  allocationRecovery : ∀ id,
    (after.allocation id).recoveryForPackId = (before.allocation id).recoveryForPackId
  allocationAmount : ∀ id, (after.allocation id).amount = (before.allocation id).amount

theorem Frame.refl (account : Account) : Frame account account := by
  constructor <;> first | rfl | (intro id; rfl) | exact fun id => .refl _

theorem Frame.trans {first second third : Account} (left : Frame first second)
    (right : Frame second third) : Frame first third where
  packsLength := right.packsLength.trans left.packsLength
  debtsLength := right.debtsLength.trans left.debtsLength
  allocationsLength := right.allocationsLength.trans left.allocationsLength
  ledger := right.ledger.trans left.ledger
  balance := right.balance.trans left.balance
  userId := right.userId.trans left.userId
  terms id := (left.terms id).trans (right.terms id)
  revoked id := (right.revoked id).trans (left.revoked id)
  processed id := (right.processed id).trans (left.processed id)
  seen id := (right.seen id).trans (left.seen id)
  debtSource id := (right.debtSource id).trans (left.debtSource id)
  debtOwed id := (right.debtOwed id).trans (left.debtOwed id)
  allocationEntry id := (right.allocationEntry id).trans (left.allocationEntry id)
  allocationPack id := (right.allocationPack id).trans (left.allocationPack id)
  allocationRecovery id := (right.allocationRecovery id).trans (left.allocationRecovery id)
  allocationAmount id := (right.allocationAmount id).trans (left.allocationAmount id)

structure Restored (session : Session) (before after : Account) (usable : Int)
    (excess consumed recovered : Nat → Int) : Prop
    extends Frame before after, Moved before after usable excess consumed recovered where
  expired : before.RowsSound → ∀ id,
    (before.pack id).creditsExpired ≤ (after.pack id).creditsExpired
  returned : before.RowsSound → ∀ id,
    (before.allocation id).returnedAmount ≤ (after.allocation id).returnedAmount
  rows : before.RowsSound → after.RowsSound
  settled : before.Settled session → after.Settled session

namespace Restored

variable {session : Session} {first second third : Account} {usable usable' : Int}
  {excess excess' consumed consumed' recovered recovered' : Nat → Int}

theorem refl (account : Account) :
    Restored session account account 0 (fun _ => 0) (fun _ => 0) fun _ => 0 where
  toFrame := .refl account
  toMoved := .refl account
  expired _ _ := le_rfl
  returned _ _ := le_rfl
  rows sound := sound
  settled settled := settled

theorem trans (left : Restored session first second usable excess consumed recovered)
    (right : Restored session second third usable' excess' consumed' recovered') :
    Restored session first third (usable + usable') (fun id => excess id + excess' id)
      (fun id => consumed id + consumed' id) fun id => recovered id + recovered' id where
  toFrame := left.toFrame.trans right.toFrame
  toMoved := left.toMoved.trans right.toMoved
  expired sound id := (left.expired sound id).trans (right.expired (left.rows sound) id)
  returned sound id := (left.returned sound id).trans (right.returned (left.rows sound) id)
  rows sound := right.rows (left.rows sound)
  settled settled := right.settled (left.settled settled)

theorem congr (step : Restored session first second usable excess consumed recovered)
    (sameUsable : usable = usable') (sameExcess : ∀ id, excess id = excess' id)
    (sameConsumed : ∀ id, consumed id = consumed' id)
    (sameRecovered : ∀ id, recovered id = recovered' id) :
    Restored session first second usable' excess' consumed' recovered' := by
  obtain rfl := sameUsable
  obtain rfl := funext sameExcess
  obtain rfl := funext sameConsumed
  obtain rfl := funext sameRecovered
  exact step

theorem ages (step : Restored session first second usable excess consumed recovered)
    (sound : first.RowsSound) : Ages first second :=
  ⟨step.packsLength.ge, fun id _ => step.terms id, fun id _ => step.expired sound id⟩

theorem rebook (step : Restored session first second usable excess consumed recovered)
    (creditBalance : Int) (ledger : List CreditLedger) :
    Restored session { first with creditBalance, ledger } { second with creditBalance, ledger }
      usable excess consumed recovered where
  toFrame := { step.toFrame with ledger := rfl, balance := rfl }
  toMoved := ⟨step.remaining, step.excess, step.consumed, step.recovered⟩
  expired sound := step.expired ⟨sound.packs, sound.debts, sound.allocations⟩
  returned sound := step.returned ⟨sound.packs, sound.debts, sound.allocations⟩
  rows sound :=
    have after := step.rows ⟨sound.packs, sound.debts, sound.allocations⟩
    ⟨after.packs, after.debts, after.allocations⟩
  settled settled :=
    have after := step.settled ⟨settled.steady, settled.swept, settled.spendable⟩
    ⟨after.steady, after.swept, after.spendable⟩

end Restored

def Counter.consumedShift (counter : Counter) (id : Nat) (amount : Int) : Nat → Int :=
  match counter with
  | .creditsConsumed => single id amount
  | .creditsDebtRecovered => fun _ => 0

def Counter.recoveredShift (counter : Counter) (id : Nat) (amount : Int) : Nat → Int :=
  match counter with
  | .creditsConsumed => fun _ => 0
  | .creditsDebtRecovered => single id amount

theorem BillingCreditPack.sameTerms_restore (pack : BillingCreditPack) (counter : Counter)
    (amount now : Int) : pack.SameTerms (pack.restore counter amount now) := by
  cases counter <;> constructor <;> rfl

theorem BillingCreditPack.excess_restore (pack : BillingCreditPack) (counter : Counter)
    (amount now : Int) :
    (pack.restore counter amount now).excess = pack.excess - pack.absorbed amount := by
  cases counter <;>
    simp only [BillingCreditPack.excess, BillingCreditPack.gap, BillingCreditPack.accounted,
      BillingCreditPack.restore, Counter.subtract] <;>
    grind

theorem Frame.setPack {account : Account} {id : Nat} {pack : BillingCreditPack}
    (terms : (account.pack id).SameTerms pack)
    (revoked : pack.creditsRevoked = (account.pack id).creditsRevoked)
    (processed : pack.refundedItemAmountCentsProcessed =
      (account.pack id).refundedItemAmountCentsProcessed)
    (seen : pack.providerRefundedTotalCentsSeen =
      (account.pack id).providerRefundedTotalCentsSeen) :
    Frame account (account.setPack id pack) where
  __ := Frame.refl account
  packsLength := by simp
  terms other := setPack_cases (motive := fun after => (account.pack other).SameTerms after)
    (by rintro rfl; exact terms) (.refl _)
  revoked := column_setPack (·.creditsRevoked) revoked
  processed := column_setPack (·.refundedItemAmountCentsProcessed) processed
  seen := column_setPack (·.providerRefundedTotalCentsSeen) seen

theorem Restored.restorePack {session : Session} {account : Account} {packId : Nat}
    {counter : Counter} {amount : Int} (bound : packId < account.packs.length)
    (positive : 0 < amount) (covered : amount ≤ counter.read (account.pack packId))
    (reading : Nat) :
    let pack := account.pack packId
    let now := session.clock reading
    Restored session account (account.setPack packId (pack.restore counter amount now))
      (if pack.expiresAt ≤ now then 0 else amount - pack.absorbed amount)
      (single packId (-pack.absorbed amount)) (counter.consumedShift packId (-amount))
      (counter.recoveredShift packId (-amount)) := by
  intro pack now
  refine {
    toFrame := .setPack (pack.sameTerms_restore _ _ _) (by cases counter <;> rfl)
      (by cases counter <;> rfl) (by cases counter <;> rfl)
    toMoved := (Moved.setPack bound _).congr ?_ (fun id => ?_) (fun id => ?_) (fun id => ?_)
    expired := fun _ id => ?_
    returned := fun _ _ => le_rfl
    rows := ?_
    settled := ?_ }
  · cases counter <;> simp only [BillingCreditPack.restore, Counter.subtract] <;> clear * - <;> grind
  · simp only [BillingCreditPack.excess_restore, single, pack, sub_sub_cancel_left]
  · cases counter <;>
      simp only [BillingCreditPack.restore, Counter.subtract, Counter.consumedShift, single, pack,
        sub_sub_cancel_left, sub_self, ite_self]
  · cases counter <;>
      simp only [BillingCreditPack.restore, Counter.subtract, Counter.recoveredShift, single, pack,
        sub_sub_cancel_left, sub_self, ite_self]
  · refine setPack_cases (motive := fun after => _ ≤ after.creditsExpired) ?_ le_rfl
    rintro rfl
    have absorbedLe : pack.absorbed amount ≤ amount := by
      simp only [BillingCreditPack.absorbed]
      clear * - positive
      omega
    clear * - absorbedLe
    cases counter <;> simp only [BillingCreditPack.restore, Counter.subtract] <;> grind
  · intro sound
    exact {
      packs := fun id => setPack_cases (fun _ => (sound.packs packId).restore positive covered)
        (sound.packs id)
      debts := sound.debts
      allocations := sound.allocations }
  · intro settled
    have expiresAt : (pack.restore counter amount now).expiresAt = pack.expiresAt := by
      cases counter <;> rfl
    have steady : pack.expiresAt ≤ now ↔ pack.expiresAt ≤ session.clock 0 :=
      settled.steady packId bound reading
    have swept : pack.expiresAt ≤ session.clock 0 → pack.status ≠ .active := settled.swept packId
    have spendable : pack.status ≠ .active → pack.creditsRemaining = 0 :=
      settled.spendable packId
    refine settled.setPack expiresAt ?_ ?_ <;> clear * - steady swept spendable <;>
      cases counter <;> simp only [BillingCreditPack.restore, Counter.subtract] <;> grind

def Account.returnAllocation (account : Account) (id : Nat) (take : Int) : Account :=
  account.setAllocation id { account.allocation id with
    returnedAmount := (account.allocation id).returnedAmount + take }

theorem column_returnAllocation {β : Type} {account : Account} {id : Nat} {take : Int}
    (column : CreditPackAllocation → β)
    (same : ∀ allocation : CreditPackAllocation, ∀ returned,
      column { allocation with returnedAmount := returned } = column allocation) (other : Nat) :
    column ((account.returnAllocation id take).allocation other) =
      column (account.allocation other) := by
  rw [Account.returnAllocation, allocation_setAllocation]
  split
  · rename_i here
    rw [same, here.1]
  · rfl

theorem returnedAmount_returnAllocation {account : Account} {id : Nat} {take : Int}
    (bound : id < account.allocations.length) (other : Nat) :
    ((account.returnAllocation id take).allocation other).returnedAmount =
      (account.allocation other).returnedAmount + single id take other := by
  rw [Account.returnAllocation, allocation_setAllocation, single]
  by_cases here : other = id
  · subst here
    simp [bound]
  · simp [here]

theorem Frame.returnAllocation (account : Account) (id : Nat) (take : Int) :
    Frame account (account.returnAllocation id take) where
  __ := Frame.refl account
  allocationsLength := by simp [Account.returnAllocation]
  allocationEntry := column_returnAllocation (·.ledgerEntryId) fun _ _ => rfl
  allocationPack := column_returnAllocation (·.packId) fun _ _ => rfl
  allocationRecovery := column_returnAllocation (·.recoveryForPackId) fun _ _ => rfl
  allocationAmount := column_returnAllocation (·.amount) fun _ _ => rfl

theorem Restored.returnAllocation (session : Session) {account : Account} {id : Nat} {take : Int}
    (bound : id < account.allocations.length) (nonneg : 0 ≤ take)
    (covered : take ≤ (account.allocation id).unreturned) :
    let allocation := account.allocation id
    Restored session account (account.returnAllocation id take) 0
      (fun other => if allocation.recoveryForPackId = some other then take else 0)
      (fun other => if allocation.recoveryForPackId = none ∧ allocation.packId = other then take
        else 0)
      (fun other => if allocation.recoveryForPackId ≠ none ∧ allocation.packId = other then take
        else 0) := by
  intro allocation
  refine {
    toFrame := .returnAllocation account id take
    toMoved := (Moved.setAllocation bound _).congr rfl (fun other => ?_) (fun other => ?_)
      (fun other => ?_)
    expired := fun _ _ => le_rfl
    returned := fun _ other => ?_
    rows := fun sound => ⟨sound.packs, sound.debts, fun other => ?_⟩
    settled := fun settled => ⟨settled.steady, settled.swept, settled.spendable⟩ }
  · simp only [CreditPackAllocation.recoveringFor, CreditPackAllocation.unreturned, allocation]
    clear * -
    split <;> omega
  · simp only [CreditPackAllocation.consumedFrom, CreditPackAllocation.unreturned, allocation]
    clear * -
    split <;> omega
  · simp only [CreditPackAllocation.recoveredFrom, CreditPackAllocation.unreturned, allocation]
    clear * -
    split <;> omega
  · rw [returnedAmount_returnAllocation bound, single]
    clear * - nonneg
    split <;> omega
  · have bounds := sound.allocations other
    simp only [CreditPackAllocation.unreturned] at covered
    rw [returnedAmount_returnAllocation bound,
      (Frame.returnAllocation account id take).allocationAmount, single]
    split
    · rename_i here
      subst here
      clear * - nonneg covered bounds
      omega
    · rwa [add_zero]

theorem Frame.setDebt {account : Account} {id : Nat} {debt : BillingCreditDebt}
    (source : debt.sourcePackId = (account.debt id).sourcePackId)
    (owed : debt.creditsOwed = (account.debt id).creditsOwed) :
    Frame account (account.setDebt id debt) where
  __ := Frame.refl account
  debtsLength := by simp
  debtSource other := by
    rw [debt_setDebt]
    split
    · rename_i here
      rw [source, here.1]
    · rfl
  debtOwed other := by
    rw [debt_setDebt]
    split
    · rename_i here
      rw [owed, here.1]
    · rfl

theorem debtIdOf_source {account : Account} {sourceId : Nat}
    (found : account.debtIdOf sourceId < account.debts.length) :
    (account.debt (account.debtIdOf sourceId)).sourcePackId = sourceId := by
  have satisfied := List.findIdx_getElem (w := found)
  have present := getElem?_of_lt found default
  rw [List.getElem?_eq_getElem found, Option.some.injEq] at present
  rw [Account.debt, ← present]
  exact of_decide_eq_true satisfied

theorem cancelDebt_left_nonneg (sourceId : Nat) {amount : Int} (nonneg : 0 ≤ amount)
    (account : Account) : 0 ≤ (cancelDebt sourceId amount account).2 := by
  simp only [cancelDebt]
  split
  · change 0 ≤ amount - min amount _
    omega
  · exact nonneg

@[simp] theorem allocations_cancelDebt (sourceId : Nat) (amount : Int) (account : Account) :
    (cancelDebt sourceId amount account).1.allocations = account.allocations := by
  simp only [cancelDebt]
  split <;> rfl

@[simp] theorem packs_cancelDebt (sourceId : Nat) (amount : Int) (account : Account) :
    (cancelDebt sourceId amount account).1.packs = account.packs := by
  simp only [cancelDebt]
  split <;> rfl

theorem Restored.cancelDebt (session : Session) (account : Account) (sourceId : Nat)
    {amount : Int} (nonneg : 0 ≤ amount) :
    Restored session account (cancelDebt sourceId amount account).1 0
      (single sourceId (amount - (Billing.cancelDebt sourceId amount account).2))
      (fun _ => 0) fun _ => 0 := by
  by_cases found : account.debtIdOf sourceId < account.debts.length
  · have source := debtIdOf_source found
    simp only [Billing.cancelDebt, found, if_true]
    refine {
      toFrame := .setDebt rfl rfl
      toMoved := ?_
      expired := fun _ _ => le_rfl
      returned := fun _ _ => le_rfl
      rows := fun sound => ⟨sound.packs, fun other => ?_, sound.allocations⟩
      settled := fun settled => ⟨settled.steady, settled.swept, settled.spendable⟩ }
    · refine (Moved.setDebt found ?_).congr rfl (fun other => ?_) (fun _ => rfl) fun _ => rfl
      · rfl
      · simp only [single, source, BillingCreditDebt.outstanding]
        split <;> omega
    · have bounds := sound.debts other
      rw [debt_setDebt]
      split
      · rename_i here
        rw [here.1] at bounds
        simp only [BillingCreditDebt.outstanding]
        omega
      · exact bounds
  · simp only [Billing.cancelDebt, found, if_false]
    refine (Restored.refl account).congr rfl (fun other => ?_) (fun _ => rfl) fun _ => rfl
    simp [single]

section Recursion

variable {session : Session} {sourceId : Nat}
  {restore : Nat → Int → Counter → Tx → Except CreditError (Tx × Int)}

def Restores (session : Session)
    (restore : Nat → Int → Counter → Tx → Except CreditError (Tx × Int)) : Prop :=
  ∀ {packId amount counter before after usable}, 0 ≤ amount →
    restore packId amount counter before = .ok (after, usable) →
    Restored session before.account after.account usable (fun _ => 0)
      (counter.consumedShift packId (-amount)) (counter.recoveredShift packId (-amount))

theorem restored_recovery (spec : Restores session restore) {before after : Tx} {id : Nat}
    {take usable : Int} (bound : id < before.account.allocations.length)
    (recovers : (before.account.allocation id).recoveryForPackId = some sourceId)
    (nonneg : 0 ≤ take) (covered : take ≤ (before.account.allocation id).unreturned)
    (ran : restore (before.account.allocation id).packId take .creditsDebtRecovered
      { before with account := before.account.returnAllocation id take } = .ok (after, usable)) :
    Restored session before.account after.account usable (single sourceId take) (fun _ => 0)
      fun _ => 0 := by
  refine ((Restored.returnAllocation session bound nonneg covered).trans (spec nonneg ran)).congr
    (by omega) (fun other => ?_) (fun other => ?_) (fun other => ?_)
  · simp only [recovers, single, Option.some.injEq]
    grind
  · simp [recovers, Counter.consumedShift]
  · simp only [recovers, Counter.recoveredShift, single]
    grind

theorem returnRecoveries_restored (spec : Restores session restore) {ids : List Nat} {amount : Int}
    {before after : Tx} {left usable : Int} (nonneg : 0 ≤ amount)
    (recoveries : ∀ id ∈ ids, id < before.account.allocations.length ∧
      (before.account.allocation id).recoveryForPackId = some sourceId)
    (ran : returnRecoveries restore ids amount before = .ok (after, left, usable)) :
    0 ≤ left ∧ Restored session before.account after.account usable
      (single sourceId (amount - left)) (fun _ => 0) fun _ => 0 := by
  induction ids generalizing amount before usable with
  | nil =>
      simp only [returnRecoveries, Except.ok.injEq, Prod.mk.injEq] at ran
      obtain ⟨rfl, rfl, rfl⟩ := ran
      exact ⟨nonneg, (Restored.refl _).congr rfl (by simp [single]) (fun _ => rfl) fun _ => rfl⟩
  | cons id ids ih =>
      obtain ⟨bound, recovers⟩ := recoveries id (by simp)
      simp only [returnRecoveries] at ran
      by_cases stop : min amount (before.account.allocation id).unreturned ≤ 0
      · simp only [stop, if_true, pure, Except.pure, Except.ok.injEq, Prod.mk.injEq] at ran
        obtain ⟨rfl, rfl, rfl⟩ := ran
        exact ⟨nonneg, (Restored.refl _).congr rfl (by simp [single]) (fun _ => rfl) fun _ => rfl⟩
      · simp only [stop, if_false] at ran
        obtain ⟨⟨middle, restored⟩, first, ran⟩ := bind_eq_ok ran
        obtain ⟨⟨last, left', usable'⟩, rest, ran⟩ := bind_eq_ok ran
        simp only [pure, Except.pure, Except.ok.injEq, Prod.mk.injEq] at ran
        obtain ⟨rfl, rfl, rfl⟩ := ran
        have here := restored_recovery spec bound recovers (by omega) (by omega) first
        have later := ih (by omega) (fun other member => by
          have framed := here.allocationRecovery other
          rw [here.allocationsLength, framed]
          exact recoveries other (by simp [member])) rest
        refine ⟨later.1, (here.trans later.2).congr rfl (fun other => ?_) (fun _ => rfl)
          fun _ => rfl⟩
        simp only [single]
        split <;> omega

theorem mem_recoveriesOf {account : Account} {id : Nat} :
    id ∈ account.recoveriesOf session sourceId ↔ id < account.allocations.length ∧
      (account.allocation id).recoveryForPackId = some sourceId ∧
      (account.allocation id).returnedAmount < (account.allocation id).amount := by
  simp [Account.recoveriesOf]

theorem returnReversalRecovery_restored (spec : Restores session restore) {amount : Int}
    {before after : Tx} {usable : Int} (nonneg : 0 ≤ amount)
    (ran : returnReversalRecovery restore session sourceId amount before = .ok (after, usable)) :
    Restored session before.account after.account usable (single sourceId amount) (fun _ => 0)
      fun _ => 0 := by
  have cancelled := Restored.cancelDebt session before.account sourceId nonneg
  have leftNonneg := cancelDebt_left_nonneg sourceId nonneg before.account
  simp only [returnReversalRecovery] at ran
  obtain ⟨⟨last, left, returned⟩, recoveries, ran⟩ := bind_eq_ok ran
  by_cases unpaid : left ≠ 0
  · simp [unpaid, throw, throwThe, MonadExceptOf.throw, bind, Except.bind] at ran
  · simp only [unpaid, if_false, pure, Except.pure, bind, Except.bind, Except.ok.injEq,
      Prod.mk.injEq] at ran
    obtain ⟨rfl, rfl⟩ := ran
    have rest := returnRecoveries_restored spec leftNonneg
      (fun id member => by
        obtain ⟨bound, recovers, -⟩ := mem_recoveriesOf.mp member
        exact ⟨bound, recovers⟩) recoveries
    refine (cancelled.trans rest.2).congr (by omega) (fun other => ?_) (fun _ => rfl) fun _ => rfl
    simp only [single]
    split <;> omega

def Tx.restorePack (session : Session) (packId : Nat) (amount : Int) (counter : Counter)
    (tx : Tx) : Tx :=
  { account := tx.account.setPack packId
      ((tx.account.pack packId).restore counter amount (session.clock tx.reads))
    reads := tx.reads + 1 }

def Tx.usable (session : Session) (packId : Nat) (amount : Int) (tx : Tx) : Int :=
  if (tx.account.pack packId).expiresAt ≤ session.clock tx.reads then 0
  else amount - (tx.account.pack packId).absorbed amount

theorem restorePackValue_eq (session : Session) (fuel packId : Nat) {amount : Int}
    (counter : Counter) (tx : Tx) (positive : 0 < amount) :
    restorePackValue session (fuel + 1) packId amount counter tx =
      if tx.account.packs.length ≤ packId then .error .noResultFound
      else if counter.read (tx.account.pack packId) < amount then .error .allocationExceedsSource
      else if (tx.account.pack packId).absorbed amount = 0 then
        .ok (tx.restorePack session packId amount counter, tx.usable session packId amount)
      else
        returnReversalRecovery (restorePackValue session fuel) session packId
          ((tx.account.pack packId).absorbed amount) (tx.restorePack session packId amount counter)
        >>= fun result => .ok (result.1, tx.usable session packId amount + result.2) := by
  simp only [restorePackValue, show ¬amount ≤ 0 by omega, if_false, Tx.restorePack, Tx.usable]
  split_ifs <;> rfl

theorem Restored.restoreOwn {tx : Tx} {packId : Nat} {counter : Counter} {amount : Int}
    (bound : packId < tx.account.packs.length) (positive : 0 < amount)
    (covered : amount ≤ counter.read (tx.account.pack packId)) :
    Restored session tx.account (tx.restorePack session packId amount counter).account
      (tx.usable session packId amount)
      (single packId (-(tx.account.pack packId).absorbed amount))
      (counter.consumedShift packId (-amount)) (counter.recoveredShift packId (-amount)) :=
  Restored.restorePack bound positive covered tx.reads

theorem restorePackValue_restores (session : Session) (fuel : Nat) :
    Restores session (restorePackValue session fuel) := by
  induction fuel with
  | zero => intro _ _ _ _ _ _ _ ran; cases ran
  | succ fuel ih =>
      intro packId amount counter before after usable nonneg ran
      by_cases positive : 0 < amount
      · rw [restorePackValue_eq session fuel packId counter before positive] at ran
        split_ifs at ran with missing uncovered nothingAbsorbed
        · simp only [Except.ok.injEq, Prod.mk.injEq] at ran
          obtain ⟨rfl, rfl⟩ := ran
          refine (Restored.restoreOwn (by omega) positive (by omega)).congr rfl (fun id => ?_)
            (fun _ => rfl) fun _ => rfl
          simp [nothingAbsorbed, single]
        · obtain ⟨⟨last, returned⟩, recovered, ran⟩ := bind_eq_ok ran
          simp only [Except.ok.injEq, Prod.mk.injEq] at ran
          obtain ⟨rfl, rfl⟩ := ran
          have own : Restored session before.account _ _ _ _ _ :=
            Restored.restoreOwn (by omega) positive (Int.not_lt.mp uncovered)
          have returns := returnReversalRecovery_restored ih
            (BillingCreditPack.absorbed_nonneg nonneg) recovered
          refine (own.trans returns).congr rfl (fun id => ?_) (fun id => ?_) (fun id => ?_)
          · simp only [single]
            split <;> omega
          · omega
          · omega
      · simp only [restorePackValue, show amount ≤ 0 by omega, if_true, pure, Except.pure,
          Except.ok.injEq, Prod.mk.injEq] at ran
        obtain ⟨rfl, rfl⟩ := ran
        obtain rfl : amount = 0 := by omega
        refine (Restored.refl _).congr rfl (fun _ => rfl) (fun id => ?_) (fun id => ?_) <;>
          cases counter <;> simp [Counter.consumedShift, Counter.recoveredShift, single]

end Recursion

end Thought2Build.Billing
