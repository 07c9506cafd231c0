import Thought2Build.Billing.Grants

/-!
`apply_refund_reversal` keeps the account invariant. Donors are drained while they hold
spendable credits, so they owe nothing themselves; what no donor covers becomes debt.
-/

namespace Thought2Build.Billing

open Rows Account

def suppliedBy (donors : List (Nat × Int)) (id : Nat) : Int :=
  sumOf (fun donor => if donor.1 = id then donor.2 else 0) donors

/-- A drain of other packs that leaves `left` of `need` uncovered. -/
structure Supplied (sourceId : Nat) (need left : Int) (donors : List (Nat × Int))
    (before after : Account) : Prop
    extends Moved before after (left - need) (fun _ => 0) (fun _ => 0) (suppliedBy donors),
      Ages before after where
  rest : after = { before with packs := after.packs }
  packsLength : after.packs.length = before.packs.length
  source : after.pack sourceId = before.pack sourceId
  others : ∀ id, id ≠ sourceId → (after.pack id).Sound
  total : left + sumOf Prod.snd donors = need
  leftNonneg : 0 ≤ left
  donors : ∀ donor ∈ donors, donor.1 ≠ sourceId ∧ donor.1 < before.packs.length ∧ 0 < donor.2 ∧
    0 < (before.pack donor.1).creditsRemaining
  settled : ∀ session, before.Settled session → after.Settled session

namespace Supplied

variable {sourceId : Nat} {need middle left : Int} {first second third : Account}
  {donors : List (Nat × Int)}

theorem refl (nonneg : 0 ≤ need) (sound : ∀ id, id ≠ sourceId → (first.pack id).Sound) :
    Supplied sourceId need need [] first first where
  toMoved := (Moved.refl first).congr (by omega) (fun _ => rfl) (fun _ => rfl) fun _ => rfl
  toAges := .refl first
  rest := rfl
  packsLength := rfl
  source := rfl
  others := sound
  total := by simp
  leftNonneg := nonneg
  donors _ member := nomatch member
  settled _ settled := settled

end Supplied

def Account.supplyPack (account : Account) (id : Nat) (take : Int) : Account :=
  account.setPack id ((account.pack id).supply take
    (if (account.pack id).creditsRemaining - take = 0 then .consumed
      else (account.pack id).status))

theorem Supplied.supply {sourceId id : Nat} {need left take : Int} {donors : List (Nat × Int)}
    {before after : Account} (different : id ≠ sourceId) (bound : id < before.packs.length)
    (positive : 0 < take)
    (available : take ≤ (before.pack id).creditsRemaining)
    (fresh : ∀ donor ∈ donors, donor.1 ≠ id)
    (later : Supplied sourceId (need - take) left donors (before.supplyPack id take) after) :
    Supplied sourceId need left ((id, take) :: donors) before after := by
  have step := Moved.setPack bound ((before.pack id).supply take
    (if (before.pack id).creditsRemaining - take = 0 then .consumed else (before.pack id).status))
  have supplied : Ages before (before.supplyPack id take) :=
    .editPack rfl (by constructor <;> rfl) le_rfl
  refine {
    toMoved := (step.trans later.toMoved).congr ?_ (fun other => ?_) (fun other => ?_)
      (fun other => ?_)
    toAges := supplied.trans later.toAges
    rest := ?_
    packsLength := later.packsLength.trans (packs_length_setPack _)
    source := later.source.trans (pack_setPack_ne different.symm _)
    others := later.others
    total := ?_
    leftNonneg := later.leftNonneg
    donors := ?_
    settled := fun session settled => later.settled session ?_ }
  · simp only [BillingCreditPack.supply]
    omega
  · simp [single]
  · simp [single, BillingCreditPack.supply]
  · simp only [single, BillingCreditPack.supply, suppliedBy, sumOf_cons]
    grind
  · rw [later.rest]
    rfl
  · have := later.total
    simp only [sumOf_cons]
    omega
  · intro donor member
    rcases List.mem_cons.mp member with rfl | member
    · exact ⟨different, bound, positive, lt_of_lt_of_le positive available⟩
    · obtain ⟨notSource, donorBound, positive', remaining⟩ := later.donors donor member
      rw [Account.supplyPack, packs_length_setPack] at donorBound
      rw [Account.supplyPack, pack_setPack_ne (fresh donor member)] at remaining
      exact ⟨notSource, donorBound, positive', remaining⟩
  · have swept := settled.swept id
    have spendable := settled.spendable id
    refine settled.setPack rfl ?_ ?_ <;> simp only [BillingCreditPack.supply] <;> grind

theorem drainDonors_supplied (sourceId : Nat) {ids : List Nat} {need : Int} {account : Account}
    (nonneg : 0 ≤ need) (distinct : ids.Nodup) (bounds : ∀ id ∈ ids, id < account.packs.length)
    (sound : ∀ id, id ≠ sourceId → (account.pack id).Sound) :
    let result := drainDonors sourceId ids need account
    Supplied sourceId need result.2.1 result.2.2 account result.1 ∧
      ∀ donor ∈ result.2.2, donor.1 ∈ ids := by
  induction ids generalizing need account with
  | nil => exact ⟨.refl nonneg sound, fun _ member => nomatch member⟩
  | cons id ids ih =>
      obtain ⟨fresh, distinct⟩ := List.nodup_cons.mp distinct
      have rest : ∀ other ∈ ids, other < account.packs.length :=
        fun other member => bounds other (by simp [member])
      have skip := ih nonneg distinct rest sound
      rw [drainDonors]
      split
      · exact ⟨.refl nonneg sound, fun _ member => nomatch member⟩
      simp only
      split
      · exact ⟨skip.1, fun donor member => List.mem_cons_of_mem _ (skip.2 donor member)⟩
      rename_i eligible
      split
      · exact ⟨skip.1, fun donor member => List.mem_cons_of_mem _ (skip.2 donor member)⟩
      rename_i positive
      have different : id ≠ sourceId := fun same => eligible (.inl same)
      have bound := bounds id (by simp)
      obtain ⟨later, members⟩ := @ih (need - min (account.pack id).creditsRemaining need)
        (account.supplyPack id (min (account.pack id).creditsRemaining need)) (by omega) distinct
        (fun other member => by
          rw [Account.supplyPack, packs_length_setPack]
          exact rest other member)
        (fun other notSource => setPack_cases (fun _ => (sound id different).supply
          (Int.not_le.mp positive).le (min_le_left _ _) (by
            split
            · rename_i empty
              exact .inr ⟨rfl, empty⟩
            · exact .inl rfl)) (sound other notSource))
      refine ⟨Supplied.supply different bound (Int.not_le.mp positive) (min_le_left _ _)
        (fun donor member same => fresh (same ▸ members donor member)) later, ?_⟩
      intro donor member
      rcases List.mem_cons.mp member with rfl | member
      · simp
      · exact List.mem_cons_of_mem _ (members donor member)

/-- Debt of pack `sourceId` grew by `amount`. -/
structure Owing (sourceId : Nat) (amount : Int) (before after : Account) : Prop
    extends Moved before after 0 (single sourceId (-amount)) (fun _ => 0) fun _ => 0 where
  rest : after = { before with debts := after.debts }
  debts : (∀ id, 0 ≤ (before.debt id).creditsRecovered ∧
      (before.debt id).creditsRecovered ≤ (before.debt id).creditsOwed) →
    ∀ id, 0 ≤ (after.debt id).creditsRecovered ∧
      (after.debt id).creditsRecovered ≤ (after.debt id).creditsOwed

theorem upsertRefundDebt_owing (session : Session) (sourceId : Nat) {amount : Int}
    (reasonLabel : String) (account : Account) (nonneg : 0 ≤ amount) :
    Owing sourceId amount account
      (upsertRefundDebt session sourceId amount reasonLabel account) := by
  simp only [upsertRefundDebt]
  split
  · rename_i found
    have source := debtIdOf_source found
    refine { toMoved := ?_, rest := rfl, debts := fun bounds id => ?_ }
    · refine (Moved.setDebt found ?_).congr rfl (fun other => ?_) (fun _ => rfl) fun _ => rfl
      · rfl
      · simp only [single, source, BillingCreditDebt.outstanding]
        split <;> omega
    · have owed := bounds (account.debtIdOf sourceId)
      rw [debt_setDebt]
      split
      · simp only
        omega
      · exact bounds id
  · refine { toMoved := ?_, rest := rfl, debts := fun bounds id => ?_ }
    · refine (Moved.addDebt _).congr rfl (fun other => ?_) (fun _ => rfl) fun _ => rfl
      simp [BillingCreditDebt.outstanding]
    · rw [Account.debt, Account.addDebt, getD_append]
      split
      · exact ⟨le_rfl, nonneg⟩
      · exact bounds id

theorem owing_optional (session : Session) (sourceId : Nat) {amount : Int} (reasonLabel : String)
    (account : Account) (nonneg : 0 ≤ amount) :
    Owing sourceId amount account
      (if amount > 0 then upsertRefundDebt session sourceId amount reasonLabel account
        else account) := by
  split
  · exact upsertRefundDebt_owing session sourceId reasonLabel account nonneg
  · obtain rfl : amount = 0 := by omega
    exact {
      toMoved := (Moved.refl account).congr rfl (fun _ => by simp [single]) (fun _ => rfl)
        fun _ => rfl
      rest := rfl
      debts := fun bounds => bounds }

def BillingCreditPack.revoke (pack : BillingCreditPack) (taken revoke level seen : Int) :
    BillingCreditPack :=
  let pack := { pack with creditsRemaining := pack.creditsRemaining - taken }
  { pack.markProcessed level seen with
    creditsRevoked := pack.creditsRevoked + revoke
    status :=
      if level = pack.paidItemAmountCents then .refunded
      else if pack.status = .expired then .expired
      else if pack.creditsRemaining > 0 then .active
      else .consumed }

theorem BillingCreditPack.Sound.revoke {pack : BillingCreditPack} {revoke level : Int}
    (sound : pack.Sound) (seen : Int) (positive : 0 < revoke)
    (within : pack.creditsRevoked + revoke ≤ pack.creditsPurchased - pack.creditsExpired)
    (advances : pack.refundedItemAmountCentsProcessed < level)
    (full : level = pack.paidItemAmountCents →
      pack.creditsRevoked + revoke = pack.creditsPurchased - pack.creditsExpired) :
    (pack.revoke (min pack.creditsRemaining revoke) revoke level seen).Sound := by
  obtain ⟨h1, h2, h3, h4, h5, h6, h7, h8, h9, h10, h11, h12⟩ := sound
  simp only [BillingCreditPack.gap, BillingCreditPack.accounted] at *
  constructor <;>
    simp only [BillingCreditPack.revoke, BillingCreditPack.markProcessed, BillingCreditPack.gap,
      BillingCreditPack.accounted] <;>
    grind

theorem BillingCreditPack.excess_revoke (pack : BillingCreditPack) (taken revoke level seen : Int) :
    (pack.revoke taken revoke level seen).excess = pack.excess - taken + revoke := by
  simp only [BillingCreditPack.excess, BillingCreditPack.gap, BillingCreditPack.accounted,
    BillingCreditPack.revoke, BillingCreditPack.markProcessed]
  omega

def reversalEntry (session : Session) (immediateRevoke : Int) (reason : LedgerReason) :
    CreditLedger :=
  { amount := -immediateRevoke, reason, metadata := none, createdAt := session.clock 0 }

theorem sumOf_donorAllocations (column : CreditPackAllocation → Int) (value : Nat × Int → Int)
    {ledgerEntryId sourceId : Nat} (donors : List (Nat × Int))
    (same : ∀ donor, column (donorAllocation ledgerEntryId sourceId donor) = value donor) :
    sumOf column (donors.map (donorAllocation ledgerEntryId sourceId)) = sumOf value donors := by
  rw [sumOf_map]
  exact sumOf_congr fun donor _ => same donor

structure Revoked (session : Session) (sourceId : Nat) (revoke level seen immediateRevoke : Int)
    (ledgerReason : LedgerReason) (before after : Account) : Prop
    extends Moved before after (-immediateRevoke) (fun _ => 0) (fun _ => 0) fun _ => 0,
      Ages before after where
  rows : after.RowsSound
  ranked : Ranked after.Donates
  packsLength : after.packs.length = before.packs.length
  creditBalance : after.creditBalance = max 0 (before.creditBalance - immediateRevoke)
  ledger : after.ledger = before.ledger ++ [reversalEntry session immediateRevoke ledgerReason]
  entries : ∀ allocation ∈ after.allocations,
    allocation ∈ before.allocations ∨ allocation.ledgerEntryId < after.ledger.length
  charged : ∀ id, after.chargedTo id = before.chargedTo id
  immediateNonneg : 0 ≤ immediateRevoke
  source : after.pack sourceId = (before.pack sourceId).revoke
    (min (before.pack sourceId).creditsRemaining revoke) revoke level seen
  settled : before.Settled session → after.Settled session

section Assembly

variable {session : Session} {sourceId : Nat} {revoke level seen debtCreated : Int}
  {donors : List (Nat × Int)} {account drained owed : Account}

def Account.takeOwn (account : Account) (sourceId : Nat) (taken : Int) : Account :=
  account.setPack sourceId { account.pack sourceId with
    creditsRemaining := (account.pack sourceId).creditsRemaining - taken }

def Account.close (account : Account) (session : Session) (sourceId : Nat)
    (source : BillingCreditPack) (immediateRevoke : Int) (ledgerReason : LedgerReason)
    (donors : List (Nat × Int)) : Account :=
  let account := account.setPack sourceId source
  { account with
    creditBalance := max 0 (account.creditBalance - immediateRevoke)
    ledger := account.ledger ++ [reversalEntry session immediateRevoke ledgerReason]
    allocations := account.allocations ++
      donors.map (donorAllocation account.ledger.length sourceId) }

theorem Moved.takeOwn (bound : sourceId < account.packs.length) (taken : Int) :
    Moved account (account.takeOwn sourceId taken) (-taken) (single sourceId (-taken))
      (fun _ => 0) fun _ => 0 := by
  refine (Moved.setPack bound _).congr ?_ (fun _ => ?_) (fun _ => ?_) fun _ => ?_
  · simp only
    omega
  · simp only [single, BillingCreditPack.excess, BillingCreditPack.gap, BillingCreditPack.accounted]
    grind
  · simp [single]
  · simp [single]

theorem Moved.close (session : Session) (bound : sourceId < account.packs.length)
    (source : BillingCreditPack) (immediateRevoke : Int) (ledgerReason : LedgerReason) (donors : List (Nat × Int))
    (remaining : source.creditsRemaining = (account.pack sourceId).creditsRemaining)
    (consumed : source.creditsConsumed = (account.pack sourceId).creditsConsumed)
    (recovered : source.creditsDebtRecovered = (account.pack sourceId).creditsDebtRecovered) :
    Moved account (account.close session sourceId source immediateRevoke ledgerReason donors) 0
      (single sourceId (source.excess - (account.pack sourceId).excess - sumOf Prod.snd donors))
      (fun _ => 0) fun id => -suppliedBy donors id := by
  have written := (((Moved.setPack bound source).trans (Moved.book _
    (max 0 (account.creditBalance - immediateRevoke))
    (account.ledger ++ [reversalEntry session immediateRevoke ledgerReason]))).trans
    (Moved.addAllocations (donors.map (donorAllocation account.ledger.length sourceId))))
  refine written.congr ?_ (fun id => ?_) (fun id => ?_) fun id => ?_
  · omega
  · rw [sumOf_donorAllocations _ (fun donor => if some sourceId = some id then donor.2 else 0)]
    · by_cases here : id = sourceId
      · subst here
        simp only [single, if_true]
        change _ + 0 + -sumOf Prod.snd donors = _
        omega
      · rw [sumOf_zero fun donor _ => if_neg fun same => here (Option.some.inj same).symm]
        simp [single, here]
    · intro donor
      simp [CreditPackAllocation.recoveringFor, donorAllocation, CreditPackAllocation.unreturned]
  · rw [sumOf_donorAllocations _ (fun _ => 0)]
    · simp [sumOf_zero, single, consumed]
    · intro donor
      simp [CreditPackAllocation.consumedFrom, donorAllocation]
  · rw [sumOf_donorAllocations _ (fun donor => if donor.1 = id then donor.2 else 0)]
    · simp [single, recovered, suppliedBy]
    · intro donor
      simp [CreditPackAllocation.recoveredFrom, donorAllocation, CreditPackAllocation.unreturned]

theorem Revoked.assemble {ledgerReason : LedgerReason} {taken : Int} (sourced : account.Sourced)
    (bound : sourceId < account.packs.length) (positive : 0 < revoke)
    (own : taken = min (account.pack sourceId).creditsRemaining revoke)
    (advances : (account.pack sourceId).refundedItemAmountCentsProcessed < level)
    (sound : ((account.pack sourceId).revoke taken revoke level seen).Sound)
    (supplied : Supplied sourceId (revoke - taken) debtCreated donors
      (account.takeOwn sourceId taken) drained)
    (owing : Owing sourceId debtCreated drained owed) :
    Revoked session sourceId revoke level seen (taken + sumOf Prod.snd donors) ledgerReason account
      (owed.close session sourceId ((account.pack sourceId).revoke taken revoke level seen)
        (taken + sumOf Prod.snd donors) ledgerReason donors) := by
  have remaining := (sourced.rows.packs sourceId).remaining
  have owedPacks : owed.packs = drained.packs := by rw [owing.rest]
  have owedPack : ∀ id, owed.pack id = drained.pack id := fun id => by
    rw [Account.pack, owedPacks, Account.pack]
  have ownPack : (account.takeOwn sourceId taken).pack sourceId = { account.pack sourceId with
      creditsRemaining := (account.pack sourceId).creditsRemaining - taken } :=
    pack_setPack_self bound _
  have length : owed.packs.length = account.packs.length := by
    rw [owedPacks, supplied.packsLength]
    exact packs_length_setPack _
  have owedSource : owed.pack sourceId = { account.pack sourceId with
      creditsRemaining := (account.pack sourceId).creditsRemaining - taken } := by
    rw [owedPack, supplied.source, ownPack]
  have allocations : owed.allocations = account.allocations := by
    rw [owing.rest, supplied.rest]
    rfl
  have ledger : owed.ledger = account.ledger := by
    rw [owing.rest, supplied.rest]
    rfl
  have balance : owed.creditBalance = account.creditBalance := by
    rw [owing.rest, supplied.rest]
    rfl
  have debts : drained.debts = account.debts := by
    rw [supplied.rest]
    rfl
  have total := supplied.total
  have donorsNonneg : 0 ≤ sumOf Prod.snd donors :=
    sumOf_nonneg fun donor member => (supplied.donors donor member).2.2.1.le
  have ownNonneg : 0 ≤ taken := own ▸ le_min remaining positive.le
  refine {
    toMoved := ?_
    toAges := ?_
    rows := ?_
    ranked := sourced.ranked.extend ?_
    packsLength := (packs_length_setPack _).trans length
    creditBalance := by rw [← balance]; rfl
    ledger := by rw [← ledger]; rfl
    entries := ?_
    charged := ?_
    immediateNonneg := add_nonneg ownNonneg donorsNonneg
    source := by
      rw [← own]
      exact pack_setPack_self (length ▸ bound) _
    settled := fun settled => ?_ }
  · have closed := Moved.close session (length ▸ bound : sourceId < owed.packs.length)
      ((account.pack sourceId).revoke taken revoke level seen) (taken + sumOf Prod.snd donors)
      ledgerReason donors (by rw [owedSource]; rfl) (by rw [owedSource]; rfl) (by rw [owedSource]; rfl)
    refine ((((Moved.takeOwn bound taken).trans supplied.toMoved).trans owing.toMoved).trans
      closed).congr (by omega) (fun id => ?_) (fun _ => rfl) fun id => ?_
    · have source : (owed.pack sourceId).excess = (account.pack sourceId).excess - taken := by
        rw [owedSource]
        simp only [BillingCreditPack.excess, BillingCreditPack.gap, BillingCreditPack.accounted]
        clear * -
        omega
      rw [BillingCreditPack.excess_revoke, source]
      simp only [single]
      clear * - total
      split <;> omega
    · rw [zero_add, add_zero, add_neg_cancel]
  · have taken : Ages account (account.takeOwn sourceId taken) :=
      .editPack rfl (by constructor <;> rfl) le_rfl
    refine Ages.trans ((taken.trans supplied.toAges).ofPacks owedPacks)
      (.editPack rfl ?_ ?_)
    · rw [owedSource]
      constructor <;> rfl
    · rw [owedSource]
      exact le_rfl
  · refine {
      packs := fun id => ?_
      debts := owing.debts fun id => ?_
      allocations := getD_cases (motive := fun row : CreditPackAllocation =>
        0 ≤ row.returnedAmount ∧ row.returnedAmount ≤ row.amount) (by decide) fun row member => ?_ }
    · by_cases here : id = sourceId
      · subst here
        change ((owed.setPack id _).pack id).Sound
        rw [pack_setPack_self (length ▸ bound)]
        exact sound
      · change ((owed.setPack sourceId _).pack id).Sound
        rw [pack_setPack_ne here, owedPack]
        exact supplied.others id here
    · rw [Account.debt, debts]
      exact sourced.rows.debts id
    · rcases List.mem_append.mp member with older | newer
      · change row ∈ owed.allocations at older
        rw [allocations] at older
        obtain ⟨id, -, rfl⟩ := mem_allocations.mp older
        exact sourced.rows.allocations id
      · obtain ⟨donor, given, rfl⟩ := List.mem_map.mp newer
        exact ⟨le_rfl, (supplied.donors donor given).2.2.1.le⟩
  · -- donors held spendable credits, so none of them is a reversed source itself
    intro source donor donates
    have rows := donates_iff.mp donates
    obtain ⟨row, member, recovers, pays, unreturned⟩ := rows
    rcases List.mem_append.mp member with older | newer
    · change row ∈ owed.allocations at older
      rw [allocations] at older
      exact .inl (donates_iff.mpr ⟨row, older, recovers, pays, unreturned⟩)
    · right
      obtain ⟨given, among, rfl⟩ := List.mem_map.mp newer
      obtain rfl : given.1 = donor := pays
      obtain ⟨notSource, -, -, spendable⟩ := supplied.donors given among
      rw [Account.takeOwn, pack_setPack_ne notSource] at spendable
      have clean := (sourced.rows.packs given.1).clean spendable
      intro next onward
      obtain ⟨row, member, recovers, rest⟩ := donates_iff.mp onward
      rcases List.mem_append.mp member with older | newer
      · change row ∈ owed.allocations at older
        rw [allocations] at older
        exact not_donates sourced.rows (sourced.excess given.1) (Int.sub_eq_zero.mpr clean) next
          (donates_iff.mpr ⟨row, older, recovers, rest⟩)
      · obtain ⟨other, -, rfl⟩ := List.mem_map.mp newer
        exact notSource (Option.some.inj recovers).symm
  · intro row member
    rcases List.mem_append.mp member with older | newer
    · change row ∈ owed.allocations at older
      rw [allocations] at older
      exact .inl older
    · obtain ⟨donor, -, rfl⟩ := List.mem_map.mp newer
      right
      change owed.ledger.length < (owed.ledger ++ _).length
      simp
  · intro id
    change sumOf _ (owed.allocations ++ _) = _
    rw [sumOf_append, sumOf_donorAllocations _ (fun _ => 0), allocations]
    · simp [sumOf_zero, Account.chargedTo]
    · intro donor
      simp [CreditPackAllocation.chargedTo, donorAllocation]
  · have swept := settled.swept sourceId
    have spendable := settled.spendable sourceId
    have ownSettled : (account.takeOwn sourceId taken).Settled session := by
      refine settled.setPack rfl swept fun inactive => ?_
      have empty := spendable inactive
      simp only
      clear * - own positive empty
      omega
    have drainedSettled := supplied.settled session ownSettled
    have owedSettled : owed.Settled session := by
      rw [owing.rest]
      exact ⟨drainedSettled.steady, drainedSettled.swept, drainedSettled.spendable⟩
    have closed : (owed.setPack sourceId
        ((account.pack sourceId).revoke taken revoke level seen)).Settled session := by
      refine owedSettled.setPack (by rw [owedSource]; rfl) (fun lapsed active => ?_)
        fun inactive => ?_
      · have empty := spendable (swept lapsed)
        simp only [BillingCreditPack.revoke, BillingCreditPack.markProcessed] at active
        clear * - active empty ownNonneg
        grind
      · have full := sound.settled
        have value := sound.value
        have nonneg := sound.remaining
        simp only [BillingCreditPack.revoke, BillingCreditPack.markProcessed] at full value nonneg inactive ⊢
        rw [max_eq_right advances.le] at full
        clear * - full value nonneg inactive spendable ownNonneg remaining
        grind
    exact ⟨closed.steady, closed.swept, closed.spendable⟩

end Assembly

theorem revokeCredits_eq (session : Session) {sourceId : Nat} {revoke : Int} (level seen : Int)
    {reasonLabel : String} (ledgerReason : LedgerReason) {account drained owed : Account}
    {debtCreated : Int} {donors : List (Nat × Int)}
    (ran : drainDonors sourceId ((account.packsByExpiry session).filter fun id =>
        (account.pack id).status = .active ∨ id = sourceId)
      (revoke - min (account.pack sourceId).creditsRemaining revoke)
      (account.takeOwn sourceId (min (account.pack sourceId).creditsRemaining revoke)) =
      (drained, debtCreated, donors))
    (debt : (if debtCreated > 0 then
      upsertRefundDebt session sourceId debtCreated reasonLabel drained else drained) = owed)
    (source : owed.pack sourceId = { account.pack sourceId with
      creditsRemaining := (account.pack sourceId).creditsRemaining -
        min (account.pack sourceId).creditsRemaining revoke }) :
    let taken := min (account.pack sourceId).creditsRemaining revoke
    revokeCredits session sourceId revoke level seen reasonLabel ledgerReason account =
      (owed.close session sourceId ((account.pack sourceId).revoke taken revoke level seen)
        (taken + sumOf Prod.snd donors) ledgerReason donors, {
        newRefundedItemCents := level, creditsRevoked := revoke
        immediateRevoke := taken + sumOf Prod.snd donors, debtCreated, applied := true }) := by
  simp only [Account.takeOwn] at ran
  simp only [revokeCredits, ran, debt, source]
  rfl

theorem revokeCredits_close (session : Session) {sourceId : Nat} {revoke : Int} (level seen : Int)
    (reasonLabel : String) (ledgerReason : LedgerReason) {account : Account}
    (sourced : account.Sourced) (bound : sourceId < account.packs.length) :
    let taken := min (account.pack sourceId).creditsRemaining revoke
    ∃ drained debtCreated donors owed,
      drainDonors sourceId ((account.packsByExpiry session).filter fun id =>
          (account.pack id).status = .active ∨ id = sourceId) (revoke - taken)
        (account.takeOwn sourceId taken) = (drained, debtCreated, donors) ∧
      (if debtCreated > 0 then upsertRefundDebt session sourceId debtCreated reasonLabel drained
        else drained) = owed ∧
      Supplied sourceId (revoke - taken) debtCreated donors (account.takeOwn sourceId taken)
        drained ∧
      Owing sourceId debtCreated drained owed ∧
      revokeCredits session sourceId revoke level seen reasonLabel ledgerReason account =
        (owed.close session sourceId ((account.pack sourceId).revoke taken revoke level seen)
          (taken + sumOf Prod.snd donors) ledgerReason donors, {
          newRefundedItemCents := level, creditsRevoked := revoke
          immediateRevoke := taken + sumOf Prod.snd donors, debtCreated, applied := true }) := by
  intro taken
  have remaining := (sourced.rows.packs sourceId).remaining
  have takenLe : taken ≤ revoke := min_le_right _ _
  have supplied := (@drainDonors_supplied sourceId
    ((account.packsByExpiry session).filter fun id =>
      (account.pack id).status = .active ∨ id = sourceId)
    (revoke - taken) (account.takeOwn sourceId taken) (by omega)
    ((scan_nodup _ _ _).filter _)
    (fun id member => (packs_length_setPack _).symm ▸ (mem_packsByExpiry.mp member).1)
    (fun id different => by
      rw [Account.takeOwn, pack_setPack_ne different]
      exact sourced.rows.packs id)).1
  cases ran : drainDonors sourceId ((account.packsByExpiry session).filter fun id =>
      (account.pack id).status = .active ∨ id = sourceId)
    (revoke - taken) (account.takeOwn sourceId taken) with
  | mk drained rest =>
      rw [ran] at supplied
      have owing := owing_optional session sourceId reasonLabel drained supplied.leftNonneg
      refine ⟨drained, rest.1, rest.2, _, rfl, rfl, supplied, owing,
        revokeCredits_eq session level seen ledgerReason ran rfl ?_⟩
      rw [owing.rest]
      exact supplied.source.trans (pack_setPack_self bound _)

theorem revokeCredits_revoked (session : Session) {sourceId : Nat} {revoke level seen : Int}
    (reasonLabel : String) (ledgerReason : LedgerReason) {account : Account}
    (sourced : account.Sourced) (bound : sourceId < account.packs.length) (positive : 0 < revoke)
    (advances : (account.pack sourceId).refundedItemAmountCentsProcessed < level)
    (sound : ((account.pack sourceId).revoke (min (account.pack sourceId).creditsRemaining revoke)
      revoke level seen).Sound) :
    let result := revokeCredits session sourceId revoke level seen reasonLabel ledgerReason account
    Revoked session sourceId revoke level seen result.2.immediateRevoke ledgerReason account
      result.1 := by
  obtain ⟨drained, debtCreated, donors, owed, -, -, supplied, owing, result⟩ :=
    revokeCredits_close session level seen reasonLabel ledgerReason sourced bound
  rw [result]
  exact Revoked.assemble sourced bound positive rfl advances sound supplied owing

section Levels

variable {pack : BillingCreditPack} (amountCents : Int) (fullOrFraud : Bool)

theorem paid_le_providerTotalCents : pack.paidItemAmountCents ≤ pack.providerTotalCents := by
  simp only [BillingCreditPack.providerTotalCents]
  split <;> omega

theorem refundedTotal_bounds (paid : 0 < pack.paidItemAmountCents) :
    0 ≤ pack.refundedTotal amountCents ∧
      pack.refundedTotal amountCents ≤ pack.providerTotalCents := by
  have := @paid_le_providerTotalCents pack
  simp only [BillingCreditPack.refundedTotal]
  omega

theorem refundLevel_bounds (paid : 0 < pack.paidItemAmountCents) :
    0 ≤ pack.refundLevel amountCents fullOrFraud ∧
      pack.refundLevel amountCents fullOrFraud ≤ pack.paidItemAmountCents := by
  have total := @paid_le_providerTotalCents pack
  obtain ⟨nonneg, below⟩ := refundedTotal_bounds amountCents paid
  simp only [BillingCreditPack.refundLevel]
  split
  · omega
  · constructor
    · exact Int.ediv_nonneg (Int.mul_nonneg (by omega) nonneg) (by omega)
    · apply Int.ediv_le_of_le_mul (by omega)
      exact Int.mul_le_mul_of_nonneg_left below (by omega)

theorem targetRevoked_le {level : Int} (paid : 0 < pack.paidItemAmountCents)
    (level_le : level ≤ pack.paidItemAmountCents)
    (refundable : 0 ≤ pack.creditsPurchased - pack.creditsExpired) :
    pack.targetRevoked level ≤ pack.creditsPurchased - pack.creditsExpired := by
  simp only [BillingCreditPack.targetRevoked]
  split
  · exact le_rfl
  · apply Int.ediv_le_of_le_mul paid
    exact Int.mul_le_mul_of_nonneg_left level_le refundable

theorem targetRevoked_full {level : Int} (full : level = pack.paidItemAmountCents) :
    pack.targetRevoked level = pack.creditsPurchased - pack.creditsExpired := by
  simp [BillingCreditPack.targetRevoked, full]

end Levels

theorem Transferred.mark (session : Session) {sourceId : Nat} {account : Account}
    (processed seen : Int) (status : PackStatus) (sourced : account.Sourced)
    (bound : sourceId < account.packs.length)
    (sound : { account.pack sourceId with
      providerRefundedTotalCentsSeen := seen
      refundedItemAmountCentsProcessed := processed
      status }.Sound)
    (fits : account.Settled session →
      ((account.pack sourceId).expiresAt ≤ session.clock 0 → status ≠ .active) ∧
        (status ≠ .active → (account.pack sourceId).creditsRemaining = 0)) :
    Transferred session 0 account (account.setPack sourceId { account.pack sourceId with
      providerRefundedTotalCentsSeen := seen
      refundedItemAmountCentsProcessed := processed
      status }) where
  toMoved := by
    refine (Moved.setPack bound _).congr ?_ (fun id => ?_) (fun id => ?_) fun id => ?_
    · simp
    · simp [single, BillingCreditPack.excess, BillingCreditPack.gap, BillingCreditPack.accounted]
    · simp [single]
    · simp [single]
  toPosted := ⟨(Posted.refl account).ledger, (Posted.refl account).entries, fun _ => rfl⟩
  toAges := .editPack rfl (by constructor <;> rfl) le_rfl
  rows := sourced.rows.setPack sound
  ranked := sourced.ranked
  packsLength := packs_length_setPack _
  creditBalance _ := (Int.add_zero _).symm
  settled settled := settled.setPack rfl (fits settled).1 (fits settled).2

theorem BillingCreditPack.Sound.markProcessed {pack : BillingCreditPack} {level : Int}
    (sound : pack.Sound) (seen : Int)
    (full : level = pack.paidItemAmountCents →
      pack.creditsPurchased - pack.creditsExpired ≤ pack.creditsRevoked) :
    (pack.markProcessed level seen).Sound := by
  obtain ⟨h1, h2, h3, h4, h5, h6, h7, h8, h9, h10, h11, h12⟩ := sound
  simp only [BillingCreditPack.gap, BillingCreditPack.accounted] at *
  constructor <;>
    simp only [BillingCreditPack.markProcessed, BillingCreditPack.gap,
      BillingCreditPack.accounted] <;>
    grind

theorem BillingCreditPack.Sound.see {pack : BillingCreditPack} (sound : pack.Sound) (seen : Int) :
    { pack with providerRefundedTotalCentsSeen := seen }.Sound :=
  ⟨sound.remaining, sound.consumed, sound.expired, sound.recovered, sound.gap, sound.gapRevoked,
    sound.value, sound.clean, sound.spendable, sound.settled, sound.price, sound.live⟩

theorem revoke_sound {pack : BillingCreditPack} {level : Int} (sound : pack.Sound) (seen : Int)
    (paid : 0 < pack.paidItemAmountCents) (level_le : level ≤ pack.paidItemAmountCents)
    (advances : pack.refundedItemAmountCentsProcessed < level)
    (positive : 0 < pack.targetRevoked level - pack.creditsRevoked) :
    let revoke := pack.targetRevoked level - pack.creditsRevoked
    (pack.revoke (min pack.creditsRemaining revoke) revoke level seen).Sound := by
  have within := targetRevoked_le paid level_le (by
    have := sound.remaining
    have := sound.value
    have := sound.gap
    have := sound.gapRevoked
    omega)
  refine sound.revoke seen positive (by omega) advances fun full => ?_
  rw [targetRevoked_full full]
  omega

theorem reverseRefund_transferred (session : Session) {sourceId : Nat} (amountCents : Int)
    (fullOrFraud : Bool) (reasonLabel : String) {ledgerReason : Option LedgerReason}
    {account : Account} (sourced : account.Sourced) (bound : sourceId < account.packs.length)
    (paid : 0 < (account.pack sourceId).paidItemAmountCents)
    (quiet : ∀ reason ∈ ledgerReason, reason.Quiet) :
    let result := reverseRefund session sourceId amountCents fullOrFraud reasonLabel ledgerReason
      account
    0 ≤ result.2.immediateRevoke ∧
      Transferred session (-result.2.immediateRevoke) account result.1 := by
  have sound := sourced.rows.packs sourceId
  have levelBounds := refundLevel_bounds amountCents fullOrFraud paid
  simp only [reverseRefund]
  generalize (account.pack sourceId).refundLevel amountCents fullOrFraud = level at *
  generalize (account.pack sourceId).refundedTotal amountCents = seen
  split
  · exact ⟨le_rfl, .mark session _ _ _ sourced bound (sound.see _) fun settled =>
      ⟨settled.swept sourceId, settled.spendable sourceId⟩⟩
  rename_i advances
  split
  · rename_i nothing
    refine ⟨le_rfl, .mark session _ _ _ sourced bound (sound.markProcessed seen fun full => ?_)
      fun settled => ⟨settled.swept sourceId, settled.spendable sourceId⟩⟩
    rw [targetRevoked_full full] at nothing
    omega
  rename_i positive
  have revoked := revokeCredits_revoked session reasonLabel
    (ledgerReason.getD (.billingReversal sourceId level)) sourced bound (Int.not_le.mp positive)
    (Int.not_le.mp advances) (revoke_sound sound seen paid levelBounds.2 (Int.not_le.mp advances)
      (Int.not_le.mp positive))
  exact ⟨revoked.immediateNonneg, {
    toMoved := revoked.toMoved
    toAges := revoked.toAges
    ledger := by
      refine ⟨_, revoked.ledger, fun row member => ?_⟩
      rw [List.mem_singleton.mp member]
      refine ⟨rfl, ?_⟩
      cases reason : ledgerReason with
      | none => exact ⟨fun _ => by simp [reversalEntry], fun _ => by simp [reversalEntry]⟩
      | some given => exact quiet given reason
    entries := fun entries allocation member => by
      rcases revoked.entries allocation member with older | newer
      · have := entries allocation older
        rw [revoked.ledger, List.length_append]
        omega
      · exact newer
    charged := revoked.charged
    rows := revoked.rows
    ranked := revoked.ranked
    packsLength := revoked.packsLength
    creditBalance := fun covered => by
      have spent := revoked.remaining
      have nonneg := totalRemaining_nonneg revoked.rows
      rw [revoked.creditBalance]
      omega
    settled := revoked.settled }⟩

theorem pack_reverseRefund (session : Session) {sourceId : Nat} (amountCents : Int)
    (fullOrFraud : Bool) (reasonLabel : String) (ledgerReason : Option LedgerReason)
    {account : Account} (sourced : account.Sourced) (bound : sourceId < account.packs.length)
    (paid : 0 < (account.pack sourceId).paidItemAmountCents) :
    let source := account.pack sourceId
    let after := (reverseRefund session sourceId amountCents fullOrFraud reasonLabel ledgerReason
      account).1.pack sourceId
    source.SameTerms after ∧ after.refundedItemAmountCentsProcessed =
      max source.refundedItemAmountCentsProcessed (source.refundLevel amountCents fullOrFraud) := by
  have sound := sourced.rows.packs sourceId
  have levelBounds := refundLevel_bounds amountCents fullOrFraud paid
  simp only [reverseRefund]
  generalize (account.pack sourceId).refundLevel amountCents fullOrFraud = level at *
  generalize (account.pack sourceId).refundedTotal amountCents = seen
  split
  · rename_i reached
    rw [pack_setPack_self bound]
    exact ⟨by constructor <;> rfl, (max_eq_left reached).symm⟩
  rename_i advances
  split
  · rw [pack_setPack_self bound]
    exact ⟨by constructor <;> rfl, rfl⟩
  rename_i positive
  have revoked := revokeCredits_revoked session reasonLabel
    (ledgerReason.getD (.billingReversal sourceId level)) sourced bound (Int.not_le.mp positive)
    (Int.not_le.mp advances) (revoke_sound sound seen paid levelBounds.2 (Int.not_le.mp advances)
      (Int.not_le.mp positive))
  rw [revoked.source]
  exact ⟨by constructor <;> rfl, rfl⟩

def Account.Priced (account : Account) : Prop :=
  ∀ id < account.packs.length, 0 < (account.pack id).paidItemAmountCents ∧
    (account.pack id).refundedItemAmountCentsProcessed ≤ (account.pack id).paidItemAmountCents ∧
    0 ≤ (account.pack id).providerRefundedTotalCentsSeen

theorem Account.Constraints.priced {account : Account} (constraints : account.Constraints) :
    account.Priced := by
  intro id bound
  have checks := constraints.packs _ (mem_packs.mpr ⟨id, bound, rfl⟩)
  obtain ⟨-, -, -, -, -, -, -, paid, -, seen, -, -, -, processed, -⟩ := checks
  exact ⟨paid, processed, seen⟩

theorem Account.Priced.expireUserPacks {account : Account} (priced : account.Priced) (now : Int) :
    (account.expireUserPacks now).Priced := by
  intro id bound
  rw [packs_length_expireUserPacks] at bound
  rw [pack_expireUserPacks]
  split
  · exact priced id bound
  · exact priced id bound

theorem applyRefundReversal_transferred {session : Session} {sourceId : Nat} {amountCents : Int}
    {fullOrFraud : Bool} {reasonLabel : String} {ledgerReason : Option LedgerReason}
    {before after : Tx} {outcome : RefundOutcome} (sourced : before.account.Sourced)
    (priced : before.account.Priced) (quiet : ∀ reason ∈ ledgerReason, reason.Quiet)
    (ran : applyRefundReversal session sourceId amountCents fullOrFraud reasonLabel ledgerReason
      before = .ok (after, outcome)) :
    0 ≤ outcome.immediateRevoke ∧ Transferred session (-outcome.immediateRevoke)
      (before.account.expireUserPacks (session.clock before.reads)) after.account ∧
      after.account.Constraints ∧ sourceId < before.account.packs.length ∧
      reverseRefund session sourceId amountCents fullOrFraud reasonLabel ledgerReason
        (before.account.expireUserPacks (session.clock before.reads)) =
        (after.account, outcome) := by
  have swept := sourced.expireUserPacks (session.clock before.reads)
  have sweptPriced := priced.expireUserPacks (session.clock before.reads)
  simp only [applyRefundReversal] at ran
  rw [← packs_length_expireUserPacks (session.clock before.reads)]
  generalize before.account.expireUserPacks (session.clock before.reads) = account at *
  by_cases missing : account.packs.length ≤ sourceId
  · simp [missing, throw, throwThe, MonadExceptOf.throw, bind, Except.bind] at ran
  · simp only [missing, if_false] at ran
    obtain ⟨flushed, kept, ran⟩ := bind_eq_ok ran
    obtain ⟨rfl, constraints⟩ := Account.Constraints.flush kept
    simp only [pure, Except.pure, Except.ok.injEq, Prod.mk.injEq] at ran
    obtain ⟨rfl, rfl⟩ := ran
    have bound : sourceId < account.packs.length := by omega
    obtain ⟨nonneg, transferred⟩ := reverseRefund_transferred session amountCents fullOrFraud
      reasonLabel swept bound (sweptPriced sourceId bound).1 quiet
    exact ⟨nonneg, transferred, constraints, bound, rfl⟩

theorem applyRefundReversal_returns (session : Session) {sourceId : Nat} (amountCents : Int)
    (fullOrFraud : Bool) (reasonLabel : String) (ledgerReason : Option LedgerReason) {tx : Tx}
    (bound : sourceId < tx.account.packs.length) :
    applyRefundReversal session sourceId amountCents fullOrFraud reasonLabel ledgerReason tx =
        .error .integrityError ∨
      ∃ after outcome, applyRefundReversal session sourceId amountCents fullOrFraud reasonLabel
        ledgerReason tx = .ok (after, outcome) := by
  simp only [applyRefundReversal, packs_length_expireUserPacks, Nat.not_le.mpr bound, if_false]
  rcases flush_cases (reverseRefund session sourceId amountCents fullOrFraud reasonLabel
    ledgerReason (tx.account.expireUserPacks (session.clock tx.reads))).1 with kept | refused
  · rw [kept]
    exact .inr ⟨_, _, rfl⟩
  · rw [refused]
    exact .inl rfl

theorem Account.Sound.applyRefundReversal {session : Session} {sourceId : Nat} {amountCents : Int}
    {fullOrFraud : Bool} {reasonLabel : String} {before : Account} {after : Tx}
    {outcome : RefundOutcome} {reads : Nat} (sound : before.Sound)
    (ran : applyRefundReversal session sourceId amountCents fullOrFraud reasonLabel none
      { account := before, reads } = .ok (after, outcome)) : after.account.Sound := by
  obtain ⟨-, transferred, constraints, -⟩ := applyRefundReversal_transferred sound.toSourced
    sound.toConstraints.priced (by simp) ran
  exact {
    toSourced := transferred.sourced (sound.toSourced.expireUserPacks _)
    toBooked := transferred.toPosted.booked (sound.toBooked.expireUserPacks _)
    toConstraints := constraints }

end Thought2Build.Billing
