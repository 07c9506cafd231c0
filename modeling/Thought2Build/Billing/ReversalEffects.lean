import Thought2Build.Billing.Reversals
import Thought2Build.Library.Waterfall

/-!
What a refund reversal does to every pack, to the balance and to the debt, as a function of the
account before it: the source pack gives first, the donors give in expiry order, and the overflow
becomes debt. Two reversals of one pack compose to a single one.
-/

namespace Thought2Build.Billing

open Rows Account Waterfall

def BillingCreditPack.give (pack : BillingCreditPack) (take : Int) : BillingCreditPack :=
  if take = 0 then pack
  else pack.supply take (if pack.creditsRemaining - take = 0 then .consumed else pack.status)

theorem BillingCreditPack.give_zero (pack : BillingCreditPack) : pack.give 0 = pack := if_pos rfl

theorem BillingCreditPack.give_give {pack : BillingCreditPack} {first second : Int}
    (firstNonneg : 0 ≤ first) (secondNonneg : 0 ≤ second)
    (available : first + second ≤ pack.creditsRemaining) :
    (pack.give first).give second = pack.give (first + second) := by
  by_cases none : first = 0
  · subst none
    rw [give_zero, Int.zero_add]
  · by_cases more : second = 0
    · subst more
      rw [give_zero, Int.add_zero]
    · have status : ¬pack.creditsRemaining - first = 0 := by omega
      have total : ¬first + second = 0 := by omega
      simp only [give, none, more, total, status, if_false, supply]
      rw [Int.sub_sub, Int.add_assoc]

def Account.donorCapacity (account : Account) (sourceId id : Nat) : Int :=
  if id = sourceId ∨ (account.pack id).status ≠ .active then 0
  else (account.pack id).creditsRemaining

theorem donorCapacity_nonneg {account : Account} (sourceId : Nat)
    (nonneg : ∀ id, 0 ≤ (account.pack id).creditsRemaining) (id : Nat) :
    0 ≤ account.donorCapacity sourceId id := by
  rw [Account.donorCapacity]
  split
  · exact le_rfl
  · exact nonneg id

theorem drainDonors_poured {sourceId : Nat} {ids : List Nat} {need : Int} {account : Account}
    (needed : 0 ≤ need) (distinct : ids.Nodup) (bounds : ∀ id ∈ ids, id < account.packs.length)
    (nonneg : ∀ id, 0 ≤ (account.pack id).creditsRemaining) :
    let result := drainDonors sourceId ids need account
    (∀ id, result.1.pack id =
      (account.pack id).give (poured (account.donorCapacity sourceId) ids need id)) ∧
    result.2.1 = overflow (account.donorCapacity sourceId) ids need := by
  induction ids generalizing need account with
  | nil => exact ⟨fun id => (BillingCreditPack.give_zero _).symm, rfl⟩
  | cons id ids ih =>
      obtain ⟨fresh, distinct⟩ := List.nodup_cons.mp distinct
      have rest : ∀ other ∈ ids, other < account.packs.length :=
        fun other member => bounds other (List.mem_cons_of_mem _ member)
      have capacities := donorCapacity_nonneg sourceId nonneg
      -- a pack that gives nothing is passed over
      have skip : ∀ take, min (account.donorCapacity sourceId id) need = take → take = 0 →
          (∀ other, (drainDonors sourceId ids need account).1.pack other =
            (account.pack other).give
              (poured (account.donorCapacity sourceId) (id :: ids) need other)) ∧
          (drainDonors sourceId ids need account).2.1 =
            overflow (account.donorCapacity sourceId) (id :: ids) need := by
        intro take taken nothing
        obtain ⟨packs, left⟩ := ih needed distinct rest nonneg
        rw [nothing] at taken
        refine ⟨fun other => ?_, ?_⟩
        · rw [poured, taken, ite_self, Int.zero_add, Int.sub_zero]
          exact packs other
        · rw [overflow, taken, Int.sub_zero]
          exact left
      rw [drainDonors]
      split
      · obtain rfl : need = 0 := by omega
        refine ⟨fun other => ?_, ?_⟩
        · rw [poured_zero fun other _ => capacities other, BillingCreditPack.give_zero]
        · have := @overflow_bounds _ _ (id :: ids) _ (fun other _ => capacities other) needed
          change (0 : Int) = _
          omega
      simp only
      split
      · rename_i ineligible
        refine skip 0 ?_ rfl
        rw [Account.donorCapacity, if_pos ineligible, min_eq_left needed]
      rename_i positive eligible
      have capacity : account.donorCapacity sourceId id = (account.pack id).creditsRemaining := by
        rw [Account.donorCapacity, if_neg eligible]
      split
      · rename_i nothing
        refine skip _ rfl ?_
        rw [capacity]
        have := nonneg id
        omega
      rename_i some
      have different : id ≠ sourceId := fun same => eligible (.inl same)
      have bound := bounds id List.mem_cons_self
      have unchanged : ∀ other ∈ ids,
          (account.supplyPack id (min (account.pack id).creditsRemaining need)).donorCapacity
            sourceId other = account.donorCapacity sourceId other := by
        intro other member
        have apart : other ≠ id := by
          rintro rfl
          exact fresh member
        rw [Account.donorCapacity, Account.supplyPack, pack_setPack_ne apart,
          Account.donorCapacity]
      obtain ⟨packs, left⟩ := @ih (need - min (account.pack id).creditsRemaining need)
        (account.supplyPack id (min (account.pack id).creditsRemaining need)) (by omega) distinct
        (fun other member => by
          rw [Account.supplyPack, packs_length_setPack]
          exact rest other member)
        (fun other => setPack_cases (motive := fun pack => 0 ≤ pack.creditsRemaining)
          (fun _ => by
            simp only [BillingCreditPack.supply]
            omega) (nonneg other))
      refine ⟨fun other => ?_, ?_⟩
      · refine (packs other).trans ?_
        rw [poured, capacity, poured_congr unchanged]
        by_cases here : other = id
        · subst here
          rw [if_pos rfl, poured_absent fresh, BillingCreditPack.give_zero, Int.add_zero,
            Account.supplyPack, pack_setPack_self bound]
          exact (if_neg fun nothing => some nothing.le).symm
        · rw [if_neg here, Int.zero_add, Account.supplyPack, pack_setPack_ne here]
      · refine left.trans ?_
        rw [overflow, capacity, overflow_congr unchanged]

def BillingCreditPack.revocable (pack : BillingCreditPack) (level : Int) : Int :=
  if level ≤ pack.refundedItemAmountCentsProcessed then 0
  else max 0 (pack.targetRevoked level - pack.creditsRevoked)

def BillingCreditPack.uncovered (pack : BillingCreditPack) (level : Int) : Int :=
  pack.revocable level - min pack.creditsRemaining (pack.revocable level)

def BillingCreditPack.reversedTo (pack : BillingCreditPack) (level seen : Int) :
    BillingCreditPack :=
  { pack with
    creditsRemaining := pack.creditsRemaining - min pack.creditsRemaining (pack.revocable level)
    creditsRevoked := pack.creditsRevoked + pack.revocable level
    refundedItemAmountCentsProcessed := max pack.refundedItemAmountCentsProcessed level
    providerRefundedTotalCentsSeen := max pack.providerRefundedTotalCentsSeen seen
    status :=
      if pack.revocable level = 0 then pack.status
      else if level = pack.paidItemAmountCents then .refunded
      else if pack.status = .expired then .expired
      else if pack.creditsRemaining > pack.revocable level then .active
      else .consumed }

/-- A reversal of pack `sourceId` to `level`, as a function of the account before it. -/
structure ReversedTo (session : Session) (sourceId : Nat) (level seen : Int)
    (before after : Account) : Prop where
  packsLength : after.packs.length = before.packs.length
  source : after.pack sourceId = (before.pack sourceId).reversedTo level seen
  others : ∀ id, id ≠ sourceId → after.pack id = (before.pack id).give
    (poured (before.donorCapacity sourceId) (before.packsByExpiry session)
      ((before.pack sourceId).uncovered level) id)
  creditBalance : after.creditBalance =
    if (before.pack sourceId).revocable level = 0 then before.creditBalance
    else max 0 (before.creditBalance - ((before.pack sourceId).revocable level -
      overflow (before.donorCapacity sourceId) (before.packsByExpiry session)
        ((before.pack sourceId).uncovered level)))
  owed : ∀ id, after.owedTo id = before.owedTo id + single sourceId
    (overflow (before.donorCapacity sourceId) (before.packsByExpiry session)
      ((before.pack sourceId).uncovered level)) id

section Effects

variable {session : Session} {sourceId : Nat} {level seen : Int} {account : Account}

theorem revocable_nonneg (pack : BillingCreditPack) (level : Int) : 0 ≤ pack.revocable level := by
  rw [BillingCreditPack.revocable]
  split
  · exact le_rfl
  · exact le_max_left _ _

theorem revocable_reached {pack : BillingCreditPack}
    (reached : level ≤ pack.refundedItemAmountCentsProcessed) : pack.revocable level = 0 :=
  if_pos reached

theorem revocable_beyond {pack : BillingCreditPack}
    (beyond : pack.refundedItemAmountCentsProcessed < level) :
    pack.revocable level = max 0 (pack.targetRevoked level - pack.creditsRevoked) :=
  if_neg (Int.not_le.mpr beyond)

theorem uncovered_nonneg (pack : BillingCreditPack) (level : Int) : 0 ≤ pack.uncovered level :=
  sub_nonneg.mpr (min_le_right _ _)

theorem uncovered_le {pack : BillingCreditPack} (nonneg : 0 ≤ pack.creditsRemaining)
    (level : Int) : pack.uncovered level ≤ pack.revocable level := by
  have := revocable_nonneg pack level
  rw [BillingCreditPack.uncovered]
  omega

theorem uncovered_zero {pack : BillingCreditPack} (nonneg : 0 ≤ pack.creditsRemaining)
    (nothing : pack.revocable level = 0) : pack.uncovered level = 0 := by
  rw [BillingCreditPack.uncovered, nothing, min_eq_right nonneg, Int.sub_zero]

theorem ReversedTo.mark (bound : sourceId < account.packs.length)
    (nonneg : ∀ id, 0 ≤ (account.pack id).creditsRemaining)
    (nothing : (account.pack sourceId).revocable level = 0) :
    ReversedTo session sourceId level seen account
      (account.setPack sourceId ((account.pack sourceId).markProcessed level seen)) := by
  have capacities := donorCapacity_nonneg sourceId nonneg
  have none := uncovered_zero (nonneg sourceId) nothing
  have left : overflow (account.donorCapacity sourceId) (account.packsByExpiry session) 0 = 0 := by
    have := @overflow_bounds _ _ (account.packsByExpiry session) _
      (fun id _ => capacities id) (le_refl 0)
    omega
  refine {
    packsLength := packs_length_setPack _
    source := ?_
    others := fun id different => ?_
    creditBalance := (if_pos nothing).symm
    owed := fun id => ?_ }
  · rw [pack_setPack_self bound, BillingCreditPack.reversedTo, if_pos nothing, nothing,
      min_eq_right (nonneg sourceId), Int.sub_zero, Int.add_zero]
    rfl
  · rw [pack_setPack_ne different, none, poured_zero fun id _ => capacities id,
      BillingCreditPack.give_zero]
  · rw [none, left, single_zero, Int.add_zero]
    rfl

theorem Owing.owedTo {amount : Int} {before after : Account}
    (owing : Owing sourceId amount before after) (id : Nat) :
    after.owedTo id = before.owedTo id + single sourceId amount id := by
  have drift := owing.excess id
  have packs : after.pack id = before.pack id := by
    rw [owing.rest]
    rfl
  have recovering : after.recoveringFor id = before.recoveringFor id := by
    rw [owing.rest]
    rfl
  simp only [excessDrift, packs, recovering, single] at drift ⊢
  by_cases here : id = sourceId
  · simp only [here, if_true] at drift ⊢
    omega
  · simp only [here, if_false] at drift ⊢
    omega

theorem donorCapacity_takeOwn (taken : Int) :
    (account.takeOwn sourceId taken).donorCapacity sourceId = account.donorCapacity sourceId := by
  funext id
  by_cases here : id = sourceId
  · simp only [Account.donorCapacity, here, true_or, if_true]
  · rw [Account.donorCapacity, Account.takeOwn, pack_setPack_ne here, Account.donorCapacity]

theorem locked_capacity {id : Nat}
    (dropped : decide ((account.pack id).status = .active ∨ id = sourceId) = false) :
    account.donorCapacity sourceId id = 0 := by
  have inactive := of_decide_eq_false dropped
  rw [Account.donorCapacity, if_pos (.inr fun active => inactive (.inl active))]

theorem takeOwn_remaining {revoke : Int} (nonneg : ∀ id, 0 ≤ (account.pack id).creditsRemaining)
    (id : Nat) : 0 ≤ ((account.takeOwn sourceId
      (min (account.pack sourceId).creditsRemaining revoke)).pack id).creditsRemaining := by
  refine setPack_cases (motive := fun pack => 0 ≤ pack.creditsRemaining) (fun _ => ?_) (nonneg id)
  exact sub_nonneg.mpr (min_le_left _ _)

theorem revokeCredits_reversedTo (reasonLabel : String) (ledgerReason : LedgerReason)
    (sourced : account.Sourced) (bound : sourceId < account.packs.length)
    (some : (account.pack sourceId).revocable level ≠ 0) :
    ReversedTo session sourceId level seen account
      (revokeCredits session sourceId ((account.pack sourceId).revocable level) level seen
        reasonLabel ledgerReason account).1 := by
  have needed := uncovered_nonneg (account.pack sourceId) level
  obtain ⟨drained, debtCreated, donors, owed, ran, -, supplied, owing, result⟩ :=
    revokeCredits_close session level seen reasonLabel ledgerReason sourced bound
  -- the drain, read as a waterfall over the account before the revocation
  have poured := @drainDonors_poured sourceId
    ((account.packsByExpiry session).filter fun id =>
      (account.pack id).status = .active ∨ id = sourceId)
    ((account.pack sourceId).uncovered level)
    (account.takeOwn sourceId
      (min (account.pack sourceId).creditsRemaining ((account.pack sourceId).revocable level)))
    needed ((scan_nodup _ _ _).filter _)
    (fun id member => (packs_length_setPack _).symm ▸ (mem_packsByExpiry.mp member).1)
    (takeOwn_remaining fun id => (sourced.rows.packs id).remaining)
  rw [BillingCreditPack.uncovered, ran, donorCapacity_takeOwn] at poured
  rw [BillingCreditPack.uncovered] at needed
  rw [poured_filter needed fun id _ => locked_capacity,
    overflow_filter needed fun id _ => locked_capacity] at poured
  obtain ⟨packs, left⟩ := poured
  have packOwed : ∀ id, owed.pack id = drained.pack id := fun id => by
    rw [owing.rest]
    rfl
  have length : owed.packs.length = account.packs.length := by
    rw [owing.rest]
    exact supplied.packsLength.trans (packs_length_setPack _)
  have balance : owed.creditBalance = account.creditBalance := by
    rw [owing.rest, supplied.rest]
    rfl
  have debts : ∀ id, drained.owedTo id = account.owedTo id := fun id => by
    rw [supplied.rest]
    rfl
  have total := supplied.total
  rw [result]
  refine {
    packsLength := (packs_length_setPack _).trans length
    source := ?_
    others := fun id different => ?_
    creditBalance := ?_
    owed := fun id => ?_ }
  · refine (pack_setPack_self (length ▸ bound) _).trans ?_
    have own : (account.pack sourceId).creditsRemaining - min (account.pack sourceId).creditsRemaining
        ((account.pack sourceId).revocable level) > 0 ↔
        (account.pack sourceId).creditsRemaining > (account.pack sourceId).revocable level := by
      omega
    simp only [BillingCreditPack.reversedTo, if_neg some, BillingCreditPack.revoke,
      BillingCreditPack.markProcessed, own]
  · refine (pack_setPack_ne different _).trans ?_
    rw [packOwed, packs, Account.takeOwn, pack_setPack_ne different]
    rfl
  · have immediate : min (account.pack sourceId).creditsRemaining
        ((account.pack sourceId).revocable level) + sumOf Prod.snd donors =
        (account.pack sourceId).revocable level - debtCreated := by omega
    rw [if_neg some, BillingCreditPack.uncovered, ← left, ← balance, ← immediate]
    rfl
  · rw [BillingCreditPack.uncovered, ← left, ← debts]
    exact owing.owedTo id

theorem reverseRefund_reversedTo (amountCents : Int) (fullOrFraud : Bool) (reasonLabel : String)
    (ledgerReason : Option LedgerReason) (sourced : account.Sourced)
    (bound : sourceId < account.packs.length) :
    ReversedTo session sourceId ((account.pack sourceId).refundLevel amountCents fullOrFraud)
      ((account.pack sourceId).refundedTotal amountCents) account
      (reverseRefund session sourceId amountCents fullOrFraud reasonLabel ledgerReason
        account).1 := by
  have remaining := fun id => (sourced.rows.packs id).remaining
  simp only [reverseRefund]
  generalize (account.pack sourceId).refundLevel amountCents fullOrFraud = level
  generalize (account.pack sourceId).refundedTotal amountCents = seen
  split
  · rename_i reached
    have marked := @ReversedTo.mark session sourceId level seen account bound remaining
      (if_pos reached)
    rwa [BillingCreditPack.markProcessed, max_eq_left reached] at marked
  rename_i advances
  have revocable := revocable_beyond (Int.not_le.mp advances)
  split
  · rename_i nothing
    exact .mark bound remaining (by rw [revocable, max_eq_left nothing])
  · rename_i positive
    have amount : (account.pack sourceId).targetRevoked level -
        (account.pack sourceId).creditsRevoked = (account.pack sourceId).revocable level := by
      rw [revocable, max_eq_right (Int.not_le.mp positive).le]
    rw [amount] at positive ⊢
    exact revokeCredits_reversedTo _ _ sourced bound (Int.not_le.mp positive).ne'

theorem targetRevoked_mono {pack : BillingCreditPack} {first second : Int}
    (paid : 0 < pack.paidItemAmountCents)
    (refundable : 0 ≤ pack.creditsPurchased - pack.creditsExpired) (le : first ≤ second)
    (level_le : second ≤ pack.paidItemAmountCents) :
    pack.targetRevoked first ≤ pack.targetRevoked second := by
  by_cases full : second = pack.paidItemAmountCents
  · rw [targetRevoked_full full]
    exact targetRevoked_le paid (le.trans level_le) refundable
  · have partly : first ≠ pack.paidItemAmountCents := by omega
    rw [BillingCreditPack.targetRevoked, BillingCreditPack.targetRevoked]
    simp only [full, partly, if_false]
    exact Int.ediv_le_ediv paid (Int.mul_le_mul_of_nonneg_left le refundable)

theorem targetRevoked_lt {pack : BillingCreditPack} {level : Int}
    (paid : 0 < pack.paidItemAmountCents)
    (refundable : 0 < pack.creditsPurchased - pack.creditsExpired)
    (partly : level < pack.paidItemAmountCents) :
    pack.targetRevoked level < pack.creditsPurchased - pack.creditsExpired := by
  rw [BillingCreditPack.targetRevoked, if_neg partly.ne]
  exact Int.ediv_lt_of_lt_mul paid (Int.mul_lt_mul_of_pos_left partly refundable)

section Twice

variable {pack : BillingCreditPack} {first second seen seen' : Int}

theorem refundable_nonneg (sound : pack.Sound) : 0 ≤ pack.creditsPurchased - pack.creditsExpired := by
  have := sound.remaining
  have := sound.value
  have := sound.gap
  have := sound.gapRevoked
  omega

/-- A gap closed to a lower target and then to a higher one is the gap closed to the higher one. -/
theorem gap_twice {low high base : Int} (mono : low ≤ high) :
    max 0 (low - base) + max 0 (high - (base + max 0 (low - base))) = max 0 (high - base) := by
  rcases le_total low base with below | above
  · rw [max_eq_left (sub_nonpos.mpr below), zero_add, add_zero]
  · rw [max_eq_right (sub_nonneg.mpr above), add_sub_cancel, max_eq_right (sub_nonneg.mpr mono),
      max_eq_right (sub_nonneg.mpr (above.trans mono))]
    omega

theorem revocable_reversedTo (sound : pack.Sound) (paid : 0 < pack.paidItemAmountCents)
    (second_le : second ≤ pack.paidItemAmountCents) :
    pack.revocable first + (pack.reversedTo first seen).revocable second =
      pack.revocable (max first second) := by
  have target : (pack.reversedTo first seen).targetRevoked second = pack.targetRevoked second := rfl
  have processed : (pack.reversedTo first seen).refundedItemAmountCentsProcessed =
      max pack.refundedItemAmountCentsProcessed first := rfl
  have revoked : (pack.reversedTo first seen).creditsRevoked =
      pack.creditsRevoked + pack.revocable first := rfl
  have refundable := refundable_nonneg sound
  rcases le_or_gt second (max pack.refundedItemAmountCentsProcessed first) with reached | beyond
  · rw [@revocable_reached _ (pack.reversedTo first seen) reached, Int.add_zero]
    rcases le_or_gt second first with down | up
    · rw [max_eq_left down]
    · have earlier := (le_max_iff.mp reached).resolve_right (not_le.mpr up)
      rw [max_eq_right up.le, revocable_reached (up.le.trans earlier), revocable_reached earlier]
  · obtain ⟨later, up⟩ := max_lt_iff.mp beyond
    have mono := targetRevoked_mono paid refundable up.le second_le
    rw [max_eq_right up.le, @revocable_beyond _ (pack.reversedTo first seen) beyond,
      revocable_beyond later, target, revoked]
    by_cases earlier : first ≤ pack.refundedItemAmountCentsProcessed
    · rw [revocable_reached earlier, Int.zero_add, Int.add_zero]
    · rw [revocable_beyond (Int.not_le.mp earlier)]
      exact gap_twice mono

theorem revocable_full (sound : pack.Sound) (paid : 0 < pack.paidItemAmountCents)
    (some : pack.revocable first ≠ 0) (partly : first < pack.paidItemAmountCents) :
    pack.revocable first < pack.revocable pack.paidItemAmountCents := by
  have refundable := refundable_nonneg sound
  have revoked := sound.gap.trans sound.gapRevoked
  have target := @targetRevoked_full pack _ rfl
  by_cases reached : first ≤ pack.refundedItemAmountCentsProcessed
  · exact absurd (revocable_reached reached) some
  have beyond := Int.not_le.mp reached
  rw [revocable_beyond beyond] at some ⊢
  have below := @targetRevoked_le pack first paid partly.le refundable
  have less := @targetRevoked_lt pack first paid (by clear * - some below revoked; omega) partly
  rw [revocable_beyond (beyond.trans partly), target]
  clear * - some less
  omega

theorem status_reversedTo_zero (nothing : pack.revocable first = 0) :
    (pack.reversedTo first seen).status = pack.status :=
  if_pos nothing

theorem status_reversedTo (some : pack.revocable first ≠ 0) :
    (pack.reversedTo first seen).status =
      if first = pack.paidItemAmountCents then .refunded
      else if pack.status = .expired then .expired
      else if pack.creditsRemaining > pack.revocable first then .active
      else .consumed :=
  if_neg some

/-- What two takes leave of a stock is what one take of both leaves. -/
theorem left_twice {stock first second : Int} (nonneg : 0 ≤ second) :
    stock - min stock first - min (stock - min stock first) second = stock - min stock (first + second) := by
  linarith only [@need_behind first second stock nonneg]

theorem reversedTo_reversedTo (sound : pack.Sound) (paid : 0 < pack.paidItemAmountCents)
    (first_le : first ≤ pack.paidItemAmountCents) (second_le : second ≤ pack.paidItemAmountCents) :
    (pack.reversedTo first seen).reversedTo second seen' =
      pack.reversedTo (max first second) (max seen seen') := by
  have total := @revocable_reversedTo pack first second seen sound paid second_le
  have firstNonneg := revocable_nonneg pack first
  have secondNonneg := revocable_nonneg (pack.reversedTo first seen) second
  -- the second level changes the row only where it is the greater one
  have greater : (pack.reversedTo first seen).revocable second ≠ 0 → max first second = second :=
    fun more => max_eq_right (by
      by_contra lower
      rw [max_eq_left (le_of_not_ge lower)] at total
      exact more (add_eq_left.mp total))
  have left : (pack.reversedTo first seen).creditsRemaining =
      pack.creditsRemaining - min pack.creditsRemaining (pack.revocable first) := rfl
  have statuses : ((pack.reversedTo first seen).reversedTo second seen').status =
      (pack.reversedTo (max first second) (max seen seen')).status := by
    by_cases two : (pack.reversedTo first seen).revocable second = 0
    · rw [status_reversedTo_zero two]
      rw [two, Int.add_zero] at total
      by_cases one : pack.revocable first = 0
      · rw [status_reversedTo_zero one, status_reversedTo_zero (total.symm.trans one)]
      · have same : first = pack.paidItemAmountCents ↔ max first second = pack.paidItemAmountCents := by
          have := fun partly => @revocable_full pack first sound paid one partly
          constructor
          · rintro rfl
            exact max_eq_left second_le
          · intro full
            rw [full] at total
            by_contra less
            exact (this (lt_of_le_of_ne first_le less)).ne total
        simp only [BillingCreditPack.reversedTo, ← total, same]
    · rw [greater two] at total ⊢
      rw [status_reversedTo two, @status_reversedTo pack second (max seen seen')
        (by clear * - total two firstNonneg secondNonneg; omega)]
      have partly : first ≠ pack.paidItemAmountCents := fun full => by
        have same : second = first := le_antisymm (full ▸ second_le) (max_eq_right_iff.mp (greater two))
        rw [same] at total two
        exact two (add_eq_left.mp total)
      have expired : (pack.reversedTo first seen).status = .expired ↔ pack.status = .expired := by
        by_cases one : pack.revocable first = 0
        · rw [status_reversedTo_zero one]
        · rw [status_reversedTo one, if_neg partly]
          grind
      have covered : (pack.reversedTo first seen).creditsRemaining >
          (pack.reversedTo first seen).revocable second ↔
          pack.creditsRemaining > pack.revocable second := by
        rw [left]
        clear * - total two firstNonneg secondNonneg
        omega
      simp only [expired, covered]
      rfl
  have remains : ((pack.reversedTo first seen).reversedTo second seen').creditsRemaining =
      (pack.reversedTo (max first second) (max seen seen')).creditsRemaining := by
    change (pack.reversedTo first seen).creditsRemaining -
      min (pack.reversedTo first seen).creditsRemaining
        ((pack.reversedTo first seen).revocable second) =
      pack.creditsRemaining - min pack.creditsRemaining (pack.revocable (max first second))
    rw [left, ← total]
    exact left_twice secondNonneg
  have revoked : ((pack.reversedTo first seen).reversedTo second seen').creditsRevoked =
      (pack.reversedTo (max first second) (max seen seen')).creditsRevoked := by
    change pack.creditsRevoked + pack.revocable first +
      (pack.reversedTo first seen).revocable second =
      pack.creditsRevoked + pack.revocable (max first second)
    rw [← total, Int.add_assoc]
  rw [BillingCreditPack.mk.injEq]
  exact ⟨rfl, rfl, rfl, rfl, remains, rfl, rfl, rfl, revoked, rfl, rfl, rfl, rfl,
    max_assoc _ _ _, max_assoc _ _ _, statuses, rfl, rfl⟩

theorem uncovered_reversedTo (sound : pack.Sound) (paid : 0 < pack.paidItemAmountCents)
    (second_le : second ≤ pack.paidItemAmountCents) :
    pack.uncovered first + (pack.reversedTo first seen).uncovered second =
      pack.uncovered (max first second) := by
  have total := @revocable_reversedTo pack first second seen sound paid second_le
  have secondNonneg := revocable_nonneg (pack.reversedTo first seen) second
  have left : (pack.reversedTo first seen).creditsRemaining =
      pack.creditsRemaining - min pack.creditsRemaining (pack.revocable first) := rfl
  rw [BillingCreditPack.uncovered, BillingCreditPack.uncovered, BillingCreditPack.uncovered, left, ← total]
  exact (need_behind secondNonneg).symm

end Twice

section Accounts

variable {first second : Int} {seen' : Int} {middle after : Account}

theorem expiresAt_give (pack : BillingCreditPack) (take : Int) :
    (pack.give take).expiresAt = pack.expiresAt := by
  rw [BillingCreditPack.give]
  split <;> rfl

theorem ReversedTo.expiry (reversed : ReversedTo session sourceId level seen account after) :
    after.packsByExpiry session = account.packsByExpiry session := by
  have expiresAt : ∀ id, (after.pack id).expiresAt = (account.pack id).expiresAt := by
    intro id
    by_cases here : id = sourceId
    · rw [here, reversed.source]
      rfl
    · rw [reversed.others id here, expiresAt_give]
  simp only [Account.packsByExpiry, expiresAt, reversed.packsLength]

theorem donor_bounds {need : Int} (nonneg : ∀ id, 0 ≤ (account.pack id).creditsRemaining)
    (needed : 0 ≤ need) (id : Nat) :
    0 ≤ poured (account.donorCapacity sourceId) (account.packsByExpiry session) need id ∧
      poured (account.donorCapacity sourceId) (account.packsByExpiry session) need id ≤
        account.donorCapacity sourceId id :=
  poured_bounds (fun other _ => donorCapacity_nonneg sourceId nonneg other) (scan_nodup _ _ _)
    needed (donorCapacity_nonneg sourceId nonneg id)

theorem donorCapacity_le (nonneg : ∀ id, 0 ≤ (account.pack id).creditsRemaining) (id : Nat) :
    account.donorCapacity sourceId id ≤ (account.pack id).creditsRemaining := by
  rw [Account.donorCapacity]
  split
  · exact nonneg id
  · exact le_rfl

theorem ReversedTo.capacity (reversed : ReversedTo session sourceId level seen account after)
    (nonneg : ∀ id, 0 ≤ (account.pack id).creditsRemaining) (id : Nat) :
    after.donorCapacity sourceId id = account.donorCapacity sourceId id -
      poured (account.donorCapacity sourceId) (account.packsByExpiry session)
        ((account.pack sourceId).uncovered level) id := by
  have bounds := @donor_bounds session sourceId account _ nonneg
    (uncovered_nonneg (account.pack sourceId) level) id
  generalize given : poured (account.donorCapacity sourceId) (account.packsByExpiry session)
    ((account.pack sourceId).uncovered level) id = take at bounds
  by_cases here : id = sourceId
  · simp only [Account.donorCapacity, here, true_or, if_true] at bounds ⊢
    omega
  · simp only [Account.donorCapacity, here, false_or, reversed.others id here, given] at bounds ⊢
    by_cases none : take = 0
    · rw [none, BillingCreditPack.give_zero, Int.sub_zero]
    · have active : (account.pack id).status = .active := by
        by_contra inactive
        rw [if_pos inactive] at bounds
        omega
      simp only [BillingCreditPack.give, none, active, if_false, BillingCreditPack.supply,
        ne_eq, not_true_eq_false] at bounds ⊢
      by_cases empty : (account.pack id).creditsRemaining - take = 0
      · simp [empty]
      · simp [empty]

/-- Two takes from a balance that never falls below zero are one take of both. -/
theorem balance_twice {balance revoke revoke' spill spill' : Int} (nonneg : 0 ≤ spill) (within : spill ≤ revoke)
    (nonneg' : 0 ≤ spill') (within' : spill' ≤ revoke') :
    (if revoke' = 0 then if revoke = 0 then balance else max 0 (balance - (revoke - spill))
      else max 0 ((if revoke = 0 then balance else max 0 (balance - (revoke - spill))) - (revoke' - spill'))) =
      if revoke + revoke' = 0 then balance else max 0 (balance - (revoke + revoke' - (spill + spill'))) := by
  by_cases one : revoke = 0
  · obtain rfl : spill = 0 := le_antisymm (one ▸ within) nonneg
    simp only [one, if_true, zero_add]
  · have both : revoke + revoke' ≠ 0 := by omega
    rw [if_neg one, if_neg both]
    by_cases two : revoke' = 0
    · obtain rfl : spill' = 0 := le_antisymm (two ▸ within') nonneg'
      rw [if_pos two, two, add_zero, add_zero]
    · rw [if_neg two, add_sub_add_comm, ← sub_sub]
      rcases le_total 0 (balance - (revoke - spill)) with some | none
      · rw [max_eq_right some]
      · rw [max_eq_left none, max_eq_left (by omega), max_eq_left (by omega)]

theorem ReversedTo.trans (sourced : account.Sourced)
    (paid : 0 < (account.pack sourceId).paidItemAmountCents)
    (first_le : first ≤ (account.pack sourceId).paidItemAmountCents)
    (second_le : second ≤ (account.pack sourceId).paidItemAmountCents)
    (left : ReversedTo session sourceId first seen account middle)
    (right : ReversedTo session sourceId second seen' middle after) :
    ReversedTo session sourceId (max first second) (max seen seen') account after := by
  have sound := sourced.rows.packs sourceId
  have remaining := fun id => (sourced.rows.packs id).remaining
  have capacities := donorCapacity_nonneg sourceId remaining
  have distinct : (account.packsByExpiry session).Nodup := scan_nodup _ _ _
  have capacity : middle.donorCapacity sourceId = fun id => account.donorCapacity sourceId id -
      poured (account.donorCapacity sourceId) (account.packsByExpiry session)
        ((account.pack sourceId).uncovered first) id := funext (left.capacity remaining)
  have firstNonneg := uncovered_nonneg (account.pack sourceId) first
  have secondNonneg := uncovered_nonneg ((account.pack sourceId).reversedTo first seen) second
  have need := @uncovered_reversedTo _ first second seen sound paid second_le
  have revoked := @revocable_reversedTo _ first second seen sound paid second_le
  have spill : overflow (account.donorCapacity sourceId) (account.packsByExpiry session) _ = _ :=
    overflow_add (fun id _ => capacities id) distinct firstNonneg secondNonneg
  have kept : ∀ id, 0 ≤ middle.donorCapacity sourceId id := fun id => by
    rw [left.capacity remaining]
    exact sub_nonneg.mpr (donor_bounds remaining firstNonneg id).2
  have source := left.source
  have balance := right.creditBalance
  have owed := right.owed
  have others := right.others
  rw [source, left.expiry, capacity] at balance owed others
  refine {
    packsLength := right.packsLength.trans left.packsLength
    source := ?_
    others := fun id different => ?_
    creditBalance := ?_
    owed := fun id => ?_ }
  · rw [right.source, source, reversedTo_reversedTo sound paid first_le second_le]
  · have gave := @donor_bounds session sourceId account _ remaining firstNonneg id
    have more := (poured_bounds (fun other _ => kept other) distinct secondNonneg (kept id)).1
    rw [capacity] at more
    have gives := @donor_bounds session sourceId account _ remaining
      (uncovered_nonneg (account.pack sourceId) (max first second)) id
    have available := @donorCapacity_le sourceId account remaining id
    have split : poured (account.donorCapacity sourceId) (account.packsByExpiry session) _ id = _ :=
      poured_add (fun id _ => capacities id) distinct firstNonneg secondNonneg
    rw [need] at split
    have together := gives.2.trans available
    rw [split] at together
    rw [others id different, left.others id different, BillingCreditPack.give_give gave.1 more together, split]
  · have firstLeft := @overflow_bounds _ _ (account.packsByExpiry session) _
      (fun id _ => capacities id) firstNonneg
    have secondLeft := @overflow_bounds _ _ (account.packsByExpiry session) _
      (fun id _ => kept id) secondNonneg
    have firstLe := uncovered_le (remaining sourceId) first
    have secondLe := @uncovered_le ((account.pack sourceId).reversedTo first seen)
      (sub_nonneg.mpr (min_le_left _ _)) second
    rw [capacity] at secondLeft
    rw [balance, left.creditBalance, ← revoked, ← need, spill]
    exact balance_twice firstLeft.1 (firstLeft.2.trans firstLe) secondLeft.1 (secondLeft.2.trans secondLe)
  · rw [owed, left.owed, ← need, spill, Int.add_assoc]
    simp only [single]
    split <;> rfl

end Accounts

end Effects

end Thought2Build.Billing
