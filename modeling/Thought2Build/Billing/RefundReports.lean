import Thought2Build.Billing.RoutedRuns

/-!
Cumulative refund reports of one order. A report that the database accepts is a reversal to its
level, so any order of reports, with repetitions, ends where the greatest report alone does.
-/

namespace Thought2Build.Billing

open Rows Account Waterfall

/-- One `order_refunded` delivery as `handle_order_refunded` passes it on. -/
structure RefundReport where
  now : Int
  amountCents : Int
  fullOrFraud : Bool
  reasonLabel : String
  deriving DecidableEq

def RefundReport.step (report : RefundReport) (session : Session) (packId : Nat) : Step where
  session := { session with clock := fun _ => report.now }
  operation := .applyRefundReversal packId report.amountCents report.fullOrFraud report.reasonLabel

def Account.reported (account : Account) (session : Session) (packId : Nat)
    (reports : List RefundReport) : Account :=
  account.run (reports.map (·.step session packId))

def RefundReport.level (report : RefundReport) (pack : BillingCreditPack) : Int :=
  pack.refundLevel report.amountCents report.fullOrFraud

def RefundReport.total (report : RefundReport) (pack : BillingCreditPack) : Int :=
  pack.refundedTotal report.amountCents

def greatest (value : RefundReport → Int) (reports : List RefundReport) : Int :=
  reports.foldr (fun report rest => max (value report) rest) 0

def Account.see (account : Account) (packId : Nat) (seen : Int) : Account :=
  account.setPack packId { account.pack packId with
    providerRefundedTotalCentsSeen :=
      max (account.pack packId).providerRefundedTotalCentsSeen seen }

structure SameCredit (first second : Account) : Prop where
  creditBalance : first.creditBalance = second.creditBalance
  packsLength : first.packs.length = second.packs.length
  packs : ∀ id, first.pack id = second.pack id
  owed : ∀ id, first.owedTo id = second.owedTo id

structure NoCreditMoved (before after : Account) : Prop where
  creditBalance : after.creditBalance = before.creditBalance
  packs : ∀ id, (after.pack id).creditsRemaining = (before.pack id).creditsRemaining ∧
    (after.pack id).creditsConsumed = (before.pack id).creditsConsumed ∧
    (after.pack id).creditsExpired = (before.pack id).creditsExpired ∧
    (after.pack id).creditsDebtRecovered = (before.pack id).creditsDebtRecovered ∧
    (after.pack id).creditsRevoked = (before.pack id).creditsRevoked ∧
    (after.pack id).status = (before.pack id).status
  owed : ∀ id, after.owedTo id = before.owedTo id

section Greatest

variable {value : RefundReport → Int} {first second : List RefundReport}

theorem greatest_cons (report : RefundReport) (reports : List RefundReport) :
    greatest value (report :: reports) = max (value report) (greatest value reports) := rfl

theorem greatest_nonneg (value : RefundReport → Int) (reports : List RefundReport) :
    0 ≤ greatest value reports := by
  induction reports with
  | nil => exact le_rfl
  | cons report reports ih => exact ih.trans (le_max_right _ _)

theorem le_greatest {report : RefundReport} (member : report ∈ first) :
    value report ≤ greatest value first := by
  induction first with
  | nil => cases member
  | cons head tail ih =>
      rcases List.mem_cons.mp member with rfl | later
      · exact le_max_left _ _
      · exact (ih later).trans (le_max_right _ _)

theorem greatest_le {bound : Int} (nonneg : 0 ≤ bound)
    (below : ∀ report ∈ first, value report ≤ bound) : greatest value first ≤ bound := by
  induction first with
  | nil => exact nonneg
  | cons head tail ih =>
      exact max_le (below head List.mem_cons_self)
        (ih fun report later => below report (List.mem_cons_of_mem _ later))

theorem greatest_congr (same : ∀ report, report ∈ first ↔ report ∈ second) :
    greatest value first = greatest value second :=
  le_antisymm
    (greatest_le (greatest_nonneg _ _) fun report member => le_greatest ((same report).mp member))
    (greatest_le (greatest_nonneg _ _) fun report member => le_greatest ((same report).mpr member))

end Greatest

def Account.Unlapsed (account : Account) (now : Int) : Prop :=
  ∀ id, (account.pack id).status = .active → now < (account.pack id).expiresAt

section Report

variable {session : Session} {packId : Nat} {level seen now : Int} {account swept after : Account}

theorem expireUserPacks_unlapsed (unlapsed : account.Unlapsed now) :
    account.expireUserPacks now = account := by
  rw [Account.expireUserPacks, if_neg]
  intro some
  obtain ⟨pack, member, lapsed⟩ := List.any_eq_true.mp some
  obtain ⟨id, -, rfl⟩ := mem_packs.mp member
  simp only [BillingCreditPack.lapsed, Bool.and_eq_true, decide_eq_true_eq] at lapsed
  have := unlapsed id lapsed.1
  omega

theorem unlapsed_expireUserPacks (now : Int) (account : Account) :
    (account.expireUserPacks now).Unlapsed now := by
  intro id active
  rw [pack_expireUserPacks] at active ⊢
  split at active
  · cases active
  · rename_i fresh
    rw [if_neg fresh]
    by_contra lapsed
    exact fresh (by simp [BillingCreditPack.lapsed, active, Int.not_lt.mp lapsed])

theorem active_reversedTo {pack : BillingCreditPack} (sound : pack.Sound)
    (active : (pack.reversedTo level seen).status = .active) : pack.status = .active := by
  by_cases nothing : pack.revocable level = 0
  · rwa [status_reversedTo_zero nothing] at active
  · rw [status_reversedTo nothing] at active
    have live := sound.live
    have nonneg := revocable_nonneg pack level
    grind

theorem active_give {pack : BillingCreditPack} {take : Int}
    (active : (pack.give take).status = .active) : pack.status = .active := by
  rw [BillingCreditPack.give] at active
  split at active
  · exact active
  · simp only [BillingCreditPack.supply] at active
    split at active
    · cases active
    · exact active

theorem ReversedTo.unlapsed (reversed : ReversedTo session packId level seen account after)
    (rows : account.RowsSound) (unlapsed : account.Unlapsed now) : after.Unlapsed now := by
  intro id active
  rw [(reversed.sameTerms id).expiresAt]
  apply unlapsed id
  by_cases here : id = packId
  · rw [here, reversed.source] at active
    exact here ▸ active_reversedTo (rows.packs packId) active
  · rw [reversed.others id here] at active
    exact active_give active

theorem providerTotalCents_of_terms {first second : BillingCreditPack}
    (terms : first.SameTerms second) : second.providerTotalCents = first.providerTotalCents := by
  rw [BillingCreditPack.providerTotalCents, terms.orderTotal, terms.paidItem]
  rfl

theorem RefundReport.total_of_terms {first second : BillingCreditPack} (report : RefundReport)
    (terms : first.SameTerms second) : report.total second = report.total first := by
  simp only [RefundReport.total, BillingCreditPack.refundedTotal,
    providerTotalCents_of_terms terms]

theorem RefundReport.level_of_terms {first second : BillingCreditPack} (report : RefundReport)
    (terms : first.SameTerms second) : report.level second = report.level first := by
  simp only [RefundReport.level, BillingCreditPack.refundLevel, BillingCreditPack.refundedTotal,
    providerTotalCents_of_terms terms, terms.paidItem]
  congr

theorem applyRefundReversal_swept (session : Session) (amountCents : Int) (fullOrFraud : Bool)
    (reasonLabel : String) (ledgerReason : Option LedgerReason) (reads : Nat)
    (same : account.expireUserPacks (session.clock reads) = swept)
    (present : packId < swept.packs.length) :
    applyRefundReversal session packId amountCents fullOrFraud reasonLabel ledgerReason
        { account, reads } =
      flush (reverseRefund session packId amountCents fullOrFraud reasonLabel ledgerReason
        swept).1 >>= fun account => .ok ({ account, reads := reads + 1 },
          (reverseRefund session packId amountCents fullOrFraud reasonLabel ledgerReason
            swept).2) := by
  simp only [applyRefundReversal, same, Nat.not_le.mpr present, if_false]
  rfl

theorem Operation.step_ok {operation : Operation}
    (ran : operation.perform session account = .ok after) :
    operation.step session account = after := by
  simp only [Operation.step, ran]

theorem Operation.step_error {operation : Operation} {error : CreditError}
    (raised : operation.perform session account = .error error) :
    operation.step session account = account := by
  simp only [Operation.step, raised]

def RefundReport.reverse (report : RefundReport) (session : Session) (packId : Nat)
    (swept : Account) : Account :=
  (reverseRefund { session with clock := fun _ => report.now } packId report.amountCents
    report.fullOrFraud report.reasonLabel none swept).1

theorem RefundReport.after_eq (report : RefundReport) (session : Session)
    (bound : packId < account.packs.length) (same : account.expireUserPacks report.now = swept) :
    (report.step session packId).after account =
      if (report.reverse session packId swept).Constraints then
        report.reverse session packId swept else account := by
  have present : packId < swept.packs.length := by
    rw [← same, packs_length_expireUserPacks]
    exact bound
  have reversal := applyRefundReversal_swept (report.step session packId).session
    report.amountCents report.fullOrFraud report.reasonLabel none 0 same present
  by_cases kept : (report.reverse session packId swept).Constraints
  · have committed : flush (report.reverse session packId swept) = .ok _ := if_pos kept
    rw [if_pos kept]
    exact Operation.step_ok (bind_of_ok (reversal.trans (bind_of_ok committed _)) _)
  · have refused : flush (report.reverse session packId swept) = .error .integrityError :=
      if_neg kept
    rw [if_neg kept]
    exact Operation.step_error (bind_of_error (reversal.trans (bind_of_error refused _)) _)

theorem RefundReport.reverse_constraints (report : RefundReport) (session : Session)
    (sound : swept.Sound) (stamped : swept.Stamped) (bound : packId < swept.packs.length)
    (notRazorpay : (swept.pack packId).provider ≠ .razorpay) :
    (report.reverse session packId swept).Constraints ↔
      ∀ total ∈ (swept.pack packId).providerOrderTotalCents,
        report.total (swept.pack packId) ≤ total := by
  refine reverseRefund_constraints _ _ _ sound bound (by simp) fun advances older member same => ?_
  -- a row of this level would have left the pack at it
  have reached := ((stamped older member).level _ _ same).2 notRazorpay
  omega

theorem RefundReport.reverse_reversedTo (report : RefundReport) (session : Session)
    (sound : swept.Sound) (bound : packId < swept.packs.length) :
    ReversedTo session packId (report.level (swept.pack packId)) (report.total (swept.pack packId))
      swept (report.reverse session packId swept) := by
  have reversed := @reverseRefund_reversedTo { session with clock := fun _ => report.now } packId
    swept report.amountCents report.fullOrFraud report.reasonLabel none sound.toSourced bound
  exact ⟨reversed.packsLength, reversed.source, reversed.others, reversed.creditBalance,
    reversed.owed⟩

end Report

section Reports

variable {session : Session} {packId : Nat} {now : Int} {swept account : Account}
  {reports order : List RefundReport} {best : RefundReport}

def SameExpiries (account : Account) (now : Int) (reports : List RefundReport) : Prop :=
  ∀ report ∈ reports, ∀ id < account.packs.length,
    (account.pack id).expiresAt ≤ report.now ↔ (account.pack id).expiresAt ≤ now

def WithinOrderTotal (pack : BillingCreditPack) (reports : List RefundReport) : Prop :=
  ∀ report ∈ reports, ∀ total ∈ pack.providerOrderTotalCents, report.total pack ≤ total

theorem expireUserPacks_congr {first second : Int}
    (same : ∀ id < account.packs.length,
      (account.pack id).expiresAt ≤ first ↔ (account.pack id).expiresAt ≤ second) :
    account.expireUserPacks first = account.expireUserPacks second := by
  have lapsed : ∀ pack ∈ account.packs, pack.lapsed first = pack.lapsed second := by
    intro pack member
    obtain ⟨id, bound, rfl⟩ := mem_packs.mp member
    simp only [BillingCreditPack.lapsed, same id bound]
  have any : account.packs.any (·.lapsed first) = account.packs.any (·.lapsed second) := by
    rw [Bool.eq_iff_iff, List.any_eq_true, List.any_eq_true]
    exact exists_congr fun pack => and_congr_right fun member => by rw [lapsed pack member]
  have total : account.totalExpired first = account.totalExpired second :=
    sumOf_congr fun pack member => by rw [lapsed pack member]
  have packs : (account.packs.map fun pack => if pack.lapsed first then pack.expire else pack) =
      account.packs.map fun pack => if pack.lapsed second then pack.expire else pack :=
    List.map_congr_left fun pack member => by rw [lapsed pack member]
  simp only [Account.expireUserPacks, any, total, packs]

structure Reported (session : Session) (packId : Nat) (now level seen : Int)
    (swept account : Account) : Prop
    extends ReversedTo session packId level seen swept account where
  sound : account.Sound
  stamped : account.Stamped
  unlapsed : account.Unlapsed now

theorem RefundReport.admissible (report : RefundReport) (session : Session) (packId : Nat) :
    (report.step session packId).operation.Admissible := trivial

theorem Reported.step {level seen : Int} (reported : Reported session packId now level seen swept account)
    (sweptSourced : swept.Sourced) (report : RefundReport)
    (bound : packId < swept.packs.length)
    (paid : 0 < (swept.pack packId).paidItemAmountCents)
    (level_le : level ≤ (swept.pack packId).paidItemAmountCents)
    (lemon : (swept.pack packId).provider = .lemonsqueezy)
    (expiries : ∀ id < swept.packs.length,
      (swept.pack id).expiresAt ≤ report.now ↔ (swept.pack id).expiresAt ≤ now)
    (within : ∀ total ∈ (swept.pack packId).providerOrderTotalCents,
      report.total (swept.pack packId) ≤ total) :
    Reported session packId now (max level (report.level (swept.pack packId)))
      (max seen (report.total (swept.pack packId))) swept
      ((report.step session packId).after account) := by
  have terms := reported.sameTerms packId
  have notRazorpay : (account.pack packId).provider ≠ .razorpay := by
    rw [terms.provider, lemon]
    decide
  have packBound : packId < account.packs.length := reported.packsLength ▸ bound
  have unlapsed : account.Unlapsed report.now := by
    intro id active
    by_cases inside : id < swept.packs.length
    · have fresh := reported.unlapsed id active
      have same := expiries id inside
      rw [← (reported.sameTerms id).expiresAt] at same
      omega
    · rw [pack_beyond account (reported.packsLength ▸ Nat.not_lt.mp inside)] at active
      cases active
  have accepted : (report.reverse session packId account).Constraints := by
    rw [report.reverse_constraints session reported.sound reported.stamped packBound notRazorpay,
      terms.orderTotal, report.total_of_terms terms]
    exact within
  have committed := report.after_eq session packBound (expireUserPacks_unlapsed unlapsed)
  rw [if_pos accepted] at committed
  have again := report.reverse_reversedTo session reported.sound packBound
  rw [report.level_of_terms terms, report.total_of_terms terms] at again
  refine {
    toReversedTo := ?_
    sound := (Step.sound reported.sound (report.admissible session packId)).1
    stamped := Step.stamped reported.sound reported.stamped (report.admissible session packId)
      notRazorpay
    unlapsed := ?_ }
  · rw [committed]
    exact reported.toReversedTo.trans sweptSourced paid level_le
      (refundLevel_bounds _ _ paid).2 again
  · rw [committed]
    exact again.unlapsed reported.sound.rows reported.unlapsed

theorem setPack_self (bound : packId < account.packs.length) :
    account.setPack packId (account.pack packId) = account := by
  have pack : account.pack packId = account.packs[packId] := by
    simp [Account.pack, bound]
  rw [Account.setPack, pack, List.set_getElem_self]

theorem Reported.refl (sound : swept.Sound) (stamped : swept.Stamped)
    (unlapsed : swept.Unlapsed now) (bound : packId < swept.packs.length) :
    Reported session packId now 0 0 swept swept where
  toReversedTo := by
    have checks := sound.packs _ (mem_packs.mpr ⟨packId, bound, rfl⟩)
    obtain ⟨-, -, -, -, -, -, -, -, -, seen, processed, -⟩ := checks
    have marked := @ReversedTo.mark session packId 0 0 swept bound
      (fun id => (sound.rows.packs id).remaining) (revocable_reached processed)
    rwa [BillingCreditPack.markProcessed, max_eq_left processed, max_eq_left seen,
      setPack_self bound] at marked
  sound := sound
  stamped := stamped
  unlapsed := unlapsed

theorem Reported.run {level seen : Int}
    (reported : Reported session packId now level seen swept account) (sweptSourced : swept.Sourced)
    (bound : packId < swept.packs.length) (paid : 0 < (swept.pack packId).paidItemAmountCents)
    (levelNonneg : 0 ≤ level) (level_le : level ≤ (swept.pack packId).paidItemAmountCents)
    (seenNonneg : 0 ≤ seen) (lemon : (swept.pack packId).provider = .lemonsqueezy)
    (expiries : SameExpiries swept now reports)
    (within : WithinOrderTotal (swept.pack packId) reports) :
    Reported session packId now
      (max level (greatest (·.level (swept.pack packId)) reports))
      (max seen (greatest (·.total (swept.pack packId)) reports)) swept
      (account.reported session packId reports) := by
  induction reports generalizing level seen account with
  | nil =>
      change Reported session packId now (max level 0) (max seen 0) swept account
      rwa [max_eq_left levelNonneg, max_eq_left seenNonneg]
  | cons report reports ih =>
      have next := reported.step sweptSourced report bound paid level_le lemon
        (expiries report List.mem_cons_self) (within report List.mem_cons_self)
      have later := ih next (levelNonneg.trans (le_max_left _ _))
        (max_le level_le (refundLevel_bounds _ _ paid).2) (seenNonneg.trans (le_max_left _ _))
        (fun other member => expiries other (List.mem_cons_of_mem _ member))
        (fun other member => within other (List.mem_cons_of_mem _ member))
      rwa [max_assoc, max_assoc] at later

theorem reported_swept (sound : account.Sound) (stamped : account.Stamped)
    (bound : packId < account.packs.length)
    (lemon : (account.pack packId).provider = .lemonsqueezy)
    (expiries : SameExpiries account now reports)
    (within : WithinOrderTotal (account.pack packId) reports) (some : reports ≠ []) :
    account.reported session packId reports =
      (account.expireUserPacks now).reported session packId reports := by
  cases reports with
  | nil => exact absurd rfl some
  | cons report reports =>
      have terms := sameTerms_expireUserPacks now account packId
      have sweeps := expireUserPacks_congr (expiries report List.mem_cons_self)
      have length := packs_length_expireUserPacks now account
      have sweptStamped := (Stamps.expireUserPacks account now).run stamped
      have sweptSound := sound.expireUserPacks now
      have unlapsed := unlapsed_expireUserPacks report.now account
      rw [sweeps] at unlapsed
      generalize account.expireUserPacks now = swept at *
      have sweptBound : packId < swept.packs.length := length ▸ bound
      have accepted : (report.reverse session packId swept).Constraints := by
        rw [report.reverse_constraints session sweptSound sweptStamped sweptBound
          (by rw [terms.provider, lemon]; decide), terms.orderTotal, report.total_of_terms terms]
        exact within report List.mem_cons_self
      change ((report.step session packId).after account).run _ =
        ((report.step session packId).after swept).run _
      rw [report.after_eq session bound sweeps,
        report.after_eq session sweptBound (expireUserPacks_unlapsed unlapsed), if_pos accepted,
        if_pos accepted]

theorem reported_reversedTo (sound : account.Sound) (stamped : account.Stamped)
    (bound : packId < account.packs.length)
    (lemon : (account.pack packId).provider = .lemonsqueezy)
    (expiries : SameExpiries account now reports)
    (within : WithinOrderTotal (account.pack packId) reports) (some : reports ≠ []) :
    ReversedTo session packId (greatest (·.level (account.pack packId)) reports)
      (greatest (·.total (account.pack packId)) reports) (account.expireUserPacks now)
      (account.reported session packId reports) := by
  rw [reported_swept sound stamped bound lemon expiries within some]
  have terms := sameTerms_expireUserPacks now account packId
  have length := packs_length_expireUserPacks now account
  have sweptSound := sound.expireUserPacks now
  have paid := (sound.toConstraints.priced packId bound).1
  have start := @Reported.refl session packId now (account.expireUserPacks now) sweptSound
    ((Stamps.expireUserPacks account now).run stamped) (unlapsed_expireUserPacks now account)
    (length ▸ bound)
  have ran := start.run sweptSound.toSourced (length ▸ bound)
    (terms.paidItem ▸ paid) le_rfl (terms.paidItem ▸ paid.le) le_rfl (terms.provider.trans lemon)
    (fun report member id inside => by
      rw [(sameTerms_expireUserPacks now account id).expiresAt]
      exact expiries report member id (length ▸ inside))
    (fun report member total given => by
      rw [terms.orderTotal] at given
      rw [report.total_of_terms terms]
      exact within report member total given)
  rw [max_eq_right (greatest_nonneg _ _), max_eq_right (greatest_nonneg _ _)] at ran
  simp only [RefundReport.level_of_terms _ terms, RefundReport.total_of_terms _ terms] at ran
  exact ran.toReversedTo

theorem RefundReport.replay (report : RefundReport) (session : Session) (sound : account.Sound)
    (bound : packId < account.packs.length)
    (reached : report.level (account.pack packId) ≤
      (account.pack packId).refundedItemAmountCentsProcessed)
    (unlapsed : account.Unlapsed report.now) :
    NoCreditMoved account ((report.step session packId).after account) := by
  rw [report.after_eq session bound (expireUserPacks_unlapsed unlapsed)]
  split
  · have reversed := report.reverse_reversedTo session sound bound
    have remaining := fun id => (sound.rows.packs id).remaining
    have nothing := revocable_reached reached
    have none := uncovered_zero (remaining packId) nothing
    have capacities := donorCapacity_nonneg packId remaining
    refine ⟨by rw [reversed.creditBalance, if_pos nothing], fun id => ?_, fun id => ?_⟩
    · by_cases here : id = packId
      · rw [here, reversed.source]
        simp [BillingCreditPack.reversedTo, nothing, remaining packId]
      · rw [reversed.others id here, none, poured_zero fun id _ => capacities id,
          BillingCreditPack.give_zero]
        exact ⟨rfl, rfl, rfl, rfl, rfl, rfl⟩
    · have left := @overflow_bounds _ _ (account.packsByExpiry session) _
        (fun id _ => capacities id) le_rfl
      rw [reversed.owed, none, le_antisymm left.2 left.1, single_zero, Int.add_zero]
  · exact ⟨rfl, fun _ => ⟨rfl, rfl, rfl, rfl, rfl, rfl⟩, fun _ => rfl⟩

def PathIndependent (account : Account) (session : Session) (packId : Nat)
    (reports : List RefundReport) (best : RefundReport) : Prop :=
  ∀ order : List RefundReport, (∀ report, report ∈ order ↔ report ∈ reports) →
    SameCredit (account.reported session packId order)
      (((best.step session packId).after account).see packId
        (greatest (·.total (account.pack packId)) reports))

theorem ReversedTo.sameCredit {level seen seen' : Int} {first second : Account}
    (left : ReversedTo session packId level (max seen seen') swept first)
    (right : ReversedTo session packId level seen swept second)
    (bound : packId < swept.packs.length) :
    SameCredit first (second.see packId seen') where
  creditBalance := left.creditBalance.trans right.creditBalance.symm
  packsLength := (left.packsLength.trans right.packsLength.symm).trans
    (packs_length_setPack _).symm
  packs id := by
    by_cases here : id = packId
    · rw [here, left.source, Account.see, pack_setPack_self (right.packsLength ▸ bound),
        right.source]
      simp only [BillingCreditPack.reversedTo, max_assoc]
    · rw [left.others id here, Account.see, pack_setPack_ne here, right.others id here]
  owed id := (left.owed id).trans (right.owed id).symm

end Reports

/-- Refund reports of a Lemon Squeezy pack are path independent exactly when the order total bounds
every refunded total; a report at or below the processed level moves no credit in any case. -/
theorem refund_reports_path_independent (userId : Nat) (opening : Int) (steps : List Step)
    (admissible : Admissible steps) (routed : (Account.opened userId opening).RoutedRun steps)
    (session : Session) (packId : Nat) (reports : List RefundReport) (best : RefundReport)
    (bound : packId < ((Account.opened userId opening).run steps).packs.length)
    (lemon : (((Account.opened userId opening).run steps).pack packId).provider = .lemonsqueezy)
    (member : best ∈ reports)
    (highest : ∀ report ∈ reports,
      report.level (((Account.opened userId opening).run steps).pack packId) ≤
        best.level (((Account.opened userId opening).run steps).pack packId))
    (expiries : SameExpiries ((Account.opened userId opening).run steps) best.now reports) :
    (PathIndependent ((Account.opened userId opening).run steps) session packId reports best ↔
      WithinOrderTotal (((Account.opened userId opening).run steps).pack packId) reports) ∧
    ∀ report : RefundReport,
      report.level (((Account.opened userId opening).run steps).pack packId) ≤
        (((Account.opened userId opening).run steps).pack packId).refundedItemAmountCentsProcessed →
      ((Account.opened userId opening).run steps).Unlapsed report.now →
      NoCreditMoved ((Account.opened userId opening).run steps)
        ((report.step session packId).after ((Account.opened userId opening).run steps)) := by
  have sound := Account.Sound.reached userId opening admissible
  have stamped := routed.stamped (.opened userId opening) (.opened userId opening) admissible
  generalize (Account.opened userId opening).run steps = account at *
  refine ⟨⟨fun independent => ?_, fun within order same => ?_⟩, fun report reached unlapsed =>
    report.replay session sound bound reached unlapsed⟩
  · -- the seen-total of the greatest report has to pass the CHECK after the reports themselves
    intro report given total ordered
    obtain ⟨-, length, packs, -⟩ := independent reports fun _ => .rfl
    have admitted : Admissible (reports.map (·.step session packId)) := fun step listed => by
      obtain ⟨report, -, rfl⟩ := List.mem_map.mp listed
      exact report.admissible session packId
    obtain ⟨ends, aged⟩ := sound.run admitted
    change (account.reported session packId reports).Sound at ends
    change Ages account (account.reported session packId reports) at aged
    have endBound := bound.trans_le aged.length
    obtain ⟨-, -, -, -, -, -, -, -, -, -, -, -, -, -, seenLe, -⟩ :=
      ends.packs _ (mem_packs.mpr ⟨packId, endBound, rfl⟩)
    have below := seenLe total ((aged.sameTerms packId bound).orderTotal.symm ▸ ordered)
    rw [packs packId, Account.see, pack_setPack_self (by
      rw [length, Account.see, packs_length_setPack] at endBound
      exact endBound)] at below
    exact (le_greatest given).trans ((le_max_right _ _).trans below)
  · have orderWithin : WithinOrderTotal (account.pack packId) order :=
      fun report listed => within report ((same report).mp listed)
    have ordered := @reported_reversedTo session packId best.now account order sound stamped bound
      lemon (fun report listed => expiries report ((same report).mp listed)) orderWithin
      (List.ne_nil_of_mem ((same best).mpr member))
    have alone := @reported_reversedTo session packId best.now account [best] sound stamped bound
      lemon (fun report listed => expiries report (List.mem_singleton.mp listed ▸ member))
      (fun report listed => within report (List.mem_singleton.mp listed ▸ member))
      (List.cons_ne_nil _ _)
    have level : greatest (·.level (account.pack packId)) order =
        greatest (·.level (account.pack packId)) [best] := by
      rw [greatest_congr same]
      refine le_antisymm (greatest_le (greatest_nonneg _ _) fun report given => ?_) ?_
      · exact (highest report given).trans (le_max_left _ _)
      · exact greatest_le (greatest_nonneg _ _) fun report listed =>
          le_greatest (List.mem_singleton.mp listed ▸ member)
    have total : greatest (·.total (account.pack packId)) order =
        max (greatest (·.total (account.pack packId)) [best])
          (greatest (·.total (account.pack packId)) reports) := by
      rw [greatest_congr same, max_eq_right]
      exact greatest_le (greatest_nonneg _ _) fun report listed =>
        le_greatest (List.mem_singleton.mp listed ▸ member)
    rw [level, total] at ordered
    exact ordered.sameCredit alone ((packs_length_expireUserPacks _ _).symm ▸ bound)

def partialRefund : RefundReport :=
  { now := 2, amountCents := 4, fullOrFraud := false, reasonLabel := "refund" }

def fullRefund : RefundReport :=
  { now := 3, amountCents := 10, fullOrFraud := false, reasonLabel := "refund" }

theorem refund_reports_path_independent_refundedPurchase :
    PathIndependent ((Account.opened 0 0).run (refundedPurchase.take 2)) (.at 0) 0
      [partialRefund, fullRefund] fullRefund :=
  (refund_reports_path_independent 0 0 (refundedPurchase.take 2) (by decide)
    ⟨trivial, trivial, trivial⟩ (.at 0) 0 [partialRefund, fullRefund] fullRefund (by decide)
    (by decide) (by decide) (by decide) (by unfold SameExpiries; decide)).1.mpr
    (by unfold WithinOrderTotal; decide)

theorem refund_above_order_total_is_lost :
    let terms := { lemonTerms "order" 10 0 100 with providerOrderTotalCents := some 8 }
    let account := (Account.opened 0 0).run
      [⟨.at 0, .grant terms (.billingPurchase .lemonsqueezy "order")⟩]
    ¬PathIndependent account (.at 0) 0 [partialRefund, fullRefund] fullRefund ∧
      (account.reported (.at 0) 0 [partialRefund, fullRefund]).creditBalance = 6 ∧
      ((fullRefund.step (.at 0) 0).after account).creditBalance = 10 := by
  refine ⟨fun independent => ?_, by decide, by decide⟩
  have same := (independent [partialRefund, fullRefund] fun _ => .rfl).creditBalance
  revert same
  decide

end Thought2Build.Billing
