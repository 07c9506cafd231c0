import Thought2Build.Billing.Refunds
import Thought2Build.Billing.LedgerStamps

/-!
`release_reversal` and `settle_pack` keep the account invariant, and a release always
finds the provenance of what it returns.
-/

namespace Thought2Build.Billing

open Rows Account

theorem BillingCreditPack.Sound.release {pack : BillingCreditPack} {release now : Int}
    {processed : Int} (sound : pack.Sound) (nonneg : 0 ≤ release)
    (within : release ≤ pack.creditsRevoked) (partly : processed < pack.paidItemAmountCents) :
    { pack.release release (release - pack.collectedElsewhere release) now with
      refundedItemAmountCentsProcessed := processed }.Sound := by
  obtain ⟨least, most, held, whole⟩ := pack.absorbed_bounds nonneg sound.gapRevoked
  obtain ⟨h1, h2, h3, h4, h5, h6, h7, h8, h9, h10, h11, h12⟩ := sound
  change { pack.release release (release - pack.absorbed release) now with
    refundedItemAmountCentsProcessed := processed }.Sound
  generalize pack.absorbed release = absorbed at least most held whole ⊢
  simp only [BillingCreditPack.excess, BillingCreditPack.gap, BillingCreditPack.accounted] at *
  constructor <;>
    simp only [BillingCreditPack.release, BillingCreditPack.gap, BillingCreditPack.accounted] <;>
    grind

theorem BillingCreditPack.excess_release (pack : BillingCreditPack) (release direct now : Int) :
    (pack.release release direct now).excess = pack.excess - (release - direct) := by
  simp only [BillingCreditPack.excess, BillingCreditPack.gap, BillingCreditPack.accounted,
    BillingCreditPack.release]
  grind

theorem returnReversalRecovery_total (session : Session) {fuel sourceId : Nat} {amount : Int}
    {tx : Tx} (sourced : tx.account.Sourced)
    (distinct : tx.account.debts.Pairwise fun first second =>
      first.sourcePackId ≠ second.sourcePackId)
    (enough : tx.account.packs.length < fuel) (nonneg : 0 ≤ amount)
    (within : amount ≤ max 0 (tx.account.pack sourceId).excess) :
    ∃ after usable, returnReversalRecovery (restorePackValue session fuel) session sourceId amount
        tx = .ok (after, usable) ∧
      after.account.pack sourceId = tx.account.pack sourceId ∧
      Restored session tx.account after.account usable (single sourceId amount) (fun _ => 0)
        fun _ => 0 := by
  obtain ⟨rank, low, backed⟩ := sourced.backed distinct
  have drift := sourced.excess sourceId
  have owed := owedTo_nonneg sourced.rows sourceId
  have recovering := recoveringFor_nonneg sourced.rows sourceId
  simp only [Account.excessDrift] at drift
  have sourceLow := low sourceId
  obtain ⟨after, usable, ran, untouched⟩ := @returnReversalRecovery_returns session rank sourceId
    _ (restorePackValue_restores session fuel)
    (fun lower => restorePackValue_returns session (by omega)) amount tx nonneg (backed _) (by omega)
  exact ⟨after, usable, ran, untouched.packs sourceId le_rfl,
    returnReversalRecovery_restored (restorePackValue_restores session fuel) nonneg ran⟩

theorem returnElsewhere_agree
    {restore restore' : Nat → Int → Counter → Tx → Except CreditError (Tx × Int)}
    (agree : ∀ packId amount counter tx result,
      restore packId amount counter tx = .ok result → restore' packId amount counter tx = .ok result)
    {session : Session} {sourceId : Nat} {amount : Int} {tx : Tx} {result : Tx × Int}
    (ran : returnElsewhere restore session sourceId amount tx = .ok result) :
    returnElsewhere restore' session sourceId amount tx = .ok result := by
  simp only [returnElsewhere] at ran ⊢
  split at ran
  · rename_i some
    rw [if_pos some]
    exact returnReversalRecovery_agree agree ran
  · rename_i none
    rw [if_neg none]
    exact ran

theorem returnElsewhere_total (session : Session) {fuel sourceId : Nat} {release : Int}
    {tx : Tx} (sourced : tx.account.Sourced)
    (distinct : tx.account.debts.Pairwise fun first second =>
      first.sourcePackId ≠ second.sourcePackId)
    (enough : tx.account.packs.length < fuel) (nonneg : 0 ≤ release) :
    let elsewhere := (tx.account.pack sourceId).collectedElsewhere release
    ∃ after usable, returnElsewhere (restorePackValue session fuel) session sourceId elsewhere tx =
        .ok (after, usable) ∧
      after.account.pack sourceId = tx.account.pack sourceId ∧
      Restored session tx.account after.account usable (single sourceId elsewhere) (fun _ => 0)
        fun _ => 0 := by
  intro elsewhere
  by_cases nothing : elsewhere = 0
  · refine ⟨tx, 0, by simp [returnElsewhere, nothing], rfl, ?_⟩
    rw [nothing, single_zero]
    exact .refl _
  · obtain ⟨after, usable, ran, rest⟩ := @returnReversalRecovery_total session fuel sourceId
      elsewhere tx sourced distinct enough (le_min nonneg (le_max_left _ _)) (min_le_right _ _)
    exact ⟨after, usable, by simpa [returnElsewhere, nothing] using ran, rest⟩

def releaseEntry (session : Session) (sourceId uuid : Nat) (usable : Int) : CreditLedger :=
  { amount := usable, reason := .disputeRelease sourceId uuid, metadata := none
    createdAt := session.clock 0 }

def Account.finishRelease (account : Account) (session : Session) (sourceId : Nat)
    (source : BillingCreditPack) (usable : Int) : Account :=
  ((account.setPack sourceId source).addBalance usable).addLedger
    (releaseEntry session sourceId account.ledger.length usable)

/-- A release of `release` revoked credits that made `usable` credits spendable again. -/
structure Released (session : Session) (sourceId : Nat) (release usable now : Int)
    (before middle after : Account) : Prop where
  positive : 0 < release
  restored : ∃ returned, Restored session before middle returned
      (single sourceId ((before.pack sourceId).collectedElsewhere release)) (fun _ => 0)
      (fun _ => 0) ∧
    usable = if (before.pack sourceId).expiresAt ≤ now then returned
      else returned + (release - (before.pack sourceId).collectedElsewhere release)
  source : middle.pack sourceId = before.pack sourceId
  result : after = middle.finishRelease session sourceId ((before.pack sourceId).release release
    (release - (before.pack sourceId).collectedElsewhere release) now) usable

theorem releaseReversal_cases (session : Session) {fuel : Nat} (sourceId : Nat) (target : Int)
    {tx : Tx} (sourced : tx.account.Sourced)
    (distinct : tx.account.debts.Pairwise fun first second =>
      first.sourcePackId ≠ second.sourcePackId)
    (enough : tx.account.packs.length < fuel) :
    let release := max 0 ((tx.account.pack sourceId).creditsRevoked - target)
    (release = 0 ∧ releaseReversal session fuel sourceId target tx = .ok tx) ∨
      ∃ (after : Tx) (usable : Int) (reading : Nat) (middle : Account),
        Released session sourceId release usable (session.clock reading) tx.account middle
          after.account ∧
        releaseReversal session fuel sourceId target tx =
          (flush after.account).map fun account => { after with account } := by
  intro release
  by_cases nothing : release = 0
  · left
    refine ⟨nothing, ?_⟩
    simp only [releaseReversal]
    rw [if_pos nothing]
    rfl
  right
  have positive : 0 < release := by omega
  obtain ⟨middle, returned, recovered, source, restored⟩ :=
    @returnElsewhere_total session fuel sourceId release tx sourced distinct enough positive.le
  refine ⟨⟨middle.account.finishRelease session sourceId ((tx.account.pack sourceId).release release
      (release - (tx.account.pack sourceId).collectedElsewhere release)
      (session.clock middle.reads)) _, middle.reads + 1⟩, _, middle.reads, middle.account,
    ⟨positive, ⟨returned, restored, rfl⟩, source, rfl⟩, ?_⟩
  simp only [releaseReversal]
  rw [if_neg nothing]
  rw [recovered]
  change (flush _ >>= _) = _
  rw [source]
  cases kept : flush (middle.account.finishRelease session sourceId
    ((tx.account.pack sourceId).release release
      (release - (tx.account.pack sourceId).collectedElsewhere release)
      (session.clock middle.reads)) (if (tx.account.pack sourceId).expiresAt ≤
        session.clock middle.reads then returned
      else returned + (release - (tx.account.pack sourceId).collectedElsewhere release))) <;>
    exact congrArg (· >>= _) kept

theorem releaseReversal_fuel (session : Session) {fuel : Nat} (sourceId : Nat) (target : Int)
    {tx : Tx} (sourced : tx.account.Sourced)
    (distinct : tx.account.debts.Pairwise fun first second =>
      first.sourcePackId ≠ second.sourcePackId)
    (enough : tx.account.packs.length < fuel) :
    releaseReversal session fuel sourceId target tx =
      releaseReversal session tx.account.fuel sourceId target tx := by
  simp only [releaseReversal]
  split
  · rfl
  · rename_i some
    obtain ⟨middle, returned, recovered, -⟩ := @returnElsewhere_total session tx.account.fuel
      sourceId (max 0 ((tx.account.pack sourceId).creditsRevoked - target)) tx sourced distinct
      (Nat.lt_succ_self _) (le_max_left _ _)
    have agreed := returnElsewhere_agree
      (restorePackValue_agree session (Nat.succ_le_of_lt enough)) recovered
    rw [bind_of_ok agreed, bind_of_ok recovered]

section Release

variable {session : Session} {sourceId : Nat} {release usable now processed : Int}
  {before middle after : Account}

def BillingCreditPack.lower (pack : BillingCreditPack) (release now processed : Int) :
    BillingCreditPack :=
  { pack.release release (release - pack.collectedElsewhere release) now with
    refundedItemAmountCentsProcessed := processed }

theorem Released.lowered (released : Released session sourceId release usable now before middle after)
    (bound : sourceId < middle.packs.length) :
    after.setPack sourceId { after.pack sourceId with
      refundedItemAmountCentsProcessed := processed } =
      middle.finishRelease session sourceId
        ((before.pack sourceId).lower release now processed) usable := by
  have pack : after.pack sourceId = (before.pack sourceId).release release
      (release - (before.pack sourceId).collectedElsewhere release) now := by
    rw [released.result]
    exact pack_setPack_self bound _
  rw [pack, released.result]
  simp [Account.finishRelease, Account.addLedger, Account.addBalance, Account.setPack,
    BillingCreditPack.lower]

theorem Released.transferred
    (released : Released session sourceId release usable now before middle after)
    (sourced : before.Sourced) (bound : sourceId < before.packs.length)
    (within : release ≤ (before.pack sourceId).creditsRevoked)
    (partly : processed < (before.pack sourceId).paidItemAmountCents)
    (clock : ∃ reading, now = session.clock reading) :
    Transferred session usable before (middle.finishRelease session sourceId
      ((before.pack sourceId).lower release now processed) usable) := by
  obtain ⟨positive, ⟨returned, restored, total⟩, source, -⟩ := released
  have middleBound : sourceId < middle.packs.length := restored.packsLength ▸ bound
  have packSound : ((before.pack sourceId).lower release now processed).Sound :=
    (sourced.rows.packs sourceId).release positive.le within partly
  have rows := restored.rows sourced.rows
  refine {
    toMoved := ?_
    ledger := ⟨_, congrArg (· ++ _) restored.ledger, fun row member => ?_⟩
    entries := fun entries allocation member => ?_
    charged := restored.toFrame.chargedTo
    toAges := (restored.ages sourced.rows).trans (.editPack rfl ?_ ?_)
    rows := (rows.setPack packSound).book _ _
    ranked := sourced.ranked.mono fun _ _ donates => restored.donates sourced.rows donates
    packsLength := (packs_length_setPack _).trans restored.packsLength
    creditBalance := fun _ => congrArg (· + usable) restored.balance
    settled := fun settled => ?_ }
  · have lowered := Moved.setPack middleBound ((before.pack sourceId).lower release now processed)
    refine ((restored.toMoved.trans lowered).trans (Moved.book _ _ _)).congr ?_ (fun id => ?_)
      (fun id => ?_) fun id => ?_
    · rw [source, total]
      simp only [BillingCreditPack.lower, BillingCreditPack.release]
      clear * -
      split <;> omega
    · have excess := (before.pack sourceId).excess_release release
        (release - (before.pack sourceId).collectedElsewhere release) now
      change (_ : Int) + single _ (((before.pack sourceId).release release
        (release - (before.pack sourceId).collectedElsewhere release) now).excess - _) id + 0 = 0
      rw [excess, source]
      simp only [single]
      clear * -
      split <;> omega
    · rw [source]
      simp [BillingCreditPack.lower, BillingCreditPack.release, single]
    · rw [source]
      simp [BillingCreditPack.lower, BillingCreditPack.release, single]
  · rw [List.mem_singleton.mp member]
    exact ⟨rfl, fun _ => by simp [releaseEntry], fun _ => by simp [releaseEntry]⟩
  · have earlier := restored.toFrame.entries entries allocation member
    change _ < (middle.ledger ++ [_]).length
    rw [restored.ledger, List.length_append]
    exact earlier.trans_le (Nat.le_add_right _ _)
  · rw [source]
    constructor <;> rfl
  · have direct : 0 ≤ release - (before.pack sourceId).collectedElsewhere release :=
      sub_nonneg.mpr (min_le_left _ _)
    rw [source]
    simp only [BillingCreditPack.lower, BillingCreditPack.release]
    clear * - direct
    split <;> omega
  · obtain ⟨reading, rfl⟩ := clock
    have steady := settled.steady sourceId bound reading
    have swept := settled.swept sourceId
    have spendable := settled.spendable sourceId
    have lowered : (middle.setPack sourceId
        ((before.pack sourceId).lower release (session.clock reading) processed)).Settled
          session := by
      refine (restored.settled settled).setPack (by rw [source]; rfl) ?_ ?_ <;>
        simp only [BillingCreditPack.lower, BillingCreditPack.release] <;>
        grind
    exact ⟨lowered.steady, lowered.swept, lowered.spendable⟩

theorem Released.stamps
    (released : Released session sourceId release usable now before middle after)
    (razorpay : (before.pack sourceId).provider = .razorpay) :
    Stamps before (middle.finishRelease session sourceId
      ((before.pack sourceId).lower release now processed) usable) := by
  obtain ⟨-, ⟨returned, restored, -⟩, source, -⟩ := released
  have lowered : Stamps middle (middle.setPack sourceId
      ((before.pack sourceId).lower release now processed)) :=
    .setPack (by rw [source]; exact razorpay) (by rw [source]; rfl)
  refine {
    packsLength := restored.packsLength.ge.trans lowered.packsLength
    ledgerLength := ?_
    provider := fun id _ => ?_
    processed := fun id bound notRazorpay => ?_
    rows := fun entry member => ?_ }
  · change _ ≤ (middle.ledger ++ [_]).length
    rw [restored.ledger, List.length_append]
    omega
  · exact (column_setPack (·.provider) (by rw [source]; rfl) id).trans (restored.terms id).provider
  · have different : id ≠ sourceId := by
      rintro rfl
      exact notRazorpay razorpay
    change _ ≤ ((middle.setPack sourceId _).pack id).refundedItemAmountCentsProcessed
    rw [pack_setPack_ne different, restored.processed]
  · change entry ∈ middle.ledger ++ [_] at member
    rw [restored.ledger] at member
    refine (List.mem_append.mp member).imp id fun written => ?_
    rw [List.mem_singleton.mp written]
    exact .other (by simp [releaseEntry]) (by simp [releaseEntry])

end Release

section Settle

variable {session : Session} {disputed : Bool} {packId : Nat} {effective : Int} {tx : Tx}

theorem BillingCreditPack.Sound.lower {pack : BillingCreditPack} {processed : Int}
    (sound : pack.Sound) (partly : processed < pack.paidItemAmountCents) :
    { pack with refundedItemAmountCentsProcessed := processed }.Sound :=
  { sound with settled := fun full => absurd partly (by
      change processed = pack.paidItemAmountCents at full
      omega) }

theorem moveReversal_cases (sourced : tx.account.Sourced)
    (distinct : tx.account.debts.Pairwise fun first second =>
      first.sourcePackId ≠ second.sourcePackId)
    (priced : tx.account.Priced) (bound : packId < tx.account.packs.length)
    (nonneg : 0 ≤ effective) :
    moveReversal session disputed packId effective tx = .error .integrityError ∨
      ∃ after outcome gain, moveReversal session disputed packId effective tx =
          .ok (after, outcome) ∧
        Transferred session gain tx.account after.account ∧
        ((tx.account.pack packId).provider = .razorpay → Stamps tx.account after.account) ∧
        (tx.account.pack packId).SameTerms (after.account.pack packId) ∧
        (effective = (tx.account.pack packId).priceCents →
          (after.account.pack packId).refundedItemAmountCentsProcessed =
            (tx.account.pack packId).paidItemAmountCents) := by
  have sound := sourced.rows.packs packId
  obtain ⟨paid, processedLe, -⟩ := priced packId bound
  have price := sound.price
  simp only [moveReversal]
  split
  · -- raised: a reversal on the account swept once more
    rename_i raised
    rcases applyRefundReversal_returns session effective
        (effective = (tx.account.pack packId).priceCents) (if disputed then "dispute" else "refund")
        (some (.settlementReversal packId effective tx.account.ledger.length)) bound with
      refused | ⟨after, outcome, ran⟩
    · rw [refused]
      exact .inl rfl
    · obtain ⟨-, transferred, -, -, result⟩ := applyRefundReversal_transferred sourced priced
        (by
          rintro reason ⟨⟩
          exact ⟨fun _ => by simp, fun _ => by simp⟩) ran
      have swept := sourced.expireUserPacks (session.clock tx.reads)
      have sweptTerms := sameTerms_expireUserPacks (session.clock tx.reads) tx.account packId
      have sweptProcessed := processed_expireUserPacks (session.clock tx.reads) tx.account packId
      obtain ⟨terms, processed⟩ := pack_reverseRefund session effective
        (effective = (tx.account.pack packId).priceCents) (if disputed then "dispute" else "refund")
        (some (.settlementReversal packId effective tx.account.ledger.length)) swept
        (by rwa [packs_length_expireUserPacks]) (by rw [sweptTerms.paidItem]; exact paid)
      rw [ran]
      rw [result] at terms processed
      have stamps := @Stamps.reverseRefund session packId _ effective
        (effective = (tx.account.pack packId).priceCents) (if disputed then "dispute" else "refund")
        (some (.settlementReversal packId effective tx.account.ledger.length)) swept
        (by rwa [packs_length_expireUserPacks]) (by
          rintro reason ⟨⟩
          refine ⟨fun _ _ => by simp, fun _ _ _ same => ?_⟩
          cases same
          rw [ledger_expireUserPacks])
      rw [result] at stamps
      refine .inr ⟨after, _, _, rfl, (Transferred.expireUserPacks sourced tx.reads).trans transferred,
        fun _ => (Stamps.expireUserPacks _ _).trans stamps, sweptTerms.trans terms, fun full => ?_⟩
      rw [processed, sweptProcessed]
      have level : ((tx.account.expireUserPacks (session.clock tx.reads)).pack packId).refundLevel
          effective (effective = (tx.account.pack packId).priceCents) =
          (tx.account.pack packId).paidItemAmountCents := by
        simp [BillingCreditPack.refundLevel, full, sweptTerms.paidItem]
      rw [level]
      omega
  · split
    · -- lowered: part of the reversal is released
      rename_i notRaised lowered
      have below : effective < (tx.account.pack packId).paidItemAmountCents := by omega
      have target : 0 ≤ ((tx.account.pack packId).creditsPurchased -
          (tx.account.pack packId).creditsExpired) * effective /
            (tx.account.pack packId).priceCents := by
        have := sound.remaining
        have := sound.value
        have := sound.gap
        have := sound.gapRevoked
        exact Int.ediv_nonneg (Int.mul_nonneg (by omega) nonneg) (by omega)
      generalize ((tx.account.pack packId).creditsPurchased -
        (tx.account.pack packId).creditsExpired) * effective /
          (tx.account.pack packId).priceCents = targetRevoked at target ⊢
      rcases releaseReversal_cases session packId targetRevoked sourced distinct
          (Nat.lt_succ_self _) with ⟨-, ran⟩ | ⟨after, usable, reading, middle, released, ran⟩
      · rw [Account.fuel, ran]
        refine .inr ⟨_, _, 0, rfl, .mark session _ _ _ sourced bound (sound.lower below)
          fun settled => ⟨settled.swept packId, settled.spendable packId⟩,
          fun razorpay => .setPack razorpay rfl, ?_, fun full => by omega⟩
        change (tx.account.pack packId).SameTerms ((tx.account.setPack packId _).pack packId)
        rw [pack_setPack_self bound]
        constructor <;> rfl
      · rw [Account.fuel, ran]
        rcases flush_cases after.account with kept | refused
        · rw [kept]
          have middleBound : packId < middle.packs.length := by
            obtain ⟨_, restored, -⟩ := released.restored
            exact restored.packsLength ▸ bound
          have revoked := sound.gap.trans sound.gapRevoked
          have transferred := released.transferred sourced bound (by omega) below ⟨reading, rfl⟩
          rw [← released.lowered middleBound] at transferred
          refine .inr ⟨_, _, usable, rfl, transferred, fun razorpay => ?_, ?_, fun full => by omega⟩
          · have stamps : Stamps tx.account (middle.finishRelease session packId
                ((tx.account.pack packId).lower _ _ effective) usable) := released.stamps razorpay
            rwa [← released.lowered middleBound] at stamps
          change (tx.account.pack packId).SameTerms ((after.account.setPack packId _).pack packId)
          rw [released.lowered middleBound]
          change (tx.account.pack packId).SameTerms ((middle.setPack packId _).pack packId)
          rw [pack_setPack_self middleBound]
          constructor <;> rfl
        · rw [refused]
          exact .inl rfl
    · rename_i notRaised notLowered
      exact .inr ⟨_, _, 0, rfl, .refl session sourced, fun _ => .refl _, .refl _,
        fun full => by omega⟩

theorem effectiveCents_bounds (disputes : List BillingDispute) (refundedCents : Int)
    {pack : BillingCreditPack} (price : 0 < pack.priceCents)
    (seen : 0 ≤ pack.providerRefundedTotalCentsSeen) :
    0 ≤ effectiveCents disputes pack refundedCents ∧
      effectiveCents disputes pack refundedCents ≤ pack.priceCents := by
  simp only [effectiveCents, cashCents]
  omega

theorem settlePack_cases (session : Session) (disputes : List BillingDispute) (packId : Nat)
    (refundedCents : Int) {account : Account} (sourced : account.Sourced)
    (distinct : account.debts.Pairwise fun first second =>
      first.sourcePackId ≠ second.sourcePackId)
    (priced : account.Priced) :
    (settlePack session disputes packId refundedCents account = .error .noResultFound ∧
        account.packs.length ≤ packId) ∨
      settlePack session disputes packId refundedCents account = .error .integrityError ∨
      ∃ after outcome gain, settlePack session disputes packId refundedCents account =
          .ok (after, outcome) ∧ after.Constraints ∧
        Transferred session gain (account.expireUserPacks (session.clock 0)) after ∧
        ((account.pack packId).provider = .razorpay →
          Stamps (account.expireUserPacks (session.clock 0)) after) := by
  have swept := sourced.expireUserPacks (session.clock 0)
  have sweptPriced := priced.expireUserPacks (session.clock 0)
  have sweptDistinct : (account.expireUserPacks (session.clock 0)).debts.Pairwise
      fun first second => first.sourcePackId ≠ second.sourcePackId := by
    rwa [debts_expireUserPacks]
  have length := packs_length_expireUserPacks (session.clock 0) account
  have provider := (sameTerms_expireUserPacks (session.clock 0) account packId).provider
  simp only [settlePack]
  generalize account.expireUserPacks (session.clock 0) = start at *
  by_cases missing : start.packs.length ≤ packId
  · simp [missing, ← length, throw, throwThe, MonadExceptOf.throw, bind, Except.bind]
  right
  simp only [missing, if_false]
  have bound : packId < start.packs.length := by omega
  obtain ⟨paid, -, seen⟩ := sweptPriced packId bound
  have price := (swept.rows.packs packId).price
  obtain ⟨nonneg, -⟩ := effectiveCents_bounds disputes refundedCents (price ▸ paid) seen
  rcases @moveReversal_cases session (decide (disputedCents disputes (start.pack packId) ≠ 0))
      packId (effectiveCents disputes (start.pack packId) refundedCents)
      { account := start, reads := 1 } swept sweptDistinct sweptPriced bound nonneg with
    refused | ⟨after, outcome, gain, ran, transferred, stamps, terms, full⟩
  · rw [refused]
    exact .inl rfl
  rw [ran]
  have moved := transferred.sourced swept
  have movedBound : packId < after.account.packs.length := transferred.packsLength ▸ bound
  have sound := moved.rows.packs packId
  have settling := Transferred.mark session
    (after.account.pack packId).refundedItemAmountCentsProcessed
    (cashCents (start.pack packId) refundedCents)
    ((after.account.pack packId).settledStatus
      (decide (disputedCents disputes (start.pack packId) ≠ 0))
      (cashCents (start.pack packId) refundedCents)
      (effectiveCents disputes (start.pack packId) refundedCents) (session.clock after.reads))
    moved movedBound ?_ ?_
  · rcases flush_cases (after.account.setPack packId { after.account.pack packId with
        providerRefundedTotalCentsSeen := cashCents (start.pack packId) refundedCents
        status := (after.account.pack packId).settledStatus
          (decide (disputedCents disputes (start.pack packId) ≠ 0))
          (cashCents (start.pack packId) refundedCents)
          (effectiveCents disputes (start.pack packId) refundedCents)
          (session.clock after.reads) }) with kept | refused
    · refine .inr ⟨_, outcome, gain + 0, bind_of_ok kept _, (Account.Constraints.flush kept).2,
        transferred.trans settling, fun razorpay => ?_⟩
      rw [← provider] at razorpay
      exact (stamps razorpay).trans (.setPack (terms.provider.trans razorpay) rfl)
    · exact .inl (bind_of_error refused _)
  · have value := sound.value
    have nonneg := sound.remaining
    have fullSettled := sound.settled
    have samePrice := terms.priceCents
    have samePaid := terms.paidItem
    refine { sound with spendable := fun active => ?_, live := fun positive => ?_ }
    · simp only [BillingCreditPack.settledStatus] at active
      grind
    · simp only [BillingCreditPack.settledStatus] at positive ⊢
      grind
  · intro settled
    have swept := settled.swept packId
    have spendable := settled.spendable packId
    have steady := settled.steady packId movedBound after.reads
    have value := sound.value
    have nonneg := sound.remaining
    have fullSettled := sound.settled
    have samePrice := terms.priceCents
    have samePaid := terms.paidItem
    simp only [BillingCreditPack.settledStatus]
    constructor
    · grind
    · grind

end Settle

end Thought2Build.Billing
