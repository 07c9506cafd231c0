import Thought2Build.Billing.Runs

/-!
Every account that a run of operations reaches: the bounds on its packs, the provenance of
their counters, and the end of every restore.
-/

namespace Thought2Build.Billing

open Rows Account

def BillingCreditPack.FullyReversed (pack : BillingCreditPack) : Prop :=
  pack.creditsRevoked = pack.creditsPurchased - pack.creditsExpired

def BillingCreditPack.Spent (pack : BillingCreditPack) : Prop :=
  pack.creditsRemaining = 0 ∧ pack.status ≠ .active

theorem BillingCreditPack.Sound.spent {pack : BillingCreditPack} (sound : pack.Sound)
    (full : pack.creditsPurchased ≤ pack.creditsExpired + pack.creditsRevoked) : pack.Spent := by
  refine ⟨?_, fun active => ?_⟩
  · have := sound.remaining
    have := sound.value
    omega
  · have := sound.spendable active
    omega

theorem BillingCreditPack.FullyReversed.stays {before after : Account} {id : Nat}
    (reversed : (before.pack id).FullyReversed) (bound : id < before.packs.length)
    (ages : Ages before after) (sound : after.Sound)
    (kept : (before.pack id).creditsRevoked ≤ (after.pack id).creditsRevoked) :
    (after.pack id).Spent := by
  apply (sound.rows.packs id).spent
  have expired := ages.expiredMono id bound
  have terms := ages.sameTerms id bound
  rw [BillingCreditPack.FullyReversed] at reversed
  rw [terms.purchased]
  omega

theorem creditsRevoked_refund {session : Session} {fuel ledgerEntryId : Nat}
    {userId : Option Nat} {before after : Account} {amount : Int} (sound : before.Sound)
    (ran : refund session fuel ledgerEntryId userId before = .ok (after, amount)) (id : Nat) :
    (after.pack id).creditsRevoked = (before.pack id).creditsRevoked := by
  rcases refund_cases sound.rows sound.toBooked ran with
    rfl | ⟨original, -, -, -, ⟨-, legacy⟩ | ⟨record, usable, -, refunded⟩⟩
  · rfl
  · rw [legacy.result]
    rfl
  · rw [refunded.restored.revoked]
    change ((before.expireUserPacks _).pack id).creditsRevoked = _
    rw [pack_expireUserPacks]
    split <;> rfl

theorem creditsRevoked_refundStep {account : Account} (sound : account.Sound) (session : Session)
    (ledgerEntryId : Nat) (userId : Option Nat) (id : Nat) :
    ((Step.after ⟨session, .refund ledgerEntryId userId⟩ account).pack id).creditsRevoked =
      (account.pack id).creditsRevoked := by
  simp only [Step.after, Operation.step, Operation.perform]
  cases ran : refund session account.fuel ledgerEntryId userId account with
  | error error => rfl
  | ok result => exact creditsRevoked_refund sound ran id

/-- Per-pack accounting of every reached account. A full reversal leaves the pack spent, through
any refund and any further run that does not bring its revoked credits down. -/
theorem pack_accounting (userId : Nat) (balance : Int) (steps : List Step)
    (admissible : Admissible steps) :
    let account := (Account.opened userId balance).run steps
    (∀ pack ∈ account.packs,
      (0 ≤ pack.creditsRemaining ∧ 0 ≤ pack.creditsConsumed ∧ 0 ≤ pack.creditsExpired ∧
        0 ≤ pack.creditsDebtRecovered ∧ 0 ≤ pack.creditsRevoked) ∧
      pack.accounted ≤ pack.creditsPurchased ∧ pack.gap ≤ pack.creditsRevoked ∧
      pack.creditsRemaining + pack.creditsExpired + pack.creditsRevoked ≤
        pack.creditsPurchased) ∧
    ∀ id < account.packs.length, (account.pack id).FullyReversed →
      (account.pack id).Spent ∧
      (∀ session ledgerEntryId userId,
        ((Step.after ⟨session, .refund ledgerEntryId userId⟩ account).pack id).Spent) ∧
      ∀ later, Admissible later →
        (account.pack id).creditsRevoked ≤ ((account.run later).pack id).creditsRevoked →
        ((account.run later).pack id).Spent := by
  intro account
  have sound := Account.Sound.reached userId balance admissible
  refine ⟨fun pack member => ?_, fun id bound reversed => ⟨?_, ?_, ?_⟩⟩
  · obtain ⟨id, -, rfl⟩ := mem_packs.mp member
    have pack : (account.pack id).Sound := sound.rows.packs id
    have gap := pack.gap
    have revoked := gap.trans pack.gapRevoked
    simp only [BillingCreditPack.gap] at gap
    exact ⟨⟨pack.remaining, pack.consumed, pack.expired, pack.recovered, revoked⟩, by omega,
      pack.gapRevoked, pack.value⟩
  · exact reversed.stays bound (.refl account) sound le_rfl
  · intro session ledgerEntryId userId
    obtain ⟨kept, ages⟩ := @Step.sound account ⟨session, .refund ledgerEntryId userId⟩ sound trivial
    exact reversed.stays bound ages kept
      (creditsRevoked_refundStep sound session ledgerEntryId userId id).ge
  · intro later admissible unlowered
    obtain ⟨kept, ages⟩ := sound.run admissible
    exact reversed.stays bound ages kept unlowered

theorem pack_accounting_refundedPurchase :
    ((Step.after ⟨.at 3, .refund 1 none⟩ ((Account.opened 0 0).run refundedPurchase)).pack
      0).Spent :=
  ((pack_accounting 0 0 refundedPurchase (by decide)).2 0 (by decide) (by rfl)).2.1 (.at 3) 1 none

def CreditError.LacksProvenance : CreditError → Prop
  | .incompleteAllocationHistory | .allocationExceedsSource | .legacyRecoveryRepair => True
  | _ => False

theorem refund_operation {session : Session} {fuel ledgerEntryId : Nat} {userId : Option Nat}
    {account : Account} {entry : CreditLedger} {label : String} (sound : account.Sound)
    (enough : account.packs.length < fuel) (found : account.ledger[ledgerEntryId]? = some entry)
    (operation : entry.reason = .operation label) :
    ∃ result, refund session fuel ledgerEntryId userId account = .ok result := by
  cases recorded : entry.metadata with
  | some record => exact refund_returns sound enough found recorded
  | none =>
      have filed := sound.filed entry (List.mem_of_getElem? found)
      have nonneg := filed.deductions label operation recorded
      exact ⟨_, by simp only [refund, found]; rw [if_pos nonneg]⟩

theorem releaseReversal_returns (session : Session) (fuel sourceId : Nat) (target : Int)
    {tx : Tx} (sourced : tx.account.Sourced)
    (distinct : tx.account.debts.Pairwise fun first second =>
      first.sourcePackId ≠ second.sourcePackId)
    (enough : tx.account.packs.length < fuel) :
    releaseReversal session fuel sourceId target tx = .error .integrityError ∨
      ∃ after, releaseReversal session fuel sourceId target tx = .ok after := by
  rcases releaseReversal_cases session sourceId target sourced distinct enough with
    ⟨-, ran⟩ | ⟨after, usable, reading, middle, -, ran⟩
  · exact .inr ⟨tx, ran⟩
  · rw [ran]
    rcases flush_cases after.account with kept | refused
    · rw [kept]
      exact .inr ⟨_, rfl⟩
    · rw [refused]
      exact .inl rfl

theorem settlePack_error {session : Session} {disputes : List BillingDispute} {packId : Nat}
    {refundedCents : Int} {account : Account} {error : CreditError} (sound : account.Sound)
    (raised : settlePack session disputes packId refundedCents account = .error error) :
    error = .noResultFound ∨ error = .integrityError := by
  rcases settlePack_cases session disputes packId refundedCents sound.toSourced sound.debtSources
      sound.toConstraints.priced with ⟨missing, -⟩ | refused | ⟨_, _, _, result, -⟩
  · exact .inl (Except.error.inj (raised.symm.trans missing))
  · exact .inr (Except.error.inj (raised.symm.trans refused))
  · cases raised.symm.trans result

/-- Debts and allocations account for every counter of a reached account, so no refund of an
operation, no release and no settlement lacks provenance. -/
theorem provenance_sufficient (userId : Nat) (balance : Int) (steps : List Step)
    (admissible : Admissible steps) :
    let account := (Account.opened userId balance).run steps
    (∀ id, (account.pack id).creditsRevoked - (account.pack id).gap =
      account.owedTo id + account.recoveringFor id) ∧
    (∀ id, (account.pack id).creditsDebtRecovered = account.recoveredFrom id) ∧
    (∀ id, (account.pack id).creditsConsumed = account.consumedFrom id) ∧
    (∀ session ledgerEntryId userId entry label, account.ledger[ledgerEntryId]? = some entry →
      entry.reason = .operation label →
      ∃ result, refund session account.fuel ledgerEntryId userId account = .ok result) ∧
    (∀ session sourceId target reads error, error.LacksProvenance →
      releaseReversal session account.fuel sourceId target { account, reads } ≠ .error error) ∧
    ∀ session disputes packId refundedCents error, error.LacksProvenance →
      settlePack session disputes packId refundedCents account ≠ .error error := by
  intro account
  have sound := Account.Sound.reached userId balance admissible
  refine ⟨fun id => ?_, fun id => ?_, fun id => ?_, ?_, ?_, ?_⟩
  · exact Int.sub_eq_zero.mp (sound.excess id)
  · exact Int.sub_eq_zero.mp (sound.recovered id)
  · exact Int.sub_eq_zero.mp (sound.consumed id)
  · intro session ledgerEntryId userId entry label found operation
    exact refund_operation sound (Nat.lt_succ_self _) found operation
  · intro session sourceId target reads error lacks raised
    rcases @releaseReversal_returns session account.fuel sourceId target { account, reads }
        sound.toSourced sound.debtSources (Nat.lt_succ_self _) with refused | ⟨after, ran⟩
    · cases raised.symm.trans refused
      exact lacks
    · cases raised.symm.trans ran
  · intro session disputes packId refundedCents error lacks raised
    rcases settlePack_error sound raised with rfl | rfl <;> exact lacks

theorem provenance_sufficient_refundedPurchase :
    ∃ result, refund (.at 3) (((Account.opened 0 0).run refundedPurchase).fuel) 1 none
      ((Account.opened 0 0).run refundedPurchase) = .ok result :=
  (provenance_sufficient 0 0 refundedPurchase (by decide)).2.2.2.1 (.at 3) 1 none _ "generate"
    (by rfl) (by rfl)

theorem refund_terminates {session : Session} {fuel ledgerEntryId : Nat} {userId : Option Nat}
    {account : Account} (sound : account.Sound) (enough : account.packs.length < fuel) :
    refund session fuel ledgerEntryId userId account ≠ .error .recursionLimit := by
  intro raised
  cases found : account.ledger[ledgerEntryId]? with
  | none => simp [refund, found] at raised
  | some entry =>
      cases recorded : entry.metadata with
      | some record =>
          obtain ⟨result, ran⟩ := refund_returns sound enough found recorded
          cases raised.symm.trans ran
      | none =>
          -- the legacy branch restores nothing
          simp only [refund, found, refundSavepoint, recorded, refundSavepoint.legacy] at raised
          split_ifs at raised
          · cases raised
          · rcases flush_cases (account.addLedger {
                amount := |entry.amount|, reason := .refund ledgerEntryId, metadata := none
                createdAt := session.clock 0 }) with kept | refused
            · rw [kept] at raised
              cases raised
            · rw [refused] at raised
              cases raised

/-- `donates` never runs in a circle, so with a level of fuel for each pack every refund and every
release ends, and further fuel changes nothing. -/
theorem restores_terminate (userId : Nat) (balance : Int) (steps : List Step)
    (admissible : Admissible steps) :
    let account := (Account.opened userId balance).run steps
    (∀ id, ¬Relation.TransGen account.Donates id id) ∧
    (∀ id, 0 < (account.pack id).creditsRemaining →
      (account.pack id).creditsRevoked = (account.pack id).gap) ∧
    ∀ session fuel, account.packs.length < fuel →
      (∀ ledgerEntryId userId,
        refund session fuel ledgerEntryId userId account ≠ .error .recursionLimit ∧
        refund session fuel ledgerEntryId userId account =
          refund session account.fuel ledgerEntryId userId account) ∧
      ∀ sourceId target reads,
        releaseReversal session fuel sourceId target { account, reads } ≠
          .error .recursionLimit ∧
        releaseReversal session fuel sourceId target { account, reads } =
          releaseReversal session account.fuel sourceId target { account, reads } := by
  intro account
  have sound := Account.Sound.reached userId balance admissible
  refine ⟨sound.ranked.acyclic, fun id => (sound.rows.packs id).clean,
    fun session fuel enough => ⟨fun ledgerEntryId userId => ⟨refund_terminates sound enough,
      refund_fuel ledgerEntryId userId sound enough⟩, fun sourceId target reads => ⟨?_, ?_⟩⟩⟩
  · rcases @releaseReversal_returns session fuel sourceId target { account, reads }
        sound.toSourced sound.debtSources enough with refused | ⟨after, ran⟩
    · rw [refused]
      nofun
    · rw [ran]
      nofun
  · exact @releaseReversal_fuel session fuel sourceId target { account, reads } sound.toSourced
      sound.debtSources enough

theorem restores_terminate_refundedPurchase :
    refund (.at 3) 2 1 none ((Account.opened 0 0).run refundedPurchase) ≠
      .error .recursionLimit :=
  (((restores_terminate 0 0 refundedPurchase (by decide)).2.2 (.at 3) 2 (by decide)).1 1 none).1

end Thought2Build.Billing
