import Thought2Build.Billing.AccountEdits
import Thought2Build.Billing.FreshGrants

/-!
Grants pay debts first. The loop of a grant reads the `status` column, so it finds every debt only
because a debt is `pending` exactly while something is owed.
-/

namespace Thought2Build.Billing

open Rows Account

def BillingCreditDebt.Marked (debt : BillingCreditDebt) : Prop :=
  debt.status = .pending ↔ debt.creditsRecovered < debt.creditsOwed

def Account.DebtsMarked (account : Account) : Prop := ∀ debt ∈ account.debts, debt.Marked

def Account.Audited (account : Account) : Prop :=
  ∀ entry ∈ account.ledger, ∀ debtId packId, entry.reason = .debtRecovery debtId packId →
    packId < account.packs.length

namespace BillingCreditDebt

variable {debt : BillingCreditDebt} {take amount : Int}

section

attribute [local simp] settleDebts

end

theorem Marked.recover (marked : debt.Marked) (positive : 0 < take) : (debt.recover take).Marked := by
  simp only [Marked, BillingCreditDebt.recover] at *
  grind

theorem Marked.cancel (marked : debt.Marked) (nonneg : 0 ≤ amount) :
    ({ debt with
      creditsRecovered := debt.creditsRecovered + min amount debt.outstanding
      status := if debt.creditsRecovered + min amount debt.outstanding = debt.creditsOwed
        then .recovered else debt.status } : BillingCreditDebt).Marked := by
  simp only [Marked, outstanding] at *
  grind

theorem Marked.extend (marked : debt.Marked) (positive : 0 < amount) :
    ({ debt with
      creditsOwed := debt.creditsOwed + amount
      status := if debt.creditsRecovered < debt.creditsOwed + amount then .pending
        else debt.status } : BillingCreditDebt).Marked := by
  simp only [Marked] at *
  grind

end BillingCreditDebt

section Invariants

variable {before after account : Account}

theorem Account.DebtsMarked.setDebt {id : Nat} {debt : BillingCreditDebt}
    (marked : account.DebtsMarked)
    (here : id < account.debts.length → debt.Marked) : (account.setDebt id debt).DebtsMarked := by
  by_cases bound : id < account.debts.length
  · exact checks_of_mem_set marked (here bound)
  · simp only [DebtsMarked, Account.setDebt,
      List.set_eq_of_length_le (Nat.not_lt.mp bound)]
    exact marked

theorem Edit.marked (edit : Edit before after) (marked : before.DebtsMarked) :
    after.DebtsMarked := by
  have row : ∀ id, id < before.debts.length → (before.debt id).Marked := fun id bound =>
    marked _ (mem_debts.mpr ⟨id, bound, rfl⟩)
  cases edit with
  | recover id positive => exact marked.setDebt fun bound => (row id bound).recover positive
  | cancel sourceId nonneg =>
      simp only [cancelDebt]
      split
      · exact marked.setDebt fun bound => (row _ bound).cancel nonneg
      · exact marked
  | extend session sourceId positive reasonLabel =>
      simp only [upsertRefundDebt]
      split
      · exact marked.setDebt fun bound => (row _ bound).extend positive
      · intro debt member
        rcases List.mem_append.mp member with older | newer
        · exact marked debt older
        · rw [List.mem_singleton.mp newer]
          simp [BillingCreditDebt.Marked, positive]
  | _ => exact marked

theorem Edit.audited (edit : Edit before after) (audited : before.Audited) : after.Audited := by
  cases edit with
  | packs kept =>
      intro entry member debtId packId same
      exact (audited entry member debtId packId same).trans_le kept
  | cancel sourceId nonneg =>
      simp only [cancelDebt]
      split <;> exact audited
  | extend session sourceId positive reasonLabel =>
      simp only [upsertRefundDebt]
      split <;> exact audited
  | write names =>
      intro entry member debtId packId same
      rcases List.mem_append.mp member with older | newer
      · exact audited entry older debtId packId same
      · rw [List.mem_singleton.mp newer] at same
        exact names debtId packId same
  | amend id same =>
      intro entry member debtId packId is
      rcases mem_modify member with older | ⟨former, found, rfl⟩
      · exact audited entry older debtId packId is
      · exact audited former (List.mem_of_getElem? found) debtId packId (same former ▸ is)
  | _ => exact audited

theorem Account.DebtsMarked.reached (userId : Nat) (balance : Int) {steps : List Step}
    (admissible : Admissible steps) :
    ((Account.opened userId balance).run steps).DebtsMarked :=
  (run_edits admissible).keep (fun _ _ edit => edit.marked) fun _ member => nomatch member

theorem Account.Audited.reached (userId : Nat) (balance : Int) {steps : List Step}
    (admissible : Admissible steps) : ((Account.opened userId balance).run steps).Audited :=
  (run_edits admissible).keep (fun _ _ edit => edit.audited) fun _ member => nomatch member

end Invariants

theorem debt_settleDebt (session : Session) (account : Account) (packId id other : Nat)
    (take : Int) :
    (account.settleDebt session packId id take).debt other =
      if other = id ∧ id < account.debts.length then (account.debt id).recover take
      else account.debt other :=
  @debt_setDebt account id _ other

/-- What `settleDebts` does to the debts `ids`, of which it leaves `left` credits of `granted`. -/
structure PaidFirst (ids : List Nat) (granted left : Int) (before after : Account) : Prop where
  bounds : 0 ≤ left ∧ left ≤ granted
  length : after.debts.length = before.debts.length
  total : after.totalOutstanding = before.totalOutstanding - (granted - left)
  untouched : ∀ id ∉ ids, after.debt id = before.debt id
  covered : ∀ id ∈ ids, 0 ≤ (after.debt id).outstanding
  exhausted : 0 < left → ∀ id ∈ ids, (after.debt id).outstanding = 0
  ordered : ids.Pairwise fun earlier later =>
    after.debt later ≠ before.debt later → (after.debt earlier).outstanding = 0

section Loop

variable {packId : Nat} {ids : List Nat} {granted : Int}
  {account : Account}

theorem totalOutstanding_settleDebt (session : Session) (packId : Nat) (take : Int) {id : Nat}
    (bound : id < account.debts.length) :
    (account.settleDebt session packId id take).totalOutstanding =
      account.totalOutstanding - take := by
  change sumOf _ (account.debts.set id ((account.debt id).recover take)) = _
  rw [sumOf_set (getElem?_of_lt bound default)]
  change _ - (account.debt id).outstanding + ((account.debt id).recover take).outstanding = _
  simp only [BillingCreditDebt.outstanding, BillingCreditDebt.recover, totalOutstanding]
  omega

theorem PaidFirst.nothing (nonneg : ∀ id ∈ ids, 0 ≤ (account.debt id).outstanding) :
    PaidFirst ids 0 0 account account where
  bounds := ⟨le_rfl, le_rfl⟩
  length := rfl
  total := by omega
  untouched _ _ := rfl
  covered := nonneg
  exhausted some := absurd some (lt_irrefl 0)
  ordered := List.pairwise_of_forall fun _ _ changed => absurd rfl changed

theorem settleDebts_spent (session : Session) (packId : Nat) (ids : List Nat)
    (spent : granted ≤ 0) (account : Account) :
    settleDebts session packId ids granted account = (account, granted) := by
  cases ids with
  | nil => rfl
  | cons id ids => rw [settleDebts, if_pos spent]

theorem settleDebts_paidFirst (session : Session) (packId : Nat)
    (bounds : ∀ id ∈ ids, id < account.debts.length) (once : ids.Nodup)
    (nonneg : ∀ id ∈ ids, 0 ≤ (account.debt id).outstanding) (available : 0 ≤ granted) :
    let result := settleDebts session packId ids granted account
    PaidFirst ids granted result.2 account result.1 := by
  induction ids generalizing granted account with
  | nil =>
      exact {
        bounds := ⟨available, le_rfl⟩
        length := rfl
        total := by simp [settleDebts]
        untouched := fun _ _ => rfl
        covered := fun _ member => nomatch member
        exhausted := fun _ _ member => nomatch member
        ordered := .nil }
  | cons id ids ih =>
      obtain ⟨fresh, once⟩ := List.nodup_cons.mp once
      have here := nonneg id List.mem_cons_self
      have bound := bounds id List.mem_cons_self
      have laterBounds := fun other member => bounds other (List.mem_cons_of_mem id member)
      have laterNonneg := fun other member => nonneg other (List.mem_cons_of_mem id member)
      have most := min_le_left granted (account.debt id).outstanding
      have least := min_le_right granted (account.debt id).outstanding
      have whole := min_choice granted (account.debt id).outstanding
      rw [settleDebts]
      change
        let take := min granted (account.debt id).outstanding
        let result :=
          if granted ≤ 0 then (account, granted)
          else if take ≤ 0 then settleDebts session packId ids granted account
          else settleDebts session packId ids (granted - take) (account.settleDebt session packId id take)
        PaidFirst _ granted result.2 account result.1
      dsimp only
      generalize min granted (account.debt id).outstanding = take at most least whole ⊢
      by_cases spent : granted ≤ 0
      · obtain rfl : granted = 0 := le_antisymm spent available
        rw [if_pos spent]
        exact .nothing nonneg
      rw [if_neg spent]
      by_cases settled : take ≤ 0
      · -- the debt is fully recovered already
        have nothing : (account.debt id).outstanding = 0 := by
          clear * - here spent settled whole
          omega
        rw [if_pos settled]
        have later := ih laterBounds once laterNonneg available
        generalize settleDebts session packId ids granted account = result at later
        have kept := later.untouched id fresh
        refine ⟨later.bounds, later.length, later.total, fun other absent => ?_, fun other member =>
          ?_, fun some other member => ?_, ?_⟩
        · exact later.untouched other fun member => absent (List.mem_cons_of_mem _ member)
        · rcases List.mem_cons.mp member with rfl | member
          · rw [kept, nothing]
          · exact later.covered other member
        · rcases List.mem_cons.mp member with rfl | member
          · rw [kept, nothing]
          · exact later.exhausted some other member
        · exact List.pairwise_cons.mpr ⟨fun _ _ _ => by rw [kept, nothing], later.ordered⟩
      · rw [if_neg settled]
        have step := fun other => debt_settleDebt session account packId id other take
        have moved := totalOutstanding_settleDebt session packId take bound
        have length : (account.settleDebt session packId id take).debts.length = account.debts.length :=
          List.length_set
        generalize account.settleDebt session packId id take = middle at step moved length ⊢
        have sameLater : ∀ other ∈ ids, middle.debt other = account.debt other := by
          intro other member
          rw [step, if_neg]
          rintro ⟨rfl, -⟩
          exact fresh member
        have own : (middle.debt id).outstanding =
            (account.debt id).outstanding - take := by
          rw [step, if_pos ⟨rfl, bound⟩]
          exact sub_add_eq_sub_sub _ _ _
        have later := @ih (granted - take) middle
          (fun other member => length ▸ laterBounds other member) once
          (fun other member => sameLater other member ▸ laterNonneg other member) (sub_nonneg.mpr most)
        have idle := fun spent => @settleDebts_spent (granted - take) session packId ids spent middle
        generalize settleDebts session packId ids _ middle = result at later idle
        have kept := later.untouched id fresh
        have remains := later.bounds.2
        refine ⟨⟨later.bounds.1, remains.trans (sub_le_self _ (not_le.mp settled).le)⟩, later.length.trans length,
          by rw [later.total, moved]; clear * -; omega, fun other absent => ?_, fun other member => ?_,
          fun some other member => ?_, List.pairwise_cons.mpr ⟨fun other member changed => ?_, ?_⟩⟩
        · obtain ⟨different, absent⟩ := not_or.mp (mt List.mem_cons.mpr absent)
          rw [later.untouched other absent, step, if_neg fun same => different same.1]
        · rcases List.mem_cons.mp member with rfl | member
          · rw [kept, own]
            exact sub_nonneg.mpr least
          · exact later.covered other member
        · rcases List.mem_cons.mp member with rfl | member
          · rw [kept, own]
            clear * - some remains whole
            omega
          · exact later.exhausted some other member
        · -- a later debt is only reached when this one took less than there was
          rw [kept, own]
          by_contra owing
          have spent : granted - take ≤ 0 := by
            clear * - owing whole
            omega
          have unchanged : result.1 = middle := by rw [idle spent]
          rw [unchanged, sameLater other member] at changed
          exact changed rfl
        · refine later.ordered.imp_of_mem fun earlier member paid changed => paid ?_
          rwa [sameLater _ member]

end Loop

section Grant

variable {session : Session} {packId : Nat} {granted : Int} {ledgerReason : LedgerReason}
  {account after : Account} {terms : PackTerms}

/-- A grant of `granted` credits: debts first and the oldest first, the rest to the balance. -/
structure DebtFirst (granted : Int) (before after : Account) : Prop where
  outstanding : after.totalOutstanding =
    before.totalOutstanding - min granted before.totalOutstanding
  creditBalance : after.creditBalance =
    before.creditBalance + (granted - min granted before.totalOutstanding)
  oldestFirst : ∀ older newer, older < before.debts.length → newer < before.debts.length →
    (before.debt older).createdAt < (before.debt newer).createdAt →
    after.debt newer ≠ before.debt newer → (after.debt older).outstanding = 0

def Account.pendingDebts (account : Account) (session : Session) : List Nat :=
  (scan (fun id => (account.debt id).createdAt) session.scanRank account.debts.length).filter
    fun id => (account.debt id).status = .pending

theorem outstanding_nonneg (checks : ∀ debt ∈ account.debts, debt.Checks) (id : Nat) :
    0 ≤ (account.debt id).outstanding := by
  refine getD_cases (motive := fun debt : BillingCreditDebt => 0 ≤ debt.outstanding) (by decide) ?_ id
  intro debt member
  have := (checks debt member).2.2
  simp only [BillingCreditDebt.outstanding]
  omega

theorem outstanding_settled (marked : account.DebtsMarked)
    (checks : ∀ debt ∈ account.debts, debt.Checks) {id : Nat} (bound : id < account.debts.length)
    (settled : (account.debt id).status ≠ .pending) : (account.debt id).outstanding = 0 := by
  have member := mem_debts.mpr ⟨id, bound, rfl⟩
  have owed := (checks _ member).2.2
  have full := mt (marked _ member).mpr settled
  simp only [BillingCreditDebt.outstanding]
  omega

theorem mem_pendingDebts {id : Nat} :
    id ∈ account.pendingDebts session ↔
      id < account.debts.length ∧ (account.debt id).status = .pending := by
  simp [Account.pendingDebts, List.mem_filter]

theorem PaidFirst.oldestFirst {left : Int}
    (paid : PaidFirst (account.pendingDebts session) granted left account after)
    {older newer : Nat} (olderPending : older ∈ account.pendingDebts session)
    (newerPending : newer ∈ account.pendingDebts session)
    (earlier : (account.debt older).createdAt < (account.debt newer).createdAt)
    (changed : after.debt newer ≠ account.debt newer) : (after.debt older).outstanding = 0 := by
  obtain ⟨place, placed, rfl⟩ := List.getElem_of_mem olderPending
  obtain ⟨other, otherPlaced, rfl⟩ := List.getElem_of_mem newerPending
  rcases lt_trichotomy place other with before | rfl | behind
  · exact List.pairwise_iff_getElem.mp paid.ordered place other placed otherPlaced before changed
  · exact absurd earlier (lt_irrefl _)
  · have sorted := (scan_sorted (fun id => (account.debt id).createdAt) session.scanRank
      account.debts.length).filter fun id => (account.debt id).status = .pending
    have ordered := List.pairwise_iff_getElem.mp sorted other place otherPlaced placed behind
    exact absurd earlier (not_lt.mpr ordered)

theorem PaidFirst.total_eq {left : Int} (marked : account.DebtsMarked)
    (checks : ∀ debt ∈ account.debts, debt.Checks)
    (paid : PaidFirst (account.pendingDebts session) granted left account after) :
    granted - left = min granted account.totalOutstanding := by
  have rows : ∀ id < account.debts.length,
      0 ≤ (after.debt id).outstanding ∧ (0 < left → (after.debt id).outstanding = 0) := by
    intro id bound
    by_cases pending : (account.debt id).status = .pending
    · have member : id ∈ account.pendingDebts session := mem_pendingDebts.mpr ⟨bound, pending⟩
      exact ⟨paid.covered id member, fun some => paid.exhausted some id member⟩
    · have untouched := paid.untouched id fun member => pending (mem_pendingDebts.mp member).2
      rw [untouched, outstanding_settled marked checks bound pending]
      exact ⟨le_rfl, fun _ => rfl⟩
  have atRow : ∀ debt ∈ after.debts, 0 ≤ debt.outstanding ∧ (0 < left → debt.outstanding = 0) := by
    intro debt member
    obtain ⟨id, bound, rfl⟩ := mem_debts.mp member
    exact rows id (paid.length ▸ bound)
  have nonneg : 0 ≤ after.totalOutstanding := sumOf_nonneg fun debt member => (atRow debt member).1
  have total := paid.total
  have bounds := paid.bounds
  by_cases some : 0 < left
  · have zero : after.totalOutstanding = 0 := sumOf_zero fun debt member => (atRow debt member).2 some
    omega
  · omega

theorem grantCredits_debtFirst (rows : account.RowsSound) (marked : account.DebtsMarked)
    (checks : ∀ debt ∈ account.debts, debt.Checks) (nonneg : 0 ≤ granted)
    (bound : packId < account.packs.length)
    (available : granted ≤ (account.pack packId).creditsRemaining)
    (ran : grantCreditsWithDebtRecovery session packId granted ledgerReason account = some after) :
    DebtFirst granted account after := by
  obtain ⟨rfl, -⟩ := Account.Constraints.flush (Except.toOption_eq_some ran)
  have listed : ∀ id ∈ account.pendingDebts session, id < account.debts.length :=
    fun id member => (mem_pendingDebts.mp member).1
  obtain ⟨-, settling⟩ := settleDebts_settling session rows bound listed nonneg available
  have paid := settleDebts_paidFirst session packId listed ((scan_nodup _ _ _).filter _)
    (fun id _ => outstanding_nonneg checks id) nonneg
  have total := paid.total_eq marked checks
  change let result := settleDebts session packId (account.pendingDebts session) granted account
    DebtFirst granted account
      ((result.1.addBalance result.2).addLedger (grantEntry session result.2 ledgerReason))
  generalize settleDebts session packId (account.pendingDebts session) granted account = result
    at settling paid total ⊢
  refine ⟨?_, ?_, fun older newer olderBound newerBound earlier changed => ?_⟩
  · change result.1.totalOutstanding = _
    rw [paid.total, total]
  · change result.1.creditBalance + result.2 = _
    rw [settling.creditBalance]
    omega
  · change result.1.debt newer ≠ _ at changed
    change (result.1.debt older).outstanding = 0
    have newerPending : newer ∈ account.pendingDebts session := by
      by_contra absent
      exact changed (paid.untouched newer absent)
    by_cases olderPending : older ∈ account.pendingDebts session
    · exact paid.oldestFirst olderPending newerPending earlier changed
    · have settled := mt (fun pending => mem_pendingDebts.mpr ⟨olderBound, pending⟩) olderPending
      rw [paid.untouched older olderPending, outstanding_settled marked checks olderBound settled]

theorem pack_addPack_self (account : Account) (pack : BillingCreditPack) :
    (account.addPack pack).pack account.packs.length = pack := by
  rw [pack_addPack, if_pos rfl]

theorem Account.Distinct.addPack (inserted : (account.addPack terms.pack).Constraints) :
    ∀ pack ∈ account.packs, pack.Distinct terms.pack := fun pack member =>
  (List.pairwise_append.mp inserted.packsDistinct).2.2 pack member _ (List.mem_singleton_self _)

theorem grantCredits_refused_iff (sound : account.Sound) (audited : account.Audited)
    (inserted : (account.addPack terms.pack).Constraints)
    (admissible : (Operation.grant terms ledgerReason).Admissible) :
    grantCreditsWithDebtRecovery session account.packs.length terms.credits ledgerReason
        (account.addPack terms.pack) = none ↔
      ∃ entry ∈ account.ledger, entry.reason = ledgerReason := by
  constructor
  · intro refused
    by_contra unwritten
    obtain ⟨-, after, ran⟩ := grant_commits session sound.toConstraints
      ⟨sound.entries, audited⟩ (inserted.packs _ (by simp [Account.addPack]))
      (Account.Distinct.addPack inserted)
      (fun entry member same => unwritten ⟨entry, member, same⟩) admissible.purchase
    exact absurd (refused.symm.trans ran) (by simp)
  · rintro ⟨entry, member, same⟩
    have checks := inserted.packs terms.pack (by simp [Account.addPack])
    cases ran : grantCreditsWithDebtRecovery session account.packs.length terms.credits
        ledgerReason (account.addPack terms.pack) with
    | none => rfl
    | some after =>
        obtain ⟨left, settled, -, settling, rfl, constraints⟩ := grantCredits_settling
          (sound.rows.addPack (PackTerms.sound checks)) (packs_length_addPack account _)
          checks.1.le (by rw [pack_addPack_self]; exact le_rfl) ran
        obtain ⟨written, ledger, -⟩ := settling.ledger
        have kept : entry ∈ settled.ledger := by
          rw [ledger]
          exact List.mem_append_left _ member
        have unique : entry.reason.unique = true := by
          rw [same]
          cases ledgerReason <;> first | rfl | exact admissible.elim
        exact absurd ⟨unique, same⟩
          ((List.pairwise_append.mp constraints.ledgerReasons).2.2 entry kept _
            (List.mem_singleton_self _))

end Grant

/-- In every reached account a debt is pending exactly while it is owed, and a grant of a fresh
pack pays debts first, the oldest first; a grant whose reason is in the ledger changes nothing. -/
theorem grants_pay_debts_first (userId : Nat) (balance : Int) (steps : List Step)
    (admissible : Admissible steps) :
    let account := (Account.opened userId balance).run steps
    (∀ debt ∈ account.debts, debt.status = .pending ↔ debt.creditsRecovered < debt.creditsOwed) ∧
    ∀ session terms ledgerReason, (Operation.grant terms ledgerReason).Admissible →
      (account.addPack terms.pack).Constraints →
      0 < terms.credits ∧
      (∀ after, grantCreditsWithDebtRecovery session account.packs.length terms.credits
          ledgerReason (account.addPack terms.pack) = some after →
        DebtFirst terms.credits account after ∧
        (0 < after.totalOutstanding → after.creditBalance = account.creditBalance)) ∧
      (grantCreditsWithDebtRecovery session account.packs.length terms.credits ledgerReason
          (account.addPack terms.pack) = none ↔
        ∃ entry ∈ account.ledger, entry.reason = ledgerReason) ∧
      ((∃ entry ∈ account.ledger, entry.reason = ledgerReason) →
        Step.after ⟨session, .grant terms ledgerReason⟩ account = account) := by
  intro account
  have sound := Account.Sound.reached userId balance admissible
  have marked := Account.DebtsMarked.reached userId balance admissible
  have audited := Account.Audited.reached userId balance admissible
  refine ⟨marked, fun session terms ledgerReason grantable inserted => ?_⟩
  have checks := inserted.packs terms.pack (by simp [Account.addPack])
  have refused := @grantCredits_refused_iff session ledgerReason account terms sound audited
    inserted grantable
  refine ⟨checks.1, fun after ran => ?_, refused, fun written => ?_⟩
  · have paid : DebtFirst terms.credits account after := by
      obtain ⟨outstanding, creditBalance, oldestFirst⟩ := grantCredits_debtFirst
        (sound.rows.addPack (PackTerms.sound checks)) marked sound.debts checks.1.le
        (packs_length_addPack account _) (by rw [pack_addPack_self]; exact le_rfl) ran
      exact ⟨outstanding, creditBalance, oldestFirst⟩
    refine ⟨paid, fun owing => ?_⟩
    have outstanding := paid.outstanding
    have creditBalance := paid.creditBalance
    omega
  · have committed : flush (account.addPack terms.pack) = .ok _ := if_pos inserted
    have kept : grant session terms ledgerReason account = .ok account := by
      change (flush (account.addPack terms.pack) >>= fun inserted => _) = _
      rw [bind_of_ok committed, refused.mpr written]
    simp only [Step.after, Operation.step, Operation.perform, kept]

theorem grants_pay_debts_first_refundedPurchase :
    let account := (Account.opened 0 0).run refundedPurchase
    ∃ after, grantCreditsWithDebtRecovery (.at 4) 1 10 (.billingPurchase .lemonsqueezy "next")
        (account.addPack (lemonTerms "next" 10 4 100).pack) = some after ∧
      DebtFirst 10 account after ∧ after.creditBalance = 7 := by
  intro account
  obtain ⟨after, ran, seven⟩ : ∃ after, grantCreditsWithDebtRecovery (.at 4) 1 10
      (.billingPurchase .lemonsqueezy "next")
      (account.addPack (lemonTerms "next" 10 4 100).pack) = some after ∧
        after.creditBalance = 7 := ⟨_, rfl, by decide⟩
  exact ⟨after, ran, (((grants_pay_debts_first 0 0 refundedPurchase (by decide)).2 (.at 4)
    (lemonTerms "next" 10 4 100) (.billingPurchase .lemonsqueezy "next") trivial
    (by decide)).2.1 after ran).1, seven⟩

end Thought2Build.Billing
