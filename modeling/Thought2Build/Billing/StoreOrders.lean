import Thought2Build.Billing.RazorpayHandlersCore
import Thought2Build.Billing.FreshGrants
import Thought2Build.Billing.Runs

/-!
Which orders have packs. A grant adds the one pack of its order; nothing else that the handlers do
adds a pack or changes the order of one.
-/

namespace Thought2Build.Billing

open Rows Account

structure Account.SameOrders (before after : Account) : Prop where
  length : after.packs.length = before.packs.length
  terms : ∀ id, (before.pack id).SameTerms (after.pack id)

namespace BillingStore

variable {store before after : BillingStore} {user : Nat} {position : Nat × Nat}
  {provider : Provider} {orderId : String}

def Holds (store : BillingStore) (provider : Provider) (orderId : String) (position : Nat × Nat) :
    Prop :=
  position ∈ store.packIds ∧ (store.pack position).provider = provider ∧
    (store.pack position).providerOrderId = some orderId

instance (position : Nat × Nat) : Decidable (store.Holds provider orderId position) :=
  inferInstanceAs (Decidable (_ ∧ _))

theorem mem_packIds : position ∈ store.packIds ↔
    position.1 < store.accounts.length ∧ position.2 < (store.account position.1).packs.length := by
  obtain ⟨user, id⟩ := position
  simp only [packIds, List.mem_flatMap, List.mem_range, List.mem_map, Prod.mk.injEq]
  constructor
  · rintro ⟨owner, bound, pack, inside, rfl, rfl⟩
    exact ⟨bound, inside⟩
  · rintro ⟨bound, inside⟩
    exact ⟨user, bound, id, inside, rfl, rfl⟩

theorem account_setAccount (account : Account) (bound : user < store.accounts.length)
    (other : Nat) : (store.setAccount user account).account other =
      if other = user then account else store.account other := by
  simp only [BillingStore.account, setAccount, getD_set, bound, and_true]

@[simp] theorem length_setAccount (account : Account) :
    (store.setAccount user account).accounts.length = store.accounts.length :=
  List.length_set

theorem packOfOrder_isSome : (store.packOfOrder provider orderId).isSome ↔
    ∃ position, store.Holds provider orderId position := by
  simp only [packOfOrder, List.find?_isSome, Holds, Bool.and_eq_true, decide_eq_true_eq]

theorem packOfOrder_holds (found : store.packOfOrder provider orderId = some position) :
    store.Holds provider orderId position := by
  have member := List.mem_of_find?_eq_some found
  have matched := List.find?_some found
  simp only [Bool.and_eq_true, decide_eq_true_eq] at matched
  exact ⟨member, matched⟩

theorem findExistingPack_of_holds {checkoutId : Option String}
    (holds : store.Holds provider orderId position) :
    (store.findExistingPack orderId checkoutId provider).isSome := by
  rw [findExistingPack, List.find?_isSome]
  refine ⟨position, holds.1, ?_⟩
  simp only [holds.2.1, holds.2.2, decide_true, Bool.true_or, Bool.and_self]

theorem userOf_some {userId : Nat} (found : store.userOf userId = some user) :
    user < store.accounts.length ∧ (store.account user).userId = userId := by
  obtain ⟨bound, same⟩ := List.findIdx?_eq_some_iff_getElem.mp found
  refine ⟨bound, ?_⟩
  simpa [BillingStore.account, bound] using same.1

structure SameOrders (before after : BillingStore) : Prop where
  length : after.accounts.length = before.accounts.length
  users : ∀ user, (before.account user).SameOrders (after.account user)

theorem SameOrders.refl (store : BillingStore) : store.SameOrders store :=
  ⟨rfl, fun _ => ⟨rfl, fun _ => .refl _⟩⟩

theorem SameOrders.holds (same : before.SameOrders after) (position : Nat × Nat) :
    after.Holds provider orderId position ↔ before.Holds provider orderId position := by
  have user := same.users position.1
  have terms := user.terms position.2
  simp only [Holds, mem_packIds, same.length, user.length, BillingStore.pack, terms.provider,
    terms.orderId]

theorem SameOrders.setAccount {account : Account} (bound : user < store.accounts.length)
    (same : (store.account user).SameOrders account) :
    store.SameOrders (store.setAccount user account) where
  length := length_setAccount account
  users other := by
    rw [account_setAccount account bound]
    split
    · rename_i here
      rw [here]
      exact same
    · exact ⟨rfl, fun _ => .refl _⟩

theorem SameOrders.updateAttempt {reference : String}
    {update : BillingCheckoutAttempt → BillingCheckoutAttempt} (same : before.SameOrders after) :
    before.SameOrders (after.updateAttempt reference update) :=
  ⟨same.length, same.users⟩

end BillingStore

theorem Account.SameOrders.trans {first second third : Account}
    (here : first.SameOrders second) (later : second.SameOrders third) : first.SameOrders third where
  length := later.length.trans here.length
  terms id := (here.terms id).trans (later.terms id)

theorem Account.SameOrders.expireUserPacks (account : Account) (now : Int) :
    account.SameOrders (account.expireUserPacks now) where
  length := packs_length_expireUserPacks now account
  terms := sameTerms_expireUserPacks now account

theorem Transferred.sameOrders {session : Session} {gain : Int} {before after : Account}
    (transferred : Transferred session gain before after) : before.SameOrders after where
  length := transferred.packsLength
  terms id := by
    by_cases bound : id < before.packs.length
    · exact transferred.sameTerms id bound
    · rw [pack_beyond before (Nat.not_lt.mp bound),
        pack_beyond after (transferred.packsLength ▸ Nat.not_lt.mp bound)]
      exact .refl _

structure BillingStore.Granted (session : Session) (user : Nat) (terms : PackTerms)
    (ledgerReason : LedgerReason) (before after : BillingStore) (granted : Account) : Prop where
  result : after = before.setAccount user granted
  ran : Billing.grant session terms ledgerReason (before.account user) = .ok granted
  length : granted.packs.length = (before.account user).packs.length + 1
  older : ∀ id < (before.account user).packs.length,
    ((before.account user).pack id).SameTerms (granted.pack id)
  newest : terms.pack.SameTerms (granted.pack (before.account user).packs.length)
  unreversed :
    (granted.pack (before.account user).packs.length).refundedItemAmountCentsProcessed = 0
  written : ∀ entry ∈ granted.ledger, entry ∈ (before.account user).ledger ∨
    entry.reason = ledgerReason ∨
      ∃ debtId, entry.reason = .debtRecovery debtId (before.account user).packs.length

namespace BillingStore

variable {session : Session} {store after : BillingStore} {user : Nat} {terms : PackTerms}
  {ledgerReason : LedgerReason} {granted : Account}

theorem Granted.of_grantCredits
    (inserted : ((store.account user).addPack terms.pack).Constraints)
    (found : grantCreditsWithDebtRecovery session (store.account user).packs.length terms.credits
      ledgerReason ((store.account user).addPack terms.pack) = some granted) :
    store.Granted session user terms ledgerReason (store.setAccount user granted) granted := by
  obtain ⟨length, terms_kept, processed, written⟩ := grantCredits_settlesOnly found
  refine ⟨rfl, ?_, length.trans (List.length_append ..), ?_, ?_, ?_, written⟩
  · simp only [Billing.grant, Billing.flush]
    rw [if_pos (show Constraints { store.account user with
      packs := (store.account user).packs ++ [terms.pack] } from inserted), bind_of_ok rfl]
    simp only [Account.addPack] at found
    simp only [found]
  · intro id bound
    have kept := terms_kept id
    rwa [pack_addPack, if_neg bound.ne] at kept
  · have kept := terms_kept (store.account user).packs.length
    rwa [pack_addPack, if_pos rfl] at kept
  · rw [processed, pack_addPack, if_pos rfl]
    rfl

theorem grant_granted (ran : store.grant session user terms ledgerReason = some after) :
    ∃ granted, store.Granted session user terms ledgerReason after granted := by
  simp only [BillingStore.grant] at ran
  split at ran
  · rename_i fits
    split at ran
    · rename_i granted found
      split at ran
      · cases ran
        exact ⟨granted, .of_grantCredits fits.1 found⟩
      · cases ran
    · cases ran
  · cases ran

theorem distinct_of_terms {pack first second : BillingCreditPack} (distinct : pack.Distinct first)
    (terms : first.SameTerms second) : pack.Distinct second := by
  simp only [BillingCreditPack.Distinct] at distinct ⊢
  rwa [terms.provider, terms.orderId, terms.checkoutId]

theorem grant_some (bound : user < store.accounts.length)
    (constraints : (store.account user).Constraints) (referenced : (store.account user).Referenced)
    (apart : store.Fits user (store.account user)) (checks : terms.pack.Checks)
    (fresh : ∀ position ∈ store.packIds, (store.pack position).Distinct terms.pack)
    (unwritten : ∀ owner < store.accounts.length, ∀ entry ∈ (store.account owner).ledger,
      entry.reason ≠ ledgerReason)
    (purchase : ∀ debtId packId, ledgerReason ≠ .debtRecovery debtId packId) :
    ∃ after, store.grant session user terms ledgerReason = some after := by
  have freshPack : ∀ owner < store.accounts.length, ∀ pack ∈ (store.account owner).packs,
      pack.Distinct terms.pack := by
    intro owner owned pack member
    obtain ⟨id, inside, rfl⟩ := mem_packs.mp member
    exact fresh (owner, id) (mem_packIds.mpr ⟨owned, inside⟩)
  obtain ⟨inserted, granted, found⟩ := grant_commits session constraints referenced checks
    (freshPack user bound) (unwritten user bound) purchase
  have done := Granted.of_grantCredits inserted found
  have fits : store.Fits user ((store.account user).addPack terms.pack) := by
    intro other owned distinct
    obtain ⟨packs, ledger⟩ := apart other owned distinct
    refine ⟨fun pack member row added => ?_, ledger⟩
    rcases List.mem_append.mp added with older | newer
    · exact packs pack member row older
    · rw [List.mem_singleton.mp newer]
      exact freshPack other owned pack member
  have fitsGranted : store.Fits user granted := by
    intro other owned distinct
    obtain ⟨packs, ledger⟩ := apart other owned distinct
    constructor
    · intro pack member row added
      obtain ⟨id, inside, rfl⟩ := mem_packs.mp added
      rw [done.length] at inside
      by_cases older : id < (store.account user).packs.length
      · exact distinct_of_terms
          (packs pack member _ (mem_packs.mpr ⟨id, older, rfl⟩)) (done.older id older)
      · obtain rfl : id = (store.account user).packs.length := by omega
        exact distinct_of_terms (freshPack other owned pack member) done.newest
    · rintro entry member row added ⟨names, same⟩
      rcases done.written row added with older | reason | ⟨debtId, recovery⟩
      · exact ledger entry member row older ⟨names, same⟩
      · exact unwritten other owned entry member (same.trans reason)
      · rw [same, recovery] at names
        cases names
  refine ⟨store.setAccount user granted, ?_⟩
  simp only [BillingStore.grant]
  rw [if_pos ⟨inserted, fits⟩]
  simp only [Account.addPack] at found
  simp only [found, if_pos fitsGranted]

namespace Granted

variable (done : store.Granted session user terms ledgerReason after granted)
  (bound : user < store.accounts.length)

include done bound

theorem holds {provider : Provider} {orderId : String} (position : Nat × Nat) :
    after.Holds provider orderId position ↔ store.Holds provider orderId position ∨
      position = (user, (store.account user).packs.length) ∧ terms.provider = provider ∧
        terms.providerOrderId = some orderId := by
  obtain ⟨rfl, -, length, older, newest, -, -⟩ := done
  obtain ⟨owner, id⟩ := position
  simp only [Holds, mem_packIds, length_setAccount, BillingStore.pack, account_setAccount _ bound,
    Prod.mk.injEq]
  by_cases here : owner = user
  · subst here
    simp only [if_true, length, true_and]
    by_cases fresh : id = (store.account owner).packs.length
    · subst fresh
      have provider := newest.provider
      have order := newest.orderId
      simp only [PackTerms.pack] at provider order
      simp only [provider, order, bound, Nat.lt_succ_self, true_and, lt_self_iff_false, false_and,
        false_or, and_self]
    · by_cases inside : id < (store.account owner).packs.length
      · have kept := older id inside
        simp only [kept.provider, kept.orderId, fresh, false_and, or_false, inside, bound, true_and,
          inside.trans (Nat.lt_succ_self _)]
      · have outside : ¬id < (store.account owner).packs.length + 1 := by omega
        simp only [inside, outside, fresh, false_and, and_false, or_self]
  · simp only [here, if_false, false_and, or_false]

theorem sound (sound : (store.account user).Sound) (quiet : ledgerReason.Quiet) :
    (after.account user).Sound := by
  rw [done.result, account_setAccount _ bound, if_pos rfl]
  exact sound.grant quiet done.ran

end Granted

end BillingStore

end Thought2Build.Billing
