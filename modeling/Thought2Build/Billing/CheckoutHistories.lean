import Thought2Build.Billing.StoreOrders

/-!
One paid checkout: its webhook is handled at any times, between the checkout's own commits, the
attempt expiry of lane 3 and the purge.
-/

namespace Thought2Build.Billing

open Rows Account

inductive PaidEvent where
  | order (settings : LemonSettings) (payload : LemonPayload)
  | link (settings : RazorpaySettings) (payload : RazorpayLinkPaid)

namespace PaidEvent

def provider : PaidEvent → Provider
  | order _ _ => .lemonsqueezy
  | link _ _ => .razorpay

def orderId : PaidEvent → String
  | order _ payload => payload.orderId
  | link _ payload => payload.paymentId

def handle (session : Session) (store : BillingStore) : PaidEvent → BillingStore × HandlerOutcome
  | order settings payload => handleOrderCreated settings session payload store
  | link settings payload => handleRazorpayLinkPaid settings session payload store

def Proves (event : PaidEvent) (checkoutId : String) (attempt : BillingCheckoutAttempt) : Prop :=
  match event with
  | order settings payload =>
      payload.custom.checkoutRef = .text attempt.checkoutRef ∧
        settings.python.uuid payload.custom.userId.str = some attempt.userId ∧
        payload.custom.checkoutNonceHashFromWebhook = some attempt.checkoutNonceHash ∧
        orderRejection settings payload attempt = .ok none
  | link settings payload =>
      payload.notes.checkoutRef = .text attempt.checkoutRef ∧
        attempt.provider = .razorpay ∧
        settings.python.uuid payload.notes.userId.str = some attempt.userId ∧
        payload.notes.checkoutNonceHashFromWebhook = some attempt.checkoutNonceHash ∧
        payload.paymentLink.paymentLinkId = .text checkoutId ∧
        linkPaidRejection settings payload { attempt with providerCheckoutId := some checkoutId } =
          .ok none

def Billable : PaidEvent → Prop
  | order settings payload =>
      ∀ total, payload.orderTotalCents.coerceInt settings.python = .ok (some total) → 0 ≤ total
  | link _ _ => True

def Accepts (event : PaidEvent) (status : AttemptStatus) : Prop :=
  match event with
  | order _ _ => status.grantable = true
  | link _ _ => True

end PaidEvent

structure PaidCheckout where
  event : PaidEvent
  attempt : BillingCheckoutAttempt
  checkoutId : String

inductive CheckoutAction where
  | providerCreated
  | providerFailed
  | lane3 (now : Int)
  | purge (now : Int)
  | process (session : Session)

structure CheckoutHistory where
  store : BillingStore
  acknowledged : Bool := false

namespace HandlerOutcome

def acknowledges : HandlerOutcome → Bool
  | committed _ | conflicted => true
  | parked | raised _ => false

end HandlerOutcome

namespace PaidCheckout

variable (checkout : PaidCheckout)

def step (state : CheckoutHistory) : CheckoutAction → CheckoutHistory
  | .providerCreated => { state with
      store := state.store.providerCreated checkout.attempt.checkoutRef checkout.checkoutId }
  | .providerFailed => { state with
      store := state.store.providerFailed checkout.attempt.checkoutRef }
  | .lane3 now => { state with store := state.store.reconcileLane3 now }
  | .purge now => { state with store := state.store.purge now }
  | .process session =>
      let result := checkout.event.handle session state.store
      { store := result.1, acknowledged := state.acknowledged || result.2.acknowledges }

def run (state : CheckoutHistory) (actions : List CheckoutAction) : CheckoutHistory :=
  actions.foldl checkout.step state

def Granted (store : BillingStore) : Prop :=
  ∃! position, store.Holds checkout.event.provider checkout.event.orderId position

def Timely (state : CheckoutHistory) : CheckoutAction → Prop
  | .process _ =>
      (state.store.packOfOrder checkout.event.provider checkout.event.orderId).isSome ∨
        ∃ row, state.store.attempt? checkout.attempt.checkoutRef = some row ∧
          checkout.event.Accepts row.status
  | _ => True

def TimelyRun : CheckoutHistory → List CheckoutAction → Prop
  | _, [] => True
  | state, action :: later =>
      checkout.Timely state action ∧ TimelyRun (checkout.step state action) later

/-- The store before the payment is handled: the event proves the attempt, and the ids that the
provider has issued for it are new. -/
structure Opens (user : Nat) (store : BillingStore) : Prop where
  named : checkout.attempt.checkoutRef ≠ ""
  issued : checkout.checkoutId ≠ ""
  checks : checkout.attempt.Checks
  pending : checkout.attempt.providerCheckoutId = none ∨
    checkout.attempt.providerCheckoutId = some checkout.checkoutId
  rows : ∀ row ∈ store.attempts, row.checkoutRef = checkout.attempt.checkoutRef →
    row = checkout.attempt
  proves : checkout.event.Proves checkout.checkoutId checkout.attempt
  owner : store.userOf checkout.attempt.userId = some user
  sound : ∀ owner, (store.account owner).Sound
  referenced : (store.account user).Referenced
  apart : store.Fits user (store.account user)
  freshOrder : ∀ position, ¬store.Holds checkout.event.provider checkout.event.orderId position
  freshCheckout : ∀ position ∈ store.packIds,
    (store.pack position).provider = checkout.event.provider →
      (store.pack position).providerCheckoutId ≠ some checkout.checkoutId
  unwritten : ∀ owner < store.accounts.length, ∀ entry ∈ (store.account owner).ledger,
    entry.reason ≠ .billingPurchase checkout.event.provider checkout.event.orderId

end PaidCheckout

def BillingCheckoutAttempt.Stage (attempt : BillingCheckoutAttempt) (checkoutId : String)
    (row : BillingCheckoutAttempt) : Prop :=
  ∃ status orderId completedAt id, (id = none ∨ id = some checkoutId) ∧
    row = { attempt with
      status, providerCheckoutId := id, providerOrderId := orderId, completedAt }

def BillingStore.Stages (store : BillingStore) (attempt : BillingCheckoutAttempt)
    (checkoutId : String) : Prop :=
  ∀ row ∈ store.attempts, row.checkoutRef = attempt.checkoutRef → attempt.Stage checkoutId row

namespace BillingStore

variable {store : BillingStore} {attempt : BillingCheckoutAttempt} {checkoutId : String}

theorem Stages.attempt? {row : BillingCheckoutAttempt} (stages : store.Stages attempt checkoutId)
    (found : store.attempt? attempt.checkoutRef = some row) : attempt.Stage checkoutId row := by
  have matched := List.find?_some found
  rw [decide_eq_true_eq] at matched
  exact stages row (List.mem_of_find?_eq_some found) matched

theorem Stages.of_attempts {after : BillingStore} (stages : store.Stages attempt checkoutId)
    (same : after.attempts = store.attempts) : after.Stages attempt checkoutId := by
  intro row member
  rw [same] at member
  exact stages row member

theorem Stages.map {update : BillingCheckoutAttempt → BillingCheckoutAttempt}
    (stages : store.Stages attempt checkoutId)
    (reference : ∀ row ∈ store.attempts, (update row).checkoutRef = row.checkoutRef)
    (kept : ∀ row, attempt.Stage checkoutId row → attempt.Stage checkoutId (update row)) :
    { store with attempts := store.attempts.map update }.Stages attempt checkoutId := by
  intro row member same
  obtain ⟨older, was, rfl⟩ := List.mem_map.mp member
  rw [reference older was] at same
  exact kept older (stages older was same)

theorem Stages.updateAttempt {update : BillingCheckoutAttempt → BillingCheckoutAttempt}
    (stages : store.Stages attempt checkoutId)
    (reference : ∀ row, (update row).checkoutRef = row.checkoutRef)
    (kept : ∀ row, attempt.Stage checkoutId row → attempt.Stage checkoutId (update row))
    (checkoutRef : String) : (store.updateAttempt checkoutRef update).Stages attempt checkoutId := by
  apply stages.map
  · intro row _
    split
    · exact reference row
    · rfl
  · intro row stage
    split
    · exact kept row stage
    · exact stage

theorem Stages.filter (stages : store.Stages attempt checkoutId)
    (keep : BillingCheckoutAttempt → Bool) :
    { store with attempts := store.attempts.filter keep }.Stages attempt checkoutId :=
  fun row member same => stages row (List.mem_filter.mp member).1 same

end BillingStore

namespace BillingCheckoutAttempt

variable {attempt row : BillingCheckoutAttempt} {checkoutId : String}

theorem Stage.terms (stage : attempt.Stage checkoutId row) :
    row.userId = attempt.userId ∧ row.credits = attempt.credits ∧
      row.priceCents = attempt.priceCents ∧
      (row.providerCheckoutId = none ∨ row.providerCheckoutId = some checkoutId) := by
  obtain ⟨status, order, completedAt, id, issued, rfl⟩ := stage
  exact ⟨rfl, rfl, rfl, issued⟩

theorem Stage.complete (stage : attempt.Stage checkoutId row) (orderId : String) (now : Int) :
    attempt.Stage checkoutId (row.complete orderId now) := by
  obtain ⟨status, order, completedAt, id, issued, rfl⟩ := stage
  exact ⟨_, _, _, id, issued, rfl⟩

theorem Stage.granted (stage : attempt.Stage checkoutId row) (orderId : String) (now : Int) :
    attempt.Stage checkoutId (row.granted orderId now) := by
  obtain ⟨status, order, completedAt, id, issued, rfl⟩ := stage
  exact ⟨_, _, _, id, issued, rfl⟩

theorem Stage.withStatus (stage : attempt.Stage checkoutId row) (status : AttemptStatus) :
    attempt.Stage checkoutId { row with status } := by
  obtain ⟨_, order, completedAt, id, issued, rfl⟩ := stage
  exact ⟨_, _, _, id, issued, rfl⟩

theorem Stage.withCheckout (stage : attempt.Stage checkoutId row) :
    attempt.Stage checkoutId { row with providerCheckoutId := some checkoutId } := by
  obtain ⟨status, order, completedAt, _, _, rfl⟩ := stage
  exact ⟨_, _, _, _, .inr rfl, rfl⟩

end BillingCheckoutAttempt

namespace BillingStore

variable {session : Session} {store after : BillingStore} {position : Nat × Nat}
  {refundedCents : Int}

theorem settle_same (sound : ∀ owner, (store.account owner).Sound)
    (bound : position.1 < store.accounts.length)
    (ran : store.settle session position refundedCents = .ok after) :
    store.SameOrders after ∧ (∀ owner, (after.account owner).Sound) ∧
      after.attempts = store.attempts := by
  simp only [BillingStore.settle] at ran
  obtain ⟨⟨account, outcome⟩, settled, returned⟩ := bind_eq_ok ran
  cases returned
  obtain ⟨constraints, gain, transferred⟩ := settlePack_transferred (sound position.1) settled
  refine ⟨?_, ?_, rfl⟩
  · apply SameOrders.setAccount bound
    exact (Account.SameOrders.expireUserPacks _ _).trans transferred.sameOrders
  · intro owner
    rw [account_setAccount _ bound]
    split
    · exact (sound position.1).transfer transferred constraints
    · exact sound owner

theorem SameOrders.of_accounts (same : after.accounts = store.accounts) :
    store.SameOrders after where
  length := congrArg List.length same
  users user := by
    rw [BillingStore.account, BillingStore.account, same]
    exact ⟨rfl, fun _ => .refl _⟩

theorem Granted.sound_all {user : Nat} {terms : PackTerms} {ledgerReason : LedgerReason}
    {granted : Account} (done : store.Granted session user terms ledgerReason after granted)
    (bound : user < store.accounts.length) (sound : ∀ owner, (store.account owner).Sound)
    (quiet : ledgerReason.Quiet) (owner : Nat) : (after.account owner).Sound := by
  by_cases here : owner = user
  · rw [here]
    exact done.sound bound (sound user) quiet
  · rw [done.result, account_setAccount _ bound, if_neg here]
    exact sound owner

theorem Granted.exists_unique {user : Nat} {terms : PackTerms} {ledgerReason : LedgerReason}
    {granted : Account} {orderId : String}
    (done : store.Granted session user terms ledgerReason after granted)
    (bound : user < store.accounts.length) (order : terms.providerOrderId = some orderId)
    (fresh : ∀ position, ¬store.Holds terms.provider orderId position) :
    ∃! position, after.Holds terms.provider orderId position := by
  refine ⟨(user, (store.account user).packs.length), ?_, ?_⟩
  · exact (done.holds bound _).mpr (.inr ⟨rfl, rfl, order⟩)
  · intro other holds
    rcases (done.holds bound other).mp holds with older | ⟨newer, -⟩
    · exact (fresh other older).elim
    · exact newer

theorem grant_checks {user : Nat} {terms : PackTerms} {ledgerReason : LedgerReason}
    (ran : store.grant session user terms ledgerReason = some after) : terms.pack.Checks := by
  simp only [BillingStore.grant] at ran
  split at ran
  · rename_i inserted
    exact inserted.1.packs _ (List.mem_append_right _ (List.mem_singleton_self _))
  · cases ran

end BillingStore

theorem PackTerms.checks_iff {terms : PackTerms} : terms.pack.Checks ↔
    0 < terms.credits ∧ 0 < terms.priceCents ∧
      ∀ total ∈ terms.providerOrderTotalCents, 0 ≤ total := by
  simp only [BillingCreditPack.Checks, BillingCreditPack.accounted, PackTerms.pack]
  constructor
  · rintro ⟨credits, -, -, -, -, -, price, -, total, -⟩
    exact ⟨credits, price, total⟩
  · rintro ⟨credits, price, total⟩
    refine ⟨credits, credits.le, le_rfl, le_rfl, le_rfl, le_rfl, price, price, total, le_rfl, le_rfl,
      le_rfl, ?_, price.le, total, credits.le⟩
    omega

theorem orderCreatedDecision_insert {settings : LemonSettings} {payload : LemonPayload}
    {store : BillingStore} {attempt : BillingCheckoutAttempt} {user : Nat}
    (decided : orderCreatedDecision settings payload store = .ok (.insert attempt user)) :
    store.findExistingPack payload.orderId attempt.providerCheckoutId .lemonsqueezy = none := by
  simp only [orderCreatedDecision] at decided
  obtain ⟨found, -, decided⟩ := bind_eq_ok decided
  obtain ⟨reason, -, decided⟩ := bind_eq_ok decided
  split at decided
  · cases decided
  · cases decided
  · split at decided
    · cases decided
    · split at decided
      · cases decided
      · rename_i missing
        cases decided
        exact missing

theorem orderTerms_ok {settings : LemonSettings} {payload : LemonPayload} {now : Int}
    {attempt : BillingCheckoutAttempt} {terms : PackTerms}
    (made : orderTerms settings payload now attempt = .ok terms) :
    payload.orderTotalCents.coerceInt settings.python = .ok terms.providerOrderTotalCents ∧
      terms.provider = .lemonsqueezy ∧ terms.providerOrderId = some payload.orderId ∧
      terms.providerCheckoutId = attempt.providerCheckoutId ∧ terms.credits = attempt.credits ∧
      terms.priceCents = attempt.priceCents := by
  simp only [orderTerms] at made
  obtain ⟨total, coerced, made⟩ := bind_eq_ok made
  obtain ⟨expiresAt, -, made⟩ := bind_eq_ok made
  split at made
  · cases made
  · cases made
    exact ⟨coerced, rfl, rfl, rfl, rfl, rfl⟩

theorem linkTerms_ok {settings : RazorpaySettings} {payload : RazorpayLinkPaid} {now : Int}
    {attempt : BillingCheckoutAttempt} {checkoutId : String} {terms : PackTerms}
    (made : linkTerms settings payload now attempt checkoutId = .ok terms) :
    terms.provider = .razorpay ∧ terms.providerOrderId = some payload.paymentId ∧
      terms.providerCheckoutId = some checkoutId ∧ terms.credits = attempt.credits ∧
      terms.priceCents = attempt.priceCents ∧
      terms.providerOrderTotalCents = some attempt.priceCents := by
  simp only [linkTerms] at made
  obtain ⟨createdAt, -, made⟩ := bind_eq_ok made
  -- The three ways to date the purchase end in the same terms.
  split at made
  · split at made
    all_goals
      obtain ⟨purchasedAt, -, made⟩ := bind_eq_ok made
      obtain ⟨expiresAt, -, made⟩ := bind_eq_ok made
      cases made
      exact ⟨rfl, rfl, rfl, rfl, rfl, rfl⟩
  · obtain ⟨purchasedAt, -, made⟩ := bind_eq_ok made
    obtain ⟨expiresAt, -, made⟩ := bind_eq_ok made
    cases made
    exact ⟨rfl, rfl, rfl, rfl, rfl, rfl⟩

theorem attemptFor_text (store : BillingStore) {reference : String} (named : reference ≠ "") :
    store.attemptFor (.text reference) = .ok (store.attempt? reference) := by
  simp only [BillingStore.attemptFor, JsonValue.truthy, ne_eq, named, not_false_eq_true,
    decide_true, if_true]

section Link

variable {settings : RazorpaySettings} {payload : RazorpayLinkPaid}
  {attempt row : BillingCheckoutAttempt} {checkoutId : String}

theorem linkCheckoutId_stage (stage : attempt.Stage checkoutId row) (issued : checkoutId ≠ "")
    (link : payload.paymentLink.paymentLinkId = .text checkoutId) :
    linkCheckoutId payload row = .ok checkoutId := by
  obtain ⟨status, order, completedAt, id, rfl | rfl, rfl⟩ := stage
  · simp only [linkCheckoutId, linkCheckoutId.fromLink, link]
  · simp only [linkCheckoutId, ne_eq, issued, not_false_eq_true, if_true]

theorem linkPaidRejection_stage (stage : attempt.Stage checkoutId row)
    (link : payload.paymentLink.paymentLinkId = .text checkoutId) :
    linkPaidRejection settings payload row =
      linkPaidRejection settings payload { attempt with providerCheckoutId := some checkoutId } := by
  obtain ⟨status, order, completedAt, id, rfl | rfl, rfl⟩ := stage
  · simp only [linkPaidRejection, link, Option.any, ne_eq, not_true_eq_false, and_false,
      decide_false]
  · rfl

theorem razorpayLinkPaidRejection_stage (stage : attempt.Stage checkoutId row)
    (proves : (PaidEvent.link settings payload).Proves checkoutId attempt) :
    razorpayLinkPaidRejection settings payload (some row) = .ok none := by
  obtain ⟨-, provider, owner, nonce, link, accepted⟩ := proves
  rw [← linkPaidRejection_stage stage link] at accepted
  obtain ⟨status, order, completedAt, id, issued, rfl⟩ := stage
  have known : status.grantable = true ∨ status = .expired ∨ status = .failed := by
    cases status <;> decide
  simp only [razorpayLinkPaidRejection, provider, owner, nonce, ne_eq, not_true_eq_false, if_false,
    known]
  exact accepted

end Link

theorem orderCreatedRejection_stage {settings : LemonSettings} {payload : LemonPayload}
    {attempt row : BillingCheckoutAttempt} {checkoutId : String}
    (stage : attempt.Stage checkoutId row) (grantable : row.status.grantable = true)
    (proves : (PaidEvent.order settings payload).Proves checkoutId attempt) :
    orderCreatedRejection settings payload (some row) = .ok none := by
  obtain ⟨-, owner, nonce, accepted⟩ := proves
  obtain ⟨status, order, completedAt, id, issued, rfl⟩ := stage
  simp only at grantable
  simp only [orderCreatedRejection, owner, nonce, grantable, ne_eq, not_true_eq_false, if_false]
  exact accepted

theorem orderCreatedRejection_status {settings : LemonSettings} {payload : LemonPayload}
    {attempt row : BillingCheckoutAttempt} {checkoutId : String}
    (stage : attempt.Stage checkoutId row) (refused : row.status.grantable = false)
    (proves : (PaidEvent.order settings payload).Proves checkoutId attempt) :
    orderCreatedRejection settings payload (some row) = .ok (some .attemptStatusInvalid) := by
  obtain ⟨-, owner, nonce, -⟩ := proves
  obtain ⟨status, order, completedAt, id, issued, rfl⟩ := stage
  simp only at refused
  simp only [orderCreatedRejection, owner, nonce, refused, ne_eq, not_true_eq_false, if_false,
    Bool.false_eq_true, not_false_eq_true, if_true]

namespace PaidCheckout

variable {checkout : PaidCheckout} {user : Nat} {initial store after : BillingStore}

theorem Opens.attemptFor_order {settings : LemonSettings} {payload : LemonPayload}
    (opens : checkout.Opens user initial) (order : checkout.event = .order settings payload)
    (store : BillingStore) : store.attemptFor payload.custom.checkoutRef =
      .ok (store.attempt? checkout.attempt.checkoutRef) := by
  have proves := opens.proves
  rw [order] at proves
  rw [proves.1]
  exact attemptFor_text store opens.named

theorem Opens.attemptFor_link {settings : RazorpaySettings} {payload : RazorpayLinkPaid}
    (opens : checkout.Opens user initial) (link : checkout.event = .link settings payload)
    (store : BillingStore) : store.attemptFor payload.notes.checkoutRef =
      .ok (store.attempt? checkout.attempt.checkoutRef) := by
  have proves := opens.proves
  rw [link] at proves
  rw [proves.1]
  exact attemptFor_text store opens.named

structure Settled (checkout : PaidCheckout) (store : BillingStore) : Prop where
  granted : checkout.Granted store
  sound : ∀ owner, (store.account owner).Sound
  stages : store.Stages checkout.attempt checkout.checkoutId

theorem Granted.of_same (granted : checkout.Granted store) (same : store.SameOrders after) :
    checkout.Granted after := by
  simpa only [Granted, same.holds] using granted

theorem Settled.update {update : BillingCheckoutAttempt → BillingCheckoutAttempt}
    (settled : checkout.Settled store) (reference : ∀ row, (update row).checkoutRef = row.checkoutRef)
    (kept : ∀ row, checkout.attempt.Stage checkout.checkoutId row →
      checkout.attempt.Stage checkout.checkoutId (update row)) (checkoutRef : String) :
    checkout.Settled (store.updateAttempt checkoutRef update) where
  granted := Granted.of_same settled.granted (BillingStore.SameOrders.refl store).updateAttempt
  sound := settled.sound
  stages := settled.stages.updateAttempt reference kept checkoutRef

theorem Settled.settle {session : Session} {position : Nat × Nat} {refundedCents : Int}
    (settled : checkout.Settled store) (bound : position.1 < store.accounts.length)
    (ran : store.settle session position refundedCents = .ok after) : checkout.Settled after := by
  obtain ⟨same, sound, attempts⟩ := BillingStore.settle_same settled.sound bound ran
  exact ⟨Granted.of_same settled.granted same, sound, settled.stages.of_attempts attempts⟩

theorem Settled.handleOrderCreated {settings : LemonSettings} {payload : LemonPayload}
    {session : Session} (settled : checkout.Settled store)
    (order : checkout.event = .order settings payload) :
    checkout.Settled (handleOrderCreated settings session payload store).1 ∧
      (handleOrderCreated settings session payload store).1.accounts = store.accounts := by
  simp only [Billing.handleOrderCreated]
  cases decided : orderCreatedDecision settings payload store with
  | error error => exact ⟨settled, rfl⟩
  | ok decision =>
      cases decision with
      | reject reason => exact ⟨settled, rfl⟩
      | duplicate attempt =>
          refine ⟨?_, rfl⟩
          apply settled.update
          · intro row
            rfl
          · intro row stage
            exact stage.complete payload.orderId (session.clock 0)
      | insert attempt user =>
          obtain ⟨position, holds, -⟩ := settled.granted
          rw [order] at holds
          have found : (store.findExistingPack payload.orderId attempt.providerCheckoutId
            .lemonsqueezy).isSome := BillingStore.findExistingPack_of_holds holds
          rw [orderCreatedDecision_insert decided] at found
          cases found

section Link

variable {settings : RazorpaySettings} {payload : RazorpayLinkPaid} {session : Session}
  {row : BillingCheckoutAttempt} {owner : Nat} {existing : Nat × Nat}

theorem Opens.handleRazorpayLinkPaid_duplicate (opens : checkout.Opens user initial)
    (link : checkout.event = .link settings payload)
    (found : store.attempt? checkout.attempt.checkoutRef = some row)
    (stage : checkout.attempt.Stage checkout.checkoutId row)
    (owned : store.userOf row.userId = some owner)
    (isExisting : store.findExistingPack payload.paymentId (some checkout.checkoutId) .razorpay =
      some existing) :
    handleRazorpayLinkPaid settings session payload store =
      linkPaidDuplicate settings session payload row checkout.checkoutId existing store := by
  have proves := opens.proves
  rw [link] at proves
  simp only [handleRazorpayLinkPaid, opens.attemptFor_link link, found,
    razorpayLinkPaidRejection_stage stage proves,
    linkCheckoutId_stage stage opens.issued proves.2.2.2.2.1, owned, isExisting]

theorem Opens.handleRazorpayLinkPaid_insert (opens : checkout.Opens user initial)
    (link : checkout.event = .link settings payload)
    (found : store.attempt? checkout.attempt.checkoutRef = some row)
    (stage : checkout.attempt.Stage checkout.checkoutId row)
    (owned : store.userOf row.userId = some owner)
    (missing : store.findExistingPack payload.paymentId (some checkout.checkoutId) .razorpay =
      none) :
    handleRazorpayLinkPaid settings session payload store =
      linkPaidInsert settings session payload row checkout.checkoutId owner store := by
  have proves := opens.proves
  rw [link] at proves
  simp only [handleRazorpayLinkPaid, opens.attemptFor_link link, found,
    razorpayLinkPaidRejection_stage stage proves,
    linkCheckoutId_stage stage opens.issued proves.2.2.2.2.1, owned, missing]

theorem Opens.handleRazorpayLinkPaid_unowned (opens : checkout.Opens user initial)
    (link : checkout.event = .link settings payload)
    (found : store.attempt? checkout.attempt.checkoutRef = some row)
    (stage : checkout.attempt.Stage checkout.checkoutId row)
    (owned : store.userOf row.userId = none) :
    handleRazorpayLinkPaid settings session payload store =
      (store, .raised PythonError.runtimeError.name) := by
  have proves := opens.proves
  rw [link] at proves
  simp only [handleRazorpayLinkPaid, opens.attemptFor_link link, found,
    razorpayLinkPaidRejection_stage stage proves,
    linkCheckoutId_stage stage opens.issued proves.2.2.2.2.1, owned]

theorem Opens.handleRazorpayLinkPaid_missing (opens : checkout.Opens user initial)
    (link : checkout.event = .link settings payload)
    (missing : store.attempt? checkout.attempt.checkoutRef = none) :
    handleRazorpayLinkPaid settings session payload store =
      (store, .committed (some Rejection.attemptNotFound.text)) := by
  simp only [handleRazorpayLinkPaid, opens.attemptFor_link link, missing,
    razorpayLinkPaidRejection]

theorem Settled.handleRazorpayLinkPaid (opens : checkout.Opens user initial)
    (settled : checkout.Settled store) (link : checkout.event = .link settings payload) :
    checkout.Settled (handleRazorpayLinkPaid settings session payload store).1 := by
  cases found : store.attempt? checkout.attempt.checkoutRef with
  | none =>
      rw [opens.handleRazorpayLinkPaid_missing link found]
      exact settled
  | some row =>
      have stage := settled.stages.attempt? found
      cases owned : store.userOf row.userId with
      | none =>
          rw [opens.handleRazorpayLinkPaid_unowned link found stage owned]
          exact settled
      | some owner =>
          obtain ⟨position, holds, -⟩ := settled.granted
          rw [link] at holds
          have isSome : (store.findExistingPack payload.paymentId (some checkout.checkoutId)
            .razorpay).isSome := BillingStore.findExistingPack_of_holds holds
          obtain ⟨existing, isExisting⟩ := Option.isSome_iff_exists.mp isSome
          have bound := (BillingStore.mem_packIds.mp (List.mem_of_find?_eq_some isExisting)).1
          rw [opens.handleRazorpayLinkPaid_duplicate link found stage owned isExisting,
            linkPaidDuplicate]
          split
          · exact settled
          · split
            · exact settled
            · split
              · exact settled
              · rename_i result ran
                apply (settled.settle bound ran).update
                · intro row
                  rfl
                · intro row stage
                  exact (stage.complete payload.paymentId (session.clock 0)).withCheckout

end Link

theorem Settled.process (opens : checkout.Opens user initial) (settled : checkout.Settled store)
    (session : Session) : checkout.Settled (checkout.event.handle session store).1 := by
  cases event : checkout.event with
  | order settings payload => exact (settled.handleOrderCreated event).1
  | link settings payload => exact settled.handleRazorpayLinkPaid opens event

structure Unpaid (checkout : PaidCheckout) (initial store : BillingStore) : Prop where
  accounts : store.accounts = initial.accounts
  stages : store.Stages checkout.attempt checkout.checkoutId

def Unreversed (checkout : PaidCheckout) (store : BillingStore) : Prop :=
  ∀ position, store.Holds checkout.event.provider checkout.event.orderId position →
    (store.pack position).refundedItemAmountCentsProcessed = 0

def Handles (checkout : PaidCheckout) (initial : BillingStore)
    (result : BillingStore × HandlerOutcome) : Prop :=
  checkout.Unpaid initial result.1 ∧
      (result.2.acknowledges = true → ¬checkout.event.Billable) ∨
    checkout.Settled result.1 ∧ checkout.event.Billable

theorem Unpaid.opens (opens : checkout.Opens user initial)
    (unpaid : checkout.Unpaid initial store) :
    store.userOf checkout.attempt.userId = some user ∧
      (∀ owner, (store.account owner).Sound) ∧ (store.account user).Referenced ∧
      store.Fits user (store.account user) ∧
      (∀ position, ¬store.Holds checkout.event.provider checkout.event.orderId position) ∧
      (∀ position ∈ store.packIds, (store.pack position).provider = checkout.event.provider →
        (store.pack position).providerCheckoutId ≠ some checkout.checkoutId) ∧
      ∀ owner < store.accounts.length, ∀ entry ∈ (store.account owner).ledger,
        entry.reason ≠ .billingPurchase checkout.event.provider checkout.event.orderId := by
  obtain ⟨accounts, -⟩ := unpaid
  cases store
  cases accounts
  exact ⟨opens.owner, opens.sound, opens.referenced, opens.apart, opens.freshOrder,
    opens.freshCheckout, opens.unwritten⟩

theorem Unpaid.findExistingPack {id : Option String} (opens : checkout.Opens user initial)
    (unpaid : checkout.Unpaid initial store) (issued : id = none ∨ id = some checkout.checkoutId) :
    store.findExistingPack checkout.event.orderId id checkout.event.provider = none := by
  obtain ⟨-, -, -, -, freshOrder, freshCheckout, -⟩ := unpaid.opens opens
  rw [BillingStore.findExistingPack, List.find?_eq_none]
  intro position member matched
  simp only [Bool.and_eq_true, Bool.or_eq_true, decide_eq_true_eq] at matched
  obtain ⟨same, ordered | ⟨some, shared⟩⟩ := matched
  · exact freshOrder position ⟨member, same, ordered⟩
  · rcases issued with rfl | rfl
    · cases some
    · exact freshCheckout position member same shared

theorem Unpaid.grant {session : Session} {terms : PackTerms}
    (opens : checkout.Opens user initial) (unpaid : checkout.Unpaid initial store)
    (provider : terms.provider = checkout.event.provider)
    (order : terms.providerOrderId = some checkout.event.orderId)
    (issued : terms.providerCheckoutId = none ∨
      terms.providerCheckoutId = some checkout.checkoutId) :
    store.grant session user terms
        (.billingPurchase checkout.event.provider checkout.event.orderId) = none ∧
      ¬terms.pack.Checks ∨
    ∃ after, store.grant session user terms
        (.billingPurchase checkout.event.provider checkout.event.orderId) = some after ∧
      terms.pack.Checks ∧ checkout.Settled after ∧ checkout.Unreversed after := by
  obtain ⟨owner, sound, referenced, apart, freshOrder, freshCheckout, unwritten⟩ :=
    unpaid.opens opens
  have bound := (BillingStore.userOf_some owner).1
  cases ran : store.grant session user terms
      (.billingPurchase checkout.event.provider checkout.event.orderId) with
  | none =>
      refine .inl ⟨rfl, fun checks => ?_⟩
      have distinct : ∀ position ∈ store.packIds,
          (store.pack position).Distinct terms.pack := by
        intro position member
        simp only [BillingCreditPack.Distinct, PackTerms.pack, provider, order]
        constructor
        · rintro ⟨same, -, named⟩
          exact freshOrder position ⟨member, same, named⟩
        · rintro ⟨same, some, shared⟩
          rcases issued with none | given
          · rw [shared, none] at some
            cases some
          · exact freshCheckout position member same (shared.trans given)
      obtain ⟨after, granted⟩ := BillingStore.grant_some bound (sound user).toConstraints
        referenced apart checks distinct unwritten (by simp)
      cases ran.symm.trans granted
  | some after =>
      obtain ⟨granted, done⟩ := BillingStore.grant_granted ran
      refine .inr ⟨after, rfl, BillingStore.grant_checks ran, ⟨?_, ?_, ?_⟩, ?_⟩
      · rw [Granted, ← provider]
        exact done.exists_unique bound order (provider ▸ freshOrder)
      · exact done.sound_all bound sound ⟨by simp, by simp⟩
      · apply unpaid.stages.of_attempts
        rw [done.result]
        rfl
      · intro position holds
        rcases (done.holds bound position).mp holds with older | ⟨rfl, -⟩
        · exact (freshOrder position older).elim
        · rw [BillingStore.pack, done.result, BillingStore.account_setAccount _ bound, if_pos rfl]
          exact done.unreversed

theorem Unpaid.handleOrderCreated {settings : LemonSettings} {payload : LemonPayload}
    {session : Session} {row : BillingCheckoutAttempt} (opens : checkout.Opens user initial)
    (unpaid : checkout.Unpaid initial store) (order : checkout.event = .order settings payload)
    (found : store.attempt? checkout.attempt.checkoutRef = some row)
    (grantable : row.status.grantable = true) :
    let result := handleOrderCreated settings session payload store
    result.1 = store ∧ (result.2.acknowledges = true → ¬checkout.event.Billable) ∨
      checkout.Settled result.1 ∧ checkout.event.Billable ∧ checkout.Unreversed result.1 := by
  have proves := opens.proves
  rw [order] at proves
  have stage := unpaid.stages.attempt? found
  obtain ⟨sameUser, sameCredits, samePrice, issued⟩ := stage.terms
  have owner := (unpaid.opens opens).1
  have missing := unpaid.findExistingPack opens issued
  have decided : orderCreatedDecision settings payload store = .ok (.insert row user) := by
    simp only [orderCreatedDecision]
    rw [bind_of_ok (opens.attemptFor_order order store), found,
      bind_of_ok (orderCreatedRejection_stage stage grantable proves)]
    rw [order] at missing
    simp only [PaidEvent.orderId, PaidEvent.provider] at missing
    rw [← sameUser] at owner
    simp only [owner, missing]
    rfl
  simp only [Billing.handleOrderCreated, decided, orderCreatedInsert]
  cases made : orderTerms settings payload (session.clock 0) row with
  | error error => exact .inl ⟨rfl, fun acknowledged => nomatch acknowledged⟩
  | ok terms =>
      obtain ⟨total, provider, ordered, checkoutId, credits, price⟩ := orderTerms_ok made
      have billable : terms.pack.Checks ↔ checkout.event.Billable := by
        rw [PackTerms.checks_iff, credits, price, sameCredits, samePrice, order]
        constructor
        · rintro ⟨-, -, nonneg⟩ amount coerced
          exact nonneg amount (Except.ok.inj (total.symm.trans coerced))
        · intro nonneg
          refine ⟨opens.checks.1, opens.checks.2.1, fun amount is => nonneg amount ?_⟩
          rw [total, is]
      have granting := @Unpaid.grant checkout user initial store session terms opens unpaid
        (by rw [provider, order]; rfl) (by rw [ordered, order]; rfl)
        (by rw [checkoutId]; exact issued)
      simp only [order, PaidEvent.provider, PaidEvent.orderId] at granting
      rcases granting with ⟨refused, broken⟩ | ⟨after, ran, checks, settled, unreversed⟩
      · simp only [refused]
        exact .inl ⟨trivial, fun _ bill => broken (billable.mpr bill)⟩
      · simp only [ran]
        refine .inr ⟨?_, billable.mp checks, unreversed⟩
        apply settled.update
        · intro row
          rfl
        · intro row stage
          exact stage.granted payload.orderId (session.clock 0)

theorem Unpaid.handleOrderCreated_refused {settings : LemonSettings} {payload : LemonPayload}
    {session : Session} (opens : checkout.Opens user initial)
    (unpaid : checkout.Unpaid initial store) (order : checkout.event = .order settings payload)
    (refused : ∀ row, store.attempt? checkout.attempt.checkoutRef = some row →
      row.status.grantable = false) :
    (Billing.handleOrderCreated settings session payload store).1 = store := by
  have proves := opens.proves
  rw [order] at proves
  have decided : ∃ reason, orderCreatedDecision settings payload store = .ok (.reject reason) := by
    simp only [orderCreatedDecision]
    rw [bind_of_ok (opens.attemptFor_order order store)]
    cases found : store.attempt? checkout.attempt.checkoutRef with
    | none => exact ⟨.attemptNotFound, rfl⟩
    | some row =>
        rw [bind_of_ok (orderCreatedRejection_status (unpaid.stages.attempt? found)
          (refused row found) proves)]
        exact ⟨_, rfl⟩
  obtain ⟨reason, decided⟩ := decided
  simp only [Billing.handleOrderCreated, decided]

theorem Unpaid.handleRazorpayLinkPaid {settings : RazorpaySettings} {payload : RazorpayLinkPaid}
    {session : Session} {row : BillingCheckoutAttempt} (opens : checkout.Opens user initial)
    (unpaid : checkout.Unpaid initial store) (link : checkout.event = .link settings payload)
    (found : store.attempt? checkout.attempt.checkoutRef = some row) :
    checkout.Handles initial (handleRazorpayLinkPaid settings session payload store) := by
  have stage := unpaid.stages.attempt? found
  obtain ⟨sameUser, sameCredits, samePrice, -⟩ := stage.terms
  have owner := (unpaid.opens opens).1
  have bound := (BillingStore.userOf_some owner).1
  have missing := unpaid.findExistingPack opens (.inr rfl)
  rw [link] at missing
  rw [← sameUser] at owner
  rw [opens.handleRazorpayLinkPaid_insert link found stage owner missing, linkPaidInsert]
  cases made : linkTerms settings payload (session.clock 0) row checkout.checkoutId with
  | error error => exact .inl ⟨unpaid, fun acknowledged => nomatch acknowledged⟩
  | ok terms =>
      obtain ⟨provider, ordered, checkoutId, credits, price, total⟩ := linkTerms_ok made
      have checks : terms.pack.Checks := by
        rw [PackTerms.checks_iff, credits, price, total, sameCredits, samePrice]
        refine ⟨opens.checks.1, opens.checks.2.1, fun amount is => ?_⟩
        rw [← Option.some.inj is]
        exact opens.checks.2.1.le
      have granting := @Unpaid.grant checkout user initial store session terms opens unpaid
        (by rw [provider, link]; rfl) (by rw [ordered, link]; rfl) (.inr checkoutId)
      simp only [link, PaidEvent.provider, PaidEvent.orderId] at granting
      rcases granting with ⟨-, broken⟩ | ⟨after, ran, -, settled, -⟩
      · exact (broken checks).elim
      · simp only [ran]
        split
        · exact .inl ⟨unpaid, fun acknowledged => nomatch acknowledged⟩
        · split
          · exact .inl ⟨unpaid, fun acknowledged => nomatch acknowledged⟩
          · rename_i result settling
            refine .inr ⟨?_, by rw [link]; trivial⟩
            have length : after.accounts.length = store.accounts.length := by
              obtain ⟨granted, done⟩ := BillingStore.grant_granted ran
              rw [done.result, BillingStore.length_setAccount]
            apply (settled.settle (length.symm ▸ bound) settling).update
            · intro row
              rfl
            · intro row stage
              exact (stage.granted payload.paymentId (session.clock 0)).withCheckout

def Kept (checkout : PaidCheckout) (initial : BillingStore) (state : CheckoutHistory) : Prop :=
  checkout.Unpaid initial state.store ∧
      (state.acknowledged = true → ¬checkout.event.Billable) ∨
    checkout.Settled state.store ∧ checkout.event.Billable

theorem Kept.opened (opens : checkout.Opens user initial) :
    checkout.Kept initial { store := initial } := by
  refine .inl ⟨⟨rfl, ?_⟩, fun acknowledged => nomatch acknowledged⟩
  intro row member same
  rw [opens.rows row member same]
  exact ⟨_, _, _, _, opens.pending, rfl⟩

theorem step_attempts {state : CheckoutHistory} {action : CheckoutAction}
    (jobs : ∀ session, action ≠ .process session) :
    (checkout.step state action).store.accounts = state.store.accounts ∧
      (checkout.step state action).acknowledged = state.acknowledged ∧
      (state.store.Stages checkout.attempt checkout.checkoutId →
        (checkout.step state action).store.Stages checkout.attempt checkout.checkoutId) := by
  cases action with
  | providerCreated =>
      refine ⟨rfl, rfl, fun stages => ?_⟩
      apply stages.updateAttempt
      · intro row
        rfl
      · intro row stage
        exact (stage.withStatus .providerCreated).withCheckout
  | providerFailed =>
      refine ⟨rfl, rfl, fun stages => ?_⟩
      apply stages.updateAttempt
      · intro row
        rfl
      · intro row stage
        exact stage.withStatus .failed
  | lane3 now =>
      refine ⟨rfl, rfl, fun stages => ?_⟩
      apply stages.map
      · intro row _
        split <;> rfl
      · intro row stage
        split
        · exact stage.withStatus .expired
        · exact stage
  | purge now => exact ⟨rfl, rfl, fun stages => stages.filter _⟩
  | process session => exact (jobs session rfl).elim

theorem Unpaid.attempts (unpaid : checkout.Unpaid initial store)
    (same : after.accounts = store.accounts)
    (stages : store.Stages checkout.attempt checkout.checkoutId →
      after.Stages checkout.attempt checkout.checkoutId) : checkout.Unpaid initial after :=
  ⟨same.trans unpaid.accounts, stages unpaid.stages⟩

theorem Settled.attempts (settled : checkout.Settled store)
    (same : after.accounts = store.accounts)
    (stages : store.Stages checkout.attempt checkout.checkoutId →
      after.Stages checkout.attempt checkout.checkoutId) : checkout.Settled after := by
  refine ⟨Granted.of_same settled.granted (.of_accounts same), ?_, stages settled.stages⟩
  intro owner
  rw [BillingStore.account, same]
  exact settled.sound owner

theorem Kept.attempts {state : CheckoutHistory} {action : CheckoutAction}
    (kept : checkout.Kept initial state) (jobs : ∀ session, action ≠ .process session) :
    checkout.Kept initial (checkout.step state action) := by
  obtain ⟨same, silence, stages⟩ := @step_attempts checkout state action jobs
  rcases kept with ⟨unpaid, silent⟩ | ⟨settled, billable⟩
  · exact .inl ⟨unpaid.attempts same stages, silence ▸ silent⟩
  · exact .inr ⟨settled.attempts same stages, billable⟩

theorem Kept.step {state : CheckoutHistory} {action : CheckoutAction}
    (opens : checkout.Opens user initial) (kept : checkout.Kept initial state)
    (timely : checkout.Timely state action) : checkout.Kept initial (checkout.step state action) := by
  cases action with
  | providerCreated => exact kept.attempts fun _ same => nomatch same
  | providerFailed => exact kept.attempts fun _ same => nomatch same
  | lane3 now => exact kept.attempts fun _ same => nomatch same
  | purge now => exact kept.attempts fun _ same => nomatch same
  | process session =>
      rcases kept with ⟨unpaid, silent⟩ | ⟨settled, billable⟩
      · rcases timely with granted | ⟨row, found, accepted⟩
        · obtain ⟨position, holds⟩ := BillingStore.packOfOrder_isSome.mp granted
          have ⟨_, _, _, _, freshOrder, _⟩ := unpaid.opens opens
          exact (freshOrder position holds).elim
        · have handles : checkout.Handles initial
              (checkout.event.handle session state.store) := by
            cases event : checkout.event with
            | order settings payload =>
                rw [event] at accepted
                rcases unpaid.handleOrderCreated opens event found accepted with
                  ⟨same, quiet⟩ | ⟨settled, billable, -⟩
                · refine .inl ⟨?_, quiet⟩
                  simp only [PaidEvent.handle, same]
                  exact unpaid
                · exact .inr ⟨settled, billable⟩
            | link settings payload => exact unpaid.handleRazorpayLinkPaid opens event found
          rcases handles with ⟨still, quiet⟩ | granted
          · refine .inl ⟨still, fun acknowledged => ?_⟩
            rcases Bool.or_eq_true_iff.mp acknowledged with before | now
            · exact silent before
            · exact quiet now
          · exact .inr granted
      · exact .inr ⟨settled.process opens session, billable⟩

theorem Kept.run {state : CheckoutHistory} {actions : List CheckoutAction}
    (opens : checkout.Opens user initial) (kept : checkout.Kept initial state)
    (timely : checkout.TimelyRun state actions) :
    checkout.Kept initial (checkout.run state actions) := by
  induction actions generalizing state with
  | nil => exact kept
  | cons action later ih => exact ih (kept.step opens timely.1) timely.2

theorem Kept.granted_iff {state : CheckoutHistory} (opens : checkout.Opens user initial)
    (kept : checkout.Kept initial state) (acknowledged : state.acknowledged = true) :
    checkout.Granted state.store ↔ checkout.event.Billable := by
  rcases kept with ⟨unpaid, silent⟩ | ⟨settled, billable⟩
  · have ⟨_, _, _, _, freshOrder, _⟩ := unpaid.opens opens
    constructor
    · rintro ⟨position, holds, -⟩
      exact (freshOrder position holds).elim
    · intro billable
      exact (silent acknowledged billable).elim
  · exact ⟨fun _ => billable, fun _ => settled.granted⟩

/-- Timely histories that acknowledge the webhook agree on its order's pack, which is there
unless the order's total is one that no pack can hold. -/
theorem timely_histories_agree (opens : checkout.Opens user initial)
    {first second : List CheckoutAction}
    (timelyFirst : checkout.TimelyRun { store := initial } first)
    (timelySecond : checkout.TimelyRun { store := initial } second)
    (doneFirst : (checkout.run { store := initial } first).acknowledged = true)
    (doneSecond : (checkout.run { store := initial } second).acknowledged = true) :
    (checkout.Granted (checkout.run { store := initial } first).store ↔
      checkout.Granted (checkout.run { store := initial } second).store) ∧
    (checkout.event.Billable → checkout.Granted (checkout.run { store := initial } first).store) := by
  have left := ((Kept.opened opens).run opens timelyFirst).granted_iff opens doneFirst
  have right := ((Kept.opened opens).run opens timelySecond).granted_iff opens doneSecond
  exact ⟨left.trans right.symm, left.mpr⟩

/-! A checkout that expires before its webhook is handled -/

def samplePython : PythonText where
  int _ := none
  isNumber _ := false
  upper text := text
  uuid text := if text = "owner" then some 7 else none
  fromIsoFormat _ := some 100

def sampleAttempt : BillingCheckoutAttempt where
  id := "attempt"
  checkoutRef := "reference"
  userId := 7
  provider := .lemonsqueezy
  checkoutNonceHash := "nonce"
  credits := 50
  priceCents := 500
  currency := "USD"
  validityDays := 30
  createdAt := 0
  expiresAt := 1800

def sampleOrder : LemonPayload where
  orderId := "order"
  storeId := .text "store"
  variantId := .text "variant"
  status := .text "paid"
  currency := .text "USD"
  testMode := .bool false
  itemPriceCents := .int 500
  orderTotalCents := .int 500
  discountTotalCents := .int 0
  createdAt := .text "1970-01-01T00:01:40Z"
  custom := {
    userId := .text "owner", checkoutRef := .text "reference"
    checkoutNonceHashFromWebhook := some "nonce" }

def sampleLemonSettings : LemonSettings where
  python := samplePython
  storeId := "store"
  variantId := "variant"
  testMode := false

def sampleCheckout : PaidCheckout where
  event := .order sampleLemonSettings sampleOrder
  attempt := sampleAttempt
  checkoutId := "checkout"

def sampleStore : BillingStore where
  accounts := [.opened 7 0]
  attempts := [sampleAttempt]

theorem sampleCheckout_opens : sampleCheckout.Opens 0 sampleStore where
  named := by decide
  issued := by decide
  checks := ⟨by decide, by decide, by decide⟩
  pending := .inl rfl
  rows row member _ := List.mem_singleton.mp member
  proves := ⟨rfl, rfl, rfl, rfl⟩
  owner := rfl
  sound owner := by
    cases owner with
    | zero => exact Account.Sound.opened 7 0
    | succ owner => exact Account.Sound.opened 0 0
  referenced := {
    entries := fun _ member => (List.not_mem_nil member).elim
    recoveries := fun _ member => (List.not_mem_nil member).elim }
  apart := by decide
  freshOrder _ holds := nomatch holds.1
  freshCheckout _ member := nomatch member
  unwritten owner bound entry member := by
    cases owner with
    | zero => cases member
    | succ owner => cases member

theorem timely_histories_agree_sample :
    sampleCheckout.Granted (sampleCheckout.run { store := sampleStore }
      [.providerCreated, .process (.at 200), .lane3 2000, .process (.at 3000)]).store ↔
    sampleCheckout.Granted (sampleCheckout.run { store := sampleStore }
      [.process (.at 150), .providerCreated]).store :=
  (timely_histories_agree sampleCheckout_opens
    (show TimelyRun _ _ [.providerCreated, .process (.at 200), .lane3 2000, .process (.at 3000)] from
      ⟨trivial, .inr ⟨_, rfl, rfl⟩, trivial, .inl (by decide), trivial⟩)
    (show TimelyRun _ _ [.process (.at 150), .providerCreated] from
      ⟨.inr ⟨_, rfl, rfl⟩, trivial, trivial⟩) (by decide) (by decide)).1

theorem lane3_costs_paid_order_its_pack :
    sampleCheckout.Opens 0 sampleStore ∧
    parseOrderTimestamp samplePython 6000 sampleOrder.createdAt < sampleAttempt.expiresAt ∧
    (sampleCheckout.run { store := sampleStore } [.providerCreated, .process (.at 200)]).acknowledged =
      true ∧
    sampleCheckout.Granted
      (sampleCheckout.run { store := sampleStore } [.providerCreated, .process (.at 200)]).store ∧
    (sampleCheckout.run { store := sampleStore }
      [.providerCreated, .lane3 5000, .process (.at 6000)]).acknowledged = true ∧
    ¬sampleCheckout.Granted (sampleCheckout.run { store := sampleStore }
      [.providerCreated, .lane3 5000, .process (.at 6000)]).store := by
  have packs : (sampleCheckout.run { store := sampleStore }
      [.providerCreated, .process (.at 200)]).store.packIds = [(0, 0)] := by
    decide
  refine ⟨sampleCheckout_opens, by decide, by decide, ⟨(0, 0), ?_, ?_⟩,
    by decide, ?_⟩
  · exact ⟨packs ▸ List.mem_singleton_self _, by decide⟩
  · rintro position ⟨member, -⟩
    rw [packs] at member
    exact List.mem_singleton.mp member
  · rintro ⟨position, ⟨member, -⟩, -⟩
    have none : (sampleCheckout.run { store := sampleStore }
        [.providerCreated, .lane3 5000, .process (.at 6000)]).store.packIds = [] := by
      decide
    rw [none] at member
    cases member

end PaidCheckout

end Thought2Build.Billing
