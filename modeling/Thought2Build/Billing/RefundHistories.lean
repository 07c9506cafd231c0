import Thought2Build.Billing.CheckoutHistories
import Thought2Build.Billing.RefundReports

/-!
One Lemon Squeezy order and the refunds of it. Their webhooks are handled in any order, each any
number of times, while the attempt behind the order goes its own way.
-/

namespace Thought2Build.Billing

open Rows Account

def LemonPayload.report (settings : LemonSettings) (now : Int) (payload : LemonPayload) :
    Option RefundReport :=
  match payload.refundedAmountCents.coerceInt settings.python, reversalDecision payload.status with
  | .ok refunded, .ok (fullOrFraud, reasonLabel) =>
      some { now, amountCents := refunded.getD 0, fullOrFraud, reasonLabel }
  | _, _ => none

structure RefundedOrder where
  settings : LemonSettings
  order : LemonPayload
  refunds : List LemonPayload
  attempt : BillingCheckoutAttempt
  checkoutId : String

inductive RefundAction where
  | order (action : CheckoutAction)
  | refund (position : Nat) (receivedAt : Int) (session : Session)

/-- `acknowledged` are the positions of the refunds whose rows are processed. -/
structure RefundHistory where
  order : CheckoutHistory
  acknowledged : List Nat := []

namespace RefundedOrder

variable (refunded : RefundedOrder)

def checkout : PaidCheckout where
  event := .order refunded.settings refunded.order
  attempt := refunded.attempt
  checkoutId := refunded.checkoutId

def step (state : RefundHistory) : RefundAction → RefundHistory
  | .order action => { state with order := refunded.checkout.step state.order action }
  | .refund position receivedAt session =>
      match refunded.refunds[position]? with
      | none => state
      | some payload =>
          let result := handleOrderRefunded refunded.settings session payload receivedAt
            state.order.store
          { order := { state.order with store := result.1 }
            acknowledged :=
              if result.2.acknowledges then position :: state.acknowledged
              else state.acknowledged }

def run (state : RefundHistory) (actions : List RefundAction) : RefundHistory :=
  actions.foldl refunded.step state

/-- No refund has been acknowledged when `order_created` is about to grant the order. -/
def Prompt (state : RefundHistory) : RefundAction → Prop
  | .order (.process _) =>
      (∃ row, state.order.store.attempt? refunded.attempt.checkoutRef = some row ∧
          row.status.grantable = true) →
        state.order.store.packOfOrder .lemonsqueezy refunded.order.orderId = none →
          state.acknowledged = []
  | _ => True

def PromptRun : RefundHistory → List RefundAction → Prop
  | _, [] => True
  | state, action :: later =>
      refunded.Prompt state action ∧ PromptRun (refunded.step state action) later

def reportAt (position : Nat) : Option RefundReport :=
  refunded.refunds[position]?.bind (·.report refunded.settings 0)

def Levelled (store : BillingStore) (reports : List RefundReport) : Prop :=
  ∀ position, store.Holds .lemonsqueezy refunded.order.orderId position →
    (store.pack position).refundedItemAmountCentsProcessed =
      greatest (·.level (store.pack position)) reports

end RefundedOrder

section

attribute [local simp] RefundedOrder.step

end

theorem greatest_level_of_terms {first second : BillingCreditPack} (terms : first.SameTerms second)
    (reports : List RefundReport) :
    greatest (·.level second) reports = greatest (·.level first) reports := by
  congr 1
  funext report
  exact report.level_of_terms terms

theorem applyRefundReversal_levels {session : Session} {packId reads : Nat} {amountCents : Int}
    {fullOrFraud : Bool} {reasonLabel : String} {before : Account} {after : Tx}
    {outcome : RefundOutcome} (sound : before.Sound)
    (ran : applyRefundReversal session packId amountCents fullOrFraud reasonLabel none
      { account := before, reads } = .ok (after, outcome)) :
    after.account.Sound ∧ before.SameOrders after.account ∧
      (after.account.pack packId).refundedItemAmountCentsProcessed =
        max (before.pack packId).refundedItemAmountCentsProcessed
          ((before.pack packId).refundLevel amountCents fullOrFraud) := by
  obtain ⟨-, transferred, -, bound, result⟩ := applyRefundReversal_transferred sound.toSourced
    sound.toConstraints.priced (by simp) ran
  simp only at transferred bound result
  have swept := sameTerms_expireUserPacks (session.clock reads) before packId
  have paid : 0 < ((before.expireUserPacks (session.clock reads)).pack packId).paidItemAmountCents := by
    rw [swept.paidItem]
    have checks := sound.packs _ (mem_packs.mpr ⟨packId, bound, rfl⟩)
    exact checks.2.2.2.2.2.2.2.1
  have reversed := (pack_reverseRefund session amountCents fullOrFraud reasonLabel none
    (sound.toSourced.expireUserPacks (session.clock reads))
    (by rwa [packs_length_expireUserPacks]) paid).2
  rw [result, processed_expireUserPacks] at reversed
  refine ⟨sound.applyRefundReversal ran, ?_, ?_⟩
  · exact (Account.SameOrders.expireUserPacks before _).trans transferred.sameOrders
  · rw [reversed]
    congr 1
    exact RefundReport.level_of_terms
      { now := 0, amountCents, fullOrFraud, reasonLabel } swept

namespace RefundedOrder

variable {refunded : RefundedOrder} {user : Nat} {initial store after : BillingStore}
  {reports : List RefundReport}

theorem Levelled.of_accounts (levelled : refunded.Levelled store reports)
    (same : after.accounts = store.accounts) : refunded.Levelled after reports := by
  cases after
  cases store
  cases same
  exact levelled

theorem handleOrderRefunded_unpaid {settings : LemonSettings} {session : Session}
    {payload : LemonPayload} {receivedAt : Int}
    (missing : ∀ position, ¬store.Holds .lemonsqueezy payload.orderId position) :
    (handleOrderRefunded settings session payload receivedAt store).1 = store := by
  have none : store.packOfOrder .lemonsqueezy payload.orderId = none := by
    rw [← Option.not_isSome_iff_eq_none, BillingStore.packOfOrder_isSome]
    rintro ⟨position, holds⟩
    exact missing position holds
  simp only [handleOrderRefunded, none]
  split <;> rfl

theorem handleOrderRefunded_settled {session : Session} {payload : LemonPayload} {receivedAt : Int}
    (settled : refunded.checkout.Settled store) (sameOrder : payload.orderId = refunded.order.orderId)
    (levelled : refunded.Levelled store reports) :
    (∃ name, handleOrderRefunded refunded.settings session payload receivedAt store =
      (store, .raised name)) ∨
    ∃ after report, handleOrderRefunded refunded.settings session payload receivedAt store =
        (after, .committed none) ∧
      payload.report refunded.settings 0 = some report ∧
      refunded.checkout.Settled after ∧ refunded.Levelled after (report :: reports) := by
  obtain ⟨position, holds, unique⟩ := settled.granted
  have isSome : (store.packOfOrder .lemonsqueezy payload.orderId).isSome := by
    rw [sameOrder, BillingStore.packOfOrder_isSome]
    exact ⟨position, holds⟩
  obtain ⟨found, isFound⟩ := Option.isSome_iff_exists.mp isSome
  obtain rfl : found = position := by
    apply unique
    have foundHolds := BillingStore.packOfOrder_holds isFound
    rwa [sameOrder] at foundHolds
  obtain ⟨owner, packId⟩ := found
  have bound := (BillingStore.mem_packIds.mp holds.1).1
  simp only [handleOrderRefunded]
  split
  · rename_i amount fullOrFraud reasonLabel coerced decided
    simp only [LemonPayload.report, isFound, coerced, decided]
    split
    · exact .inl ⟨_, rfl⟩
    · rename_i tx outcome ran
      obtain ⟨sound, same, level⟩ := applyRefundReversal_levels (settled.sound owner) ran
      have orders := BillingStore.SameOrders.setAccount bound same
      refine .inr ⟨_, _, rfl, rfl, ⟨?_, ?_, ?_⟩, ?_⟩
      · exact PaidCheckout.Granted.of_same settled.granted orders
      · intro other
        rw [BillingStore.account_setAccount _ bound]
        split
        · exact sound
        · exact settled.sound other
      · exact settled.stages.of_attempts rfl
      · intro other otherHolds
        obtain rfl : other = (owner, packId) := unique other ((orders.holds other).mp otherHolds)
        have pack : (store.setAccount owner tx.account).pack (owner, packId) =
            tx.account.pack packId := by
          rw [BillingStore.pack, BillingStore.account_setAccount _ bound, if_pos rfl]
        rw [pack, level, greatest_cons, greatest_level_of_terms (same.terms packId) reports,
          RefundReport.level_of_terms _ (same.terms packId), max_comm]
        congr 1
        exact levelled (owner, packId) holds
  · exact .inl ⟨_, rfl⟩
  · exact .inl ⟨_, rfl⟩

def Kept (refunded : RefundedOrder) (initial : BillingStore) (state : RefundHistory) : Prop :=
  refunded.checkout.Unpaid initial state.order.store ∨
    refunded.checkout.Settled state.order.store ∧
      refunded.Levelled state.order.store (state.acknowledged.filterMap refunded.reportAt)

variable {state : RefundHistory} {action : RefundAction} {actions : List RefundAction}

theorem Kept.attempts {action : CheckoutAction} (kept : refunded.Kept initial state)
    (jobs : ∀ session, action ≠ .process session) :
    refunded.Kept initial (refunded.step state (.order action)) := by
  obtain ⟨same, -, stages⟩ :=
    @PaidCheckout.step_attempts refunded.checkout state.order action jobs
  rcases kept with unpaid | ⟨settled, levelled⟩
  · exact .inl (unpaid.attempts same stages)
  · exact .inr ⟨settled.attempts same stages, levelled.of_accounts same⟩

theorem Kept.process (opens : refunded.checkout.Opens user initial)
    (kept : refunded.Kept initial state) {session : Session}
    (prompt : refunded.Prompt state (.order (.process session))) :
    refunded.Kept initial (refunded.step state (.order (.process session))) := by
  rcases kept with unpaid | ⟨settled, levelled⟩
  · by_cases open_ : ∃ row, state.order.store.attempt? refunded.attempt.checkoutRef = some row ∧
        row.status.grantable = true
    · have ⟨_, _, _, _, freshOrder, _⟩ := unpaid.opens opens
      have missing : state.order.store.packOfOrder .lemonsqueezy refunded.order.orderId = none := by
        rw [← Option.not_isSome_iff_eq_none, BillingStore.packOfOrder_isSome]
        rintro ⟨position, holds⟩
        exact freshOrder position holds
      have none := prompt open_ missing
      obtain ⟨row, found, grantable⟩ := open_
      have handled := @PaidCheckout.Unpaid.handleOrderCreated refunded.checkout user initial
        state.order.store refunded.settings refunded.order session row opens unpaid rfl found
        grantable
      rcases handled with ⟨same, -⟩ | ⟨settled, -, unreversed⟩
      · left
        change refunded.checkout.Unpaid initial (handleOrderCreated _ _ _ _).1
        rw [same]
        exact unpaid
      · refine .inr ⟨settled, ?_⟩
        intro position holds
        change _ = greatest _ (state.acknowledged.filterMap refunded.reportAt)
        rw [none]
        exact unreversed position holds
    · left
      change refunded.checkout.Unpaid initial (handleOrderCreated _ _ _ _).1
      rw [unpaid.handleOrderCreated_refused opens rfl]
      · exact unpaid
      · intro row found
        by_contra grantable
        exact open_ ⟨row, found, Bool.of_not_eq_false grantable⟩
  · obtain ⟨still, same⟩ := @PaidCheckout.Settled.handleOrderCreated refunded.checkout
      state.order.store refunded.settings refunded.order session settled rfl
    exact .inr ⟨still, levelled.of_accounts same⟩

theorem Kept.refund (opens : refunded.checkout.Opens user initial)
    (same : ∀ payload ∈ refunded.refunds, payload.orderId = refunded.order.orderId)
    (kept : refunded.Kept initial state) (position : Nat) (receivedAt : Int) (session : Session) :
    refunded.Kept initial (refunded.step state (.refund position receivedAt session)) := by
  cases found : refunded.refunds[position]? with
  | none =>
      simp only [RefundedOrder.step, found]
      exact kept
  | some payload =>
      have sameOrder := same payload (List.mem_of_getElem? found)
      rcases kept with unpaid | ⟨settled, levelled⟩
      · have ⟨_, _, _, _, freshOrder, _⟩ := unpaid.opens opens
        have missing : ∀ position,
            ¬state.order.store.Holds .lemonsqueezy payload.orderId position := by
          rw [sameOrder]
          exact freshOrder
        left
        simp only [RefundedOrder.step, found]
        rw [handleOrderRefunded_unpaid missing]
        exact unpaid
      · right
        rcases @handleOrderRefunded_settled refunded state.order.store _ session payload receivedAt
          settled sameOrder levelled with ⟨name, raised⟩ | ⟨after, report, done, isReport, still⟩
        · simp only [RefundedOrder.step, found, raised]
          exact ⟨settled, levelled⟩
        · have reported : refunded.reportAt position = some report := by
            simp only [reportAt, found, Option.bind_some, isReport]
          simp only [RefundedOrder.step, found, done, HandlerOutcome.acknowledges, if_true]
          rw [List.filterMap_cons_some reported]
          exact still

theorem Kept.run (opens : refunded.checkout.Opens user initial)
    (same : ∀ payload ∈ refunded.refunds, payload.orderId = refunded.order.orderId)
    (kept : refunded.Kept initial state) (prompt : refunded.PromptRun state actions) :
    refunded.Kept initial (refunded.run state actions) := by
  induction actions generalizing state with
  | nil => exact kept
  | cons action later ih =>
      apply ih _ prompt.2
      cases action with
      | order action =>
          cases action with
          | process session => exact kept.process opens prompt.1
          | _ => exact kept.attempts fun _ same => nomatch same
      | refund position receivedAt session => exact kept.refund opens same position receivedAt session

theorem reportAt_mem (report : RefundReport) (all : ∀ position < refunded.refunds.length,
      position ∈ state.acknowledged) :
    report ∈ state.acknowledged.filterMap refunded.reportAt ↔
      report ∈ refunded.refunds.filterMap (·.report refunded.settings 0) := by
  simp only [List.mem_filterMap, reportAt, Option.bind_eq_some_iff]
  constructor
  · rintro ⟨position, -, payload, found, isReport⟩
    exact ⟨payload, List.mem_of_getElem? found, isReport⟩
  · rintro ⟨payload, member, isReport⟩
    obtain ⟨position, bound, here⟩ := List.mem_iff_getElem.mp member
    exact ⟨position, all position bound, payload, List.getElem?_eq_some_iff.mpr ⟨bound, here⟩,
      isReport⟩

/-- Once every refund is acknowledged, the order's one pack stands at the greatest report; or the
order has no pack. -/
theorem refunds_land_on_either_side (opens : refunded.checkout.Opens user initial)
    (same : ∀ payload ∈ refunded.refunds, payload.orderId = refunded.order.orderId)
    (prompt : refunded.PromptRun { order := { store := initial } } actions)
    (all : ∀ position < refunded.refunds.length,
      position ∈ (refunded.run { order := { store := initial } } actions).acknowledged) :
    (∃! position, (refunded.run { order := { store := initial } } actions).order.store.Holds
        .lemonsqueezy refunded.order.orderId position) ∧
      refunded.Levelled (refunded.run { order := { store := initial } } actions).order.store
        (refunded.refunds.filterMap (·.report refunded.settings 0)) ∨
    ∀ position, ¬(refunded.run { order := { store := initial } } actions).order.store.Holds
      .lemonsqueezy refunded.order.orderId position := by
  have opened : refunded.Kept initial { order := { store := initial } } := by
    left
    refine ⟨rfl, ?_⟩
    intro row member ref
    rw [opens.rows row member ref]
    exact ⟨_, _, _, _, opens.pending, rfl⟩
  rcases opened.run opens same prompt with unpaid | ⟨settled, levelled⟩
  · have ⟨_, _, _, _, freshOrder, _⟩ := unpaid.opens opens
    exact .inr freshOrder
  · refine .inl ⟨settled.granted, ?_⟩
    intro position holds
    rw [levelled position holds]
    exact greatest_congr fun report => reportAt_mem report all

/-! A refund that is handled before its order -/

def sampleRefund : LemonPayload where
  orderId := "order"
  status := .text "refunded"
  refundedAmountCents := .int 500

def sampleProvenRefund : LemonPayload :=
  { sampleRefund with custom := PaidCheckout.sampleOrder.custom }

def sampleRefunded (refund : LemonPayload) : RefundedOrder where
  settings := PaidCheckout.sampleLemonSettings
  order := PaidCheckout.sampleOrder
  refunds := [refund]
  attempt := PaidCheckout.sampleAttempt
  checkoutId := "checkout"

def refundFirst : List RefundAction :=
  [.refund 0 100 (.at 150), .order (.process (.at 200)), .refund 0 100 (.at 300)]

theorem refunds_land_on_either_side_sample :
    let store := ((sampleRefunded sampleProvenRefund).run
      { order := { store := PaidCheckout.sampleStore } } refundFirst).order.store
    (∃! position, store.Holds .lemonsqueezy "order" position) ∧
      (sampleRefunded sampleProvenRefund).Levelled store
        [{ now := 0, amountCents := 500, fullOrFraud := true, reasonLabel := "refund" }] ∨
    ∀ position, ¬store.Holds .lemonsqueezy "order" position :=
  @refunds_land_on_either_side (sampleRefunded sampleProvenRefund) 0 PaidCheckout.sampleStore
    refundFirst PaidCheckout.sampleCheckout_opens (by decide)
    ⟨trivial, fun _ _ => by decide, trivial, trivial⟩ (by decide)

theorem refund_without_custom_data_is_lost :
    let state := (sampleRefunded sampleRefund).run
      { order := { store := PaidCheckout.sampleStore } } refundFirst.dropLast
    state.order.acknowledged = true ∧ state.acknowledged = [0] ∧
    ¬((∃! position, state.order.store.Holds .lemonsqueezy "order" position) ∧
        (sampleRefunded sampleRefund).Levelled state.order.store
          ([sampleRefund].filterMap (·.report PaidCheckout.sampleLemonSettings 0)) ∨
      ∀ position, ¬state.order.store.Holds .lemonsqueezy "order" position) := by
  have holds : ((sampleRefunded sampleRefund).run
      { order := { store := PaidCheckout.sampleStore } } refundFirst.dropLast).order.store.Holds
        .lemonsqueezy "order" (0, 0) := by
    decide
  refine ⟨by decide, by decide, ?_⟩
  rintro (⟨-, levelled⟩ | none)
  · have level := levelled (0, 0) holds
    revert level
    decide
  · exact none (0, 0) holds

end RefundedOrder

end Thought2Build.Billing
