import Thought2Build.Billing.CheckoutHistories
import Thought2Build.Billing.RazorpayDisputesCore
import Thought2Build.Library.Histories

/-! In which orders the events of a dispute may arrive. -/

namespace Thought2Build.Billing

open Histories

/-- `meanwhile` is whatever else commits, to all tables but that of the disputes. -/
inductive DisputeAction where
  | deliver (session : Session) (payload : RazorpayDispute)
  | meanwhile (after : BillingStore)

section Row

variable {getDispute : String → Option ProviderDispute} {payload last : RazorpayDispute} {events : List RazorpayDispute}
  {row : Option BillingDispute}

namespace RazorpayDispute

def own (payload : RazorpayDispute) : BillingDispute := payload.row payload.state payload.amount payload.amountDeducted

/-- The row of the dispute once an event of it is acknowledged -/
def heard (getDispute : String → Option ProviderDispute) (payload : RazorpayDispute) (row : Option BillingDispute) :
    Option BillingDispute :=
  if row.any (·.stale payload.eventCreatedAt payload.state) then row else payload.decided getDispute row

/-- No event that has been heard takes the place of the last one. -/
def Stands (last : RazorpayDispute) (events : List RazorpayDispute) : Prop :=
  ∀ event ∈ events, event.eventCreatedAt ≤ last.eventCreatedAt ∨
    last.state.terminal = true ∧ event.state.terminal = false

/-- Events of one time are one event. -/
def Apart (events : List RazorpayDispute) : Prop :=
  ∀ first ∈ events, ∀ second ∈ events, first.eventCreatedAt = second.eventCreatedAt → first = second

theorem stale_own : last.own.stale payload.eventCreatedAt payload.state =
    (decide (payload.eventCreatedAt < last.eventCreatedAt) || last.state.terminal && !payload.state.terminal ||
      payload.eventCreatedAt = last.eventCreatedAt && last.state.terminal && last.state = payload.state) := rfl

theorem decided_own (single : ∀ kept, row = some kept → payload.eventCreatedAt = kept.eventCreatedAt →
    kept.status.terminal = true → payload.state.terminal = false) :
    payload.decided getDispute row = some payload.own := by
  refine if_neg fun tie => ?_
  obtain ⟨kept, held, same⟩ := (Option.any_eq_true _ _).mp tie
  simp only [Bool.and_eq_true, decide_eq_true_eq] at same
  rw [single kept held same.1.1 same.1.2] at same
  exact Bool.false_ne_true same.2

/-- An event that is older than the row, or open where the row is not, is dropped. -/
theorem heard_own (same : payload.eventCreatedAt = last.eventCreatedAt → payload = last) :
    payload.heard getDispute (some last.own) =
      if payload.eventCreatedAt < last.eventCreatedAt ∨ last.state.terminal = true ∧ payload.state.terminal = false
      then some last.own else some payload.own := by
  by_cases equal : payload.eventCreatedAt = last.eventCreatedAt
  · obtain rfl := same equal
    cases terminal : payload.state.terminal with
    | true => simp [heard, stale_own, terminal]
    | false =>
        have once := @decided_own getDispute payload (some payload.own) fun _ _ _ _ => terminal
        simp [heard, stale_own, terminal, once]
  · have once := @decided_own getDispute payload (some last.own) fun kept held tie => by
      obtain rfl := Option.some.inj held
      exact absurd tie equal
    simp [heard, stale_own, equal, once]

theorem Stands.hear (stands : last.Stands events)
    (same : payload.eventCreatedAt = last.eventCreatedAt → payload = last) :
    ∃ next, (next = last ∨ next = payload) ∧ payload.heard getDispute (some last.own) = some next.own ∧
      next.Stands (payload :: events) := by
  rw [heard_own same]
  split
  · rename_i dropped
    refine ⟨last, .inl rfl, rfl, ?_⟩
    intro event member
    rcases List.mem_cons.mp member with rfl | before
    · exact dropped.imp_left le_of_lt
    · exact stands event before
  · rename_i counts
    rw [not_or, not_lt, not_and, Bool.not_eq_false] at counts
    obtain ⟨later, keeps⟩ := counts
    refine ⟨payload, .inr rfl, rfl, ?_⟩
    intro event member
    rcases List.mem_cons.mp member with rfl | before
    · exact .inl le_rfl
    · rcases stands event before with earlier | ⟨terminal, open'⟩
      · exact .inl (earlier.trans later)
      · exact .inr ⟨keeps terminal, open'⟩

instance (events : List RazorpayDispute) : Decidable (Apart events) :=
  inferInstanceAs (Decidable (∀ first ∈ events, _))

/-- An event is decisive where a terminal one is the newest, if there is a terminal one. -/
def EndsDecided (events : List RazorpayDispute) : Prop :=
  (∃ event ∈ events, event.state.terminal = true) →
    ∃ last ∈ events, last.state.terminal = true ∧ ∀ event ∈ events, event.eventCreatedAt ≤ last.eventCreatedAt

theorem Stands.newest (stands : last.Stands events) (member : last ∈ events) (ends : EndsDecided events) :
    ∀ event ∈ events, event.eventCreatedAt ≤ last.eventCreatedAt := by
  intro event held
  rcases stands event held with before | ⟨terminal, open'⟩
  · exact before
  · obtain ⟨newest, inside, decides, reach⟩ := ends ⟨last, member, terminal⟩
    rcases stands newest inside with before | ⟨-, opens⟩
    · exact (reach event held).trans before
    · rw [decides] at opens
      contradiction

end RazorpayDispute

end Row

section Runs

variable {python : PythonText} {getDispute : String → Option ProviderDispute} {session : Session}
  {payload : RazorpayDispute} {store : BillingStore} {disputeId : String} {events : List RazorpayDispute}
  {actions front : List DisputeAction}

theorem dispute_recordDispute (row : BillingDispute) : (store.recordDispute row).dispute? disputeId =
    if row.providerDisputeId = disputeId then some row else store.dispute? disputeId := by
  simp only [BillingStore.dispute?, BillingStore.recordDispute, List.find?_cons, List.find?_filter]
  by_cases own : row.providerDisputeId = disputeId
  · simp [own]
  · simp only [own, decide_false, if_false]
    congr 1
    funext kept
    by_cases same : kept.providerDisputeId = disputeId
    · simp [same, Ne.symm own]
    · simp [same]

theorem settleDispute_disputes {row : BillingDispute} {after : BillingStore}
    (settled : store.settleDispute python session payload row = .ok after) : after.disputes = store.disputes := by
  simp only [BillingStore.settleDispute] at settled
  split at settled
  · cases settled
    rfl
  · split at settled
    · cases settled
    · split at settled
      · cases settled
      · rename_i position _ _ _ refundedCents _
        cases ran : store.settle session position refundedCents with
        | error error =>
            rw [ran] at settled
            cases settled
        | ok next =>
            rw [ran] at settled
            cases settled
            simp only [BillingStore.settle] at ran
            obtain ⟨account, -, returned⟩ := bind_eq_ok ran
            cases returned
            rfl

theorem decided_id {decided : BillingDispute} {row : Option BillingDispute}
    (decides : payload.decided getDispute row = some decided) : decided.providerDisputeId = payload.disputeId := by
  simp only [RazorpayDispute.decided] at decides
  split at decides
  · split at decides
    · split at decides
      · cases decides
        rfl
      · cases decides
    · cases decides
  · cases decides
    rfl

theorem dispute_handled
    (acknowledged : (handleRazorpayDispute python getDispute session payload store).2.acknowledges = true) :
    (handleRazorpayDispute python getDispute session payload store).1.dispute? disputeId =
      if payload.disputeId = disputeId then payload.heard getDispute (store.dispute? disputeId)
      else store.dispute? disputeId := by
  generalize handled : handleRazorpayDispute python getDispute session payload store = result at acknowledged ⊢
  rw [handleRazorpayDispute] at handled
  split at handled
  · subst handled
    cases acknowledged
  split at handled
  · rename_i stale
    subst handled
    split
    · rename_i own
      rw [RazorpayDispute.heard, ← own, if_pos stale]
    · rfl
  rename_i counts
  split at handled
  · subst handled
    cases acknowledged
  rename_i row decides
  split at handled
  · subst handled
    cases acknowledged
  rename_i after settled
  subst handled
  have recorded : after.dispute? disputeId = (store.recordDispute row).dispute? disputeId :=
    congrArg (List.find? _) (settleDispute_disputes settled)
  rw [recorded, dispute_recordDispute, decided_id decides]
  split
  · rename_i own
    rw [RazorpayDispute.heard, ← own, if_neg counts, decides]
  · rfl

variable (python getDispute)

def hear (store : BillingStore) : DisputeAction → BillingStore
  | .deliver session payload => (handleRazorpayDispute python getDispute session payload store).1
  | .meanwhile after => { after with disputes := store.disputes }

def Acknowledges (store : BillingStore) : DisputeAction → Prop
  | .deliver session payload => (handleRazorpayDispute python getDispute session payload store).2.acknowledges = true
  | .meanwhile _ => True

instance (store : BillingStore) : DecidablePred (Acknowledges python getDispute store)
  | .deliver _ _ => inferInstanceAs (Decidable (_ = true))
  | .meanwhile _ => isTrue trivial

/-- The events of a dispute that a run delivers -/
def delivered (disputeId : String) (actions : List DisputeAction) : List RazorpayDispute :=
  actions.filterMap fun
    | .deliver _ payload => if payload.disputeId = disputeId then some payload else none
    | .meanwhile _ => none

variable {python getDispute}

/-- What a dispute's row says of the events that were acknowledged -/
def Recorded (store : BillingStore) (disputeId : String) (events : List RazorpayDispute) : Prop :=
  events = [] ∧ store.dispute? disputeId = none ∨
    ∃ last ∈ events, store.dispute? disputeId = some last.own ∧ last.Stands events

theorem recorded_play (fresh : store.dispute? disputeId = none)
    (acknowledged : Along (hear python getDispute) (Acknowledges python getDispute) store actions)
    (apart : RazorpayDispute.Apart (delivered disputeId actions)) :
    Recorded (play (hear python getDispute) store actions) disputeId (delivered disputeId actions) := by
  induction actions using List.reverseRecOn with
  | nil => exact .inl ⟨rfl, fresh⟩
  | append_singleton front action ih =>
      obtain ⟨early, now, -⟩ := along_append.mp acknowledged
      rw [play_append, play_cons, play_nil]
      rw [delivered, List.filterMap_append, ← delivered] at apart ⊢
      have before := ih early fun first one second two =>
        apart first (List.mem_append_left _ one) second (List.mem_append_left _ two)
      cases action with
      | meanwhile after => simpa [Recorded, hear, BillingStore.dispute?] using before
      | deliver session payload =>
          have heard := @dispute_handled python getDispute session payload _ disputeId now
          by_cases own : payload.disputeId = disputeId
          · rw [if_pos own] at heard
            simp only [List.filterMap_cons, own, if_true, List.filterMap_nil] at apart ⊢
            have newest : payload ∈ delivered disputeId front ++ [payload] :=
              List.mem_append_right _ (List.mem_singleton_self _)
            rcases before with ⟨empty, none⟩ | ⟨last, member, held, stands⟩
            · rw [none] at heard
              rw [empty] at newest ⊢
              exact .inr ⟨payload, newest, heard, fun event single => .inl (List.mem_singleton.mp single ▸ le_rfl)⟩
            · rw [held] at heard
              obtain ⟨next, which, becomes, stands⟩ := @RazorpayDispute.Stands.hear getDispute payload last _ stands
                (apart payload newest last (List.mem_append_left _ member))
              refine .inr ⟨next, ?_, heard.trans becomes, fun event inside => stands event ?_⟩
              · rcases which with rfl | rfl
                · exact List.mem_append_left _ member
                · exact newest
              · simpa [or_comm] using inside
          · rw [if_neg own] at heard
            simpa [Recorded, hear, own, heard] using before

/-- The events of a dispute may arrive in any order and more than once, while all else goes on, if no open event is
newer than the terminal ones. -/
theorem dispute_order_does_not_matter (python : PythonText) (getDispute : String → Option ProviderDispute)
    (disputeId : String) {store other : BillingStore} (fresh : store.dispute? disputeId = none)
    (fresh' : other.dispute? disputeId = none) {first second : List DisputeAction}
    (acknowledged : Along (hear python getDispute) (Acknowledges python getDispute) store first)
    (acknowledged' : Along (hear python getDispute) (Acknowledges python getDispute) other second)
    (same : ∀ event, event ∈ delivered disputeId first ↔ event ∈ delivered disputeId second)
    (apart : RazorpayDispute.Apart (delivered disputeId first))
    (ends : RazorpayDispute.EndsDecided (delivered disputeId first)) :
    (play (hear python getDispute) store first).dispute? disputeId =
      (play (hear python getDispute) other second).dispute? disputeId := by
  have apart' : RazorpayDispute.Apart (delivered disputeId second) := fun one held two held' =>
    apart one ((same one).mpr held) two ((same two).mpr held')
  rcases recorded_play fresh acknowledged apart with ⟨empty, none⟩ | ⟨last, member, held, stands⟩
  · rcases recorded_play fresh' acknowledged' apart' with ⟨-, none'⟩ | ⟨last', member', -⟩
    · rw [none, none']
    · have inside := (same last').mpr member'
      rw [empty] at inside
      cases inside
  · rcases recorded_play fresh' acknowledged' apart' with ⟨empty', -⟩ | ⟨last', member', held', stands'⟩
    · have inside := (same last).mp member
      rw [empty'] at inside
      cases inside
    · have inside := (same last').mpr member'
      have stands' : last'.Stands (delivered disputeId first) := fun event one => stands' event ((same event).mp one)
      have equal := le_antisymm (stands'.newest inside ends last member) (stands.newest member ends last' inside)
      rw [held, held', apart last member last' inside equal]

end Runs

def sampleDispute (status : DisputeStatus) (eventCreatedAt : Int) : RazorpayDispute where
  disputeId := "disp_1"
  paymentId := "pay_1"
  eventCreatedAt
  status
  amount := 10
  currency := "INR"

def deliveries (payloads : List RazorpayDispute) : List DisputeAction :=
  payloads.map (.deliver (.at 0))

/-- The decision comes after a newer event of the open dispute, and is dropped. -/
theorem older_decision_dropped :
    ((play (hear PaidCheckout.samplePython fun _ => none) { accounts := [], attempts := [] }
      (deliveries [sampleDispute .underReview 2, sampleDispute .lost 1])).dispute? "disp_1").map (·.status) =
        some .underReview := by decide

theorem dispute_order_does_not_matter_lost :
    (play (hear PaidCheckout.samplePython fun _ => none) { accounts := [], attempts := [] }
      (deliveries [sampleDispute .underReview 1, sampleDispute .lost 2])).dispute? "disp_1" =
    (play (hear PaidCheckout.samplePython fun _ => none) { accounts := [], attempts := [] }
      (deliveries [sampleDispute .lost 2, sampleDispute .underReview 1, sampleDispute .lost 2])).dispute? "disp_1" :=
  dispute_order_does_not_matter PaidCheckout.samplePython (fun _ => none) "disp_1" rfl rfl (by decide) (by decide)
    (by simp [deliveries, delivered, sampleDispute, or_comm]) (by decide)
    (fun _ => ⟨sampleDispute .lost 2, by decide⟩)

end Thought2Build.Billing
