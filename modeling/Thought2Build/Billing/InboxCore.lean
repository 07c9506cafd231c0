import Thought2Build.Billing.AccountCore

/-!
One row of `billing_webhook_events` and the job runs that process it. Claim, dispatch, handler,
acknowledgement and failure are separate transactions, and any number of runs interleave.
-/

namespace Thought2Build.Billing

inductive WebhookStatus where
  | received | processing | processed | failed
  deriving DecidableEq

def Provider.text : Provider → String
  | .lemonsqueezy => "lemonsqueezy"
  | .stripe => "stripe"
  | .razorpay => "razorpay"

structure BillingWebhookEvent where
  provider : Provider
  eventName : String
  status : WebhookStatus := .received
  retryCount : Nat := 0
  lastError : Option String := none
  receivedAt : Int
  processedAt : Option Int := none

def jobMaxTries : Nat := 5

def staleProcessingSeconds : Int := 5 * 60

def packNotYetGranted : String := "pack_not_yet_granted"

def eventHandlers : List (Provider × String) :=
  [(.lemonsqueezy, "order_created"), (.lemonsqueezy, "order_refunded"),
    (.razorpay, "payment_link.paid"), (.razorpay, "refund.processed"),
    (.razorpay, "payment.dispute.created"), (.razorpay, "payment.dispute.under_review"),
    (.razorpay, "payment.dispute.action_required"), (.razorpay, "payment.dispute.lost"),
    (.razorpay, "payment.dispute.won"), (.razorpay, "payment.dispute.closed")]

def orderEvents : List String :=
  ["order_created", "order_refunded", "payment_link.paid", "refund.processed"]

namespace BillingWebhookEvent

variable (event : BillingWebhookEvent)

/-- The durable claim of `billing_process_webhook`; `none` when it short-circuits. -/
def claim : Option BillingWebhookEvent :=
  if event.status = .processed then none else some { event with status := .processing }

inductive Route where
  | handler | unregistered | acknowledge
  deriving DecidableEq

def route : Route :=
  if (event.provider, event.eventName) ∈ eventHandlers then .handler
  else if event.eventName ∈ orderEvents then .unregistered
  else .acknowledge

def unregisteredText : String :=
  "RuntimeError: no handler registered for order event '" ++ event.eventName ++
    "' (provider '" ++ event.provider.text ++ "')"

def markProcessed (now : Int) : BillingWebhookEvent :=
  if event.status = .processed then event
  else { event with status := .processed, processedAt := some now }

def formatError (text : String) : String :=
  String.ofList (text.toList.take 2000)

def persistFailed (text : String) : BillingWebhookEvent :=
  { event with
    status := .failed, retryCount := event.retryCount + 1, lastError := some (formatError text) }

/-- A row that `_claim_pending_ids` takes for abandoned: the clock is the first receipt. -/
def Stale (now : Int) : Prop :=
  event.status = .processing ∧ event.receivedAt < now - staleProcessingSeconds

instance (now : Int) : Decidable (event.Stale now) :=
  inferInstanceAs (Decidable (_ ∧ _))

def Pending (excludeDeferredRetries : Bool) : Prop :=
  (event.status = .received ∧
      (excludeDeferredRetries = true → event.lastError ≠ some packNotYetGranted)) ∨
    (event.status = .failed ∧ event.retryCount < jobMaxTries)

instance (excludeDeferredRetries : Bool) : Decidable (event.Pending excludeDeferredRetries) :=
  inferInstanceAs (Decidable (_ ∨ _))

/-- `_claim_pending_ids` with `reclaim_stale`, as the 60-second sweep and lane 1 call it, for a
row it does not skip as locked. -/
def claimPendingIds (excludeDeferredRetries : Bool) (now : Int) : BillingWebhookEvent × Bool :=
  let swept := if event.Stale now then
    { event with
      status := .failed, retryCount := event.retryCount + 1,
      lastError := some "reclaimed: processing exceeded 5 minutes" } else event
  (swept, swept.Pending excludeDeferredRetries)

end BillingWebhookEvent

/-- How a handler's transaction ends once it has locked a row that is not processed:
its effects and `processed` in one commit, a refund parked for its grant, a rollback after an
insert conflict with the acknowledgement still to come, or an exception. -/
inductive HandlerOutcome where
  | committed (lastError : Option String)
  | parked
  | conflicted
  | raised (text : String)

/-- Where a run of `billing_process_webhook` stands between two transactions. `settled` is past
the handler's last commit, `raised` past `_persist_failed`; `lost` died before its claim, `died`
after it. -/
inductive JobRun where
  | claiming | dispatching | handling | acking | settled
  | failing (text : String)
  | returned | raised | lost | died

structure Chance where
  now : Int := 0
  outcome : HandlerOutcome := .committed none
  raises : Option String := none

/-- One transaction of a run; `committed` counts the effects a handler committed in it. -/
structure Proceeded where
  event : BillingWebhookEvent
  run : JobRun
  committed : Nat

namespace JobRun

def holds : JobRun → Bool
  | dispatching | handling | acking | failing _ => true
  | _ => false

def fails : JobRun → Bool
  | failing _ => true
  | _ => false

def broke : JobRun → Bool
  | raised | died => true
  | _ => false

def crash : JobRun → JobRun
  | claiming => lost
  | dispatching | handling | acking | settled | failing _ => died
  | ended => ended

def proceed (event : BillingWebhookEvent) (chance : Chance) : JobRun → Proceeded
  | claiming =>
      match event.claim with
      | none => ⟨event, returned, 0⟩
      | some claimed => ⟨claimed, dispatching, 0⟩
  | dispatching =>
      if event.status = .processed then ⟨event, returned, 0⟩
      else match event.route with
        | .handler => ⟨event, handling, 0⟩
        | .unregistered => ⟨event, failing event.unregisteredText, 0⟩
        | .acknowledge => ⟨event, acking, 0⟩
  | handling =>
      if event.status = .processed then ⟨event, returned, 0⟩
      else match chance.outcome with
        | .committed lastError =>
            ⟨{ event with
              status := .processed, processedAt := some chance.now,
              lastError := lastError.or event.lastError }, settled, 1⟩
        | .parked =>
            ⟨{ event with status := .received, lastError := some packNotYetGranted }, settled, 0⟩
        | .conflicted => ⟨event, acking, 0⟩
        | .raised text => ⟨event, failing text, 0⟩
  | acking =>
      match chance.raises with
      | none => ⟨event.markProcessed chance.now, settled, 0⟩
      | some text => ⟨event, failing text, 0⟩
  | settled =>
      -- invalidating the cache, counting and logging come after the commit and may still raise
      match chance.raises with
      | none => ⟨event, returned, 0⟩
      | some text => ⟨event, failing text, 0⟩
  | failing text => ⟨event.persistFailed text, raised, 0⟩
  | ended => ⟨event, ended, 0⟩

end JobRun

structure Inbox where
  event : BillingWebhookEvent
  runs : List JobRun
  effects : Nat

/-- A run may start at any time: by the queue, a retry, a sweep or the direct call of
`process_recovered_payment`. -/
inductive InboxAction where
  | start
  | proceed (run : Nat) (chance : Chance)
  | crash (run : Nat)
  | sweep (excludeDeferredRetries : Bool) (now : Int)

namespace Inbox

def opened (provider : Provider) (eventName : String) (receivedAt : Int) : Inbox :=
  ⟨{ provider, eventName, receivedAt }, [], 0⟩

def broken (inbox : Inbox) : Nat :=
  inbox.runs.countP JobRun.broke

def step (inbox : Inbox) : InboxAction → Inbox
  | .start => { inbox with runs := inbox.runs ++ [.claiming] }
  | .proceed run chance =>
      match inbox.runs[run]? with
      | none => inbox
      | some phase =>
          let done := phase.proceed inbox.event chance
          ⟨done.event, inbox.runs.set run done.run, inbox.effects + done.committed⟩
  | .crash run => { inbox with runs := inbox.runs.modify run JobRun.crash }
  | .sweep excludeDeferredRetries now =>
      { inbox with event := (inbox.event.claimPendingIds excludeDeferredRetries now).1 }

def run (inbox : Inbox) (actions : List InboxAction) : Inbox :=
  actions.foldl step inbox

end Inbox

end Thought2Build.Billing
