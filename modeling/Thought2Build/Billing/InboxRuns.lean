import Thought2Build.Billing.InboxCore

/-! Interleaved runs of one inbox row: when a finished row stays finished and a row is given up
only for runs that broke. -/

namespace Thought2Build.Billing

namespace JobRun

variable {event : BillingWebhookEvent} {chance : Chance} {phase : JobRun}

section

attribute [local simp] proceed BillingWebhookEvent.claim BillingWebhookEvent.markProcessed Inbox.step

end

theorem proceed_retryCount (phase : JobRun) (event : BillingWebhookEvent) (chance : Chance) :
    (phase.proceed event chance).event.retryCount + phase.broke.toNat =
      event.retryCount + (phase.proceed event chance).run.broke.toNat := by
  cases phase with
  | claiming =>
      simp only [proceed, BillingWebhookEvent.claim]
      split
      · rfl
      · rename_i claimed
        split at claimed
        · cases claimed
        · cases claimed
          rfl
  | dispatching =>
      simp only [proceed]
      split
      · rfl
      · split <;> rfl
  | handling =>
      simp only [proceed]
      split
      · rfl
      · split <;> rfl
  | acking =>
      simp only [proceed, BillingWebhookEvent.markProcessed]
      split
      · split <;> rfl
      · rfl
  | settled =>
      simp only [proceed]
      split <;> rfl
  | failing => rfl
  | returned => rfl
  | raised => rfl
  | lost => rfl
  | died => rfl

theorem proceed_processing
    (processing : (phase.proceed event chance).event.status = .processing) :
    (phase.proceed event chance).run.holds ∨ event.status = .processing ∧ ¬phase.holds := by
  cases phase with
  | claiming =>
      simp only [proceed, BillingWebhookEvent.claim] at processing ⊢
      split at processing
      · exact .inr ⟨processing, nofun⟩
      · exact .inl rfl
  | dispatching =>
      simp only [proceed] at processing ⊢
      split at processing
      · rename_i done
        exact absurd processing (by simp [done])
      · rename_i open_
        rw [if_neg open_]
        split <;> exact .inl rfl
  | handling =>
      simp only [proceed] at processing ⊢
      split at processing
      · rename_i done
        exact absurd processing (by simp [done])
      · rename_i open_
        rw [if_neg open_]
        split at processing
        · cases processing
        · cases processing
        · exact .inl rfl
        · exact .inl rfl
  | acking =>
      simp only [proceed] at processing ⊢
      split at processing
      · simp only [BillingWebhookEvent.markProcessed] at processing
        split at processing
        · rename_i done
          exact absurd processing (by simp [done])
        · cases processing
      · exact .inl rfl
  | settled =>
      simp only [proceed] at processing ⊢
      split at processing
      · exact .inr ⟨processing, nofun⟩
      · exact .inl rfl
  | failing => cases processing
  | returned => exact .inr ⟨processing, nofun⟩
  | raised => exact .inr ⟨processing, nofun⟩
  | lost => exact .inr ⟨processing, nofun⟩
  | died => exact .inr ⟨processing, nofun⟩

theorem proceed_processed (done : event.status = .processed)
    (kept : phase.fails = false) : phase.proceed event chance =
      ⟨event, (phase.proceed event chance).run, 0⟩ := by
  cases phase with
  | claiming => simp only [proceed, BillingWebhookEvent.claim, if_pos done]
  | dispatching => simp only [proceed, if_pos done]
  | handling => simp only [proceed, if_pos done]
  | acking =>
      simp only [proceed, BillingWebhookEvent.markProcessed, if_pos done]
      split <;> rfl
  | settled =>
      simp only [proceed]
      split <;> rfl
  | failing text => cases kept
  | returned => rfl
  | raised => rfl
  | lost => rfl
  | died => rfl

theorem proceed_committed (phase : JobRun) (chance : Chance) (opened : event.status ≠ .processed) :
    (phase.proceed event chance).committed = 0 ∨
      (phase.proceed event chance).committed = 1 ∧
        (phase.proceed event chance).event.status = .processed := by
  cases phase with
  | claiming =>
      simp only [proceed]
      split <;> exact .inl rfl
  | dispatching =>
      simp only [proceed, if_neg opened]
      split <;> exact .inl rfl
  | handling =>
      simp only [proceed, if_neg opened]
      split
      · exact .inr ⟨rfl, rfl⟩
      · exact .inl rfl
      · exact .inl rfl
      · exact .inl rfl
  | acking =>
      simp only [proceed]
      split <;> exact .inl rfl
  | settled =>
      simp only [proceed]
      split <;> exact .inl rfl
  | failing => exact .inl rfl
  | returned => exact .inl rfl
  | raised => exact .inl rfl
  | lost => exact .inl rfl
  | died => exact .inl rfl

theorem crash_broke (phase : JobRun) : phase.broke.toNat ≤ phase.crash.broke.toNat := by
  cases phase <;> first | exact le_rfl | exact Nat.zero_le _

theorem holds_crash (holds : phase.holds) : phase.crash.broke = true ∧ phase.broke = false := by
  cases phase with
  | dispatching => exact ⟨rfl, rfl⟩
  | handling => exact ⟨rfl, rfl⟩
  | acking => exact ⟨rfl, rfl⟩
  | failing => exact ⟨rfl, rfl⟩
  | claiming | settled | returned | raised | lost | died => cases holds

end JobRun

namespace BillingWebhookEvent

variable {event : BillingWebhookEvent} {excludeDeferredRetries : Bool} {now : Int}

theorem claimPendingIds_stale (excludeDeferredRetries : Bool) (stale : event.Stale now) :
    (event.claimPendingIds excludeDeferredRetries now).1.status = .failed ∧
      (event.claimPendingIds excludeDeferredRetries now).1.retryCount = event.retryCount + 1 := by
  simp only [claimPendingIds, if_pos stale, and_self]

theorem claimPendingIds_fresh (fresh : ¬event.Stale now) :
    (event.claimPendingIds excludeDeferredRetries now).1 = event := by
  simp only [claimPendingIds, if_neg fresh]

theorem claimPendingIds_given_up (failed : event.status = .failed)
    (spent : jobMaxTries ≤ event.retryCount) :
    event.claimPendingIds excludeDeferredRetries now = (event, false) := by
  have fresh : ¬event.Stale now := by
    rintro ⟨processing, -⟩
    rw [failed] at processing
    cases processing
  simp only [claimPendingIds, if_neg fresh, Pending, failed, reduceCtorEq, false_and, false_or,
    true_and, Nat.not_lt.mpr spent, decide_false]

end BillingWebhookEvent

namespace Inbox

variable {inbox : Inbox} {action : InboxAction} {actions : List InboxAction}

/-- What a step must not do for the guarantees to hold: write a failure over `processed`, or
reclaim a row that a run still holds. -/
def Orderly (inbox : Inbox) : InboxAction → Prop
  | .proceed run _ => inbox.runs[run]?.map JobRun.fails = some true →
      inbox.event.status ≠ .processed
  | .sweep _ now => inbox.event.Stale now → ∀ run ∈ inbox.runs, ¬run.holds
  | _ => True

instance : Decidable (inbox.Orderly action) :=
  match action with
  | .proceed _ _ => inferInstanceAs (Decidable (_ → _))
  | .sweep _ _ => inferInstanceAs (Decidable (_ → _))
  | .start => inferInstanceAs (Decidable True)
  | .crash _ => inferInstanceAs (Decidable True)

def OrderlyRun : Inbox → List InboxAction → Prop
  | _, [] => True
  | inbox, action :: later => inbox.Orderly action ∧ (inbox.step action).OrderlyRun later

instance decidableOrderlyRun : (inbox : Inbox) → (actions : List InboxAction) →
    Decidable (inbox.OrderlyRun actions)
  | _, [] => inferInstanceAs (Decidable True)
  | inbox, action :: later =>
      have := decidableOrderlyRun (inbox.step action) later
      inferInstanceAs (Decidable (_ ∧ _))

/-- Every retry is paid for by a broken run; a `processing` row has a run that holds it or a
broken run to spare; effects are committed once, with `processed`. -/
structure Kept (inbox : Inbox) : Prop where
  paid : inbox.event.retryCount ≤ inbox.broken
  owned : inbox.event.status = .processing →
    (∃ run ∈ inbox.runs, run.holds) ∨ inbox.event.retryCount < inbox.broken
  once : inbox.effects = 0 ∨ inbox.effects = 1 ∧ inbox.event.status = .processed

theorem countP_set {runs : List JobRun} {position : Nat} {before : JobRun} (after : JobRun)
    (found : runs[position]? = some before) :
    (runs.set position after).countP JobRun.broke + before.broke.toNat =
      runs.countP JobRun.broke + after.broke.toNat := by
  obtain ⟨bound, rfl⟩ := List.getElem?_eq_some_iff.mp found
  rw [List.countP_set bound]
  cases before : runs[position].broke with
  | false =>
      cases after.broke <;> simp
  | true =>
      have counted : 0 < runs.countP JobRun.broke :=
        List.countP_pos_iff.mpr ⟨_, List.getElem_mem bound, before⟩
      cases after.broke
      · simp only [Bool.toNat_true, Bool.toNat_false, if_true, if_false, Bool.false_eq_true]
        omega
      · simp only [Bool.toNat_true, if_true]
        omega

theorem Kept.opened (provider : Provider) (eventName : String) (receivedAt : Int) :
    (opened provider eventName receivedAt).Kept :=
  ⟨le_rfl, nofun, .inl rfl⟩

theorem Kept.proceed {position : Nat} {phase : JobRun} {chance : Chance} (kept : inbox.Kept)
    (found : inbox.runs[position]? = some phase)
    (orderly : phase.fails = true → inbox.event.status ≠ .processed) :
    (inbox.step (.proceed position chance)).Kept := by
  simp only [step, found]
  have count := countP_set (phase.proceed inbox.event chance).run found
  have retries := phase.proceed_retryCount inbox.event chance
  have paid := kept.paid
  simp only [broken] at paid
  refine ⟨?_, ?_, ?_⟩
  · simp only [broken]
    omega
  · intro processing
    rcases JobRun.proceed_processing processing with holds | ⟨before, free⟩
    · exact .inl ⟨_, List.mem_set (List.getElem?_eq_some_iff.mp found).1 _, holds⟩
    · rcases kept.owned before with ⟨run, member, holds⟩ | spare
      · obtain ⟨other, bound, rfl⟩ := List.mem_iff_getElem.mp member
        refine .inl ⟨inbox.runs[other], ?_, holds⟩
        have distinct : position ≠ other := by
          rintro rfl
          rw [List.getElem?_eq_getElem bound] at found
          cases found
          exact free holds
        rw [← List.getElem_set_of_ne distinct _ (by simpa using bound)]
        exact List.getElem_mem _
      · right
        simp only [broken] at spare ⊢
        omega
  · by_cases done : inbox.event.status = .processed
    · rw [JobRun.proceed_processed done (Bool.eq_false_iff.mpr fun fails => orderly fails done)]
      exact kept.once.imp_right fun ⟨one, _⟩ => ⟨one, done⟩
    · have none := kept.once.resolve_right fun ⟨_, finished⟩ => done finished
      rcases phase.proceed_committed chance done with zero | ⟨one, finished⟩
      · exact .inl (by simp only [none, zero])
      · exact .inr ⟨by simp only [none, one], finished⟩

theorem Kept.crash {position : Nat} (kept : inbox.Kept) : (inbox.step (.crash position)).Kept := by
  simp only [step, List.modify_eq_set_getElem?]
  cases found : inbox.runs[position]? with
  | none => exact kept
  | some phase =>
      simp only [Option.map_eq_map, Option.map_some, Option.getD_some]
      have count := countP_set phase.crash found
      have grows := phase.crash_broke
      have paid := kept.paid
      simp only [broken] at paid
      refine ⟨by simp only [broken]; omega, ?_, kept.once⟩
      intro processing
      rcases kept.owned processing with ⟨run, member, holds⟩ | spare
      · obtain ⟨other, bound, rfl⟩ := List.mem_iff_getElem.mp member
        by_cases same : position = other
        · subst same
          rw [List.getElem?_eq_getElem bound] at found
          cases found
          obtain ⟨crashed, sound⟩ := JobRun.holds_crash holds
          rw [crashed, sound] at count
          right
          simp only [broken, Bool.toNat_true, Bool.toNat_false] at count ⊢
          omega
        · refine .inl ⟨inbox.runs[other], ?_, holds⟩
          rw [← List.getElem_set_of_ne same _ (by simpa using bound)]
          exact List.getElem_mem _
      · right
        simp only [broken] at spare ⊢
        omega

theorem Kept.sweep {excludeDeferredRetries : Bool} {now : Int} (kept : inbox.Kept)
    (orderly : inbox.event.Stale now → ∀ run ∈ inbox.runs, ¬run.holds) :
    (inbox.step (.sweep excludeDeferredRetries now)).Kept := by
  by_cases stale : inbox.event.Stale now
  · obtain ⟨failed, retried⟩ :=
      BillingWebhookEvent.claimPendingIds_stale excludeDeferredRetries stale
    have spare := (kept.owned stale.1).resolve_left fun ⟨run, member, holds⟩ =>
      orderly stale run member holds
    refine ⟨?_, ?_, ?_⟩
    · simp only [step, retried]
      exact spare
    · intro processing
      simp only [step, failed] at processing
      cases processing
    · refine .inl (kept.once.resolve_right ?_)
      rintro ⟨-, done⟩
      rw [stale.1] at done
      cases done
  · simp only [step, BillingWebhookEvent.claimPendingIds_fresh stale]
    exact kept

theorem Kept.step (kept : inbox.Kept) (orderly : inbox.Orderly action) :
    (inbox.step action).Kept := by
  cases action with
  | start =>
      refine ⟨?_, ?_, kept.once⟩
      · have paid := kept.paid
        simp only [Inbox.step, broken, List.countP_append] at paid ⊢
        omega
      · intro processing
        rcases kept.owned processing with ⟨run, member, holds⟩ | spare
        · exact .inl ⟨run, List.mem_append_left _ member, holds⟩
        · right
          simp only [Inbox.step, broken, List.countP_append] at spare ⊢
          omega
  | proceed position chance =>
      cases found : inbox.runs[position]? with
      | none =>
          simp only [Inbox.step, found]
          exact kept
      | some phase =>
          apply kept.proceed found
          intro fails
          exact orderly (by rw [found, Option.map_some, fails])
  | crash position => exact kept.crash
  | sweep excludeDeferredRetries now => exact kept.sweep orderly

theorem Kept.run (kept : inbox.Kept) (orderly : inbox.OrderlyRun actions) :
    (inbox.run actions).Kept := by
  induction actions generalizing inbox with
  | nil => exact kept
  | cons action later ih => exact ih (kept.step orderly.1) orderly.2

theorem step_processed (done : inbox.event.status = .processed) (orderly : inbox.Orderly action) :
    (inbox.step action).event.status = .processed := by
  cases action with
  | start => exact done
  | proceed position chance =>
      simp only [step]
      split
      · exact done
      · rename_i phase found
        rw [JobRun.proceed_processed done]
        · exact done
        · apply Bool.eq_false_iff.mpr
          intro fails
          exact orderly (by rw [found, Option.map_some, fails]) done
  | crash position => exact done
  | sweep excludeDeferredRetries now =>
      simp only [step]
      rw [BillingWebhookEvent.claimPendingIds_fresh]
      · exact done
      · rintro ⟨processing, -⟩
        rw [done] at processing
        cases processing

theorem run_processed (done : inbox.event.status = .processed)
    (orderly : inbox.OrderlyRun actions) : (inbox.run actions).event.status = .processed := by
  induction actions generalizing inbox with
  | nil => exact done
  | cons action later ih => exact ih (step_processed done orderly.1) orderly.2

/-- In an orderly run a processed row stays processed, effects are committed at most once, and
a row is given up only after `JOB_MAX_TRIES` broken runs. -/
theorem inbox_keeps_healthy_events (provider : Provider) (eventName : String) (receivedAt : Int)
    (actions : List InboxAction)
    (orderly : (opened provider eventName receivedAt).OrderlyRun actions) :
    (∀ later, ((opened provider eventName receivedAt).run actions).OrderlyRun later →
      ((opened provider eventName receivedAt).run actions).event.status = .processed →
      (((opened provider eventName receivedAt).run actions).run later).event.status =
        .processed) ∧
    ((opened provider eventName receivedAt).run actions).effects ≤ 1 ∧
    (((opened provider eventName receivedAt).run actions).event.status = .failed →
      jobMaxTries ≤ ((opened provider eventName receivedAt).run actions).event.retryCount →
      jobMaxTries ≤ ((opened provider eventName receivedAt).run actions).broken) := by
  have kept := (Kept.opened provider eventName receivedAt).run orderly
  refine ⟨fun later laterOrderly done => run_processed done laterOrderly, ?_, ?_⟩
  · rcases kept.once with none | ⟨one, -⟩ <;> omega
  · intro _ spent
    exact spent.trans kept.paid

theorem inbox_keeps_healthy_events_refund :
    (opened .lemonsqueezy "order_refunded" 0).OrderlyRun
        [.start, .proceed 0 {}, .crash 0, .sweep true 1000, .start, .proceed 1 {}, .proceed 1 {},
          .proceed 1 {}] ∧
      ((opened .lemonsqueezy "order_refunded" 0).run
        [.start, .proceed 0 {}, .crash 0, .sweep true 1000, .start, .proceed 1 {}, .proceed 1 {},
          .proceed 1 {}]).effects ≤ 1 :=
  ⟨by decide, (inbox_keeps_healthy_events .lemonsqueezy "order_refunded" 0
    [.start, .proceed 0 {}, .crash 0, .sweep true 1000, .start, .proceed 1 {}, .proceed 1 {},
      .proceed 1 {}] (by decide)).2.1⟩

def overlappingRuns : List InboxAction :=
  [.start, .start, .proceed 0 {}, .proceed 1 {}, .proceed 0 {}, .proceed 1 {},
    .proceed 1 { outcome := .raised "OperationalError" }, .proceed 0 {}]

def reclaimedRuns : List InboxAction :=
  (List.range jobMaxTries).flatMap fun run => [.start, .proceed run {}, .sweep true 1000]

theorem finished_row_reopens_and_slow_row_is_given_up :
    (((opened .razorpay "payment_link.paid" 0).run overlappingRuns).event.status = .processed ∧
      (((opened .razorpay "payment_link.paid" 0).run overlappingRuns).run
        [.proceed 1 {}]).event.status = .failed ∧
      (((opened .razorpay "payment_link.paid" 0).run overlappingRuns).run
        [.proceed 1 {}, .start, .proceed 2 {}, .proceed 2 {}, .proceed 2 {}]).effects = 2) ∧
    ((opened .razorpay "payment_link.paid" 0).run reclaimedRuns).event.status = .failed ∧
    jobMaxTries ≤ ((opened .razorpay "payment_link.paid" 0).run reclaimedRuns).event.retryCount ∧
    ((opened .razorpay "payment_link.paid" 0).run reclaimedRuns).broken = 0 := by
  decide

end Inbox

end Thought2Build.Billing
