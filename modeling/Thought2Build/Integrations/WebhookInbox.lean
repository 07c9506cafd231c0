import Thought2Build.Integrations.WebhookInboxCore

/-!
An acknowledged delivery is dispatched or waits in the inbox, whatever goes wrong. Dispatching it again changes
nothing, unless another dispatch gets between its reads and its commit.
-/

namespace Thought2Build.Integrations

open Histories LatestWrites

namespace TaskSync

variable {task : TaskSync} {now : Int} {event : TaskEvent}

def write (event : TaskEvent) : Int × TaskState := (event.timestamp, event.kind.state)

section

attribute [local simp] WebhookInbox.step

end

theorem doneAt_upgraded (task : TaskSync) (doneVia : DoneVia) : (task.upgraded doneVia).doneAt = task.doneAt := by
  unfold upgraded
  split <;> rfl

theorem doneAt_applyDone {eventTs : Int} (covers : task.register.Covers (eventTs, .done)) (now : Int)
    (doneVia : DoneVia) : (task.applyDone now doneVia eventTs).1.doneAt = task.doneAt := by
  rw [← register_upgraded task doneVia] at covers
  rw [← doneAt_upgraded task doneVia]
  unfold applyDone
  dsimp only
  split
  · rfl
  · rename_i counts
    have done : (task.upgraded doneVia).state = .done :=
      congrArg Register.value (covers.value_of_counts (Bool.eq_false_of_not_eq_true counts))
    rw [if_neg (not_not.mpr done)]

theorem doneAt_applyReopen {eventTs : Int} (covers : task.register.Covers (eventTs, .open)) :
    (task.applyReopen eventTs).1.doneAt = task.doneAt := by
  unfold applyReopen
  split
  · rfl
  · rename_i counts
    have reopened : task.state = .open :=
      congrArg Register.value (covers.value_of_counts (Bool.eq_false_of_not_eq_true counts))
    rw [if_neg (by rw [reopened]; decide)]

theorem apply_of_covers (covers : task.register.Covers (write event)) (now : Int) :
    (task.apply now event).register = task.register ∧ (task.apply now event).doneAt = task.doneAt := by
  refine ⟨(register_apply task now event).trans covers.put_self, ?_⟩
  obtain ⟨kind, timestamp⟩ := event
  cases kind with
  | closed => exact doneAt_applyDone covers now .manual
  | merged => exact doneAt_applyDone covers now .prMerge
  | reopened => exact doneAt_applyReopen covers

theorem process_of_covers {events : List TaskEvent} (covers : ∀ event ∈ events, task.register.Covers (write event))
    (now : Int) : (task.process (events.map fun event => (event, now))).register = task.register ∧
      (task.process (events.map fun event => (event, now))).doneAt = task.doneAt := by
  induction events generalizing task with
  | nil => exact ⟨rfl, rfl⟩
  | cons first rest ih =>
      obtain ⟨register, doneAt⟩ := apply_of_covers (covers first List.mem_cons_self) now
      have later := @ih (task.apply now first) fun event member => by
        rw [register]
        exact covers event (List.mem_cons_of_mem _ member)
      exact ⟨later.1.trans register, later.2.trans doneAt⟩

theorem covers_process {events : List TaskEvent} {other : Int × TaskState} (covers : task.register.Covers other)
    (agree : ∀ event ∈ events, other.1 = event.timestamp → other.2 = event.kind.state) (now : Int) :
    (task.process (events.map fun event => (event, now))).register.Covers other := by
  induction events generalizing task with
  | nil => exact covers
  | cons first rest ih =>
      refine @ih (task.apply now first) ?_ fun event member => agree event (List.mem_cons_of_mem _ member)
      rw [register_apply]
      exact covers.put (agree first List.mem_cons_self)

theorem process_covers {events : List TaskEvent}
    (agree : ∀ first ∈ events, ∀ second ∈ events, first.timestamp = second.timestamp →
      first.kind.state = second.kind.state)
    (now : Int) : ∀ event ∈ events,
      (task.process (events.map fun event => (event, now))).register.Covers (write event) := by
  induction events generalizing task with
  | nil => simp
  | cons first rest ih =>
      intro event member
      rcases List.mem_cons.mp member with rfl | later
      · refine @covers_process (task.apply now event) rest _ ?_ ?_ now
        · rw [register_apply]
          exact covers_put _ _
        · exact fun other held => agree event member other (List.mem_cons_of_mem _ held)
      · refine @ih (task.apply now first) ?_ event later
        intro one held two also
        exact agree one (List.mem_cons_of_mem _ held) two (List.mem_cons_of_mem _ also)

theorem merge_unchanged (loaded written : TaskSync) : loaded.merge written loaded = written := by
  cases written
  simp only [merge]
  congr 1 <;> split <;> simp_all

theorem merge_unwritten (loaded current : TaskSync) : loaded.merge loaded current = current := by
  simp [merge]

end TaskSync

namespace WebhookInbox

variable {texts : Texts} {inbox : WebhookInbox} {key : Nat} {webhook : WebhookRequest}

def RowKept (inbox : WebhookInbox) (row : InboxRow) : Prop :=
  (row.processedAt ≠ none ∧ ∃ webhook ∈ inbox.dispatched, webhook.deliveryId = row.deliveryId) ∨
    row.IsReplayable ∨ (row.processedAt = none ∧ row.payload ≠ none ∧ maxReplayAttempts ≤ row.replayCount)

structure Kept (inbox : WebhookInbox) : Prop where
  rows : ∀ row ∈ inbox.inbox, inbox.RowKept row
  acknowledged : ∀ webhook ∈ inbox.acknowledged, ∃ row ∈ inbox.inbox, row.deliveryId = webhook.deliveryId

def commits (inbox : WebhookInbox) : InboxEvent → Option WebhookRequest
  | .dispatch key =>
      match inbox.workers.lookup key with
      | some (.dispatching webhook _ _) => some webhook
      | _ => none
  | _ => none

def outcome (inbox : WebhookInbox) : List (Nat × TaskState × Option Int) :=
  inbox.tasks.map fun task => (task.externalIssueNumber, task.sync.state, task.sync.doneAt)

/-- One idea for each workspace and issue, and nothing new from a delivery dispatched before. -/
structure Respects (texts : Texts) (inbox : WebhookInbox) (event : InboxEvent) : Prop where
  ideas : ((inbox.step texts event).ideas.map fun idea => (idea.workspace, idea.issue)).Nodup
  again : ∀ webhook ∈ inbox.commits event, webhook ∈ inbox.dispatched →
    (inbox.step texts event).outcome = inbox.outcome ∧ (inbox.step texts event).ideas = inbox.ideas

/-- The tasks and the idea that the dispatch is about are as it has read them. -/
def Undisturbed (texts : Texts) (inbox : WebhookInbox) (webhook : WebhookRequest) (tasks : List TaskSync)
    (ideas : List Idea) : Prop :=
  List.Forall₂ (fun task sync => webhook.eventsFor texts task.externalIssueNumber ≠ [] → sync = task.sync)
      inbox.tasks tasks ∧
    ∀ captured ∈ webhook.capturedIdea, ∀ workspace ∈ inbox.workspaces,
      (ideasOf ideas workspace captured.1 = [] ↔ ideasOf inbox.ideas workspace captured.1 = [])

/-- No two events of an issue have one time and leave different states. -/
def Agrees (texts : Texts) (inbox : WebhookInbox) (first second : WebhookRequest) : Prop :=
  ∀ task ∈ inbox.tasks, ∀ event ∈ first.eventsFor texts task.externalIssueNumber,
    ∀ other ∈ second.eventsFor texts task.externalIssueNumber,
      event.timestamp = other.timestamp → event.kind.state = other.kind.state

def Lands (texts : Texts) (inbox : WebhookInbox) : InboxPoint → Prop
  | .dispatching webhook tasks ideas =>
      inbox.Undisturbed texts webhook tasks ideas ∧
        ∀ dispatched ∈ inbox.dispatched, inbox.Agrees texts dispatched webhook
  | _ => True

def Careful (texts : Texts) (inbox : WebhookInbox) : InboxEvent → Prop
  | .dispatch key => ∀ point ∈ inbox.workers.lookup key, inbox.Lands texts point
  | _ => True

instance (tasks : List TaskSync) (ideas : List Idea) : Decidable (inbox.Undisturbed texts webhook tasks ideas) := by
  unfold Undisturbed; infer_instance

instance (first second : WebhookRequest) : Decidable (inbox.Agrees texts first second) := by
  unfold Agrees; infer_instance

instance (point : InboxPoint) : Decidable (inbox.Lands texts point) := by
  unfold Lands
  split <;> infer_instance

instance (event : InboxEvent) : Decidable (inbox.Careful texts event) := by
  unfold Careful
  split <;> infer_instance

theorem rowKept_of_waiting {row : InboxRow} (unprocessed : row.processedAt = none) (payload : row.payload ≠ none) :
    inbox.RowKept row := by
  by_cases spent : maxReplayAttempts ≤ row.replayCount
  · exact Or.inr (Or.inr ⟨unprocessed, payload, spent⟩)
  · exact Or.inr (Or.inl ⟨unprocessed, payload, Nat.lt_of_not_le spent⟩)

theorem Kept.other (kept : inbox.Kept) {later : WebhookInbox} (rows : later.inbox = inbox.inbox)
    (dispatched : later.dispatched = inbox.dispatched) (acknowledged : later.acknowledged = inbox.acknowledged) :
    later.Kept := by
  constructor
  · intro row member
    unfold RowKept
    rw [dispatched]
    exact kept.rows row (rows ▸ member)
  · rw [rows, acknowledged]
    exact kept.acknowledged

theorem Kept.record (kept : inbox.Kept) (key : Nat) (webhook : WebhookRequest) : (inbox.record key webhook).Kept := by
  unfold WebhookInbox.record
  split
  · exact kept
  · split
    · rename_i known
      refine { rows := kept.rows, acknowledged := ?_ }
      intro other member
      rcases List.mem_append.mp member with before | last
      · exact kept.acknowledged other before
      · rw [List.mem_singleton.mp last]
        exact known
    · split
      · exact kept
      · exact kept.other rfl rfl rfl

theorem Kept.acknowledge (kept : inbox.Kept) (key : Nat) : (inbox.acknowledge key).Kept := by
  unfold WebhookInbox.acknowledge
  split
  · rename_i webhook receivedAt found
    constructor
    · intro row member
      rcases List.mem_append.mp member with before | last
      · exact kept.rows row before
      · rw [List.mem_singleton.mp last]
        exact rowKept_of_waiting rfl (by simp)
    · intro other member
      rcases List.mem_append.mp member with before | last
      · obtain ⟨row, held, same⟩ := kept.acknowledged other before
        exact ⟨row, List.mem_append_left _ held, same⟩
      · rw [List.mem_singleton.mp last]
        exact ⟨_, List.mem_append_right _ List.mem_cons_self, rfl⟩
  · exact kept

theorem Kept.dispatch (kept : inbox.Kept) (texts : Texts) (key : Nat) : (inbox.dispatch texts key).Kept := by
  unfold WebhookInbox.dispatch
  split
  · rename_i webhook tasks ideas found
    constructor
    · intro row member
      obtain ⟨former, before, rfl⟩ := List.mem_map.mp member
      by_cases own : former.deliveryId = webhook.deliveryId
      · rw [if_pos own]
        exact Or.inl ⟨by simp, webhook, List.mem_append_right _ List.mem_cons_self, own.symm⟩
      · rw [if_neg own]
        refine (kept.rows former before).imp_left ?_
        rintro ⟨processed, other, member, same⟩
        exact ⟨processed, other, List.mem_append_left _ member, same⟩
    · intro other member
      obtain ⟨row, held, same⟩ := kept.acknowledged other member
      refine ⟨_, List.mem_map_of_mem held, ?_⟩
      split <;> exact same
  · exact kept

theorem Kept.endSweep (kept : inbox.Kept) (key : Nat) : (inbox.endSweep key).Kept := by
  unfold WebhookInbox.endSweep
  split
  · rename_i replayed found
    constructor
    · intro row member
      obtain ⟨former, before, rfl⟩ := List.mem_map.mp member
      split
      · rename_i replayCount counted
        rcases kept.rows former before with processed | ⟨unprocessed, payload, _⟩ | ⟨unprocessed, payload, _⟩
        · exact Or.inl processed
        · exact rowKept_of_waiting unprocessed payload
        · exact rowKept_of_waiting unprocessed payload
      · exact kept.rows former before
    · intro other member
      obtain ⟨row, held, same⟩ := kept.acknowledged other member
      refine ⟨_, List.mem_map_of_mem held, ?_⟩
      split <;> exact same
  · exact kept

theorem Kept.step (kept : inbox.Kept) (texts : Texts) (event : InboxEvent) : (inbox.step texts event).Kept := by
  cases event with
  | record key webhook => exact kept.record key webhook
  | hand key =>
      simp only [WebhookInbox.step, WebhookInbox.hand]
      split <;> exact kept.other rfl rfl rfl
  | acknowledge key => exact kept.acknowledge key
  | load key webhook =>
      simp only [WebhookInbox.step, WebhookInbox.load]
      split
      · exact kept
      · split <;> exact kept.other rfl rfl rfl
  | dispatch key => exact kept.dispatch texts key
  | sweep key =>
      simp only [WebhookInbox.step, WebhookInbox.sweep]
      split <;> exact kept.other rfl rfl rfl
  | replay key =>
      simp only [WebhookInbox.step, WebhookInbox.replay]
      split <;> exact kept.other rfl rfl rfl
  | endSweep key => exact kept.endSweep key
  | fail key | wait seconds => exact kept.other rfl rfl rfl

theorem writeTasks_eq {tasks : List TrackedTask} {loaded : List TaskSync} {events : Nat → List (TaskEvent × Int)}
    (same : List.Forall₂ (fun task sync => events task.externalIssueNumber ≠ [] → sync = task.sync) tasks loaded) :
    writeTasks tasks loaded (Delivery.processed (restore tasks loaded) events) = Delivery.processed tasks events := by
  induction same with
  | nil => rfl
  | @cons task sync tasks loaded own rest ih =>
      refine List.cons_eq_cons.mpr ⟨?_, ih⟩
      by_cases none : events task.externalIssueNumber = []
      · simp only [none]
        exact congrArg _ (TaskSync.merge_unwritten sync task.sync)
      · simp only [own none]
        exact congrArg _ (TaskSync.merge_unchanged task.sync _)

structure Sound (texts : Texts) (inbox : WebhookInbox) : Prop where
  ideas : (inbox.ideas.map fun idea => (idea.workspace, idea.issue)).Nodup
  captured : ∀ webhook ∈ inbox.dispatched, ∀ captured ∈ webhook.capturedIdea, ∀ workspace ∈ inbox.workspaces,
    ideasOf inbox.ideas workspace captured.1 ≠ []
  covered : ∀ webhook ∈ inbox.dispatched, ∀ task ∈ inbox.tasks,
    ∀ event ∈ webhook.eventsFor texts task.externalIssueNumber, task.sync.register.Covers (TaskSync.write event)

theorem Sound.other (sound : inbox.Sound texts) {later : WebhookInbox} (ideas : later.ideas = inbox.ideas)
    (tasks : later.tasks = inbox.tasks) (dispatched : later.dispatched = inbox.dispatched)
    (workspaces : later.workspaces = inbox.workspaces) : later.Sound texts := by
  constructor
  · rw [ideas]
    exact sound.ideas
  · rw [ideas, dispatched, workspaces]
    exact sound.captured
  · rw [tasks, dispatched]
    exact sound.covered

theorem eventsFor_same {number : Nat} {first second : TaskEvent} (one : first ∈ webhook.eventsFor texts number)
    (two : second ∈ webhook.eventsFor texts number) : first = second := by
  obtain ⟨deliveryId, delivery, labels, title⟩ := webhook
  rcases delivery with _ | ⟨action, issue, timestamp⟩ | ⟨action, merged, body, timestamp⟩
  · simp [WebhookRequest.eventsFor] at one
  · rcases issue with _ | issue
    · simp [WebhookRequest.eventsFor, Delivery.eventsFor] at one
    · rcases timestamp with _ | eventTs
      · simp [WebhookRequest.eventsFor, Delivery.eventsFor] at one
      · simp only [WebhookRequest.eventsFor, Delivery.eventsFor, Option.map_some, Option.getD_some] at one two
        split at one
        · simp at one
        · split at one
          · rename_i closed
            simp_all
          · split at one <;> simp_all
  · rcases timestamp with _ | eventTs
    · simp [WebhookRequest.eventsFor, Delivery.eventsFor] at one
    · simp only [WebhookRequest.eventsFor, Delivery.eventsFor, Option.map_some, Option.getD_some] at one two
      split at one
      · rename_i closes
        rw [if_pos closes] at two
        obtain ⟨_, _, rfl⟩ := List.mem_map.mp one
        obtain ⟨_, _, rfl⟩ := List.mem_map.mp two
        rfl
      · simp at one

theorem dispatch_processed (webhook : WebhookRequest) (now : Int) (tasks : List TrackedTask) :
    webhook.dispatch texts now tasks =
      Delivery.processed tasks fun number => (webhook.eventsFor texts number).map fun event => (event, now) := by
  unfold WebhookRequest.dispatch WebhookRequest.eventsFor
  cases webhook.delivery with
  | none => exact (Delivery.processed_nothing fun _ => rfl).symm
  | some delivery => exact Delivery.dispatch_eq delivery

theorem Undisturbed.tasks {tasks : List TaskSync} {ideas : List Idea}
    (undisturbed : inbox.Undisturbed texts webhook tasks ideas) (now : Int) :
    writeTasks inbox.tasks tasks (webhook.dispatch texts now (restore inbox.tasks tasks)) =
      Delivery.processed inbox.tasks fun number =>
        (webhook.eventsFor texts number).map fun event => (event, now) := by
  rw [dispatch_processed]
  refine writeTasks_eq (undisturbed.1.imp ?_)
  intro task sync same events
  exact same fun none => events (by rw [none]; rfl)

theorem mem_captured {ideas : List Idea} {idea : Idea} : idea ∈ inbox.captured webhook ideas ↔
    idea.workspace ∈ inbox.workspaces ∧ webhook.capturedIdea = some (idea.issue, idea.text) ∧
      ideasOf ideas idea.workspace idea.issue = [] := by
  unfold captured
  cases captures : webhook.capturedIdea with
  | none => simp
  | some pair =>
      obtain ⟨issue, text⟩ := pair
      simp only [List.mem_map, List.mem_filter, List.mem_dedup, decide_eq_true_eq, Option.some.injEq,
        Prod.mk.injEq]
      constructor
      · rintro ⟨workspace, ⟨member, none⟩, rfl⟩
        exact ⟨member, ⟨rfl, rfl⟩, none⟩
      · rintro ⟨member, ⟨rfl, rfl⟩, none⟩
        exact ⟨idea.workspace, ⟨member, none⟩, rfl⟩

theorem captured_nodup (webhook : WebhookRequest) (ideas : List Idea) :
    ((inbox.captured webhook ideas).map fun idea => (idea.workspace, idea.issue)).Nodup := by
  unfold captured
  split
  · simp
  · rw [List.map_map]
    refine List.Nodup.map ?_ (List.Nodup.filter _ (List.nodup_dedup _))
    intro first second same
    exact (Prod.mk.inj same).1

theorem ideasOf_ne_nil {ideas : List Idea} {idea : Idea} (member : idea ∈ ideas) :
    ideasOf ideas idea.workspace idea.issue ≠ [] :=
  List.ne_nil_of_mem (List.mem_filter.mpr ⟨member, by simp⟩)

theorem Sound.ideas_dispatch (sound : inbox.Sound texts) {tasks : List TaskSync} {ideas : List Idea}
    (undisturbed : inbox.Undisturbed texts webhook tasks ideas) :
    ((inbox.ideas ++ inbox.captured webhook ideas).map fun idea => (idea.workspace, idea.issue)).Nodup := by
  rw [List.map_append]
  refine List.Nodup.append sound.ideas (captured_nodup webhook ideas) ?_
  rintro pair before after
  obtain ⟨old, held, rfl⟩ := List.mem_map.mp before
  obtain ⟨idea, new, same⟩ := List.mem_map.mp after
  obtain ⟨workspace, captures, none⟩ := mem_captured.mp new
  obtain ⟨own, issue⟩ := Prod.mk.inj same
  have absent := (undisturbed.2 _ captures idea.workspace workspace).mp none
  rw [own, issue] at absent
  exact ideasOf_ne_nil held absent

theorem Sound.dispatch (sound : inbox.Sound texts)
    (lands : ∀ point ∈ inbox.workers.lookup key, inbox.Lands texts point) : (inbox.dispatch texts key).Sound texts := by
  unfold WebhookInbox.dispatch
  split
  · rename_i webhook tasks ideas found
    obtain ⟨undisturbed, agrees⟩ := lands _ found
    constructor
    · exact sound.ideas_dispatch undisturbed
    · intro dispatched member captured captures workspace held
      dsimp only
      rw [ideasOf, List.filter_append]
      by_cases there : ideasOf inbox.ideas workspace captured.1 = []
      · rcases List.mem_append.mp member with before | last
        · exact absurd there (sound.captured dispatched before captured captures workspace held)
        · rw [List.mem_singleton.mp last] at captures
          have absent := (undisturbed.2 captured captures workspace held).mpr there
          have new : (⟨workspace, captured.1, captured.2⟩ : Idea) ∈ inbox.captured webhook ideas :=
            mem_captured.mpr ⟨held, captures, absent⟩
          exact List.append_ne_nil_of_right_ne_nil _ (ideasOf_ne_nil new)
      · exact List.append_ne_nil_of_left_ne_nil there _
    · dsimp only
      rw [undisturbed.tasks]
      intro dispatched member task after event brought
      obtain ⟨former, before, rfl⟩ := List.mem_map.mp after
      rcases List.mem_append.mp member with old | last
      · refine TaskSync.covers_process (sound.covered dispatched old former before event brought) ?_ _
        intro other held
        exact agrees dispatched old former before event brought other held
      · rw [List.mem_singleton.mp last] at brought
        refine TaskSync.process_covers ?_ _ event brought
        intro one first two second _
        rw [eventsFor_same first second]
  · exact sound

theorem Sound.again (sound : inbox.Sound texts) {tasks : List TaskSync} {ideas : List Idea}
    (found : inbox.workers.lookup key = some (.dispatching webhook tasks ideas))
    (undisturbed : inbox.Undisturbed texts webhook tasks ideas) (before : webhook ∈ inbox.dispatched) :
    (inbox.dispatch texts key).outcome = inbox.outcome ∧ (inbox.dispatch texts key).ideas = inbox.ideas := by
  simp only [WebhookInbox.dispatch, found, outcome]
  constructor
  · rw [undisturbed.tasks, Delivery.processed, List.map_map]
    refine List.map_congr_left ?_
    intro task member
    obtain ⟨register, doneAt⟩ := TaskSync.process_of_covers (sound.covered webhook before task member) inbox.clock
    have state := congrArg Register.value register
    exact congrArg (Prod.mk _) (Prod.ext state doneAt)
  · refine List.append_right_eq_self.mpr (List.eq_nil_iff_forall_not_mem.mpr ?_)
    intro idea new
    obtain ⟨workspace, captures, none⟩ := mem_captured.mp new
    exact sound.captured webhook before _ captures idea.workspace workspace
      ((undisturbed.2 _ captures idea.workspace workspace).mp none)

theorem Sound.step (sound : inbox.Sound texts) (event : InboxEvent) (careful : inbox.Careful texts event) :
    (inbox.step texts event).Sound texts := by
  cases event with
  | record key webhook =>
      simp only [WebhookInbox.step, WebhookInbox.record]
      split
      · exact sound
      · split
        · exact sound.other rfl rfl rfl rfl
        · split <;> exact sound.other rfl rfl rfl rfl
  | hand key =>
      simp only [WebhookInbox.step, WebhookInbox.hand]
      split <;> exact sound.other rfl rfl rfl rfl
  | acknowledge key =>
      simp only [WebhookInbox.step, WebhookInbox.acknowledge]
      split <;> exact sound.other rfl rfl rfl rfl
  | load key webhook =>
      simp only [WebhookInbox.step, WebhookInbox.load]
      split
      · exact sound
      · split <;> exact sound.other rfl rfl rfl rfl
  | dispatch key => exact sound.dispatch careful
  | sweep key =>
      simp only [WebhookInbox.step, WebhookInbox.sweep]
      split <;> exact sound.other rfl rfl rfl rfl
  | replay key =>
      simp only [WebhookInbox.step, WebhookInbox.replay]
      split <;> exact sound.other rfl rfl rfl rfl
  | endSweep key =>
      simp only [WebhookInbox.step, WebhookInbox.endSweep]
      split <;> exact sound.other rfl rfl rfl rfl
  | fail key | wait seconds => exact sound.other rfl rfl rfl rfl

theorem commits_eq_some {event : InboxEvent} (committed : inbox.commits event = some webhook) :
    ∃ key tasks ideas, event = .dispatch key ∧
      inbox.workers.lookup key = some (.dispatching webhook tasks ideas) := by
  cases event with
  | dispatch key =>
      simp only [commits] at committed
      split at committed
      · rename_i tasks ideas found
        obtain rfl := Option.some.inj committed
        exact ⟨key, tasks, ideas, rfl, found⟩
      · contradiction
  | _ => simp [commits] at committed

/-- Whatever happens, an acknowledged delivery is dispatched or can be replayed until its replays are used up; and in
a run whose dispatches land, dispatching it again leaves the tasks and the ideas. -/
theorem deliveries_kept_and_idempotent (texts : Texts) (workspaces : List Nat) (tasks : List TrackedTask)
    (events front : List InboxEvent) (event : InboxEvent) (back : List InboxEvent)
    (split : events = front ++ event :: back) :
    (play (step texts) { workspaces, tasks } events).Kept ∧
      (Along (step texts) (Careful texts) { workspaces, tasks } events →
        (play (step texts) { workspaces, tasks } front).Respects texts event) := by
  constructor
  · have kept : ∀ state event, Kept state → Kept (state.step texts event) :=
      fun _ event kept => kept.step texts event
    have initial : Kept { workspaces, tasks } := by constructor <;> simp
    exact invariant kept initial events
  · intro careful
    subst split
    obtain ⟨before, now, _⟩ := along_append.mp careful
    have kept : ∀ state event, Sound texts state → Careful texts state event → Sound texts (state.step texts event) :=
      fun _ event sound careful => sound.step event careful
    have initial : Sound texts { workspaces, tasks } := by constructor <;> simp
    have sound := before.invariant kept initial
    refine { ideas := (sound.step event now).ideas, again := ?_ }
    intro webhook committed dispatched
    obtain ⟨key, read, ideas, rfl, found⟩ := commits_eq_some committed
    exact sound.again found (now _ found).1 dispatched

def sampleWebhook : WebhookRequest where
  deliveryId := 1
  delivery := some (.issues "closed" (some 7) (some 5))

def ideaWebhook : WebhookRequest where
  deliveryId := 2
  delivery := some (.issues "reopened" (some 7) (some 6))
  labels := ["idea"]

def sampleDeliveries : List InboxEvent :=
  [.record 0 sampleWebhook, .hand 0, .load 1 sampleWebhook, .dispatch 1, .acknowledge 0, .wait 4000, .sweep 2,
    .replay 2, .endSweep 2, .load 3 sampleWebhook]

theorem deliveries_kept_and_idempotent_sample :
    (play (step sampleTexts) { workspaces := [1], tasks := [{ externalIssueNumber := 7 }] } sampleDeliveries).Respects
      sampleTexts (.dispatch 3) :=
  (deliveries_kept_and_idempotent sampleTexts [1] [{ externalIssueNumber := 7 }] (sampleDeliveries ++ [.dispatch 3])
    sampleDeliveries (.dispatch 3) [] rfl).2 (by decide)

def overlapping (webhook : WebhookRequest) : List InboxEvent :=
  [.record 0 webhook, .hand 0, .acknowledge 0, .load 1 webhook, .load 2 webhook, .dispatch 1, .wait 10]

theorem overlapping_dispatches_differ :
    ¬(play (step sampleTexts) { workspaces := [1], tasks := [{ externalIssueNumber := 7 }] }
        (overlapping ideaWebhook)).Respects sampleTexts (.dispatch 2) ∧
      ¬(play (step sampleTexts) { workspaces := [1], tasks := [{ externalIssueNumber := 7 }] }
        (overlapping sampleWebhook)).Respects sampleTexts (.dispatch 2) := by
  constructor
  · intro respects
    have ideas := respects.ideas
    revert ideas
    decide
  · intro respects
    have again := respects.again sampleWebhook (by decide) (by decide)
    revert again
    decide

end WebhookInbox

end Thought2Build.Integrations
