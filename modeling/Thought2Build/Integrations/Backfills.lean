import Thought2Build.Integrations.BackfillCore
import Thought2Build.Integrations.TaskEvents

/-!
What the backfill's cursor leaves behind. As long as no listed issue moves while pages are left, every issue
behind the cursor is applied to its row, and sweeps bring all rows up to date once the issues stay still.
-/

namespace Thought2Build.Integrations

open Histories

namespace Inbound

variable {inbound : Inbound} {row : TaskSync} {issue : RepositoryIssue}

def Reflects (inbound : Inbound) (row : TaskSync) (issue : RepositoryIssue) : Prop :=
  row.state = issue.state ∧ ∀ webhook ∈ inbound.webhooks, webhook.number = issue.number →
    webhook.event.kind.state ≠ issue.state → row.stale webhook.event.timestamp = true

structure Sweeping (inbound : Inbound) (backfill : Backfill) : Prop where
  started : backfill.sweepStartedAt ≤ inbound.clock
  since : backfill.since = inbound.lastFullBackfillAt
  numbers : backfill.loaded.map (·.externalIssueNumber) <+: inbound.rows.map (·.externalIssueNumber)
  synced : ∀ task ∈ backfill.loaded, ∀ issue ∈ inbound.issues,
    issue.number = task.externalIssueNumber → task.sync.stale issue.updatedAt = false
  grown : ∀ (place : Nat) (before row : TrackedTask), backfill.loaded[place]? = some before →
    inbound.rows[place]? = some row → ∀ eventTs, before.sync.stale eventTs = true → row.sync.stale eventTs = true
  added : ∀ (place : Nat) (row : TrackedTask), backfill.loaded.length ≤ place →
    inbound.rows[place]? = some row → ∀ issue ∈ inbound.issues, issue.number = row.externalIssueNumber →
      backfill.sweepStartedAt ≤ issue.updatedAt ∨ inbound.Reflects row.sync issue
  read : ∀ listed ∈ backfill.listed, (∀ cursor, backfill.since = some cursor → cursor ≤ listed.updatedAt) ∧
    ∃ issue ∈ inbound.issues, issue.number = listed.number ∧ issue.pull = listed.pull ∧
      listed.updatedAt ≤ issue.updatedAt
  once : (backfill.listed.map (·.number)).Nodup
  reading : backfill.complete = false → (∃ rest, inbound.listing backfill.since = backfill.listed ++ rest) ∧
    backfill.listed.length = issuesPageSize * backfill.pages ∧ backfill.pages < issuesMaxPages
  covered : backfill.complete = true → ∀ issue ∈ inbound.issues, issue ∈ backfill.listed ∨
    (∃ cursor, backfill.since = some cursor ∧ issue.updatedAt < cursor) ∨
    ((∀ listed ∈ backfill.listed, listed.updatedAt ≤ issue.updatedAt) ∧
      (backfill.sweepStartedAt ≤ issue.updatedAt ∨ issuesFetchCap ≤ backfill.listed.length))

structure Sound (inbound : Inbound) : Prop where
  clocked : ∀ issue ∈ inbound.issues, issue.updatedAt ≤ inbound.clock
  cursor : ∀ cursor, inbound.lastFullBackfillAt = some cursor → cursor ≤ inbound.clock
  ordered : inbound.issues.Pairwise (·.updatedAt ≤ ·.updatedAt)
  distinct : (inbound.issues.map (·.number)).Nodup
  sent : ∀ webhook ∈ inbound.webhooks, ∃ issue ∈ inbound.issues, issue.number = webhook.number ∧
    webhook.event.timestamp ≤ issue.updatedAt ∧
      (webhook.event.kind.state ≠ issue.state → webhook.event.timestamp < issue.updatedAt)
  closed : ∀ issue ∈ inbound.issues, issue.closed = true → ∃ webhook ∈ inbound.webhooks,
    webhook.number = issue.number
  rows : (inbound.rows.map (·.externalIssueNumber)).Nodup
  tracked : ∀ row ∈ inbound.rows, ∃ issue ∈ inbound.issues,
    issue.number = row.externalIssueNumber ∧ issue.pull = false
  synced : ∀ row ∈ inbound.rows, ∀ issue ∈ inbound.issues,
    issue.number = row.externalIssueNumber → row.sync.stale issue.updatedAt = false
  behind : ∀ row ∈ inbound.rows, ∀ issue ∈ inbound.issues, issue.number = row.externalIssueNumber →
    (∀ cursor, inbound.lastFullBackfillAt = some cursor → cursor ≤ issue.updatedAt) ∨
      inbound.Reflects row.sync issue
  sweeping : ∀ backfill, inbound.backfill = some backfill → inbound.Sweeping backfill

def Unlisted (inbound : Inbound) (number : Nat) : Prop :=
  ∀ backfill ∈ inbound.backfill, backfill.complete = false → ∀ listed ∈ backfill.listed, listed.number ≠ number

def Apart (inbound : Inbound) (number : Nat) : Prop :=
  ∀ webhook ∈ inbound.webhooks, webhook.number = number → webhook.event.timestamp < inbound.clock

def Trackable (inbound : Inbound) (number : Nat) : Prop :=
  (∀ row ∈ inbound.rows, row.externalIssueNumber ≠ number) ∧
    ((∀ webhook ∈ inbound.webhooks, webhook.number ≠ number) ∨
      (inbound.backfill = none ∧ ∀ issue ∈ inbound.issues, issue.number = number →
        ∀ cursor ∈ inbound.lastFullBackfillAt, cursor ≤ issue.updatedAt))

def Committable (inbound : Inbound) (backfill : Backfill) : Prop :=
  (issuesFetchCap ≤ backfill.listed.length → inbound.rows.length = backfill.loaded.length ∧
    ∃ listed ∈ backfill.listed, ∀ cursor ∈ backfill.since, cursor < listed.updatedAt) ∧
  ∀ pair ∈ backfill.loaded.zip inbound.rows, pair.2.sync.state = pair.1.sync.state ∨
    ∀ issue ∈ inbound.issues, issue.number = pair.2.externalIssueNumber → pair.2.sync.state = issue.state

def Careful (inbound : Inbound) : InboundEvent → Prop
  | .closeIssue number _ => inbound.Unlisted number ∧ inbound.Apart number
  | .reopenIssue number => inbound.Unlisted number ∧ inbound.Apart number
  | .editIssue number => inbound.Unlisted number
  | .track number => inbound.Trackable number
  | .commit => ∀ backfill ∈ inbound.backfill, inbound.Committable backfill
  | _ => True

instance (number : Nat) : Decidable (inbound.Unlisted number) := by unfold Unlisted; infer_instance

instance (number : Nat) : Decidable (inbound.Apart number) := by unfold Apart; infer_instance

instance (number : Nat) : Decidable (inbound.Trackable number) := by unfold Trackable; infer_instance

instance (backfill : Backfill) : Decidable (inbound.Committable backfill) := by unfold Committable; infer_instance

instance (event : InboundEvent) : Decidable (inbound.Careful event) := by
  unfold Careful
  split <;> infer_instance

theorem Reflects.apply (reflects : inbound.Reflects row issue) {webhook : Webhook} (now : Int)
    (member : webhook ∈ inbound.webhooks) (number : webhook.number = issue.number) :
    inbound.Reflects (row.apply now webhook.event) issue := by
  refine ⟨?_, fun other held same apart => TaskSync.stale_apply (reflects.2 other held same apart)⟩
  rw [TaskSync.state_apply]
  split
  · exact reflects.1
  · rename_i counts
    by_contra apart
    exact counts (reflects.2 webhook member number apart)

def stamp (inbound : Inbound) (stamped : RepositoryIssue) (sent : List Webhook) : Inbound :=
  { inbound with
    issues := inbound.issues.filter (·.number ≠ stamped.number) ++ [stamped]
    webhooks := inbound.webhooks ++ sent }

structure Stampable (inbound : Inbound) (stamped : RepositoryIssue) (sent : List Webhook) : Prop where
  now : stamped.updatedAt = inbound.clock
  pull : ∀ issue ∈ inbound.issues, issue.number = stamped.number → issue.pull = stamped.pull
  fresh : ∀ webhook ∈ sent, webhook.number = stamped.number ∧ webhook.event.timestamp ≤ inbound.clock ∧
    webhook.event.kind.state = stamped.state
  apart : ∀ webhook ∈ inbound.webhooks, webhook.number = stamped.number →
    webhook.event.kind.state ≠ stamped.state → webhook.event.timestamp < inbound.clock
  closed : stamped.closed = true → ∃ webhook ∈ inbound.webhooks ++ sent, webhook.number = stamped.number
  unlisted : inbound.Unlisted stamped.number

variable {stamped : RepositoryIssue} {sent : List Webhook}

theorem mem_stamp : issue ∈ (inbound.stamp stamped sent).issues ↔
    (issue ∈ inbound.issues ∧ issue.number ≠ stamped.number) ∨ issue = stamped := by
  simp [stamp]

theorem Reflects.stamp (stampable : inbound.Stampable stamped sent) (reflects : inbound.Reflects row issue)
    (other : issue.number ≠ stamped.number) : (inbound.stamp stamped sent).Reflects row issue := by
  refine ⟨reflects.1, ?_⟩
  intro webhook member number apart
  rcases List.mem_append.mp member with old | new
  · exact reflects.2 webhook old number apart
  · exact absurd (number.symm.trans (stampable.fresh webhook new).1) other

theorem not_stale_of_le {first second : Int} (fresh : row.stale first = false) (le : first ≤ second) :
    row.stale second = false := by
  by_contra old
  rw [TaskSync.stale_of_le (by simpa using old) le] at fresh
  contradiction

theorem listing_stamp (stampable : inbound.Stampable stamped sent) {since : Option Int}
    (after : ∀ cursor, since = some cursor → cursor ≤ inbound.clock) :
    (inbound.stamp stamped sent).listing since =
      (inbound.listing since).filter (·.number ≠ stamped.number) ++ [stamped] := by
  have shown : since.all (· ≤ stamped.updatedAt) = true := by
    cases since with
    | none => rfl
    | some cursor => simpa [stampable.now] using after cursor rfl
  simp only [listing, stamp, List.filter_append, List.filter_filter, List.filter_singleton, shown]
  congr 1
  refine List.filter_congr ?_
  intro issue _
  rw [Bool.and_comm]

theorem Sweeping.stamp {backfill : Backfill} (sound : inbound.Sound) (sweeping : inbound.Sweeping backfill)
    (own : inbound.backfill = some backfill) (stampable : inbound.Stampable stamped sent) :
    (inbound.stamp stamped sent).Sweeping backfill where
  started := sweeping.started
  since := sweeping.since
  numbers := sweeping.numbers
  synced task member issue held number := by
    rcases mem_stamp.mp held with ⟨old, _⟩ | rfl
    · exact sweeping.synced task member issue old number
    · have place := sweeping.numbers.subset (List.mem_map_of_mem member)
      obtain ⟨row, tracked, same⟩ := List.mem_map.mp place
      obtain ⟨former, known, equal, _⟩ := sound.tracked row tracked
      refine not_stale_of_le (sweeping.synced task member former known (by rw [equal, same])) ?_
      rw [stampable.now]
      exact sound.clocked former known
  grown := sweeping.grown
  added place row beyond found issue held number := by
    rcases mem_stamp.mp held with ⟨old, apart⟩ | rfl
    · exact (sweeping.added place row beyond found issue old number).imp_right (·.stamp stampable apart)
    · left
      rw [stampable.now]
      exact sweeping.started
  read listed member := by
    obtain ⟨since, former, known, number, pull, le⟩ := sweeping.read listed member
    refine ⟨since, ?_⟩
    by_cases same : former.number = stamped.number
    · refine ⟨stamped, mem_stamp.mpr (Or.inr rfl), ?_, ?_, ?_⟩
      · rw [← same, number]
      · rw [← stampable.pull former known same, pull]
      · rw [stampable.now]
        exact le.trans (sound.clocked former known)
    · exact ⟨former, mem_stamp.mpr (Or.inl ⟨known, same⟩), number, pull, le⟩
  once := sweeping.once
  reading incomplete := by
    obtain ⟨⟨rest, prefixed⟩, length, pages⟩ := sweeping.reading incomplete
    refine ⟨⟨rest.filter (·.number ≠ stamped.number) ++ [stamped], ?_⟩, length, pages⟩
    have unlisted := stampable.unlisted backfill own incomplete
    rw [listing_stamp stampable, prefixed, List.filter_append, List.append_assoc,
      List.filter_eq_self.mpr (by simpa using unlisted)]
    intro cursor since
    rw [sweeping.since] at since
    exact sound.cursor cursor since
  covered complete issue held := by
    rcases mem_stamp.mp held with ⟨old, _⟩ | rfl
    · exact sweeping.covered complete issue old
    · refine Or.inr (Or.inr ⟨?_, Or.inl ?_⟩)
      · intro listed member
        obtain ⟨_, former, known, _, _, le⟩ := sweeping.read listed member
        rw [stampable.now]
        exact le.trans (sound.clocked former known)
      · rw [stampable.now]
        exact sweeping.started

theorem Sound.stamp (sound : inbound.Sound) (stampable : inbound.Stampable stamped sent) :
    (inbound.stamp stamped sent).Sound where
  clocked issue held := by
    rcases mem_stamp.mp held with ⟨old, _⟩ | rfl
    · exact sound.clocked issue old
    · exact stampable.now.le
  cursor := sound.cursor
  ordered := by
    refine List.pairwise_append.mpr ⟨sound.ordered.filter _, List.pairwise_singleton _ _, ?_⟩
    intro issue held other last
    rw [List.mem_singleton.mp last, stampable.now]
    exact sound.clocked issue (List.mem_filter.mp held).1
  distinct := by
    simp only [Inbound.stamp, List.map_append, List.map_singleton]
    refine List.Nodup.append (sound.distinct.sublist (List.filter_sublist.map _)) (List.nodup_singleton _) ?_
    simp
  sent webhook member := by
    rcases List.mem_append.mp member with old | new
    · obtain ⟨issue, known, number, le, apart⟩ := sound.sent webhook old
      by_cases same : issue.number = stamped.number
      · refine ⟨stamped, mem_stamp.mpr (Or.inr rfl), same.symm.trans number, ?_, ?_⟩
        · rw [stampable.now]
          exact le.trans (sound.clocked issue known)
        · intro differ
          rw [stampable.now]
          exact stampable.apart webhook old (number.symm.trans same) differ
      · exact ⟨issue, mem_stamp.mpr (Or.inl ⟨known, same⟩), number, le, apart⟩
    · obtain ⟨number, le, state⟩ := stampable.fresh webhook new
      refine ⟨stamped, mem_stamp.mpr (Or.inr rfl), number.symm, by rw [stampable.now]; exact le, ?_⟩
      intro differ
      exact absurd state differ
  closed issue held shut := by
    rcases mem_stamp.mp held with ⟨old, _⟩ | rfl
    · obtain ⟨webhook, member, number⟩ := sound.closed issue old shut
      exact ⟨webhook, List.mem_append_left _ member, number⟩
    · exact stampable.closed shut
  rows := sound.rows
  tracked row member := by
    obtain ⟨issue, known, number, pull⟩ := sound.tracked row member
    by_cases same : issue.number = stamped.number
    · exact ⟨stamped, mem_stamp.mpr (Or.inr rfl), same.symm.trans number,
        (stampable.pull issue known same).symm.trans pull⟩
    · exact ⟨issue, mem_stamp.mpr (Or.inl ⟨known, same⟩), number, pull⟩
  synced row member issue held number := by
    rcases mem_stamp.mp held with ⟨old, _⟩ | rfl
    · exact sound.synced row member issue old number
    · obtain ⟨former, known, equal, _⟩ := sound.tracked row member
      refine not_stale_of_le (sound.synced row member former known equal) ?_
      rw [stampable.now]
      exact sound.clocked former known
  behind row member issue held number := by
    rcases mem_stamp.mp held with ⟨old, apart⟩ | rfl
    · exact (sound.behind row member issue old number).imp_right (·.stamp stampable apart)
    · left
      intro cursor moved
      rw [stampable.now]
      exact sound.cursor cursor moved
  sweeping backfill own := (sound.sweeping backfill own).stamp sound own stampable

theorem Sound.unique (sound : inbound.Sound) {other : RepositoryIssue} (member : issue ∈ inbound.issues)
    (held : other ∈ inbound.issues) (same : issue.number = other.number) : issue = other :=
  List.inj_on_of_nodup_map sound.distinct member held same

theorem Sound.find (sound : inbound.Sound) (member : issue ∈ inbound.issues) :
    inbound.issues.find? (·.number = issue.number) = some issue := by
  cases found : inbound.issues.find? (·.number = issue.number) with
  | none =>
      have missing := List.find?_eq_none.mp found issue member
      simp at missing
  | some other =>
      have same : other.number = issue.number := by simpa using List.find?_some found
      rw [sound.unique (List.mem_of_find?_eq_some found) member same]

theorem update_cases (inbound : Inbound) (number : Nat) (change : RepositoryIssue → RepositoryIssue) :
    inbound.update number change = inbound ∨ ∃ issue ∈ inbound.issues, issue.number = number ∧
      inbound.update number change =
        inbound.stamp { change issue with number, updatedAt := inbound.clock } [] := by
  unfold update
  split
  · exact Or.inl rfl
  · rename_i issue found
    refine Or.inr ⟨issue, List.mem_of_find?_eq_some found, by simpa using List.find?_some found, ?_⟩
    simp [stamp]

theorem Sound.editIssue (sound : inbound.Sound) {number : Nat} (unlisted : inbound.Unlisted number) :
    (inbound.update number id).Sound := by
  rcases update_cases inbound number id with same | ⟨issue, member, rfl, updated⟩
  · rwa [same]
  · rw [updated]
    refine sound.stamp {
      now := rfl
      pull := fun other held same => by rw [sound.unique held member same]; rfl
      fresh := by simp
      apart := ?_
      closed := ?_
      unlisted := unlisted }
    · intro webhook held same differ
      obtain ⟨other, known, equal, _, before⟩ := sound.sent webhook held
      rw [sound.unique known member (equal.trans same)] at before
      exact lt_of_lt_of_le (before differ) (sound.clocked issue member)
    · intro shut
      obtain ⟨webhook, held, same⟩ := sound.closed issue member shut
      exact ⟨webhook, List.mem_append_left _ held, same⟩

theorem Sound.openIssue (sound : inbound.Sound) (number : Nat) (pull : Bool) :
    (inbound.openIssue number pull).Sound := by
  unfold Inbound.openIssue
  split
  · exact sound
  · rename_i absent
    have free : ∀ issue ∈ inbound.issues, issue.number ≠ number := by simpa using absent
    have stamped : { inbound with issues := inbound.issues ++ [{ number, pull, updatedAt := inbound.clock }] } =
        inbound.stamp { number, pull, updatedAt := inbound.clock } [] := by
      simp only [Inbound.stamp, List.append_nil]
      rw [List.filter_eq_self.mpr (by simpa using free)]
    rw [stamped]
    refine sound.stamp {
      now := rfl
      pull := fun issue member same => absurd same (free issue member)
      fresh := by simp
      apart := ?_
      closed := nofun
      unlisted := ?_ }
    · intro webhook held same _
      obtain ⟨issue, known, equal, _⟩ := sound.sent webhook held
      exact absurd (equal.trans same) (free issue known)
    · intro backfill own _ listed member same
      obtain ⟨_, issue, known, equal, _⟩ := (sound.sweeping backfill own).read listed member
      exact absurd (equal.trans same) (free issue known)

theorem Sound.change (sound : inbound.Sound) {number : Nat} {change : RepositoryIssue → RepositoryIssue}
    {sent : List Webhook} (unlisted : inbound.Unlisted number) (apart : inbound.Apart number)
    (pull : ∀ issue, (change issue).pull = issue.pull)
    (fresh : ∀ issue, ∀ webhook ∈ sent, webhook.number = number ∧ webhook.event.timestamp ≤ inbound.clock ∧
      webhook.event.kind.state = (change issue).state) (sends : sent ≠ [])
    (known : ∃ issue ∈ inbound.issues, issue.number = number) :
    Sound { inbound.update number change with webhooks := inbound.webhooks ++ sent } := by
  obtain ⟨issue, member, rfl⟩ := known
  have updated : { inbound.update issue.number change with webhooks := inbound.webhooks ++ sent } =
      inbound.stamp { change issue with number := issue.number, updatedAt := inbound.clock } sent := by
    simp [update, sound.find member, Inbound.stamp]
  rw [updated]
  obtain ⟨first, rest, rfl⟩ := List.exists_cons_of_ne_nil sends
  exact sound.stamp {
    now := rfl
    pull := fun other held same => by rw [sound.unique held member same]; exact (pull issue).symm
    fresh := fresh issue
    apart := fun webhook held same _ => apart webhook held same
    closed := fun _ => ⟨first, by simp, (fresh issue first (by simp)).1⟩
    unlisted := unlisted }

theorem Sound.closeIssue (sound : inbound.Sound) {number : Nat} (mergedAt : Option Int)
    (unlisted : inbound.Unlisted number) (apart : inbound.Apart number) :
    (inbound.closeIssue number mergedAt).Sound := by
  unfold Inbound.closeIssue
  split
  · rename_i open_
    simp only [Bool.and_eq_true, List.any_eq_true, decide_eq_true_eq] at open_
    obtain ⟨⟨issue, member, same, _⟩, merged⟩ := open_
    rw [List.append_assoc]
    refine sound.change unlisted apart (fun _ => rfl) ?_ (by simp) ⟨issue, member, same⟩
    intro _ webhook held
    rcases List.mem_append.mp held with first | second
    · rw [List.mem_singleton.mp first]
      exact ⟨rfl, le_refl _, rfl⟩
    · obtain ⟨time, given, rfl⟩ := by simpa using second
      rw [given] at merged
      exact ⟨rfl, by simpa using merged, rfl⟩
  · exact sound

theorem Sound.reopenIssue (sound : inbound.Sound) {number : Nat} (unlisted : inbound.Unlisted number)
    (apart : inbound.Apart number) : (inbound.reopenIssue number).Sound := by
  unfold Inbound.reopenIssue
  split
  · rename_i shut
    simp only [Bool.and_eq_true, List.any_eq_true, decide_eq_true_eq] at shut
    obtain ⟨issue, member, same, _⟩ := shut
    refine sound.change unlisted apart (fun _ => rfl) ?_ (by simp) ⟨issue, member, same⟩
    intro _ webhook held
    rw [List.mem_singleton.mp held]
    exact ⟨rfl, le_refl _, rfl⟩
  · exact sound

theorem onMatched_numbers (tasks : List TrackedTask) (number : Nat) (change : TaskSync → TaskSync) :
    (Delivery.onMatched tasks number change).map (·.externalIssueNumber) =
      tasks.map (·.externalIssueNumber) := by
  rw [Delivery.onMatched, List.map_map]
  refine List.map_congr_left ?_
  intro row _
  simp only [Function.comp_apply]
  split <;> rfl

theorem onMatched_getElem? {rows : List TrackedTask} {number place : Nat} {change : TaskSync → TaskSync}
    {row : TrackedTask} (found : (Delivery.onMatched rows number change)[place]? = some row) :
    ∃ former, rows[place]? = some former ∧ former.externalIssueNumber = row.externalIssueNumber ∧
      (row.sync = former.sync ∨ (former.externalIssueNumber = number ∧ row.sync = change former.sync)) := by
  simp only [Delivery.onMatched, List.getElem?_map] at found
  obtain ⟨former, held, equal⟩ := Option.map_eq_some_iff.mp found
  refine ⟨former, held, ?_⟩
  split at equal
  · rename_i own
    subst equal
    exact ⟨rfl, Or.inr ⟨own, rfl⟩⟩
  · subst equal
    exact ⟨rfl, Or.inl rfl⟩

theorem Sound.deliver (sound : inbound.Sound) (webhook : Webhook) : (inbound.deliver webhook).Sound := by
  unfold Inbound.deliver
  split
  · rename_i member
    -- a row and the row that it was before the delivery
    have former : ∀ {place : Nat} {row : TrackedTask}, (Delivery.onMatched inbound.rows webhook.number
        (·.apply inbound.clock webhook.event))[place]? = some row → ∃ former, inbound.rows[place]? = some former ∧
          former.externalIssueNumber = row.externalIssueNumber ∧
          (∀ eventTs, former.sync.stale eventTs = true → row.sync.stale eventTs = true) ∧
          (∀ issue ∈ inbound.issues, issue.number = row.externalIssueNumber →
            former.sync.stale issue.updatedAt = false → row.sync.stale issue.updatedAt = false) ∧
          ∀ issue, issue.number = row.externalIssueNumber → inbound.Reflects former.sync issue →
            inbound.Reflects row.sync issue := by
      intro place row found
      obtain ⟨former, held, equal, same | ⟨own, changed⟩⟩ := onMatched_getElem? found
      · exact ⟨former, held, equal, fun _ old => same ▸ old, fun _ _ _ old => same ▸ old,
          fun _ _ old => same ▸ old⟩
      · refine ⟨former, held, equal, ?_, ?_, ?_⟩
        · intro eventTs old
          rw [changed]
          exact TaskSync.stale_apply old
        · intro issue known number old
          rw [changed, TaskSync.stale_after]
          split
          · exact old
          · obtain ⟨other, listed, same, le, _⟩ := sound.sent webhook member
            rw [sound.unique listed known (same.trans (own.symm.trans (equal.trans number.symm)))] at le
            simpa using le
        · intro issue number old
          rw [changed]
          exact old.apply inbound.clock member (own.symm.trans (equal.trans number.symm))
    constructor
    · exact sound.clocked
    · exact sound.cursor
    · exact sound.ordered
    · exact sound.distinct
    · exact sound.sent
    · exact sound.closed
    · rw [onMatched_numbers]
      exact sound.rows
    · intro row held
      obtain ⟨place, found⟩ := List.mem_iff_getElem?.mp held
      obtain ⟨before, earlier, equal, _⟩ := former found
      rw [← equal]
      exact sound.tracked before (List.mem_of_getElem? earlier)
    · intro row held issue known number
      obtain ⟨place, found⟩ := List.mem_iff_getElem?.mp held
      obtain ⟨before, earlier, equal, _, fresh, _⟩ := former found
      exact fresh issue known number
        (sound.synced before (List.mem_of_getElem? earlier) issue known (number.trans equal.symm))
    · intro row held issue known number
      obtain ⟨place, found⟩ := List.mem_iff_getElem?.mp held
      obtain ⟨before, earlier, equal, _, _, reflects⟩ := former found
      exact (sound.behind before (List.mem_of_getElem? earlier) issue known
        (number.trans equal.symm)).imp_right (reflects issue number)
    · intro backfill own
      have sweeping := sound.sweeping backfill own
      exact { sweeping with
        numbers := by
          rw [onMatched_numbers]
          exact sweeping.numbers
        grown := by
          intro place before row loaded found eventTs old
          obtain ⟨earlier, held, _, stale, _⟩ := former found
          exact stale eventTs (sweeping.grown place before earlier loaded held eventTs old)
        added := by
          intro place row beyond found issue known number
          obtain ⟨earlier, held, equal, _, _, reflects⟩ := former found
          exact (sweeping.added place earlier beyond held issue known (number.trans equal.symm)).imp_right
            (reflects issue number) }
  · exact sound

theorem Sound.track (sound : inbound.Sound) {number : Nat}
    (free : ∀ row ∈ inbound.rows, row.externalIssueNumber ≠ number)
    (careful : (∀ webhook ∈ inbound.webhooks, webhook.number ≠ number) ∨
      (inbound.backfill = none ∧ ∀ issue ∈ inbound.issues, issue.number = number →
        ∀ cursor, inbound.lastFullBackfillAt = some cursor → cursor ≤ issue.updatedAt)) :
    (inbound.track number).Sound := by
  unfold Inbound.track
  split
  · rename_i known
    -- an issue that sent no webhook is open, as its new row is
    have untouched : (∀ webhook ∈ inbound.webhooks, webhook.number ≠ number) → ∀ issue ∈ inbound.issues,
        issue.number = number → inbound.Reflects {} issue := by
      intro none issue held same
      refine ⟨?_, fun webhook member other => absurd (other.trans same) (none webhook member)⟩
      cases shut : issue.closed with
      | false => simp [RepositoryIssue.state, shut]
      | true =>
          obtain ⟨webhook, member, other⟩ := sound.closed issue held shut
          exact absurd (other.trans same) (none webhook member)
    constructor
    · exact sound.clocked
    · exact sound.cursor
    · exact sound.ordered
    · exact sound.distinct
    · exact sound.sent
    · exact sound.closed
    · rw [List.map_append]
      refine List.Nodup.append sound.rows (List.nodup_singleton _) ?_
      simpa using free
    · intro row member
      rcases List.mem_append.mp member with old | new
      · exact sound.tracked row old
      · rw [List.mem_singleton.mp new]
        simpa using known
    · intro row member issue held same
      rcases List.mem_append.mp member with old | new
      · exact sound.synced row old issue held same
      · rw [List.mem_singleton.mp new]
        rfl
    · intro row member issue held same
      rcases List.mem_append.mp member with old | new
      · exact sound.behind row old issue held same
      · rw [List.mem_singleton.mp new] at same ⊢
        rcases careful with none | ⟨_, ahead⟩
        · exact Or.inr (untouched none issue held same)
        · exact Or.inl (ahead issue held same)
    · intro backfill own
      have sweeping := sound.sweeping backfill own
      have fits : backfill.loaded.length ≤ inbound.rows.length := by
        simpa using sweeping.numbers.length_le
      exact { sweeping with
        numbers := by
          rw [List.map_append]
          exact sweeping.numbers.trans (List.prefix_append _ _)
        grown := by
          intro place before row loaded found
          have inside := (List.getElem?_eq_some_iff.mp loaded).1
          rw [List.getElem?_append_left (by omega)] at found
          exact sweeping.grown place before row loaded found
        added := by
          intro place row beyond found issue held same
          rcases Nat.lt_or_ge place inbound.rows.length with old | new
          · rw [List.getElem?_append_left old] at found
            exact sweeping.added place row beyond found issue held same
          · rw [List.getElem?_append_right new] at found
            have fresh := List.mem_singleton.mp (List.mem_of_getElem? found)
            subst fresh
            rcases careful with none | ⟨idle, _⟩
            · exact Or.inr (untouched none issue held same)
            · rw [idle] at own
              contradiction }
  · exact sound

theorem Sound.start (sound : inbound.Sound) : inbound.start.Sound := by
  unfold Inbound.start
  split
  · exact sound
  · rename_i idle
    have none_ : inbound.backfill = none := by simpa using idle
    split
    · rename_i empty
      exact { sound with
        cursor := by
          intro cursor moved
          exact (Option.some.inj moved).ge
        behind := by simp [empty]
        sweeping := by simp [none_] }
    · exact { sound with
        sweeping := by
          rintro _ ⟨⟩
          exact {
            started := le_refl _
            since := rfl
            numbers := List.prefix_refl _
            synced := sound.synced
            grown := by
              intro place before row loaded found eventTs old
              rw [Option.some.inj (loaded.symm.trans found)] at old
              exact old
            added := by
              intro place row beyond found
              rw [List.getElem?_eq_none beyond] at found
              contradiction
            read := by simp
            once := List.nodup_nil
            reading := fun _ => ⟨⟨_, rfl⟩, rfl, (by decide : 0 < issuesMaxPages)⟩
            covered := nofun } }

theorem mem_listing {since : Option Int} : issue ∈ inbound.listing since ↔
    issue ∈ inbound.issues ∧ ∀ cursor, since = some cursor → cursor ≤ issue.updatedAt := by
  simp [listing, Option.all_eq_true]

theorem Sweeping.batch {backfill : Backfill} {rest : List RepositoryIssue}
    (listing : inbound.listing backfill.since = backfill.listed ++ rest)
    (length : backfill.listed.length = issuesPageSize * backfill.pages) :
    ((inbound.listing backfill.since).drop (issuesPageSize * backfill.pages)).take issuesPageSize =
      rest.take issuesPageSize := by
  rw [listing, ← length, List.drop_left]

theorem covered_fetchPage {backfill : Backfill} (sound : inbound.Sound) (sweeping : inbound.Sweeping backfill)
    (incomplete : backfill.complete = false) {rest : List RepositoryIssue}
    (listing : inbound.listing backfill.since = backfill.listed ++ rest)
    (finished : (decide ((rest.take issuesPageSize).length < issuesPageSize) ||
      decide (backfill.pages + 1 = issuesMaxPages)) = true) (known : issue ∈ inbound.issues) :
    issue ∈ backfill.listed ++ rest.take issuesPageSize ∨
      (∃ cursor, backfill.since = some cursor ∧ issue.updatedAt < cursor) ∨
        ((∀ listed ∈ backfill.listed ++ rest.take issuesPageSize, listed.updatedAt ≤ issue.updatedAt) ∧
          issuesFetchCap ≤ (backfill.listed ++ rest.take issuesPageSize).length) := by
  obtain ⟨_, length, _⟩ := sweeping.reading incomplete
  have whole : inbound.listing backfill.since =
      (backfill.listed ++ rest.take issuesPageSize) ++ rest.drop issuesPageSize := by
    rw [listing, List.append_assoc, List.take_append_drop]
  by_cases after : ∀ cursor, backfill.since = some cursor → cursor ≤ issue.updatedAt
  · have shown := mem_listing.mpr ⟨known, after⟩
    rw [whole] at shown
    refine (List.mem_append.mp shown).imp_right fun left => Or.inr ⟨?_, ?_⟩
    · have ordered : (inbound.listing backfill.since).Pairwise (·.updatedAt ≤ ·.updatedAt) :=
        sound.ordered.filter _
      rw [whole] at ordered
      exact fun other member => (List.pairwise_append.mp ordered).2.2 other member issue left
    · have more : issuesPageSize < rest.length := by
        by_contra fits
        rw [List.drop_eq_nil_of_le (by omega)] at left
        simp at left
      have page : (rest.take issuesPageSize).length = issuesPageSize := by
        rw [List.length_take]
        omega
      have last : backfill.pages + 1 = issuesMaxPages := by simpa [page] using finished
      rw [List.length_append, length, page, issuesFetchCap, ← last, Nat.mul_succ]
  · push Not at after
    exact Or.inr (Or.inl after)

theorem Sweeping.fetchPage {backfill : Backfill} (sound : inbound.Sound) (sweeping : inbound.Sweeping backfill)
    (incomplete : backfill.complete = false) {rest : List RepositoryIssue}
    (listing : inbound.listing backfill.since = backfill.listed ++ rest) :
    inbound.Sweeping { backfill with
      listed := backfill.listed ++ rest.take issuesPageSize
      pages := backfill.pages + 1
      complete := (rest.take issuesPageSize).length < issuesPageSize || backfill.pages + 1 = issuesMaxPages } := by
  obtain ⟨_, length, pages⟩ := sweeping.reading incomplete
  have whole : inbound.listing backfill.since =
      (backfill.listed ++ rest.take issuesPageSize) ++ rest.drop issuesPageSize := by
    rw [listing, List.append_assoc, List.take_append_drop]
  have shown : ∀ issue ∈ backfill.listed ++ rest.take issuesPageSize, issue ∈ inbound.listing backfill.since := by
    intro issue member
    rw [whole]
    exact List.mem_append_left _ member
  exact { sweeping with
    read := by
      intro listed member
      obtain ⟨known, after⟩ := mem_listing.mp (shown listed member)
      exact ⟨after, listed, known, rfl, rfl, le_refl _⟩
    once := by
      have distinct : ((inbound.listing backfill.since).map (·.number)).Nodup :=
        sound.distinct.sublist (List.filter_sublist.map _)
      rw [whole, List.map_append] at distinct
      exact distinct.of_append_left
    reading := by
      intro unfinished
      simp only [Bool.or_eq_false_iff, decide_eq_false_iff_not, not_lt] at unfinished
      have full := List.length_take_le issuesPageSize rest
      refine ⟨⟨_, whole⟩, ?_, ?_⟩
      · rw [List.length_append, length, Nat.mul_succ]
        omega
      · exact lt_of_le_of_ne pages unfinished.2
    covered := by
      intro finished issue known
      rcases covered_fetchPage sound sweeping incomplete listing finished known with listed | behind | ⟨newer, full⟩
      · exact Or.inl listed
      · exact Or.inr (Or.inl behind)
      · exact Or.inr (Or.inr ⟨newer, Or.inr full⟩) }

theorem Sound.fetchPage (sound : inbound.Sound) : inbound.fetchPage.Sound := by
  unfold Inbound.fetchPage
  split
  · exact sound
  · rename_i backfill own
    split
    · exact sound
    · rename_i unfinished
      have incomplete : backfill.complete = false := by simpa using unfinished
      have sweeping := sound.sweeping backfill own
      obtain ⟨⟨rest, listing⟩, length, _⟩ := sweeping.reading incomplete
      simp only [Sweeping.batch listing length]
      exact { sound with
        sweeping := by
          rintro _ ⟨⟩
          exact { sweeping.fetchPage sound incomplete listing with } }

theorem Sound.tick (sound : inbound.Sound) (seconds : Nat) :
    Sound { inbound with clock := inbound.clock + seconds } := by
  have later : inbound.clock ≤ inbound.clock + seconds := by omega
  exact { sound with
    clocked := fun issue held => (sound.clocked issue held).trans later
    cursor := fun cursor moved => (sound.cursor cursor moved).trans later
    sweeping := fun backfill own =>
      have sweeping := sound.sweeping backfill own
      { sweeping with started := sweeping.started.trans later } }

theorem Sound.abort (sound : inbound.Sound) : Sound { inbound with backfill := none } :=
  { sound with sweeping := nofun }

end Inbound

end Thought2Build.Integrations
