import Thought2Build.Integrations.Backfills
import Thought2Build.Library.Histories

/-!
The commit of a sweep, whole runs of the backfill, and how many sweeps bring the rows up to date once the issues
stay still.
-/

namespace Thought2Build.Integrations

open Histories

section

attribute [local simp] Inbound.step

end

theorem onLast_eq {tasks : List TrackedTask} (distinct : (tasks.map (·.externalIssueNumber)).Nodup)
    (number : Nat) (change : TaskSync → TaskSync) :
    onLast number change tasks = Delivery.onMatched tasks number change := by
  induction tasks with
  | nil => rfl
  | cons task rest ih =>
      rw [List.map_cons, List.nodup_cons] at distinct
      have tail := ih distinct.2
      have others : task.externalIssueNumber = number → ∀ other ∈ rest, other.externalIssueNumber ≠ number := by
        intro own other member same
        exact distinct.1 (List.mem_map.mpr ⟨other, member, same.trans own.symm⟩)
      by_cases own : task.externalIssueNumber = number
      · have kept : Delivery.onMatched rest number change = rest := by
          rw [Delivery.onMatched, List.map_congr_left (g := id) ?_, List.map_id]
          intro other member
          rw [if_neg (others own other member), id]
        have last : rest.all (·.externalIssueNumber ≠ number) = true := by simpa using others own
        rw [onLast, if_pos ⟨own, last⟩]
        simp only [Delivery.onMatched, List.map_cons, if_pos own] at kept ⊢
        rw [kept]
      · rw [onLast, if_neg (fun both => own both.1), tail]
        simp [Delivery.onMatched, own]

def swept (now : Int) (listed : List RepositoryIssue) (task : TrackedTask) : TaskSync :=
  match listed.find? (fun issue => issue.number = task.externalIssueNumber && !issue.pull) with
  | none => task.sync
  | some issue => task.sync.apply now issue.event

theorem applyListed_eq {now : Int} {loaded : List TrackedTask} {listed : List RepositoryIssue}
    (distinct : (loaded.map (·.externalIssueNumber)).Nodup) (once : (listed.map (·.number)).Nodup) :
    applyListed now loaded listed = loaded.map fun task => { task with sync := swept now listed task } := by
  induction listed generalizing loaded with
  | nil => simp [applyListed, swept]
  | cons first rest ih =>
      rw [List.map_cons, List.nodup_cons] at once
      cases pull : first.pull with
      | true =>
          have tail := ih distinct once.2
          simp only [applyListed, List.foldl_cons, pull] at tail ⊢
          simpa [swept, pull] using tail
      | false =>
          have same : (Delivery.onMatched loaded first.number (·.apply now first.event)).map
              (·.externalIssueNumber) = loaded.map (·.externalIssueNumber) := Inbound.onMatched_numbers ..
          have tail := ih (same ▸ distinct) once.2
          simp only [applyListed, List.foldl_cons, pull] at tail ⊢
          rw [if_neg (by simp), onLast_eq distinct, tail, Delivery.onMatched, List.map_map]
          refine List.map_congr_left ?_
          intro task _
          by_cases own : task.externalIssueNumber = first.number
          · -- no later issue has the number
            have done : rest.find? (fun issue => issue.number = first.number && !issue.pull) = none := by
              rw [List.find?_eq_none]
              intro other member
              have differs : other.number ≠ first.number := fun equal =>
                once.1 (List.mem_map.mpr ⟨other, member, equal⟩)
              simp [differs]
            simp [swept, own, pull, done]
          · simp [swept, own, Ne.symm own]

theorem flushRows_getElem? {loaded written rows : List TrackedTask} {place : Nat} {row : TrackedTask}
    (same : written.length = loaded.length) (found : (flushRows loaded written rows)[place]? = some row) :
    ∃ former, rows[place]? = some former ∧ ((loaded.length ≤ place ∧ row = former) ∨
      ∃ before after, loaded[place]? = some before ∧ written[place]? = some after ∧
        row = { former with sync := before.sync.flush after.sync former.sync }) := by
  induction loaded generalizing written rows place with
  | nil => exact ⟨row, by simpa [flushRows] using found, Or.inl ⟨by simp, rfl⟩⟩
  | cons before loaded ih =>
      obtain ⟨after, written, rfl⟩ := List.exists_cons_of_length_eq_add_one same
      cases rows with
      | nil => simp [flushRows] at found
      | cons first rows =>
          cases place with
          | zero =>
              have equal : { first with sync := before.sync.flush after.sync first.sync } = row := by
                simpa [flushRows] using found
              exact ⟨first, rfl, Or.inr ⟨before, after, rfl, rfl, equal.symm⟩⟩
          | succ place =>
              obtain ⟨former, held, other⟩ := ih (by simpa using same) (by simpa [flushRows] using found)
              refine ⟨former, held, other.imp_left fun beyond => ⟨by simpa using beyond.1, beyond.2⟩⟩

theorem mem_zip {before former : TrackedTask} {loaded rows : List TrackedTask} {place : Nat}
    (first : loaded[place]? = some before) (second : rows[place]? = some former) :
    (before, former) ∈ loaded.zip rows :=
  List.mem_of_getElem? (List.getElem?_zip_eq_some.mpr ⟨first, second⟩)

theorem flushRows_numbers (loaded written rows : List TrackedTask) :
    (flushRows loaded written rows).map (·.externalIssueNumber) = rows.map (·.externalIssueNumber) := by
  induction loaded generalizing written rows with
  | nil => rfl
  | cons before loaded ih =>
      cases written with
      | nil => rfl
      | cons after written =>
          cases rows with
          | nil => rfl
          | cons row rows => simp [flushRows, ih]

namespace Inbound

variable {inbound : Inbound} {backfill : Backfill} {issue : RepositoryIssue} {row : TrackedTask}

def committedRows (inbound : Inbound) (backfill : Backfill) : List TrackedTask :=
  flushRows backfill.loaded (applyListed inbound.clock backfill.loaded backfill.listed) inbound.rows

theorem committedRows_getElem? (sound : inbound.Sound) (sweeping : inbound.Sweeping backfill) {place : Nat}
    (found : (inbound.committedRows backfill)[place]? = some row) : ∃ former, inbound.rows[place]? = some former ∧
      ((backfill.loaded.length ≤ place ∧ row = former) ∨ ∃ before, backfill.loaded[place]? = some before ∧
        before.externalIssueNumber = former.externalIssueNumber ∧
        row = { former with
          sync := before.sync.flush (swept inbound.clock backfill.listed before) former.sync }) := by
  have distinct : (backfill.loaded.map (·.externalIssueNumber)).Nodup :=
    sound.rows.sublist sweeping.numbers.sublist
  rw [committedRows, applyListed_eq distinct sweeping.once] at found
  obtain ⟨former, held, beyond | ⟨before, after, loaded, written, equal⟩⟩ :=
    flushRows_getElem? (List.length_map _) found
  · exact ⟨former, held, Or.inl beyond⟩
  · refine ⟨former, held, Or.inr ⟨before, loaded, ?_, ?_⟩⟩
    · obtain ⟨rest, numbers⟩ := sweeping.numbers
      have place_ := congrArg (·[place]?) numbers
      have inside := (List.getElem?_eq_some_iff.mp loaded).1
      rw [List.getElem?_append_left (by simpa using inside)] at place_
      simpa [loaded, held] using place_
    · rw [List.getElem?_map, loaded] at written
      rw [equal, ← Option.some.inj written]

theorem find_listed (sweeping : inbound.Sweeping backfill) (listed : issue ∈ backfill.listed)
    (tracked : issue.pull = false) :
    backfill.listed.find? (fun other => other.number = issue.number && !other.pull) = some issue := by
  cases found : backfill.listed.find? (fun other => other.number = issue.number && !other.pull) with
  | none =>
      have missing := List.find?_eq_none.mp found issue listed
      simp [tracked] at missing
  | some other =>
      have same : other.number = issue.number := by
        have both := List.find?_some found
        simp only [Bool.and_eq_true, decide_eq_true_eq] at both
        exact both.1
      rw [List.inj_on_of_nodup_map sweeping.once (List.mem_of_find?_eq_some found) listed same]

theorem swept_cases (sound : inbound.Sound) (sweeping : inbound.Sweeping backfill) {task : TrackedTask}
    (known : issue ∈ inbound.issues) (number : issue.number = task.externalIssueNumber) :
    swept inbound.clock backfill.listed task = task.sync ∨ ∃ listed ∈ backfill.listed,
      listed.number = issue.number ∧ listed.updatedAt ≤ issue.updatedAt ∧
        swept inbound.clock backfill.listed task = task.sync.apply inbound.clock listed.event := by
  unfold swept
  split
  · exact Or.inl rfl
  · rename_i listed found
    have both := List.find?_some found
    simp only [Bool.and_eq_true, decide_eq_true_eq] at both
    have member := List.mem_of_find?_eq_some found
    obtain ⟨_, other, held, same, _, le⟩ := sweeping.read listed member
    rw [sound.unique held known (same.trans (both.1.trans number.symm))] at le
    exact Or.inr ⟨listed, member, both.1.trans number.symm, le, rfl⟩

theorem event_state (issue : RepositoryIssue) : issue.event.kind.state = issue.state := by
  unfold RepositoryIssue.event RepositoryIssue.state
  split <;> rfl

theorem stale_flush {loaded written former : TaskSync} (eventTs : Int) :
    (loaded.flush written former).stale eventTs =
      if written.syncedAt ≠ loaded.syncedAt then written.stale eventTs else former.stale eventTs := by
  unfold TaskSync.flush TaskSync.stale
  by_cases written : written.syncedAt = loaded.syncedAt <;> simp [written]

theorem flush_self (loaded former : TaskSync) : loaded.flush loaded former = former := by
  simp [TaskSync.flush]

theorem Reflects.flush (sound : inbound.Sound) (known : issue ∈ inbound.issues) {before former : TaskSync}
    (fresh : before.stale issue.updatedAt = false)
    (grown : ∀ eventTs, before.stale eventTs = true → former.stale eventTs = true)
    (undisturbed : former.state = before.state ∨ former.state = issue.state) :
    inbound.Reflects (before.flush (before.apply inbound.clock issue.event) former) issue := by
  have state : (before.apply inbound.clock issue.event).state = issue.state := by
    rw [TaskSync.state_apply, show issue.event.timestamp = issue.updatedAt from rfl, fresh, event_state]
    rfl
  constructor
  · unfold TaskSync.flush
    simp only [state]
    split
    · rfl
    · rename_i same
      rcases undisturbed with kept | reached
      · rw [kept]
        exact (not_not.mp same).symm
      · exact reached
  · intro webhook member number differ
    obtain ⟨other, held, same, _, before_⟩ := sound.sent webhook member
    rw [sound.unique held known (same.trans number)] at before_
    have old : (before.apply inbound.clock issue.event).stale webhook.event.timestamp = true := by
      rw [TaskSync.stale_after, show issue.event.timestamp = issue.updatedAt from rfl, fresh]
      simpa using before_ differ
    rw [stale_flush]
    split
    · exact old
    · rename_i same_
      refine grown _ ?_
      unfold TaskSync.stale at old ⊢
      rwa [not_not.mp same_] at old

theorem committed_listed (sound : inbound.Sound) (sweeping : inbound.Sweeping backfill) {place : Nat}
    {before former : TrackedTask} (loaded : backfill.loaded[place]? = some before)
    (held : inbound.rows[place]? = some former) (same : before.externalIssueNumber = former.externalIssueNumber)
    (listed : issue ∈ backfill.listed) (known : issue ∈ inbound.issues)
    (number : issue.number = former.externalIssueNumber)
    (undisturbed : former.sync.state = before.sync.state ∨ former.sync.state = issue.state) :
    inbound.Reflects (before.sync.flush (swept inbound.clock backfill.listed before) former.sync) issue := by
  obtain ⟨other, tracked, equal, pull⟩ := sound.tracked former (List.mem_of_getElem? held)
  rw [← sound.unique known tracked (number.trans equal.symm)] at pull
  have applied : swept inbound.clock backfill.listed before = before.sync.apply inbound.clock issue.event := by
    unfold swept
    rw [same, ← number, find_listed sweeping listed pull]
  rw [applied]
  exact Reflects.flush sound known
    (sweeping.synced before (List.mem_of_getElem? loaded) issue known (number.trans same.symm))
    (sweeping.grown place before former loaded held) undisturbed

theorem committed_behind (sound : inbound.Sound) (sweeping : inbound.Sweeping backfill) {before : TrackedTask}
    {cursor : Int} (since : backfill.since = some cursor) (known : issue ∈ inbound.issues)
    (number : issue.number = before.externalIssueNumber) (behind : issue.updatedAt < cursor) :
    swept inbound.clock backfill.listed before = before.sync := by
  rcases swept_cases sound sweeping known number with same | ⟨listed, member, _, le, _⟩
  · exact same
  · have after := (sweeping.read listed member).1 cursor since
    omega

theorem resolvedWatermark_short {listed : List RepositoryIssue} {started : Int} {since : Option Int}
    (short : listed.length < issuesFetchCap) : resolvedWatermark listed started since = started := by
  rw [resolvedWatermark, if_pos short]

theorem resolvedWatermark_full {listed : List RepositoryIssue} {started : Int} {since : Option Int}
    (full : issuesFetchCap ≤ listed.length)
    (moves : ∃ issue ∈ listed, ∀ cursor, since = some cursor → cursor < issue.updatedAt) :
    (∃ issue ∈ listed, resolvedWatermark listed started since = issue.updatedAt) ∧
      ∀ issue ∈ listed, issue.updatedAt ≤ resolvedWatermark listed started since := by
  obtain ⟨ahead, member, before⟩ := moves
  cases newest : (listed.map (·.updatedAt)).max? with
  | none =>
      rw [List.max?_eq_none_iff, List.map_eq_nil_iff] at newest
      simp [newest] at member
  | some time =>
      obtain ⟨held, bound⟩ := List.max?_eq_some_iff.mp newest
      have every : ∀ issue ∈ listed, issue.updatedAt ≤ time :=
        fun issue listed => bound _ (List.mem_map_of_mem listed)
      have after : since.all (· < time) = true := by
        cases since with
        | none => rfl
        | some cursor => simpa using lt_of_lt_of_le (before cursor rfl) (every ahead member)
      have equal : resolvedWatermark listed started since = time := by
        rw [resolvedWatermark, if_neg (by omega), newest]
        simp only [after, if_true]
      obtain ⟨issue, shown, rfl⟩ := List.mem_map.mp held
      exact ⟨⟨issue, shown, equal⟩, equal ▸ every⟩

theorem resolvedWatermark_le_clock (sound : inbound.Sound) (sweeping : inbound.Sweeping backfill) :
    resolvedWatermark backfill.listed backfill.sweepStartedAt backfill.since ≤ inbound.clock := by
  unfold resolvedWatermark
  split
  · exact sweeping.started
  · split
    · exact sweeping.started
    · rename_i newest found
      obtain ⟨issue, member, rfl⟩ := List.mem_map.mp (List.max?_mem found)
      obtain ⟨_, known, held, _, _, le⟩ := sweeping.read issue member
      split
      · exact le.trans (sound.clocked known held)
      · exact sweeping.started

theorem Sound.commit (sound : inbound.Sound) (careful : inbound.Careful .commit) : inbound.commit.Sound := by
  unfold Inbound.commit
  split
  · exact sound
  · rename_i backfill own
    split
    · rename_i complete
      have sweeping := sound.sweeping backfill own
      obtain ⟨capped, undisturbed⟩ := careful backfill own
      have past := resolvedWatermark_le_clock sound sweeping
      constructor
      · exact sound.clocked
      · rintro _ ⟨⟩
        exact past
      · exact sound.ordered
      · exact sound.distinct
      · exact sound.sent
      · exact sound.closed
      · rw [flushRows_numbers]
        exact sound.rows
      · intro row member
        obtain ⟨place, found⟩ := List.mem_iff_getElem?.mp member
        obtain ⟨former, held, ⟨_, rfl⟩ | ⟨before, _, _, rfl⟩⟩ := committedRows_getElem? sound sweeping found
        · exact sound.tracked _ (List.mem_of_getElem? held)
        · exact sound.tracked former (List.mem_of_getElem? held)
      · intro row member issue known number
        obtain ⟨place, found⟩ := List.mem_iff_getElem?.mp member
        obtain ⟨former, held, ⟨_, rfl⟩ | ⟨before, loaded, same, rfl⟩⟩ :=
          committedRows_getElem? sound sweeping found
        · exact sound.synced _ (List.mem_of_getElem? held) issue known number
        · have fresh := sweeping.synced before (List.mem_of_getElem? loaded) issue known (number.trans same.symm)
          rw [stale_flush]
          split
          · rcases swept_cases sound sweeping known (number.trans same.symm) with kept | ⟨_, _, _, le, applied⟩
            · rwa [kept]
            · rw [applied, TaskSync.stale_after]
              split
              · exact fresh
              · exact decide_eq_false (not_lt.mpr le)
          · exact sound.synced former (List.mem_of_getElem? held) issue known number
      · intro row member issue known number
        obtain ⟨place, found⟩ := List.mem_iff_getElem?.mp member
        obtain ⟨former, held, ⟨beyond, rfl⟩ | ⟨before, loaded, same, rfl⟩⟩ :=
          committedRows_getElem? sound sweeping found
        · refine (sweeping.added place _ beyond held issue known number).imp_left ?_
          rintro later _ ⟨⟩
          rw [resolvedWatermark_short]
          · exact later
          · by_contra full
            have inside := (List.getElem?_eq_some_iff.mp held).1
            have all := (capped (by omega)).1
            omega
        · rcases sweeping.covered complete issue known with listed | ⟨cursor, since, behind⟩ | ⟨newer, reach⟩
          · right
            refine committed_listed sound sweeping loaded held same listed known number ?_
            exact (undisturbed (before, former) (mem_zip loaded held)).imp_right (· issue known number)
          · right
            rw [committed_behind sound sweeping since known (number.trans same.symm) behind, flush_self]
            refine (sound.behind former (List.mem_of_getElem? held) issue known number).resolve_left ?_
            intro ahead
            have reach := ahead cursor (sweeping.since ▸ since)
            omega
          · left
            rintro _ ⟨⟩
            by_cases full : issuesFetchCap ≤ backfill.listed.length
            · obtain ⟨⟨newest, listed, moved⟩, _⟩ :=
                @resolvedWatermark_full _ backfill.sweepStartedAt _ full (capped full).2
              rw [moved]
              exact newer newest listed
            · rw [resolvedWatermark_short (by omega)]
              exact reach.resolve_right full
      · nofun
    · exact sound

theorem Sound.step (sound : inbound.Sound) (event : InboundEvent) (careful : inbound.Careful event) :
    (inbound.step event).Sound := by
  cases event with
  | tick seconds => exact sound.tick seconds
  | openIssue number pull => exact sound.openIssue number pull
  | closeIssue number mergedAt => exact sound.closeIssue mergedAt careful.1 careful.2
  | reopenIssue number => exact sound.reopenIssue careful.1 careful.2
  | editIssue number => exact sound.editIssue careful
  | deliver webhook => exact sound.deliver webhook
  | track number => exact sound.track careful.1 careful.2
  | start => exact sound.start
  | fetchPage => exact sound.fetchPage
  | commit => exact sound.commit careful
  | abort => exact sound.abort

theorem sound_initial : Sound {} := by
  constructor <;> simp

def Quiet : InboundEvent → Prop
  | .tick _ | .deliver _ | .start | .fetchPage | .commit | .abort => True
  | _ => False

def finishes (inbound : Inbound) (event : InboundEvent) : Nat :=
  if event = .commit ∧ inbound.backfill.any (·.complete) then 1 else 0

structure Current (inbound : Inbound) (backfill : Backfill) : Prop where
  loaded : backfill.loaded.length = inbound.rows.length
  listed : ∀ issue ∈ backfill.listed, issue ∈ inbound.issues
  covered : backfill.complete = true → backfill.listed.length < issuesFetchCap → ∀ issue ∈ inbound.issues,
    issue ∈ backfill.listed ∨ ∃ cursor, backfill.since = some cursor ∧ issue.updatedAt < cursor

def Fresh (inbound : Inbound) : Prop :=
  ∀ backfill, inbound.backfill = some backfill → inbound.Current backfill

def UpToDate (inbound : Inbound) : Prop :=
  ∀ row ∈ inbound.rows, ∀ issue ∈ inbound.issues, issue.number = row.externalIssueNumber →
    inbound.Reflects row.sync issue

def pending (inbound : Inbound) : List RepositoryIssue :=
  inbound.issues.filter fun issue => inbound.lastFullBackfillAt.all (· < issue.updatedAt)

theorem step_issues {event : InboundEvent} (quiet : Quiet event) :
    (inbound.step event).issues = inbound.issues := by
  cases event with
  | tick | abort => rfl
  | deliver => simp only [step, deliver]; split <;> rfl
  | start => simp only [step, start]; split; rfl; split <;> rfl
  | fetchPage => simp only [step, fetchPage]; split; rfl; split <;> rfl
  | commit => simp only [step, commit]; split; rfl; split <;> rfl
  | openIssue | closeIssue | reopenIssue | editIssue | track => exact quiet.elim

theorem fresh_of_idle (idle : inbound.backfill = none) : inbound.Fresh := by
  intro backfill own
  rw [idle] at own
  contradiction

theorem Fresh.fetchPage (fresh : inbound.Fresh) (sound : inbound.Sound) : inbound.fetchPage.Fresh := by
  unfold Inbound.fetchPage
  split
  · exact fresh
  · rename_i backfill own
    split
    · exact fresh
    · rename_i unfinished
      have incomplete : backfill.complete = false := by simpa using unfinished
      have sweeping := sound.sweeping backfill own
      have current := fresh backfill own
      obtain ⟨⟨rest, listing⟩, length, _⟩ := sweeping.reading incomplete
      simp only [Sweeping.batch listing length]
      rintro _ ⟨⟩
      refine ⟨current.loaded, ?_, ?_⟩
      · intro issue member
        have shown : issue ∈ inbound.listing backfill.since := by
          rw [listing]
          exact List.mem_append.mpr ((List.mem_append.mp member).imp_right List.mem_of_mem_take)
        exact (mem_listing.mp shown).1
      · intro finished short issue known
        rcases covered_fetchPage sound sweeping incomplete listing finished known with listed | behind | ⟨_, full⟩
        · exact Or.inl listed
        · exact Or.inr behind
        · exact absurd short (not_lt.mpr full)

theorem Fresh.step (fresh : inbound.Fresh) (sound : inbound.Sound) {event : InboundEvent} (quiet : Quiet event) :
    (inbound.step event).Fresh := by
  cases event with
  | tick seconds => exact fun backfill own => { fresh backfill own with }
  | deliver webhook =>
      simp only [Inbound.step, Inbound.deliver]
      split
      · intro backfill own
        have current := fresh backfill own
        exact { current with
          loaded := by
            rw [current.loaded]
            exact (List.length_map _).symm }
      · exact fresh
  | start =>
      simp only [Inbound.step, Inbound.start]
      split
      · exact fresh
      · rename_i idle
        split
        · exact fresh_of_idle (by simpa using idle)
        · rintro _ ⟨⟩
          exact ⟨rfl, by simp, nofun⟩
  | fetchPage => exact fresh.fetchPage sound
  | commit =>
      simp only [Inbound.step, Inbound.commit]
      split
      · exact fresh
      · split
        · exact fresh_of_idle rfl
        · exact fresh
  | abort => exact fresh_of_idle rfl
  | openIssue | closeIssue | reopenIssue | editIssue | track => exact quiet.elim

theorem upToDate_commit (sound : inbound.Sound) (careful : inbound.Careful .commit)
    (own : inbound.backfill = some backfill) (current : inbound.Current backfill)
    (complete : backfill.complete = true) (short : backfill.listed.length < issuesFetchCap) :
    inbound.commit.UpToDate := by
  have sweeping := sound.sweeping backfill own
  simp only [Inbound.commit, own, complete, if_true]
  intro row member issue known number
  obtain ⟨place, found⟩ := List.mem_iff_getElem?.mp member
  obtain ⟨former, held, ⟨beyond, rfl⟩ | ⟨before, loaded, same, rfl⟩⟩ := committedRows_getElem? sound sweeping found
  · have inside := (List.getElem?_eq_some_iff.mp held).1
    have all := current.loaded
    omega
  · rcases current.covered complete short issue known with listed | ⟨cursor, since, behind⟩
    · refine committed_listed sound sweeping loaded held same listed known number ?_
      exact ((careful backfill own).2 (before, former) (mem_zip loaded held)).imp_right (· issue known number)
    · rw [committed_behind sound sweeping since known (number.trans same.symm) behind, flush_self]
      refine (sound.behind former (List.mem_of_getElem? held) issue known number).resolve_left ?_
      intro ahead
      have reach := ahead cursor (sweeping.since ▸ since)
      omega

theorem pending_commit (careful : inbound.Careful .commit) (own : inbound.backfill = some backfill)
    (sweeping : inbound.Sweeping backfill) (current : inbound.Current backfill)
    (complete : backfill.complete = true) (full : issuesFetchCap ≤ backfill.listed.length) :
    inbound.commit.pending.length < inbound.pending.length := by
  obtain ⟨ahead, member, before⟩ := ((careful backfill own).1 full).2
  obtain ⟨⟨newest, listed, moved⟩, bound⟩ :=
    @resolvedWatermark_full _ backfill.sweepStartedAt _ full ⟨ahead, member, before⟩
  have reach := moved ▸ bound ahead member
  have after : inbound.commit.pending =
      inbound.pending.filter (decide <| newest.updatedAt < ·.updatedAt) := by
    simp only [Inbound.commit, own, complete, if_true, pending, moved, List.filter_filter]
    refine List.filter_congr ?_
    intro issue _
    by_cases later : newest.updatedAt < issue.updatedAt
    · have beyond : inbound.lastFullBackfillAt.all (· < issue.updatedAt) = true := by
        rw [← sweeping.since, Option.all_eq_true]
        intro cursor since
        have first := before cursor since
        simp only [decide_eq_true_eq]
        omega
      simp [later, beyond]
    · simp [later]
  rw [after]
  refine List.length_filter_lt_length_iff_exists.mpr ⟨newest, ?_, by simp⟩
  refine List.mem_filter.mpr ⟨current.listed newest listed, ?_⟩
  rw [← sweeping.since, Option.all_eq_true]
  intro cursor since
  have first := before cursor since
  simp only [decide_eq_true_eq]
  omega

theorem UpToDate.commit (current : inbound.UpToDate) (sound : inbound.Sound) (fresh : inbound.Fresh) :
    inbound.commit.UpToDate := by
  unfold Inbound.commit
  split
  · exact current
  · rename_i backfill own
    split
    · have sweeping := sound.sweeping backfill own
      intro row member issue known number
      obtain ⟨place, found⟩ := List.mem_iff_getElem?.mp member
      obtain ⟨former, held, ⟨_, rfl⟩ | ⟨before, loaded, same, rfl⟩⟩ := committedRows_getElem? sound sweeping found
      · exact current _ (List.mem_of_getElem? held) issue known number
      · have reflects := current former (List.mem_of_getElem? held) issue known number
        rcases swept_cases sound sweeping known (number.trans same.symm) with kept | ⟨listed, shown, equal, _⟩
        · rw [kept, flush_self]
          exact reflects
        · have own_ := sound.unique ((fresh backfill own).listed listed shown) known equal
          exact committed_listed sound sweeping loaded held same (own_ ▸ shown) known number
            (Or.inr reflects.1)
    · exact current

theorem UpToDate.step (current : inbound.UpToDate) (sound : inbound.Sound) (fresh : inbound.Fresh)
    {event : InboundEvent} (quiet : Quiet event) : (inbound.step event).UpToDate := by
  cases event with
  | tick | abort => exact current
  | deliver webhook =>
      simp only [Inbound.step, Inbound.deliver]
      split
      · rename_i sent
        intro row member issue known number
        obtain ⟨place, found⟩ := List.mem_iff_getElem?.mp member
        have matched : (Delivery.onMatched inbound.rows webhook.number
            (·.apply inbound.clock webhook.event))[place]? = some row := found
        obtain ⟨former, held, equal, same | ⟨own, changed⟩⟩ := onMatched_getElem? matched
        · have reflects := current former (List.mem_of_getElem? held) issue known (number.trans equal.symm)
          rwa [← same] at reflects
        · have reflects := current former (List.mem_of_getElem? held) issue known (number.trans equal.symm)
          rw [changed]
          exact reflects.apply inbound.clock sent (own.symm.trans (equal.trans number.symm))
      · exact current
  | start =>
      simp only [Inbound.step, Inbound.start]
      split
      · exact current
      · split <;> exact current
  | fetchPage =>
      simp only [Inbound.step, Inbound.fetchPage]
      split
      · exact current
      · split <;> exact current
  | commit => exact current.commit sound fresh
  | openIssue | closeIssue | reopenIssue | editIssue | track => exact quiet.elim

theorem pending_step (sound : inbound.Sound) (fresh : inbound.Fresh) {event : InboundEvent}
    (careful : inbound.Careful event) (quiet : Quiet event) :
    (inbound.step event).UpToDate ∨
      inbound.finishes event + (inbound.step event).pending.length ≤ inbound.pending.length := by
  cases event with
  | tick | abort => exact Or.inr (by simp [finishes, pending, step])
  | deliver webhook =>
      right
      simp only [finishes, reduceCtorEq, false_and, if_false, step, deliver]
      split <;> simp [pending]
  | fetchPage =>
      right
      simp only [finishes, reduceCtorEq, false_and, if_false, step, Inbound.fetchPage]
      split
      · simp
      · split <;> simp [pending]
  | start =>
      simp only [step, Inbound.start]
      split
      · exact Or.inr (by simp [finishes])
      · split
        · rename_i empty
          refine Or.inl ?_
          intro row member
          rw [show _ = _ from empty] at member
          simp at member
        · exact Or.inr (by simp [finishes, pending])
  | commit =>
      cases own : inbound.backfill with
      | none =>
          right
          simp [finishes, own, step, Inbound.commit]
      | some backfill =>
          cases complete : backfill.complete with
          | false =>
              right
              simp [finishes, own, complete, step, Inbound.commit]
          | true =>
              have current := fresh backfill own
              by_cases full : issuesFetchCap ≤ backfill.listed.length
              · right
                have less := pending_commit careful own (sound.sweeping backfill own) current complete full
                have once : inbound.finishes .commit ≤ 1 := by
                  unfold finishes
                  split <;> omega
                show _ + inbound.commit.pending.length ≤ _
                omega
              · exact Or.inl (upToDate_commit sound careful own current complete (by omega))
  | openIssue | closeIssue | reopenIssue | editIssue | track => exact quiet.elim

theorem quiet_run {events : List InboundEvent} (sound : inbound.Sound) (fresh : inbound.Fresh)
    (careful : Along step Careful inbound events) (quiet : ∀ event ∈ events, Quiet event)
    (enough : inbound.UpToDate ∨ inbound.pending.length < total step finishes inbound events) :
    (play step inbound events).UpToDate := by
  induction events generalizing inbound with
  | nil => exact enough.resolve_right (by simp [total])
  | cons event rest ih =>
      have now := quiet event (List.mem_cons_self ..)
      refine ih (sound.step event careful.1) (fresh.step sound now) careful.2
        (fun other member => quiet other (List.mem_cons_of_mem _ member)) ?_
      rcases enough with current | more
      · exact Or.inl (current.step sound fresh now)
      · refine (pending_step sound fresh careful.1 now).imp_right ?_
        intro less
        rw [total] at more
        omega

theorem quiet_tail {events : List InboundEvent} (sound : inbound.Sound)
    (careful : Along step Careful inbound events) (quiet : ∀ event ∈ events, Quiet event)
    (enough : inbound.issues.length + 2 ≤ total step finishes inbound events) :
    (play step inbound events).UpToDate := by
  induction events generalizing inbound with
  | nil => simp [total] at enough
  | cons event rest ih =>
      have now := quiet event (List.mem_cons_self ..)
      have later : ∀ other ∈ rest, Quiet other := fun other member => quiet other (List.mem_cons_of_mem _ member)
      have kept : (inbound.step event).issues = inbound.issues := step_issues now
      rw [total] at enough
      by_cases ends : event = .commit ∧ inbound.backfill.any (·.complete) = true
      · -- the next sweep begins after the last change
        have idle : (inbound.step event).backfill = none := by
          obtain ⟨rfl, done⟩ := ends
          obtain ⟨backfill, own, complete⟩ := Option.any_eq_true _ _ |>.mp done
          simp [step, Inbound.commit, own, complete]
        refine @quiet_run (inbound.step event) rest (sound.step event careful.1) (fresh_of_idle idle) careful.2
          later (Or.inr ?_)
        have fits : (inbound.step event).pending.length ≤ (inbound.step event).issues.length :=
          List.length_filter_le ..
        rw [kept] at fits
        rw [finishes, if_pos ends] at enough
        omega
      · refine ih (sound.step event careful.1) careful.2 later ?_
        rw [finishes, if_neg ends] at enough
        rw [kept]
        omega

/-- Nothing is lost behind careful steps. -/
theorem backfill_skips_nothing (events : List InboundEvent) (careful : Along Inbound.step Careful {} events) :
    (∀ row ∈ (play Inbound.step {} events).rows, ∀ issue ∈ (play Inbound.step {} events).issues,
      issue.number = row.externalIssueNumber →
        (∀ cursor, (play Inbound.step {} events).lastFullBackfillAt = some cursor → cursor ≤ issue.updatedAt) ∨
          row.sync.state = issue.state) ∧
    ∀ front tail, events = front ++ tail → (∀ event ∈ tail, Quiet event) →
      (play Inbound.step {} front).issues.length + 2 ≤
        total Inbound.step finishes (play Inbound.step {} front) tail →
      ∀ row ∈ (play Inbound.step {} events).rows, ∀ issue ∈ (play Inbound.step {} events).issues,
        issue.number = row.externalIssueNumber → row.sync.state = issue.state := by
  have kept : ∀ state event, Sound state → state.Careful event → (state.step event).Sound :=
    fun _ event sound careful => sound.step event careful
  constructor
  · intro row member issue known number
    have sound := careful.invariant kept sound_initial
    exact (sound.behind row member issue known number).imp_right (·.1)
  · rintro front tail rfl quiet enough row member issue known number
    obtain ⟨before, after⟩ := along_append.mp careful
    have sound := before.invariant kept sound_initial
    have current := quiet_tail sound after quiet enough
    rw [play_append] at member known
    exact (current row member issue known number).1

def sampleRun : List InboundEvent :=
  [.openIssue 1 false, .track 1, .tick 5, .closeIssue 1 none, .start, .fetchPage, .commit, .tick 1, .start,
    .fetchPage, .commit, .start, .fetchPage, .commit]

theorem backfill_skips_nothing_sample : Along Inbound.step Careful {} sampleRun ∧
    ∀ row ∈ (play Inbound.step {} sampleRun).rows, ∀ issue ∈ (play Inbound.step {} sampleRun).issues,
      issue.number = row.externalIssueNumber → row.sync.state = issue.state := by
  have careful : Along Inbound.step Careful {} sampleRun := by decide +kernel
  refine ⟨careful, (backfill_skips_nothing sampleRun careful).2
    (sampleRun.take 4) (sampleRun.drop 4) (by decide) ?_ (by decide +kernel)⟩
  simp [sampleRun, Quiet]

theorem sweep_skips_moved_issue :
    ∃ inbound, inbound = play Inbound.step {} ((List.range 101).flatMap (fun place =>
        [.tick 1, .openIssue (place + 1) false]) ++ [.track 101, .tick 50, .closeIssue 101 none, .tick 50, .start,
          .fetchPage, .tick 1, .editIssue 1, .fetchPage, .commit]) ∧
      ∃ row ∈ inbound.rows, ∃ issue ∈ inbound.issues, issue.number = row.externalIssueNumber ∧
        row.sync.state ≠ issue.state ∧ inbound.lastFullBackfillAt.any (issue.updatedAt < ·) = true :=
  ⟨_, rfl, by decide +kernel⟩

end Inbound

end Thought2Build.Integrations
