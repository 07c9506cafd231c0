import Mathlib.Tactic.Linarith
import Thought2Build.Integrations.InstallationTokensCore
import Thought2Build.Library.Budgets
import Thought2Build.Library.Rows

/-! Tokens are fresh when used, as long as no old token is stored late or behind the back of a refresh. -/

namespace Thought2Build.Integrations

open Budgets Histories

namespace TokenStore

def hit (store : TokenStore) (event : TokenEvent) : Option CachedToken :=
  match event.action, (store.task event.task).phase with
  | .read fails, .reads => (store.live event.now).filter fun _ => !fails
  | _, _ => none

def obtained (store : TokenStore) (event : TokenEvent) : Option Nat :=
  match event.action, (store.task event.task).phase with
  | .read _, .reads => (store.hit event).map (·.token)
  | .endMint expiresAt, .minting token => if 0 < cacheTtl expiresAt event.now then none else some token
  | .store _, .stores token _ _ => some token
  | _, _ => none

/-- What is taken from the cache has the margin, a refresh gets a token whose mint began after it was called, and a
request is not tried again with the token that was rejected. -/
structure Fresh (store : TokenStore) (event : TokenEvent) : Prop where
  margin : ∀ cached ∈ store.hit event, (refreshAheadSeconds : Rat) ≤ cached.expiresAt - event.now
  newer : ∀ token ∈ store.obtained event, ∀ since, (store.task event.task).use = .refreshing since → since ≤ token
  other : ∀ token ∈ store.obtained event, (store.task event.task).use = .again →
    (store.task event.task).rejected ≠ some token

def TokenTask.outdates (task : TokenTask) (token : Nat) : Bool :=
  match task.use with
  | .refreshing since => task.phase = .reads && token < since
  | _ => false

/-- A token is stored within the fraction of a second that its time to live leaves out, and not between the delete and
the read of a refresh that was called after its mint began; a delete that fails leaves no older token behind. -/
def Careful (store : TokenStore) (event : TokenEvent) : Prop :=
  match event.action, (store.task event.task).phase with
  | .store false, .stores token expiresAt mintedAt =>
      event.now - mintedAt ≤ expiresAt - mintedAt - wholeSeconds (expiresAt - mintedAt) ∧
        ∀ task ∈ store.tasks, TokenTask.outdates task token = false
  | .invalidate true, .invalidates =>
      match (store.task event.task).use with
      | .refreshing since => ∀ cached ∈ store.live event.now, since ≤ cached.token
      | _ => True
  | _, _ => True

instance (store : TokenStore) (event : TokenEvent) : Decidable (store.Careful event) := by
  unfold Careful
  split
  · infer_instance
  · split <;> infer_instance
  · infer_instance

variable {store : TokenStore} {event : TokenEvent} {now soon : Rat} {place other token since mints : Nat}
  {task : TokenTask} {cached : CachedToken} {held : Option CachedToken}

def pending (task : TokenTask) : Option Nat :=
  match task.phase with
  | .minting token | .stores token _ _ => some token
  | _ => none

def Holds (task : TokenTask) (token : Nat) : Prop := task.phase = .sent token ∨ task.rejected = some token

theorem task_setTask (store : TokenStore) (place other : Nat) (task : TokenTask) :
    (store.setTask place task).task other = store.task other ∨
      other = place ∧ place < store.tasks.length ∧ (store.setTask place task).task other = task := by
  unfold TokenStore.task setTask
  rw [Rows.getD_set]
  split
  · rename_i written
    exact .inr ⟨written.1, written.2, rfl⟩
  · exact .inl rfl

theorem task_start (store : TokenStore) (task : TokenTask) (other : Nat) :
    (store.start task).task other = store.task other ∨
      store.task other = {} ∧ (store.start task).task other = task := by
  unfold TokenStore.task start
  rw [Rows.getD_append]
  split
  · rename_i last
    exact .inr ⟨by simp [last], rfl⟩
  · exact .inl rfl

theorem pending_task (found : pending (store.task place) = some token) : place < store.tasks.length := by
  by_contra beyond
  rw [TokenStore.task, List.getD_eq_getElem?_getD, List.getElem?_eq_none (Nat.le_of_not_lt beyond)] at found
  simp [pending] at found

structure TaskSound (held : Option CachedToken) (mints : Nat) (now : Rat) (task : TokenTask) : Prop where
  sweeps : task.phase = .invalidates → ∃ since, task.use = .refreshing since
  begun : ∀ token, pending task = some token → token < mints
  called : ∀ since, task.use = .refreshing since → since ≤ mints
  rejects : ∀ since, task.use = .refreshing since → ∀ token, task.rejected = some token → token < since
  newer : ∀ since, task.use = .refreshing since → ∀ token, pending task = some token → since ≤ token
  swept : ∀ since, task.use = .refreshing since → task.phase = .reads →
    ∀ cached ∈ held, since ≤ cached.token ∨ cached.deadline ≤ now
  gone : ∀ token, task.rejected = some token → task.phase ≠ .invalidates →
    ∀ cached ∈ held, cached.token ≠ token ∨ cached.deadline ≤ now

theorem taskSound_idle (held : Option CachedToken) (mints : Nat) (now : Rat) : TaskSound held mints now {} where
  sweeps := by simp
  begun := by simp [pending]
  called := by simp
  rejects := by simp
  newer := by simp
  swept := by simp
  gone := by simp

theorem TaskSound.later (sound : TaskSound held mints now task) (ahead : now ≤ soon) : TaskSound held mints soon task where
  sweeps := sound.sweeps
  begun := sound.begun
  called := sound.called
  rejects := sound.rejects
  newer := sound.newer
  swept since use reads cached there := (sound.swept since use reads cached there).imp_right fun past => past.trans ahead
  gone token found moved cached there := (sound.gone token found moved cached there).imp_right fun past => past.trans ahead

theorem TaskSound.raise (sound : TaskSound held mints now task) : TaskSound held (mints + 1) now task where
  sweeps := sound.sweeps
  begun token found := Nat.lt_succ_of_lt (sound.begun token found)
  called since use := Nat.le_succ_of_le (sound.called since use)
  rejects := sound.rejects
  newer := sound.newer
  swept := sound.swept
  gone := sound.gone

theorem obtain_sound (sound : TaskSound held mints now task) (moved : task.phase ≠ .invalidates) :
    TaskSound held mints now (task.obtain token) := by
  have rejected := fun old found => sound.gone old found moved
  unfold TokenTask.obtain
  cases use : task.use with
  | first | again =>
      exact ⟨by simp, by simp [pending], by simp, by simp, by simp [pending], by simp, by simpa using rejected⟩
  | refreshing since =>
      by_cases rejects : task.rejected.isSome
      · rw [if_pos rejects]
        exact ⟨by simp, by simp [pending], by simp, by simp, by simp, by simp, by simpa using rejected⟩
      · rw [if_neg rejects]
        exact taskSound_idle held mints now

@[simp] theorem pending_obtain (task : TokenTask) (token : Nat) : pending (task.obtain token) = none := by
  unfold TokenTask.obtain
  split
  · rfl
  · rfl
  · split <;> rfl

theorem obtain_use (task : TokenTask) (token since : Nat) : (task.obtain token).use ≠ .refreshing since := by
  unfold TokenTask.obtain
  split
  · rename_i use
    simp [use]
  · rename_i use
    simp [use]
  · split <;> simp

theorem rejected_obtain (found : (task.obtain token).rejected = some other) : task.rejected = some other := by
  unfold TokenTask.obtain at found
  split at found
  · exact found
  · exact found
  · split at found
    · exact found
    · simp at found

theorem holds_obtain (holds : Holds (task.obtain token) other) : other = token ∨ task.rejected = some other := by
  rcases holds with sent | rejected
  · refine .inl ?_
    unfold TokenTask.obtain at sent
    split at sent
    · exact (TokenPhase.sent.inj sent).symm
    · exact (TokenPhase.sent.inj sent).symm
    · split at sent <;> simp at sent
  · exact .inr (rejected_obtain rejected)

def Used (store : TokenStore) (token : Nat) : Prop :=
  (∃ cached ∈ store.cached, cached.token = token) ∨ ∃ place, Holds (store.task place) token

structure Sound (store : TokenStore) (now : Rat) : Prop where
  margin : ∀ cached ∈ store.cached, cached.deadline ≤ cached.expiresAt - refreshAheadSeconds
  tasks : ∀ place, TaskSound store.cached store.mints now (store.task place)
  apart : ∀ place other token, pending (store.task place) = some token → pending (store.task other) = some token →
    place = other
  unused : ∀ place token, pending (store.task place) = some token → ¬store.Used token
  old : ∀ token, store.Used token → token < store.mints

theorem Sound.later (sound : Sound store now) (ahead : now ≤ soon) : Sound store soon :=
  { sound with tasks := fun place => (sound.tasks place).later ahead }

theorem Sound.move (sound : Sound store now) (next : TaskSound store.cached store.mints now task)
    (keeps : ∀ token, pending task = some token → pending (store.task place) = some token)
    (holds : ∀ token, Holds task token → token < store.mints ∧
      ∀ other, pending (store.task other) = some token → other = place ∧ pending task = none) :
    Sound (store.setTask place task) now := by
  have used : ∀ {token}, (store.setTask place task).Used token → store.Used token ∨ Holds task token := by
    rintro token (inside | ⟨other, sent⟩)
    · exact .inl (.inl inside)
    · rcases store.task_setTask place other task with same | ⟨_, _, same⟩ <;> rw [same] at sent
      · exact .inl (.inr ⟨other, sent⟩)
      · exact .inr sent
  have mints : ∀ {other token}, pending ((store.setTask place task).task other) = some token →
      pending (store.task other) = some token := by
    intro other token found
    rcases store.task_setTask place other task with same | ⟨rfl, _, same⟩ <;> rw [same] at found
    · exact found
    · exact keeps token found
  refine ⟨sound.margin, fun other => ?_, fun first second token here there => ?_, fun other token found spent => ?_,
    fun token spent => ?_⟩
  · rcases store.task_setTask place other task with same | ⟨_, _, same⟩ <;> rw [same]
    · exact sound.tasks other
    · exact next
  · exact sound.apart first second token (mints here) (mints there)
  · rcases used spent with before | own
    · exact sound.unused other token (mints found) before
    · obtain ⟨rfl, none⟩ := (holds token own).2 other (mints found)
      have written : (store.setTask other task).task other = task := by
        unfold TokenStore.task setTask
        rw [Rows.getD_set, if_pos ⟨rfl, pending_task (mints found)⟩]
      rw [written, none] at found
      contradiction
  · rcases used spent with before | own
    · exact sound.old token before
    · exact (holds token own).1

theorem Sound.start (sound : Sound store now) (next : TaskSound store.cached store.mints now task)
    (none : pending task = none) (fresh : ∀ token, ¬Holds task token) : Sound (store.start task) now := by
  have used : ∀ {token}, (store.start task).Used token → store.Used token := by
    rintro token (inside | ⟨other, sent⟩)
    · exact .inl inside
    · rcases store.task_start task other with same | ⟨_, same⟩ <;> rw [same] at sent
      · exact .inr ⟨other, sent⟩
      · exact absurd sent (fresh token)
  have mints : ∀ {other token}, pending ((store.start task).task other) = some token →
      pending (store.task other) = some token := by
    intro other token found
    rcases store.task_start task other with same | ⟨_, same⟩ <;> rw [same] at found
    · exact found
    · rw [none] at found
      contradiction
  refine ⟨sound.margin, fun other => ?_, fun first second token here there => ?_, fun other token found spent => ?_,
    fun token spent => sound.old token (used spent)⟩
  · rcases store.task_start task other with same | ⟨_, same⟩ <;> rw [same]
    · exact sound.tasks other
    · exact next
  · exact sound.apart first second token (mints here) (mints there)
  · exact sound.unused other token (mints found) (used spent)

theorem Sound.delete (sound : Sound store now) : Sound { store with cached := none } now := by
  have used : ∀ {token}, Used { store with cached := none } token → store.Used token := by
    rintro token (⟨_, absent, _⟩ | sent)
    · simp at absent
    · exact .inr sent
  refine ⟨by simp, fun place => ?_, sound.apart, fun place token found spent => sound.unused place token found (used spent),
    fun token spent => sound.old token (used spent)⟩
  have task := sound.tasks place
  exact ⟨task.sweeps, task.begun, task.called, task.rejects, task.newer, by simp, by simp⟩

theorem Sound.put (sound : Sound store now) (margin : cached.deadline ≤ cached.expiresAt - refreshAheadSeconds)
    (begun : cached.token < store.mints) (minted : ∀ place, pending (store.task place) ≠ some cached.token)
    (careful : ∀ place since, (store.task place).use = .refreshing since → (store.task place).phase = .reads →
      since ≤ cached.token)
    (unsent : ∀ place, (store.task place).rejected ≠ some cached.token) :
    Sound { store with cached := some cached } now := by
  refine ⟨by simpa using margin, fun place => ?_, sound.apart, fun place token found spent => ?_, fun token spent => ?_⟩
  · have task := sound.tasks place
    refine ⟨task.sweeps, task.begun, task.called, task.rejects, task.newer, fun since use reads other there => ?_,
      fun token rejected _ other there => ?_⟩
    · obtain rfl := Option.some.inj there
      exact .inl (careful place since use reads)
    · obtain rfl := Option.some.inj there
      exact .inl fun same => unsent place (same ▸ rejected)
  · rcases spent with ⟨other, there, same⟩ | sent
    · obtain rfl := Option.some.inj there
      exact minted place (same ▸ found)
    · exact sound.unused place token found (.inr sent)
  · rcases spent with ⟨other, there, same⟩ | sent
    · obtain rfl := Option.some.inj there
      exact same ▸ begun
    · exact sound.old token (.inr sent)

theorem Sound.mint (sound : Sound store now) (mints : (store.task place).phase = .mints) :
    Sound ({ store with mints := store.mints + 1 }.setTask place
      { store.task place with phase := .minting store.mints }) now := by
  generalize minted : ({ store.task place with phase := .minting store.mints } : TokenTask) = task
  have tasks : ∀ other, ({ store with mints := store.mints + 1 }.setTask place task).task other = store.task other ∨
      other = place ∧ ({ store with mints := store.mints + 1 }.setTask place task).task other = task := by
    intro other
    rcases task_setTask { store with mints := store.mints + 1 } place other task with same | ⟨here, _, same⟩
    · exact .inl same
    · exact .inr ⟨here, same⟩
  have used : ∀ {token}, ({ store with mints := store.mints + 1 }.setTask place task).Used token → store.Used token := by
    rintro token (inside | ⟨other, holds⟩)
    · exact .inl inside
    · rcases tasks other with same | ⟨_, same⟩ <;> rw [same] at holds
      · exact .inr ⟨other, holds⟩
      · rw [← minted] at holds
        exact .inr ⟨place, .inr (holds.resolve_left (by simp))⟩
  have fresh : pending task = some store.mints := by rw [← minted]; rfl
  have before := sound.tasks place
  refine ⟨sound.margin, fun other => ?_, fun first second token here there => ?_, fun other token found spent => ?_,
    fun token spent => Nat.lt_succ_of_lt (sound.old token (used spent))⟩
  · rcases tasks other with same | ⟨_, same⟩ <;> rw [same]
    · exact (sound.tasks other).raise
    · subst minted
      refine ⟨by simp, fun token found => ?_, before.raise.called, before.rejects, fun since use token found => ?_, by simp,
        fun token rejected _ => before.gone token rejected (by simp [mints])⟩
      · obtain rfl : store.mints = token := by simpa [pending] using found
        exact Nat.lt_succ_self _
      · obtain rfl : store.mints = token := by simpa [pending] using found
        exact before.called since use
  · rcases tasks first with same | ⟨rfl, same⟩ <;> rw [same] at here
    · have old := (sound.tasks first).begun token here
      rcases tasks second with same | ⟨rfl, same⟩ <;> rw [same] at there
      · exact sound.apart first second token here there
      · rw [fresh, Option.some.injEq] at there
        omega
    · rw [fresh, Option.some.injEq] at here
      rcases tasks second with same | ⟨rfl, same⟩ <;> rw [same] at there
      have old := (sound.tasks second).begun token there
      omega
  · rcases tasks other with same | ⟨_, same⟩ <;> rw [same] at found
    · exact sound.unused other token found (used spent)
    · have old := sound.old token (used spent)
      rw [fresh, Option.some.injEq] at found
      omega

theorem Sound.obtain (sound : Sound store now) (used : store.Used token)
    (moved : (store.task place).phase ≠ .invalidates) :
    Sound (store.setTask place ((store.task place).obtain token)) now := by
  refine sound.move (obtain_sound (sound.tasks place) moved) (fun other found => by simp at found) ?_
  intro other holds
  have spent : store.Used other := by
    rcases holds_obtain holds with rfl | rejected
    · exact used
    · exact .inr ⟨place, .inr rejected⟩
  exact ⟨sound.old other spent, fun owner found => absurd spent (sound.unused owner other found)⟩

theorem Sound.deliver (sound : Sound store now) (own : pending (store.task place) = some token) :
    Sound (store.setTask place ((store.task place).obtain token)) now := by
  have moved : (store.task place).phase ≠ .invalidates := by
    intro phase
    simp [pending, phase] at own
  refine sound.move (obtain_sound (sound.tasks place) moved) (fun other found => by simp at found) ?_
  intro other holds
  rcases holds_obtain holds with rfl | rejected
  · exact ⟨(sound.tasks place).begun other own, fun owner found => ⟨sound.apart owner place other found own, by simp⟩⟩
  · have spent : store.Used other := .inr ⟨place, .inr rejected⟩
    exact ⟨sound.old other spent, fun owner found => absurd spent (sound.unused owner other found)⟩

theorem Sound.over (sound : Sound store now) (place : Nat) : Sound (store.setTask place {}) now :=
  sound.move (taskSound_idle _ _ _) (fun other found => by simp [pending] at found) fun other holds => by
    simp [Holds] at holds

theorem Sound.turn {phase : TokenPhase} (sound : Sound store now)
    (next : TaskSound store.cached store.mints now { store.task place with phase })
    (keeps : ∀ token, pending { store.task place with phase } = some token → pending (store.task place) = some token)
    (unsent : ∀ token, phase ≠ .sent token) :
    Sound (store.setTask place { store.task place with phase }) now := by
  refine sound.move next keeps fun token holds => ?_
  have spent : store.Used token := .inr ⟨place, .inr (holds.resolve_left (unsent token))⟩
  exact ⟨sound.old token spent, fun owner found => absurd spent (sound.unused owner token found)⟩

theorem Sound.invalidate {fails : Bool} (sound : Sound store now) (phase : (store.task place).phase = .invalidates)
    (careful : fails = true → ∀ since, (store.task place).use = .refreshing since →
      ∀ cached ∈ store.live now, since ≤ cached.token) :
    Sound ((store.write fails none).setTask place { store.task place with phase := .reads }) now := by
  have task := sound.tasks place
  obtain ⟨since, use⟩ := task.sweeps phase
  cases fails with
  | false =>
      refine sound.delete.turn ⟨by simp, by simp [pending], task.called, task.rejects, by simp [pending],
        by simp, by simp⟩ (fun token found => by simp [pending] at found) (by simp)
  | true =>
      have young : ∀ cached ∈ store.cached, since ≤ cached.token ∨ cached.deadline ≤ now := by
        intro cached there
        by_cases alive : now < cached.deadline
        · exact .inl (careful rfl since use cached (by simp [live, Option.mem_def.mp there, alive]))
        · exact .inr (not_lt.mp alive)
      refine sound.turn ⟨by simp, by simp [pending], task.called, task.rejects, by simp [pending], ?_, ?_⟩
        (fun token found => by simp [pending] at found) (by simp)
      · intro other same _
        obtain rfl : since = other := TokenUse.refreshing.inj (use.symm.trans same)
        exact young
      · intro token rejected _ cached there
        refine (young cached there).imp_left fun later same => ?_
        have early := task.rejects since use token rejected
        omega

theorem Sound.stored {fails : Bool} {expiresAt mintedAt : Rat} (sound : Sound store now)
    (phase : (store.task place).phase = .stores token expiresAt mintedAt)
    (careful : fails = false →
      now - mintedAt ≤ expiresAt - mintedAt - wholeSeconds (expiresAt - mintedAt) ∧
        ∀ task ∈ store.tasks, TokenTask.outdates task token = false) :
    Sound ((store.write fails (some { token, expiresAt, deadline := now + cacheTtl expiresAt mintedAt })).setTask place
      ((store.task place).obtain token)) now := by
  have own : pending (store.task place) = some token := by simp [pending, phase]
  have delivered := sound.deliver own
  cases fails with
  | true => exact delivered
  | false =>
      obtain ⟨soon, unswept⟩ := careful rfl
      have others : ∀ other, (store.setTask place ((store.task place).obtain token)).task other = store.task other ∧
          other ≠ place ∨ (store.setTask place ((store.task place).obtain token)).task other =
            (store.task place).obtain token := by
        intro other
        unfold TokenStore.task setTask
        rw [Rows.getD_set]
        split
        · exact .inr rfl
        · rename_i elsewhere
          refine .inl ⟨rfl, ?_⟩
          rintro rfl
          exact elsewhere ⟨rfl, pending_task own⟩
      refine delivered.put ?_ ((sound.tasks place).begun token own) (fun other found => ?_)
        (fun other since use reads => ?_) (fun other rejected => ?_)
      · simp only [cacheTtl, Int.cast_sub]
        linarith
      · rcases others other with ⟨same, apart⟩ | same <;> rw [same] at found
        · exact apart (sound.apart other place token found own)
        · simp at found
      · rcases others other with ⟨same, _⟩ | same <;> rw [same] at use
        · rw [same] at reads
          have inside : store.task other ∈ store.tasks := by
            unfold TokenStore.task at use ⊢
            rw [List.getD_eq_getElem?_getD] at use ⊢
            cases there : store.tasks[other]? with
            | none => simp [there] at use
            | some task => exact List.mem_of_getElem? there
          have late := unswept (store.task other) inside
          simpa [TokenTask.outdates, use, reads] using late
        · exact absurd use (obtain_use _ _ _)
      · rcases others other with ⟨same, _⟩ | same <;> rw [same] at rejected
        · exact sound.unused place token own (.inr ⟨other, .inr rejected⟩)
        · exact sound.unused place token own (.inr ⟨place, .inr (rejected_obtain rejected)⟩)

theorem Sound.step (sound : Sound store event.now) (careful : store.Careful event) :
    Sound (store.step event) event.now := by
  have task := sound.tasks event.task
  unfold TokenStore.step
  unfold Careful at careful
  dsimp only
  split
  case h_1 _ _ action =>
      exact sound.start ⟨by simp, by simp [pending], by simp, by simp, by simp, by simp, by simp⟩ rfl (by simp [Holds])
  case h_2 _ _ action =>
      refine sound.start ⟨by simp, by simp [pending], ?_, by simp, by simp [pending], by simp, by simp⟩ rfl (by simp [Holds])
      intro since use
      exact le_of_eq (TokenUse.refreshing.inj use).symm
  case h_3 _ _ fails action phase =>
      refine sound.invalidate phase ?_
      rintro rfl since use
      simpa only [action, phase, use] using careful
  case h_4 _ _ fails action phase =>
      split
      · rename_i cached found
        obtain ⟨alive, _⟩ := Option.filter_eq_some_iff.mp found
        have inside : cached ∈ store.cached := (Option.filter_eq_some_iff.mp alive).1
        exact sound.obtain (.inl ⟨cached, inside, rfl⟩) (by simp [phase])
      · exact sound.turn ⟨by simp, by simp [pending], task.called, task.rejects, by simp [pending], by simp,
          fun token rejected _ => task.gone token rejected (by simp [phase])⟩ (fun token found => by simp [pending] at found)
          (by simp)
  case h_5 _ _ action phase => exact sound.mint phase
  case h_6 _ _ expiresAt token action phase =>
      have own : pending (store.task event.task) = some token := by simp [pending, phase]
      split
      · exact sound.turn ⟨by simp, fun other found => task.begun other (own.trans found), task.called, task.rejects,
          fun since use other found => task.newer since use other (own.trans found), by simp,
          fun token rejected _ => task.gone token rejected (by simp [phase])⟩ (fun other found => own.trans found) (by simp)
      · exact sound.deliver own
  case h_7 _ _ fails token expiresAt mintedAt action phase =>
      refine sound.stored phase ?_
      rintro rfl
      simpa only [action, phase] using careful
  case h_8 _ _ token action phase =>
      have spent : store.Used token := .inr ⟨event.task, .inl phase⟩
      split
      · refine sound.move ⟨by simp, by simp [pending], ?_, ?_, by simp [pending], by simp, by simp⟩
          (fun other found => by simp [pending] at found) ?_
        · exact fun since use => le_of_eq (TokenUse.refreshing.inj use).symm
        · intro since use other rejected
          obtain rfl := TokenUse.refreshing.inj use
          obtain rfl := Option.some.inj rejected
          exact sound.old _ spent
        · intro other holds
          obtain rfl : token = other := by simpa [Holds] using holds
          exact ⟨sound.old _ spent, fun owner found => absurd spent (sound.unused owner _ found)⟩
      · exact sound.over _
  case h_9 _ _ action => exact sound.over _
  case h_10 => exact sound

theorem Sound.fresh (sound : Sound store event.now) : store.Fresh event := by
  have task := sound.tasks event.task
  have alive : ∀ cached ∈ store.hit event, cached ∈ store.cached ∧ event.now < cached.deadline ∧
      (store.task event.task).phase = .reads := by
    intro cached found
    unfold hit at found
    split at found
    · rename_i phase
      obtain ⟨live, _⟩ := Option.filter_eq_some_iff.mp found
      obtain ⟨inside, soon⟩ := Option.filter_eq_some_iff.mp live
      exact ⟨inside, by simpa using soon, phase⟩
    · simp at found
  have source : ∀ token ∈ store.obtained event, (∃ cached ∈ store.hit event, cached.token = token) ∨
      pending (store.task event.task) = some token := by
    intro token found
    unfold obtained at found
    split at found
    · obtain ⟨cached, there, rfl⟩ := Option.map_eq_some_iff.mp found
      exact .inl ⟨cached, there, rfl⟩
    · rename_i phase
      split at found
      · simp at found
      · obtain rfl := Option.some.inj found
        exact .inr (by simp [pending, phase])
    · rename_i phase
      obtain rfl := Option.some.inj found
      exact .inr (by simp [pending, phase])
    · simp at found
  refine ⟨fun cached found => ?_, fun token found since use => ?_, fun token found _ rejected => ?_⟩
  · obtain ⟨inside, soon, _⟩ := alive cached found
    have margin := sound.margin cached inside
    linarith
  · rcases source token found with ⟨cached, there, rfl⟩ | own
    · obtain ⟨inside, soon, reads⟩ := alive cached there
      exact (task.swept since use reads cached inside).resolve_right (not_le.mpr soon)
    · exact task.newer since use token own
  · rcases source token found with ⟨cached, there, rfl⟩ | own
    · obtain ⟨inside, soon, reads⟩ := alive cached there
      rcases task.gone _ rejected (by simp [reads]) cached inside with other | past
      · exact other rfl
      · exact absurd soon (not_lt.mpr past)
    · exact sound.unused event.task token own (.inr ⟨event.task, .inr rejected⟩)

theorem sound_start (now : Rat) : Sound {} now where
  margin := by simp
  tasks place := taskSound_idle _ _ _
  apart place other token found := by simp [TokenStore.task, pending] at found
  unused place token found := by simp [TokenStore.task, pending] at found
  old token spent := by simp [Used, Holds, TokenStore.task] at spent

/-- In every careful run all tokens are fresh when they are used. -/
theorem tokens_stay_fresh {events : List TokenEvent} (order : InOrder TokenEvent.now now events)
    (careful : Along step Careful {} events) : Along step Fresh {} events := by
  suffices run : ∀ store now, Sound store now → InOrder TokenEvent.now now events → Along step Careful store events →
      Along step Fresh store events from run {} now (sound_start now) order careful
  clear order careful
  induction events with
  | nil => exact fun _ _ _ _ _ => trivial
  | cons event rest ih =>
      intro store now sound order careful
      obtain ⟨next, later⟩ := inOrder_cons.mp order
      have ready := sound.later next
      exact ⟨ready.fresh, ih _ _ (ready.step careful.1) later careful.2⟩

def refreshedRun : List TokenEvent :=
  [⟨0, .request, 0⟩, ⟨0, .read false, 0⟩, ⟨0, .beginMint, 0⟩, ⟨0, .endMint 3600, 0⟩, ⟨0, .store false, 0⟩,
    ⟨1, .request, 10⟩, ⟨1, .read false, 10⟩, ⟨1, .unauthorized, 11⟩, ⟨2, .request, 12⟩, ⟨1, .invalidate false, 12⟩,
    ⟨2, .read false, 12⟩, ⟨1, .read false, 13⟩, ⟨1, .beginMint, 13⟩, ⟨2, .beginMint, 13⟩, ⟨1, .endMint 3613, 14⟩,
    ⟨2, .endMint 3613, 14⟩, ⟨2, .store false, 14⟩, ⟨1, .store false, 14⟩, ⟨1, .read false, 15⟩, ⟨1, .stop, 16⟩]

theorem tokens_stay_fresh_sample : Along step Fresh {} refreshedRun := by
  refine @tokens_stay_fresh 0 refreshedRun ?_ ?_
  · norm_num [InOrder, refreshedRun]
  · decide +kernel

def lateRun : List TokenEvent :=
  [⟨0, .request, 0⟩, ⟨0, .read false, 0⟩, ⟨0, .beginMint, 0⟩, ⟨0, .endMint 3600, 0⟩, ⟨0, .store false, 1⟩,
    ⟨1, .request, 3300⟩]

def oldRun : List TokenEvent :=
  [⟨0, .request, 0⟩, ⟨0, .read false, 0⟩, ⟨0, .beginMint, 0⟩, ⟨0, .endMint 3600, 0⟩, ⟨1, .refresh, 0⟩,
    ⟨1, .invalidate false, 0⟩, ⟨0, .store false, 0⟩]

theorem tokens_are_stale :
    InOrder TokenEvent.now 0 (lateRun ++ [⟨1, .read false, 3300 + 1 / 2⟩]) ∧
      (∃ cached ∈ (play step {} lateRun).hit ⟨1, .read false, 3300 + 1 / 2⟩,
        cached.expiresAt - (3300 + 1 / 2) < refreshAheadSeconds) ∧
      InOrder TokenEvent.now 0 (oldRun ++ [⟨1, .read false, 0⟩]) ∧
      (play step {} oldRun).obtained ⟨1, .read false, 0⟩ = some 0 ∧
      ((play step {} oldRun).task 1).use = .refreshing 1 := by
  refine ⟨?_, ⟨⟨0, 3600, 3301⟩, ?_, ?_⟩, ?_, ?_, ?_⟩
  · norm_num [InOrder, lateRun]
  · decide +kernel
  · norm_num [refreshAheadSeconds]
  · norm_num [InOrder, oldRun]
  · decide +kernel
  · decide +kernel

end TokenStore

end Thought2Build.Integrations
