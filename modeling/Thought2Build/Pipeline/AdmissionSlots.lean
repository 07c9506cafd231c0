import Thought2Build.Pipeline.AdmissionCore

/-!
Slots and leases of generations over any run. Whatever raises, the limits hold; slots and leases of calls that do not
succeed come back where nothing but a `RedisError` is raised while a slot is being taken.
-/

namespace Thought2Build.Pipeline

open Dictionaries Histories

namespace SortedSet

variable {set : SortedSet} {now limit deadline windowStart : Int} {member : String}

section

attribute [local simp] AdmissionControl.step

end

theorem length_above_le (score : Int) : (set.above score).length ≤ set.length := List.length_filter_le _ _

theorem length_zrem_le : (set.zrem member).length ≤ set.length := List.length_filter_le _ _

theorem length_put_le (score : Int) : (put member score set).length ≤ set.length + 1 := by
  induction set with
  | nil => exact le_rfl
  | cons entry set ih =>
      rw [put]
      split
      · exact Nat.le_succ _
      · exact Nat.succ_le_succ ih

theorem length_put_of_has (score : Int) (present : set.has member = true) :
    (put member score set).length = set.length := by
  induction set with
  | nil => simp [has] at present
  | cons entry set ih =>
      rw [put]
      split
      · rfl
      · rename_i other
        refine congrArg (· + 1) (ih ?_)
        simpa [has, Ne.symm other] using present

theorem acquireLease_le (positive : 0 < limit) (within : (set.length : Int) ≤ limit) :
    ((set.acquireLease now limit member deadline).2.length : Int) ≤ limit := by
  have live : ((set.above now).length : Int) ≤ limit := by
    have shorter := @length_above_le set now
    omega
  rw [acquireLease]
  split
  · rename_i present
    rw [length_put_of_has deadline present]
    exact live
  · split
    · exact live
    · rename_i room
      have longer := @length_put_le (set.above now) member deadline
      dsimp only
      omega

theorem slidingWindow_le (within : (set.length : Int) ≤ limit) :
    ((set.slidingWindow now windowStart limit member).2.length : Int) ≤ limit := by
  have shorter := @length_above_le set windowStart
  rw [slidingWindow]
  split
  · dsimp only
    omega
  · have longer := @length_put_le (set.above windowStart) member now
    dsimp only
    omega

end SortedSet

namespace GenerationAdmission

variable {settings : AdmissionSettings} {admission : GenerationAdmission}

def occupies (admission : GenerationAdmission) : Bool :=
  match admission.phase with
  | .taking _ | .held => true
  | _ => false

def Tracked (admission : GenerationAdmission) : Prop :=
  match admission.phase with
  | .taking _ => (∀ key ∈ admission.added, key ∈ admission.taken) ∧ admission.removed = []
  | .unwinding _ keys => (∀ key ∈ admission.added, key ∈ keys) ∧ admission.removed = []
  | .ended _ => AdmissionControl.Undone admission
  | _ => True

theorem toNat_isHeld_add_isUnderWay (process : Nat) :
    (admission.isHeld process).toNat + (admission.isUnderWay process).toNat =
      if admission.process = process ∧ admission.occupies then 1 else 0 := by
  rw [isHeld, isUnderWay, occupies]
  by_cases here : admission.process = process
  · cases admission.phase <;> simp [here]
  · simp [here]

theorem afterProvider_cases : (∃ budget, admission.afterProvider settings = .taking budget) ∨
    admission.afterProvider settings = .held := by
  rw [afterProvider]
  split
  · exact Or.inl ⟨_, rfl⟩
  · exact Or.inr rfl

theorem afterUser_cases : (∃ budget, admission.afterUser settings = .taking budget) ∨
    admission.afterUser settings = .held := by
  rw [afterUser]
  split
  · exact Or.inl ⟨_, rfl⟩
  · exact afterProvider_cases

theorem afterProcess_cases : (∃ budget, admission.afterProcess settings = .taking budget) ∨
    admission.afterProcess settings = .held := by
  rw [afterProcess]
  split
  · exact Or.inl ⟨_, rfl⟩
  · exact afterUser_cases

theorem occupies_of_cases {phase : AdmissionPhase} (goesOn : (∃ budget, phase = .taking budget) ∨ phase = .held)
    (added : ∀ key ∈ admission.added, key ∈ admission.taken) (removed : admission.removed = []) :
    { admission with phase }.occupies = true ∧ { admission with phase }.Tracked := by
  rcases goesOn with ⟨budget, rfl⟩ | rfl
  · exact ⟨rfl, added, removed⟩
  · exact ⟨rfl, trivial⟩

theorem mem_taken {key : BudgetKey} : key ∈ admission.taken ↔
    admission.tookUser = true ∧ key = .user admission.userId ∨
      admission.tookProvider = true ∧ key = .provider admission.provider := by
  rw [taken, List.mem_append]
  cases admission.tookUser <;> cases admission.tookProvider <;> simp

theorem mem_adds {key other : BudgetKey} {fresh : Bool} (member : other ∈ (admission.adds key fresh).added) :
    other = key ∨ other ∈ admission.added := by
  rw [adds] at member
  split at member
  · exact List.mem_cons.mp member
  · exact Or.inr member

theorem adds_spec (key : BudgetKey) (fresh : Bool) :
    admission.adds key fresh = { admission with added := (admission.adds key fresh).added } := by
  rw [adds]
  split <;> rfl

theorem granted_spec (budget : Budget) (fresh : Bool)
    (added : ∀ key ∈ admission.added, key ∈ admission.taken) (removed : admission.removed = []) :
    ((admission.adds (admission.key budget) fresh).granted settings budget).process = admission.process ∧
      ((admission.adds (admission.key budget) fresh).granted settings budget).occupies = true ∧
      ((admission.adds (admission.key budget) fresh).granted settings budget).Tracked := by
  have more := @mem_adds admission (admission.key budget)
  rw [adds_spec]
  cases budget with
  | user =>
      refine ⟨rfl, @occupies_of_cases { admission with added := _, tookUser := true } _ afterUser_cases ?_ removed⟩
      intro key member
      rcases more member with rfl | old
      · exact mem_taken.mpr (Or.inl ⟨rfl, rfl⟩)
      · exact mem_taken.mpr ((mem_taken.mp (added key old)).imp_left fun user => ⟨rfl, user.2⟩)
  | provider =>
      refine ⟨rfl, @occupies_of_cases { admission with added := _, tookProvider := true } _ afterProvider_cases ?_
        removed⟩
      intro key member
      rcases more member with rfl | old
      · exact mem_taken.mpr (Or.inr ⟨rfl, rfl⟩)
      · exact mem_taken.mpr ((mem_taken.mp (added key old)).imp_right fun provider => ⟨rfl, provider.2⟩)
  | process => exact ⟨rfl, rfl, trivial⟩
  | rpm => exact ⟨rfl, rfl, trivial⟩

end GenerationAdmission

namespace AdmissionControl

variable {settings : AdmissionSettings} {control : AdmissionControl} {id : Nat} {former admission : GenerationAdmission}

structure Kept (settings : AdmissionSettings) (control : AdmissionControl) : Prop where
  counted : ∀ process, control.inflight process =
    control.admissions.count (·.isHeld process) + control.admissions.count (·.isUnderWay process)
  within : ∀ process, 0 < settings.maxConcurrentGenerationsPerProcess →
    control.inflight process ≤ settings.maxConcurrentGenerationsPerProcess
  bounded : ∀ key, 0 < settings.limit key → ((control.sets key).length : Int) ≤ settings.limit key
  tracked : control.admissions.All fun _ admission => admission.Tracked

theorem Kept.sound (kept : control.Kept settings) : control.Sound settings where
  counted := kept.counted
  within := kept.within
  bounded key now positive := by
    have shorter := @SortedSet.length_above_le (control.sets key) now
    have bound := kept.bounded key positive
    omega
  undone := kept.tracked.mono fun _ admission tracked => by
    rw [GenerationAdmission.Tracked] at tracked
    rw [Undone]
    split at tracked <;> simp_all [Undone]

def slots (control : AdmissionControl) (process : Nat) : Nat :=
  control.admissions.count (·.isHeld process) + control.admissions.count (·.isUnderWay process)

theorem slots_save (found : control.admissions.lookup id = some former) (process : Nat) :
    (control.save id admission).slots process +
        (if former.process = process ∧ former.occupies then 1 else 0) =
      control.slots process + if admission.process = process ∧ admission.occupies then 1 else 0 := by
  rw [slots, slots, save, Workers.count_insert, Workers.count_insert, Workers.count_of_lookup found,
    Workers.count_of_lookup found, ← GenerationAdmission.toNat_isHeld_add_isUnderWay,
    ← GenerationAdmission.toNat_isHeld_add_isUnderWay]
  omega

theorem slots_new (fresh : id ∉ control.admissions) (process : Nat) :
    (control.save id admission).slots process =
      control.slots process + if admission.process = process ∧ admission.occupies then 1 else 0 := by
  rw [slots, slots, save, Workers.count_insert, Workers.count_insert, Workers.erase_of_free fresh,
    ← GenerationAdmission.toNat_isHeld_add_isUnderWay]
  omega

theorem Kept.save (kept : control.Kept settings) (found : control.admissions.lookup id = some former)
    (process : admission.process = former.process) (occupies : admission.occupies = former.occupies)
    (tracked : admission.Tracked) : (control.save id admission).Kept settings where
  counted other := by
    have moved := @slots_save control id former admission found other
    rw [process, occupies] at moved
    exact (kept.counted other).trans (Nat.add_right_cancel moved).symm
  within := kept.within
  bounded := kept.bounded
  tracked := kept.tracked.insert tracked

theorem Kept.giveBack (kept : control.Kept settings) (found : control.admissions.lookup id = some former)
    (occupied : former.occupies = true) (left : admission.occupies = false) (tracked : admission.Tracked) :
    ((control.releaseSlot former.process).save id admission).Kept settings where
  counted other := by
    have moved := @slots_save control id former admission found other
    have counted : control.inflight other = control.slots other := kept.counted other
    have held : (if former.process = other ∧ former.occupies = true then 1 else 0) ≤ control.inflight other := by
      rw [counted]
      have bound : (if admission.process = other ∧ admission.occupies = true then 1 else 0) = 0 := by simp [left]
      rw [bound] at moved
      omega
    change Function.update control.inflight former.process (control.inflight former.process - 1) other =
      (control.save id admission).slots other
    by_cases same : other = former.process
    · subst same
      simp [occupied, left] at moved held
      rw [Function.update_self]
      omega
    · rw [Function.update_of_ne same]
      simp [Ne.symm same, left] at moved
      omega
  within other positive := by
    have bound := kept.within other positive
    change ((Function.update control.inflight former.process (control.inflight former.process - 1) other : Nat) : Int) ≤ _
    by_cases same : other = former.process
    · subst same
      rw [Function.update_self]
      omega
    · rwa [Function.update_of_ne same]
  bounded := kept.bounded
  tracked := kept.tracked.insert tracked

theorem Kept.setKey (kept : control.Kept settings) {key : BudgetKey} {set : SortedSet}
    (bounded : 0 < settings.limit key → (set.length : Int) ≤ settings.limit key) :
    (control.setKey key set).Kept settings where
  counted := kept.counted
  within := kept.within
  bounded other positive := by
    change ((Function.update control.sets key set other).length : Int) ≤ _
    by_cases same : other = key
    · subst same
      rw [Function.update_self]
      exact bounded positive
    · rw [Function.update_of_ne same]
      exact kept.bounded other positive
  tracked := kept.tracked

theorem Kept.enter (kept : control.Kept settings) (fresh : id ∉ control.admissions) (added : admission.added = [])
    (removed : admission.removed = []) : (control.enter settings id admission).Kept settings := by
  rw [AdmissionControl.enter, tryAcquire]
  split
  · rename_i refused
    split at refused
    · refine ⟨fun other => ?_, kept.within, kept.bounded, kept.tracked.insert ⟨added, removed⟩⟩
      have created := @slots_new control id { admission with phase := .ended (.rejected (reject .process)) } fresh other
      rw [if_neg fun both => Bool.false_ne_true both.2] at created
      exact (kept.counted other).trans created.symm
    · contradiction
  · rename_i control' accepted
    split at accepted
    · contradiction
    · rename_i room
      obtain rfl := Option.some.inj accepted
      obtain ⟨occupied, tracked⟩ := @GenerationAdmission.occupies_of_cases admission _
        GenerationAdmission.afterProcess_cases (by simp [added]) removed
      refine ⟨fun other => ?_, fun other positive => ?_, kept.bounded, kept.tracked.insert tracked⟩
      · have created := @slots_new control id { admission with phase := admission.afterProcess settings } fresh other
        change Function.update control.inflight admission.process (control.inflight admission.process + 1) other =
          (control.save id { admission with phase := admission.afterProcess settings }).slots other
        have counted : control.inflight other = control.slots other := kept.counted other
        by_cases same : other = admission.process
        · subst same
          rw [Function.update_self, created, counted, if_pos ⟨rfl, occupied⟩]
        · rw [Function.update_of_ne same, created, if_neg fun both => same both.1.symm]
          exact counted
      · change ((Function.update control.inflight admission.process (control.inflight admission.process + 1) other : Nat)
          : Int) ≤ _
        have bound := kept.within other positive
        by_cases same : other = admission.process
        · subst same
          rw [Function.update_self]
          omega
        · rwa [Function.update_of_ne same]

theorem Kept.request (kept : control.Kept settings) (admission : GenerationAdmission) (budget : Budget) (now : Int)
    (windowMember : String) : ∃ ok set fresh,
      control.request settings admission budget now windowMember =
        (ok, control.setKey (admission.key budget) set, admission.adds (admission.key budget) fresh) ∧
      (control.setKey (admission.key budget) set).Kept settings ∧ (ok = false → fresh = false) := by
  have bounded := kept.bounded (admission.key budget)
  cases budget with
  | rpm => exact ⟨_, _, _, rfl, kept.setKey fun positive => SortedSet.slidingWindow_le (bounded positive), fun no => no⟩
  | process | user | provider =>
      refine ⟨_, _, _, rfl, kept.setKey fun positive => SortedSet.acquireLease_le positive (bounded positive), ?_⟩
      intro refused
      rw [refused, Bool.false_and]

theorem Kept.startRelease (kept : control.Kept settings) (found : control.admissions.lookup id = some former)
    (occupied : former.occupies = true) {waits : List BudgetKey → AdmissionPhase} {done : AdmissionOutcome}
    (left : ∀ keys, { former with phase := waits keys }.occupies = false)
    (tracked : { former with phase := if former.taken = [] then .ended done else waits former.taken }.Tracked) :
    (control.startRelease id former waits done).Kept settings := by
  refine kept.giveBack found occupied ?_ tracked
  split
  · rfl
  · exact left _

theorem Kept.remove (kept : control.Kept settings) (admission : GenerationAdmission) (key : BudgetKey) (now : Int) :
    (control.remove admission key now).1.Kept settings := by
  refine kept.setKey fun positive => ?_
  have shorter := @SortedSet.length_zrem_le (control.sets key) admission.member
  have bound := kept.bounded key positive
  omega

def present (control : AdmissionControl) (admission : GenerationAdmission) (key : BudgetKey) (now : Int) : Bool :=
  ((control.sets key).above now).has admission.member

def OwnOnly (control : AdmissionControl) (admission : GenerationAdmission) (key : BudgetKey) (now : Int) : Prop :=
  control.present admission key now = true → key ∈ admission.added

instance (key : BudgetKey) (now : Int) : Decidable (control.OwnOnly admission key now) :=
  inferInstanceAs (Decidable (_ → _))

def SafeAnswer (control : AdmissionControl) (admission : GenerationAdmission) (now : Int) : Prop :=
  match admission.phase with
  | .unwinding _ (key :: _) => control.OwnOnly admission key now
  | _ => True

instance (now : Int) : Decidable (control.SafeAnswer admission now) := by
  unfold SafeAnswer
  generalize admission.phase = phase
  exact match phase with
    | .unwinding _ (key :: _) => inferInstanceAs (Decidable (control.OwnOnly admission key now))
    | .unwinding _ [] | .taking _ | .held | .releasing _ | .ended _ => .isTrue trivial

def SafeRaise (control : AdmissionControl) (admission : GenerationAdmission) (error : Raised) (effect : Bool)
    (now : Int) : Prop :=
  match admission.phase with
  | .taking _ => error = .redisError
  | .unwinding _ (key :: _) =>
      (effect = true → control.OwnOnly admission key now) ∧ ∀ other ∈ admission.added, effect = true ∧ other = key
  | .releasing _ => error ≠ .cancelled
  | _ => True

instance (error : Raised) (effect : Bool) (now : Int) : Decidable (control.SafeRaise admission error effect now) := by
  unfold SafeRaise
  generalize admission.phase = phase
  exact match phase with
    | .taking _ => inferInstanceAs (Decidable (error = .redisError))
    | .unwinding _ (key :: _) => inferInstanceAs (Decidable ((_ → control.OwnOnly admission key now) ∧ _))
    | .releasing _ => inferInstanceAs (Decidable (error ≠ .cancelled))
    | .unwinding _ [] | .held | .ended _ => .isTrue trivial

/-- While a slot is being taken nothing but a `RedisError` is raised; no release is cancelled; and a rejected call
removes what it has added and nothing else. -/
def Careful (control : AdmissionControl) : AdmissionEvent → Prop
  | .answer id now _ => ∀ admission ∈ control.admissions.lookup id, control.SafeAnswer admission now
  | .raise id error effect now _ =>
      ∀ admission ∈ control.admissions.lookup id, control.SafeRaise admission error effect now
  | _ => True

instance (event : AdmissionEvent) : Decidable (control.Careful event) := by
  unfold Careful
  split <;> infer_instance

theorem removes_spec {key : BudgetKey} {now : Int} (own : control.OwnOnly former key now) :
    former.removes key (control.present former key now) =
      { former with added := former.added.filter (· ≠ key), removed := former.removed } := by
  have nothing : ¬(control.present former key now = true ∧ key ∉ former.added) := fun both => both.2 (own both.1)
  rw [GenerationAdmission.removes, if_neg nothing]

theorem unwound {key : BudgetKey} {rest : List BudgetKey} {reason : Budget} (removed : former.removed = [])
    (added : ∀ other ∈ former.added, other ∈ key :: rest) :
    { former with
      added := former.added.filter (· ≠ key)
      phase := if rest = [] then .ended (.rejected (reject reason)) else .unwinding reason rest }.Tracked := by
  have left : ∀ other ∈ former.added.filter (· ≠ key), other ∈ rest := by
    intro other member
    obtain ⟨old, apart⟩ := List.mem_filter.mp member
    exact (List.mem_cons.mp (added other old)).resolve_left (of_decide_eq_true apart)
  cases rest with
  | nil => exact ⟨List.eq_nil_iff_forall_not_mem.mpr fun other member => List.not_mem_nil (left other member), removed⟩
  | cons next rest => exact ⟨left, removed⟩

theorem Kept.answered (kept : control.Kept settings) (found : control.admissions.lookup id = some former) (now : Int)
    (windowMember : String) (safe : control.SafeAnswer former now) :
    (control.answered settings id former now windowMember).Kept settings := by
  have tracked := kept.tracked.at found
  rw [AdmissionControl.answered]
  split
  · rename_i budget taking
    have occupied : former.occupies = true := by rw [GenerationAdmission.occupies, taking]
    rw [GenerationAdmission.Tracked, taking] at tracked
    obtain ⟨added, removed⟩ := tracked
    obtain ⟨ok, set, fresh, same, asked, refused⟩ := kept.request former budget now windowMember
    rw [same]
    dsimp only
    split
    · obtain ⟨process, still, goesOn⟩ := @GenerationAdmission.granted_spec settings former budget fresh added removed
      exact asked.save found process (still.trans occupied.symm) goesOn
    · rename_i no
      obtain rfl := refused (by simpa using no)
      refine asked.startRelease found occupied (fun _ => rfl) ?_
      split
      · rename_i none
        exact ⟨List.eq_nil_iff_forall_not_mem.mpr fun key member => by simpa [none] using added key member, removed⟩
      · exact ⟨added, removed⟩
  · rename_i reason key rest unwinding
    have gone : former.occupies = false := by rw [GenerationAdmission.occupies, unwinding]
    rw [SafeAnswer, unwinding] at safe
    rw [GenerationAdmission.Tracked, unwinding] at tracked
    obtain ⟨added, removed⟩ := tracked
    have recorded : (control.remove former key now).2 = _ := removes_spec safe
    rw [removeNext, recorded]
    refine (kept.remove former key now).save found rfl ?_ (unwound removed added)
    rw [gone]
    dsimp only
    split <;> rfl
  · rename_i key rest releasing
    have gone : former.occupies = false := by rw [GenerationAdmission.occupies, releasing]
    refine (kept.remove former key now).save found rfl ?_ ?_
    · rw [gone]
      dsimp only
      split <;> rfl
    · dsimp only
      split <;> trivial
  · exact kept

theorem Kept.raised (kept : control.Kept settings) (found : control.admissions.lookup id = some former)
    (error : Raised) (effect : Bool) (now : Int) (windowMember : String)
    (safe : control.SafeRaise former error effect now) :
    (control.raised settings id former error effect now windowMember).Kept settings := by
  have tracked := kept.tracked.at found
  rw [AdmissionControl.raised]
  split
  · rename_i budget taking
    have occupied : former.occupies = true := by rw [GenerationAdmission.occupies, taking]
    rw [SafeRaise, taking] at safe
    obtain rfl := safe
    obtain ⟨ok, set, fresh, same, asked, _⟩ := kept.request former budget now windowMember
    cases effect with
    | false => exact kept.save found rfl occupied.symm trivial
    | true =>
        rw [same]
        refine asked.save found ?_ occupied.symm trivial
        rw [GenerationAdmission.adds_spec]
        rfl
  · rename_i reason key rest unwinding
    have gone : former.occupies = false := by rw [GenerationAdmission.occupies, unwinding]
    rw [SafeRaise, unwinding] at safe
    rw [GenerationAdmission.Tracked, unwinding] at tracked
    obtain ⟨own, last⟩ := safe
    have ended : ∀ admission : GenerationAdmission, admission.added = [] → admission.removed = [] →
        { admission with phase := .ended (if error = Raised.cancelled then .failed else .rejected (reject reason)) }.Tracked := by
      intro admission none nothing
      split <;> exact ⟨none, nothing⟩
    cases effect with
    | false =>
        have none : former.added = [] :=
          List.eq_nil_iff_forall_not_mem.mpr fun other member => Bool.false_ne_true (last other member).1
        exact kept.save found rfl gone.symm (ended former none tracked.2)
    | true =>
        have recorded : (control.remove former key now).2 = _ := removes_spec (own rfl)
        have none : former.added.filter (· ≠ key) = [] :=
          List.filter_eq_nil_iff.mpr fun other member => by simp [(last other member).2]
        rw [removeFailed, if_pos rfl, recorded]
        exact (kept.remove former key now).save found rfl gone.symm (ended { former with added := _ } none tracked.2)
  · rename_i key rest releasing
    have gone : former.occupies = false := by rw [GenerationAdmission.occupies, releasing]
    rw [SafeRaise, releasing] at safe
    rw [if_neg safe, removeFailed]
    cases effect with
    | false => exact kept.save found rfl gone.symm trivial
    | true => exact (kept.remove former key now).save found rfl gone.symm trivial
  · exact kept

theorem Kept.step (kept : control.Kept settings) {event : AdmissionEvent} (careful : control.Careful event) :
    (control.step settings event).Kept settings := by
  cases event with
  | admitGeneration id process userId provider member countProviderRpm =>
      rw [AdmissionControl.step]
      split
      · exact kept
      · rename_i fresh
        exact kept.enter (fun known => fresh (Or.inl known)) rfl rfl
  | resumeGeneration id process handoff userId provider =>
      cases handoff with
      | none => exact kept
      | some handoff =>
          rw [AdmissionControl.step]
          split
          · exact kept
          · rename_i fresh
            exact kept.enter (fun known => fresh (Or.inl known)) rfl rfl
  | answer id now windowMember =>
      rw [AdmissionControl.step]
      cases found : control.admissions.lookup id with
      | none => exact kept
      | some admission => exact kept.answered found now windowMember (careful admission found)
  | raise id error effect now windowMember =>
      rw [AdmissionControl.step]
      cases found : control.admissions.lookup id with
      | none => exact kept
      | some admission => exact kept.raised found error effect now windowMember (careful admission found)
  | release id =>
      rw [AdmissionControl.step]
      cases found : control.admissions.lookup id with
      | none => exact kept
      | some admission =>
          dsimp only
          split
          · rename_i held
            have occupied : admission.occupies = true := by rw [GenerationAdmission.occupies, held]
            refine kept.startRelease found occupied (fun _ => rfl) ?_
            split <;> trivial
          · exact kept
  | completeHandoff id =>
      rw [AdmissionControl.step]
      cases found : control.admissions.lookup id with
      | none => exact kept
      | some admission =>
          dsimp only
          split
          · rename_i held
            have occupied : admission.occupies = true := by rw [GenerationAdmission.occupies, held]
            exact kept.giveBack found occupied rfl trivial
          · exact kept
  | drop key => exact kept.setKey fun positive => by simpa using Int.le_of_lt positive

theorem kept_empty : Kept settings {} where
  counted := by simp [Workers.count]
  within process positive := by simpa using Int.le_of_lt positive
  bounded key positive := by simpa using Int.le_of_lt positive
  tracked := Workers.all_empty

def sampleSettings : AdmissionSettings where
  maxConcurrentGenerationsPerProcess := 2
  maxConcurrentGenerationsPerUser := 1
  providerMaxInflightGenerations := 1
  providerMaxGenerationsPerMinute := 5
  generationAdmissionLeaseTtlSeconds := 60
  stageGenerationDeadlineSeconds := 60

def admitted (id : Nat) (userId provider member : String) : List AdmissionEvent :=
  [.admitGeneration id 0 userId provider member true, .answer id 0 "1", .answer id 0 "1", .answer id 0 "1"]

def abandoned : List AdmissionEvent := [.admitGeneration 0 0 "u" "p" "m" true, .raise 0 .cancelled false 0 ""]

def stranded : List AdmissionEvent :=
  admitted 0 "u" "p" "m" ++
    [.admitGeneration 1 0 "v" "p" "n" true, .answer 1 0 "", .answer 1 0 "", .raise 1 .redisError false 0 ""]

def dispossessed : List AdmissionEvent :=
  admitted 0 "u" "p" "m" ++ [.completeHandoff 0, .drop (.user "u")] ++ admitted 1 "u" "q" "n" ++
    [.completeHandoff 1, .resumeGeneration 2 1 (some ⟨"m", "u", "p", true, true⟩) "u" "p", .answer 2 1 "", .answer 2 1 "",
      .answer 2 1 ""]

def halfReleased : List AdmissionEvent := admitted 0 "u" "p" "m" ++ [.release 0, .raise 0 .cancelled false 0 ""]

end AdmissionControl

end Thought2Build.Pipeline
