import Thought2Build.Library.Dictionaries
import Thought2Build.Library.Histories
import Thought2Build.Library.Workers

/-!
The admission of stage generations. A call takes a slot of its process and then leases in sorted sets of Redis; each
request to Redis is an await, at which other calls run, and which may raise or be cancelled.
-/

namespace Thought2Build.Pipeline

open Dictionaries

structure AdmissionSettings where
  maxConcurrentGenerationsPerProcess : Int
  maxConcurrentGenerationsPerUser : Int
  providerMaxInflightGenerations : Int
  providerMaxGenerationsPerMinute : Int
  generationAdmissionLeaseTtlSeconds : Int
  stageGenerationDeadlineSeconds : Int

/-! Redis -/

inductive BudgetKey where
  | user (userId : String)
  | provider (provider : String)
  | rpm (provider : String)
  deriving DecidableEq

abbrev SortedSet := List (String × Int)

namespace SortedSet

def above (set : SortedSet) (score : Int) : SortedSet := set.filter fun entry => score < entry.2

def has (set : SortedSet) (member : String) : Bool := (set.map (·.1)).contains member

def zrem (set : SortedSet) (member : String) : SortedSet := set.filter fun entry => entry.1 ≠ member

def acquireLease (set : SortedSet) (now limit : Int) (member : String) (deadline : Int) : Bool × SortedSet :=
  let live := set.above now
  if live.has member then (true, put member deadline live)
  else if 0 < limit ∧ limit ≤ live.length then (false, live)
  else (true, put member deadline live)

def slidingWindow (set : SortedSet) (now windowStart limit : Int) (member : String) : Bool × SortedSet :=
  let live := set.above windowStart
  if limit ≤ live.length then (false, live) else (true, put member now live)

end SortedSet

/-! Admissions -/

inductive Budget where
  | process
  | user
  | provider
  | rpm
  deriving DecidableEq

def Budget.retryAfter : Budget → Nat
  | .process => 5
  | .user | .provider => 10
  | .rpm => 60

structure GenerationCapacityError where
  reason : Budget
  retryAfter : Nat
  deriving DecidableEq

def reject (reason : Budget) : GenerationCapacityError := { reason, retryAfter := reason.retryAfter }

inductive AdmissionOutcome where
  | released
  | handedOff
  | rejected (error : GenerationCapacityError)
  | failed
  | releaseFailed
  deriving DecidableEq

inductive AdmissionPhase where
  /-- `admit_generation` or `resume_generation_admission` waits for the answer on a budget. -/
  | taking (budget : Budget)
  | held
  | unwinding (reason : Budget) (keys : List BudgetKey)
  /-- The caller releases; `_released` is set. -/
  | releasing (keys : List BudgetKey)
  | ended (outcome : AdmissionOutcome)
  deriving DecidableEq

/-- A `GenerationAdmission` with the call that makes it. What the call has added to the sets, and what it has removed
without having added it, are kept for the record: no step reads them. -/
structure GenerationAdmission where
  process : Nat
  userId : String
  provider : String
  member : String
  resumes : Bool
  countProviderRpm : Bool
  tookUser : Bool
  tookProvider : Bool
  phase : AdmissionPhase
  added : List BudgetKey := []
  removed : List BudgetKey := []

structure Handoff where
  member : String
  userId : String
  provider : String
  tookUser : Bool
  tookProvider : Bool

namespace GenerationAdmission

variable (settings : AdmissionSettings) (admission : GenerationAdmission)

def key : Budget → BudgetKey
  | .provider => .provider admission.provider
  | .rpm => .rpm admission.provider
  | _ => .user admission.userId

def taken : List BudgetKey :=
  (if admission.tookUser then [.user admission.userId] else []) ++
    if admission.tookProvider then [.provider admission.provider] else []

def afterProvider : AdmissionPhase :=
  if admission.resumes = false ∧ admission.countProviderRpm ∧ 0 < settings.providerMaxGenerationsPerMinute then
    .taking .rpm
  else .held

def afterUser : AdmissionPhase :=
  if (admission.resumes → admission.tookProvider) ∧ 0 < settings.providerMaxInflightGenerations then .taking .provider
  else admission.afterProvider settings

def afterProcess : AdmissionPhase :=
  if (admission.resumes → admission.tookUser) ∧ 0 < settings.maxConcurrentGenerationsPerUser then .taking .user
  else admission.afterUser settings

def granted : Budget → GenerationAdmission
  | .user => { admission with tookUser := true, phase := admission.afterUser settings }
  | .provider => { admission with tookProvider := true, phase := admission.afterProvider settings }
  | _ => { admission with phase := .held }

def adds (key : BudgetKey) (fresh : Bool) : GenerationAdmission :=
  if fresh then { admission with added := key :: admission.added } else admission

def removes (key : BudgetKey) (present : Bool) : GenerationAdmission :=
  { admission with
    added := admission.added.filter (· ≠ key)
    removed := if present ∧ key ∉ admission.added then key :: admission.removed else admission.removed }

def isUnderWay (process : Nat) : Bool :=
  admission.process = process && match admission.phase with
    | .taking _ => true
    | _ => false

def isHeld (process : Nat) : Bool := admission.process = process && admission.phase = .held

end GenerationAdmission

namespace AdmissionSettings

variable (settings : AdmissionSettings)

def limit : BudgetKey → Int
  | .user _ => settings.maxConcurrentGenerationsPerUser
  | .provider _ => settings.providerMaxInflightGenerations
  | .rpm _ => settings.providerMaxGenerationsPerMinute

def ttlSeconds : Int :=
  max 1 (max settings.generationAdmissionLeaseTtlSeconds (settings.stageGenerationDeadlineSeconds + 120))

end AdmissionSettings

/-! The system -/

inductive Raised where
  | redisError
  | other
  | cancelled
  deriving DecidableEq

structure AdmissionControl where
  inflight : Nat → Nat := fun _ => 0
  sets : BudgetKey → SortedSet := fun _ => []
  admissions : Workers GenerationAdmission := ∅

inductive AdmissionEvent where
  /-- `admit_generation`; `uuid4` gives the member. -/
  | admitGeneration (id process : Nat) (userId provider member : String) (countProviderRpm : Bool)
  /-- `resume_generation_admission`, or a dictionary that is no handoff -/
  | resumeGeneration (id process : Nat) (handoff : Option Handoff) (userId provider : String)
  /-- The request to Redis is answered; `time_ns` gives the member of the window. -/
  | answer (id : Nat) (now : Int) (windowMember : String)
  | raise (id : Nat) (error : Raised) (effect : Bool) (now : Int) (windowMember : String)
  | release (id : Nat)
  | completeHandoff (id : Nat)
  | drop (key : BudgetKey)

namespace AdmissionControl

variable (settings : AdmissionSettings) (control : AdmissionControl)

def tryAcquire (process : Nat) : Option AdmissionControl :=
  if 0 < settings.maxConcurrentGenerationsPerProcess ∧
      settings.maxConcurrentGenerationsPerProcess ≤ control.inflight process then none
  else some { control with inflight := Function.update control.inflight process (control.inflight process + 1) }

def releaseSlot (process : Nat) : AdmissionControl :=
  { control with inflight := Function.update control.inflight process (control.inflight process - 1) }

def save (id : Nat) (admission : GenerationAdmission) : AdmissionControl :=
  { control with admissions := control.admissions.insert id admission }

def setKey (key : BudgetKey) (set : SortedSet) : AdmissionControl :=
  { control with sets := Function.update control.sets key set }

def enter (id : Nat) (admission : GenerationAdmission) : AdmissionControl :=
  match control.tryAcquire settings admission.process with
  | none => control.save id { admission with phase := .ended (.rejected (reject .process)) }
  | some taken => taken.save id { admission with phase := admission.afterProcess settings }

def request (admission : GenerationAdmission) (budget : Budget) (now : Int) (windowMember : String) :
    Bool × AdmissionControl × GenerationAdmission :=
  let key := admission.key budget
  let set := control.sets key
  match budget with
  | .rpm =>
      let answer := set.slidingWindow now (now - 60000) (settings.limit key) windowMember
      (answer.1, control.setKey key answer.2, admission.adds key answer.1)
  | _ =>
      let answer := set.acquireLease now (settings.limit key) admission.member (now + settings.ttlSeconds * 1000)
      (answer.1, control.setKey key answer.2, admission.adds key (answer.1 && !(set.above now).has admission.member))

def startRelease (id : Nat) (admission : GenerationAdmission) (waits : List BudgetKey → AdmissionPhase)
    (done : AdmissionOutcome) : AdmissionControl :=
  (control.releaseSlot admission.process).save id
    { admission with phase := if admission.taken = [] then .ended done else waits admission.taken }

def remove (admission : GenerationAdmission) (key : BudgetKey) (now : Int) : AdmissionControl × GenerationAdmission :=
  (control.setKey key ((control.sets key).zrem admission.member),
    admission.removes key (((control.sets key).above now).has admission.member))

def removeNext (id : Nat) (admission : GenerationAdmission) (key : BudgetKey) (rest : List BudgetKey) (now : Int)
    (waits : List BudgetKey → AdmissionPhase) (done : AdmissionOutcome) : AdmissionControl :=
  let removed := control.remove admission key now
  removed.1.save id { removed.2 with phase := if rest = [] then .ended done else waits rest }

/-- The await of `release` raises, before or after the key has gone. -/
def removeFailed (id : Nat) (admission : GenerationAdmission) (key : BudgetKey) (effect : Bool) (now : Int)
    (outcome : AdmissionOutcome) : AdmissionControl :=
  let removed := if effect then control.remove admission key now else (control, admission)
  removed.1.save id { removed.2 with phase := .ended outcome }

def answered (id : Nat) (admission : GenerationAdmission) (now : Int) (windowMember : String) : AdmissionControl :=
  match admission.phase with
  | .taking budget =>
      let (ok, asked, admission) := control.request settings admission budget now windowMember
      if ok then asked.save id (admission.granted settings budget)
      else asked.startRelease id admission (.unwinding budget) (.rejected (reject budget))
  | .unwinding reason (key :: rest) =>
      control.removeNext id admission key rest now (.unwinding reason) (.rejected (reject reason))
  | .releasing (key :: rest) => control.removeNext id admission key rest now .releasing .released
  | _ => control

def raised (id : Nat) (admission : GenerationAdmission) (error : Raised) (effect : Bool) (now : Int)
    (windowMember : String) : AdmissionControl :=
  match admission.phase with
  | .taking budget =>
      let asked := if effect then (control.request settings admission budget now windowMember).2 else (control, admission)
      -- only `RedisError` is caught: the generation is admitted without the budget
      asked.1.save id { asked.2 with phase := if error = .redisError then .held else .ended .failed }
  | .unwinding reason (key :: _) =>
      control.removeFailed id admission key effect now (if error = .cancelled then .failed else .rejected (reject reason))
  | .releasing (key :: _) =>
      control.removeFailed id admission key effect now (if error = .cancelled then .releaseFailed else .released)
  | _ => control

def knows (member : String) : Bool :=
  control.admissions.entries.any fun entry => entry.2.member = member

def step (event : AdmissionEvent) : AdmissionControl :=
  match event with
  | .admitGeneration id process userId provider member countProviderRpm =>
      if id ∈ control.admissions ∨ control.knows member then control
      else control.enter settings id {
        process, userId, provider, member, resumes := false, countProviderRpm, tookUser := false,
        tookProvider := false, phase := .held }
  | .resumeGeneration id process handoff userId provider =>
      match handoff with
      | none => control
      | some handoff =>
          if id ∈ control.admissions ∨ handoff.userId ≠ userId ∨ handoff.provider ≠ provider then control
          else control.enter settings id {
            process, userId, provider, member := handoff.member, resumes := true, countProviderRpm := false
            tookUser := handoff.tookUser, tookProvider := handoff.tookProvider, phase := .held }
  | .answer id now windowMember =>
      match control.admissions.lookup id with
      | none => control
      | some admission => control.answered settings id admission now windowMember
  | .raise id error effect now windowMember =>
      match control.admissions.lookup id with
      | none => control
      | some admission => control.raised settings id admission error effect now windowMember
  | .release id =>
      match control.admissions.lookup id with
      | none => control
      | some admission =>
          if admission.phase = .held then control.startRelease id admission .releasing .released else control
  | .completeHandoff id =>
      match control.admissions.lookup id with
      | none => control
      | some admission =>
          if admission.phase = .held then
            (control.releaseSlot admission.process).save id { admission with phase := .ended .handedOff }
          else control
  | .drop key => control.setKey key []

/-! What should hold -/

def Undone (admission : GenerationAdmission) : Prop :=
  match admission.phase with
  | .ended (.rejected _) | .ended .failed => admission.added = [] ∧ admission.removed = []
  -- a release that fails has given its slot back before
  | .ended .releaseFailed => False
  | _ => True

instance (admission : GenerationAdmission) : Decidable (Undone admission) := by
  unfold Undone
  split <;> infer_instance

/-- The slots are those of the admissions that are held and of the calls under way, within the limit; no set has more
unexpired members than its limit; and a call that does not succeed leaves nothing behind. -/
structure Sound (settings : AdmissionSettings) (control : AdmissionControl) : Prop where
  counted : ∀ process, control.inflight process =
    control.admissions.count (·.isHeld process) + control.admissions.count (·.isUnderWay process)
  within : ∀ process, 0 < settings.maxConcurrentGenerationsPerProcess →
    control.inflight process ≤ settings.maxConcurrentGenerationsPerProcess
  bounded : ∀ key now, 0 < settings.limit key → ((control.sets key).above now).length ≤ settings.limit key
  undone : control.admissions.All fun _ admission => Undone admission

end AdmissionControl

end Thought2Build.Pipeline
