import Mathlib.Data.List.Nodup

/-!
A sweep over stuck items. Those of a queue are settled and committed one by one, then batches are
each committed as a whole; the first failure ends the sweep. What is left is what fails and what
comes behind it.
-/

namespace Sweeps

variable {σ ι : Type} (settle : ι → σ → Option σ)

/-- Settles items up to the first that fails, and says whether none did. -/
def each : List ι → σ → σ × Bool
  | [], state => (state, true)
  | item :: rest, state =>
      match settle item state with
      | none => (state, false)
      | some next => each rest next

def settleAll : List ι → σ → Option σ
  | [], state => some state
  | item :: rest, state => (settle item state).bind (settleAll rest)

structure Selection (σ ι : Type) where
  kind : ι → Prop
  items : σ → List ι

def batch : List (Selection σ ι) → σ → Option σ
  | [], state => some state
  | selection :: rest, state => (settleAll settle (selection.items state) state).bind (batch rest)

def batches : List (List (Selection σ ι)) → σ → σ
  | [], state => state
  | selections :: rest, state =>
      match batch settle selections state with
      | none => state
      | some next => batches rest next

def sweep (queue : σ → List ι) (plan : List (List (Selection σ ι))) (state : σ) : σ :=
  match each settle (queue state) state with
  | (next, true) => batches settle plan next
  | (next, false) => next

variable {settle}

/-! A sweep is a run of whole settlements -/

theorem settleAll_append {front back : List ι} {state : σ} :
    settleAll settle (front ++ back) state = (settleAll settle front state).bind (settleAll settle back) := by
  induction front generalizing state with
  | nil => rfl
  | cons item rest ih =>
      cases done : settle item state with
      | none => simp [settleAll, done]
      | some next => simp [settleAll, done, ih]

theorem each_split (settle : ι → σ → Option σ) (items : List ι) (state : σ) : ∃ front back, items = front ++ back ∧
    settleAll settle front state = some (each settle items state).1 ∧
    ((each settle items state).2 = true ∧ back = [] ∨
      (each settle items state).2 = false ∧ ∃ failed rest, back = failed :: rest ∧
        settle failed (each settle items state).1 = none) := by
  induction items generalizing state with
  | nil => exact ⟨[], [], rfl, rfl, Or.inl ⟨rfl, rfl⟩⟩
  | cons item rest ih =>
      cases done : settle item state with
      | none =>
          refine ⟨[], item :: rest, rfl, by simp [each, settleAll, done], Or.inr ?_⟩
          exact ⟨by simp [each, done], item, rest, rfl, by simp [each, done]⟩
      | some next =>
          obtain ⟨front, back, split, settled, ended⟩ := ih next
          refine ⟨item :: front, back, by rw [split]; rfl, ?_, ?_⟩
          · simpa [each, settleAll, done] using settled
          · simpa [each, done] using ended

theorem batch_whole {selections : List (Selection σ ι)} {state next : σ}
    (done : batch settle selections state = some next) :
    ∃ settled, settleAll settle settled state = some next := by
  induction selections generalizing state with
  | nil => exact ⟨[], done⟩
  | cons selection rest ih =>
      obtain ⟨between, first, later⟩ := Option.bind_eq_some_iff.mp done
      obtain ⟨settled, reached⟩ := ih later
      refine ⟨selection.items state ++ settled, ?_⟩
      rw [settleAll_append, first]
      exact reached

theorem batches_whole (settle : ι → σ → Option σ) (plan : List (List (Selection σ ι))) (state : σ) :
    ∃ settled, settleAll settle settled state = some (batches settle plan state) := by
  induction plan generalizing state with
  | nil => exact ⟨[], rfl⟩
  | cons selections rest ih =>
      cases done : batch settle selections state with
      | none => exact ⟨[], by simp [batches, settleAll, done]⟩
      | some next =>
          obtain ⟨front, first⟩ := batch_whole done
          obtain ⟨back, later⟩ := ih next
          refine ⟨front ++ back, ?_⟩
          rw [settleAll_append, first]
          simpa [batches, done] using later

theorem sweep_whole (settle : ι → σ → Option σ) (queue : σ → List ι) (plan : List (List (Selection σ ι))) (state : σ) :
    ∃ settled, settleAll settle settled state = some (sweep settle queue plan state) := by
  obtain ⟨front, _, _, first, _⟩ := each_split settle (queue state) state
  cases done : each settle (queue state) state with
  | mk next finished =>
      rw [done] at first
      cases finished with
      | false => exact ⟨front, by simpa [sweep, done] using first⟩
      | true =>
          obtain ⟨back, later⟩ := batches_whole settle plan next
          refine ⟨front ++ back, ?_⟩
          rw [settleAll_append, first]
          simpa [sweep, done] using later

/-! What a sweep leaves -/

/-- From a sound state, settling a stuck item that may be settled now takes it, and no other, from
what is stuck, unless the item is one of those that fail. -/
structure Separable (settle : ι → σ → Option σ) (Sound : σ → Prop) (May : ι → Prop)
    (Stuck : σ → ι → Prop) (Fails : ι → Prop) : Prop where
  raises : ∀ {state item}, Sound state → May item → Stuck state item →
    (settle item state = none ↔ Fails item)
  sound : ∀ {state item next}, Sound state → May item → Stuck state item →
    settle item state = some next → Sound next
  takes : ∀ {state item next}, Sound state → May item → Stuck state item →
    settle item state = some next → ∀ other, Stuck next other ↔ Stuck state other ∧ other ≠ item

def Behind (Fails : ι → Prop) : List ι → ι → Prop
  | [], _ => False
  | first :: rest, item => (Fails first ∧ item ∈ rest) ∨ Behind Fails rest item

theorem behind_iff {Fails : ι → Prop} {items : List ι} {item : ι} : Behind Fails items item ↔
    ∃ failed front back, Fails failed ∧ items = front ++ failed :: back ∧ item ∈ back := by
  constructor
  · intro behind
    induction items with
    | nil => exact behind.elim
    | cons first rest ih =>
        rcases behind with ⟨fails, member⟩ | later
        · exact ⟨first, [], rest, fails, rfl, member⟩
        · obtain ⟨failed, front, back, fails, rfl, member⟩ := ih later
          exact ⟨failed, first :: front, back, fails, rfl, member⟩
  · rintro ⟨failed, front, back, fails, rfl, member⟩
    induction front with
    | nil => exact Or.inl ⟨fails, member⟩
    | cons first rest ih => exact Or.inr ih

theorem Behind.mem {Fails : ι → Prop} {items : List ι} {item : ι} (behind : Behind Fails items item) :
    item ∈ items := by
  obtain ⟨failed, front, back, _, rfl, member⟩ := behind_iff.mp behind
  simp [member]

theorem Behind.failing {Fails : ι → Prop} {items : List ι} {item : ι} (behind : Behind Fails items item) :
    ∃ failed ∈ items, Fails failed := by
  obtain ⟨failed, front, back, fails, rfl, _⟩ := behind_iff.mp behind
  exact ⟨failed, by simp, fails⟩

theorem behind_append {Fails : ι → Prop} {front back : List ι} {item : ι}
    (works : ∀ item ∈ front, ¬Fails item) : Behind Fails (front ++ back) item ↔ Behind Fails back item := by
  induction front with
  | nil => rfl
  | cons first rest ih =>
      have later := ih fun item member => works item (List.mem_cons_of_mem _ member)
      simp [Behind, works first (List.mem_cons_self ..), later]

variable {Sound : σ → Prop} {May : ι → Prop} {Stuck : σ → ι → Prop} {Fails : ι → Prop}

namespace Separable

variable (separable : Separable settle Sound May Stuck Fails) {state next : σ} {items : List ι}
include separable

theorem rest_stuck {item : ι} {rest : List ι} (may : May item) (stuck : ∀ other ∈ item :: rest, Stuck state other)
    (once : (item :: rest).Nodup) (sound : Sound state) (done : settle item state = some next) :
    ∀ other ∈ rest, Stuck next other := by
  intro other member
  have left := separable.takes sound may (stuck item (List.mem_cons_self ..)) done
  refine (left other).mpr ⟨stuck other (List.mem_cons_of_mem _ member), ?_⟩
  rintro rfl
  exact (List.nodup_cons.mp once).1 member

theorem settleAll_none (may : ∀ item ∈ items, May item) (stuck : ∀ item ∈ items, Stuck state item)
    (once : items.Nodup) (sound : Sound state) (none : settleAll settle items state = none) :
    ∃ item ∈ items, Fails item := by
  induction items generalizing state with
  | nil => simp [settleAll] at none
  | cons item rest ih =>
      have first := stuck item (List.mem_cons_self ..)
      have allowed := may item (List.mem_cons_self ..)
      cases done : settle item state with
      | none => exact ⟨item, List.mem_cons_self .., (separable.raises sound allowed first).mp done⟩
      | some next =>
          obtain ⟨failed, member, fails⟩ := ih
            (fun other member => may other (List.mem_cons_of_mem _ member))
            (separable.rest_stuck allowed stuck once sound done) (List.nodup_cons.mp once).2
            (separable.sound sound allowed first done) (by simpa [settleAll, done] using none)
          exact ⟨failed, List.mem_cons_of_mem _ member, fails⟩

theorem settleAll_some (may : ∀ item ∈ items, May item) (stuck : ∀ item ∈ items, Stuck state item)
    (once : items.Nodup) (sound : Sound state) (settled : settleAll settle items state = some next) :
    Sound next ∧ (∀ item ∈ items, ¬Fails item) ∧
      ∀ other, Stuck next other ↔ Stuck state other ∧ other ∉ items := by
  induction items generalizing state with
  | nil =>
      obtain rfl : state = next := by simpa [settleAll] using settled
      exact ⟨sound, by simp, by simp⟩
  | cons item rest ih =>
      have first := stuck item (List.mem_cons_self ..)
      have allowed := may item (List.mem_cons_self ..)
      obtain ⟨between, done, later⟩ := Option.bind_eq_some_iff.mp settled
      have left := separable.takes sound allowed first done
      obtain ⟨after, works, taken⟩ := ih
        (fun other member => may other (List.mem_cons_of_mem _ member))
        (separable.rest_stuck allowed stuck once sound done) (List.nodup_cons.mp once).2
        (separable.sound sound allowed first done) later
      refine ⟨after, ?_, ?_⟩
      · rintro other (_ | ⟨_, member⟩)
        · intro fails
          simp [(separable.raises sound allowed first).mpr fails] at done
        · exact works other member
      · intro other
        rw [taken, left]
        simp [and_assoc]

theorem each_left (may : ∀ item ∈ items, May item) (stuck : ∀ item ∈ items, Stuck state item)
    (once : items.Nodup) (sound : Sound state) :
    Sound (each settle items state).1 ∧
      ((each settle items state).2 = true ↔ ∀ item ∈ items, ¬Fails item) ∧
      ∀ other, Stuck (each settle items state).1 other ↔
        Stuck state other ∧ (other ∈ items → Fails other ∨ Behind Fails items other) := by
  obtain ⟨front, back, rfl, settled, ended⟩ := each_split settle items state
  obtain ⟨onceFront, onceBack, apart⟩ := List.nodup_append.mp once
  obtain ⟨after, works, left⟩ := separable.settleAll_some
    (fun item member => may item (List.mem_append_left back member))
    (fun item member => stuck item (List.mem_append_left back member)) onceFront sound settled
  have front_left : ∀ item ∈ front, item ∉ back := fun item first later => apart item first item later rfl
  rcases ended with ⟨finished, rfl⟩ | ⟨stopped, failed, rest, rfl, raised⟩
  · simp only [List.append_nil] at *
    refine ⟨after, by simpa [finished] using works, fun other => ?_⟩
    have none : ¬Behind Fails front other := by
      intro behind
      obtain ⟨failed, member, fails⟩ := behind.failing
      exact works failed member fails
    rw [left]
    grind
  · have member : failed ∈ front ++ failed :: rest := by simp
    have fails : Fails failed := by
      have still := (left failed).mpr ⟨stuck failed member, fun first => front_left failed first (by simp)⟩
      exact (separable.raises after (may failed member) still).mp raised
    refine ⟨after, ?_, fun other => ?_⟩
    · simp only [stopped, Bool.false_eq_true, false_iff, not_forall]
      exact ⟨failed, member, not_not.mpr fails⟩
    · have behind : Behind Fails (failed :: rest) other ↔ other ∈ rest := by
        refine ⟨?_, fun later => Or.inl ⟨fails, later⟩⟩
        rintro (⟨_, later⟩ | later)
        · exact later
        · exact later.mem
      rw [left, behind_append works, behind]
      grind

end Separable

/-! Batches -/

def Selection.Exact (selection : Selection σ ι) (Sound : σ → Prop) (Stuck : σ → ι → Prop) : Prop :=
  ∀ state, Sound state → (selection.items state).Nodup ∧
    ∀ item, item ∈ selection.items state ↔ Stuck state item ∧ selection.kind item

def Handles (selections : List (Selection σ ι)) (item : ι) : Prop :=
  ∃ selection ∈ selections, selection.kind item

/-- An item that fails is handled with this one or before it, or no batch handles this one. -/
def Held (Stuck : σ → ι → Prop) (Fails : ι → Prop) : List (List (Selection σ ι)) → σ → ι → Prop
  | [], _, _ => True
  | selections :: rest, state, item =>
      (∃ failed, Stuck state failed ∧ Fails failed ∧ Handles selections failed) ∨
        ¬Handles selections item ∧ Held Stuck Fails rest state item

theorem Held.congr {plan : List (List (Selection σ ι))} {state next : σ} {item : ι}
    (same : ∀ failed, Fails failed → (Stuck next failed ↔ Stuck state failed)) :
    Held Stuck Fails plan next item ↔ Held Stuck Fails plan state item := by
  induction plan with
  | nil => rfl
  | cons selections rest ih =>
      have first : (∃ failed, Stuck next failed ∧ Fails failed ∧ Handles selections failed) ↔
          ∃ failed, Stuck state failed ∧ Fails failed ∧ Handles selections failed := by
        constructor
        · rintro ⟨failed, stuck, fails, handled⟩
          exact ⟨failed, (same failed fails).mp stuck, fails, handled⟩
        · rintro ⟨failed, stuck, fails, handled⟩
          exact ⟨failed, (same failed fails).mpr stuck, fails, handled⟩
      simp only [Held, first, ih]

namespace Separable

variable (separable : Separable settle Sound May Stuck Fails) {state next : σ}
  {selections : List (Selection σ ι)}
include separable

theorem batch_none (may : ∀ item, Handles selections item → May item)
    (exact : ∀ selection ∈ selections, selection.Exact Sound Stuck) (sound : Sound state)
    (aborted : batch settle selections state = none) :
    ∃ failed, Stuck state failed ∧ Fails failed ∧ Handles selections failed := by
  induction selections generalizing state with
  | nil => simp [batch] at aborted
  | cons selection rest ih =>
      obtain ⟨once, found⟩ := exact selection (List.mem_cons_self ..) state sound
      have allowed : ∀ item ∈ selection.items state, May item := fun item member =>
        may item ⟨selection, List.mem_cons_self .., ((found item).mp member).2⟩
      have stuck : ∀ item ∈ selection.items state, Stuck state item := fun item member =>
        ((found item).mp member).1
      cases done : settleAll settle (selection.items state) state with
      | none =>
          obtain ⟨failed, member, fails⟩ := separable.settleAll_none allowed stuck once sound done
          obtain ⟨held, kind⟩ := (found failed).mp member
          exact ⟨failed, held, fails, selection, List.mem_cons_self .., kind⟩
      | some between =>
          obtain ⟨after, -, left⟩ := separable.settleAll_some allowed stuck once sound done
          obtain ⟨failed, held, fails, other, member, kind⟩ := ih
            (fun item ⟨other, member, kind⟩ => may item ⟨other, List.mem_cons_of_mem _ member, kind⟩)
            (fun other member => exact other (List.mem_cons_of_mem _ member)) after
            (by simpa [batch, done] using aborted)
          exact ⟨failed, ((left failed).mp held).1, fails, other, List.mem_cons_of_mem _ member, kind⟩

theorem batch_some (may : ∀ item, Handles selections item → May item)
    (exact : ∀ selection ∈ selections, selection.Exact Sound Stuck) (sound : Sound state)
    (done : batch settle selections state = some next) :
    Sound next ∧ (∀ failed, Stuck state failed → Fails failed → ¬Handles selections failed) ∧
      ∀ other, Stuck next other ↔ Stuck state other ∧ ¬Handles selections other := by
  induction selections generalizing state with
  | nil =>
      obtain rfl : state = next := by simpa [batch] using done
      exact ⟨sound, by simp [Handles], by simp [Handles]⟩
  | cons selection rest ih =>
      obtain ⟨once, found⟩ := exact selection (List.mem_cons_self ..) state sound
      obtain ⟨between, first, later⟩ := Option.bind_eq_some_iff.mp done
      obtain ⟨after, works, left⟩ := separable.settleAll_some
        (fun item member => may item ⟨selection, List.mem_cons_self .., ((found item).mp member).2⟩)
        (fun item member => ((found item).mp member).1) once sound first
      obtain ⟨final, workLater, leftLater⟩ := ih
        (fun item ⟨other, member, kind⟩ => may item ⟨other, List.mem_cons_of_mem _ member, kind⟩)
        (fun other member => exact other (List.mem_cons_of_mem _ member)) after later
      have split : ∀ item, Handles (selection :: rest) item ↔ selection.kind item ∨ Handles rest item := by
        simp [Handles]
      refine ⟨final, ?_, ?_⟩
      · intro failed stuck fails handled
        have mine : ¬selection.kind failed := fun kind =>
          works failed ((found failed).mpr ⟨stuck, kind⟩) fails
        have still : Stuck between failed :=
          (left failed).mpr ⟨stuck, fun member => mine ((found failed).mp member).2⟩
        exact workLater failed still fails (((split failed).mp handled).resolve_left mine)
      · intro other
        rw [leftLater, left, found, split]
        tauto

theorem batches_left {plan : List (List (Selection σ ι))}
    (may : ∀ selections ∈ plan, ∀ item, Handles selections item → May item)
    (exact : ∀ selections ∈ plan, ∀ selection ∈ selections, selection.Exact Sound Stuck)
    (sound : Sound state) (other : ι) :
    Stuck (batches settle plan state) other ↔ Stuck state other ∧ Held Stuck Fails plan state other := by
  induction plan generalizing state with
  | nil => simp [batches, Held]
  | cons selections rest ih =>
      have allowed := may selections (List.mem_cons_self ..)
      have queries := exact selections (List.mem_cons_self ..)
      cases done : batch settle selections state with
      | none =>
          have failing := separable.batch_none allowed queries sound done
          simp only [batches, done, Held, failing, true_or, and_true]
      | some next =>
          obtain ⟨after, works, left⟩ := separable.batch_some allowed queries sound done
          have later := ih (fun selections member => may selections (List.mem_cons_of_mem _ member))
            (fun selections member => exact selections (List.mem_cons_of_mem _ member)) after
          have same : Held Stuck Fails rest next other ↔ Held Stuck Fails rest state other := by
            apply Held.congr
            intro failed fails
            rw [left]
            exact ⟨And.left, fun stuck => ⟨stuck, works failed stuck fails⟩⟩
          have none : ¬∃ failed, Stuck state failed ∧ Fails failed ∧ Handles selections failed := by
            rintro ⟨failed, stuck, fails, handled⟩
            exact works failed stuck fails handled
          simp only [batches, done, Held, later, left, same, none, false_or, and_assoc]

end Separable

/-- The laws of a sweep: its queries find what is stuck, and settlements are separate, in the batches
once nothing of the queue is stuck. -/
structure Lawful (settle : ι → σ → Option σ) (queue : σ → List ι) (plan : List (List (Selection σ ι)))
    (Queued : ι → Prop) (Sound : σ → Prop) (Stuck : σ → ι → Prop) (Fails : ι → Prop) : Prop where
  once : ∀ state, Sound state → (queue state).Nodup
  found : ∀ state, Sound state → ∀ item, item ∈ queue state ↔ Stuck state item ∧ Queued item
  first : Separable settle Sound Queued Stuck Fails
  second : Separable settle (fun state => Sound state ∧ ∀ item, Queued item → ¬Stuck state item)
    (fun item => ¬Queued item) Stuck Fails
  apart : ∀ selections ∈ plan, ∀ item, Handles selections item → ¬Queued item
  exact : ∀ selections ∈ plan, ∀ selection ∈ selections, selection.Exact
    (fun state => Sound state ∧ ∀ item, Queued item → ¬Stuck state item) Stuck

variable {queue : σ → List ι} {plan : List (List (Selection σ ι))} {Queued : ι → Prop} {state : σ}

theorem Lawful.sweep_left (lawful : Lawful settle queue plan Queued Sound Stuck Fails)
    (sound : Sound state) (other : ι) :
    Stuck (sweep settle queue plan state) other ↔ Stuck state other ∧
      (Queued other → Fails other ∨ Behind Fails (queue state) other) ∧
      (¬Queued other → (∃ failed, Stuck state failed ∧ Queued failed ∧ Fails failed) ∨
        Held Stuck Fails plan state other) := by
  have found := lawful.found state sound
  obtain ⟨after, finished, left⟩ := lawful.first.each_left (fun item member => ((found item).mp member).2)
    (fun item member => ((found item).mp member).1) (lawful.once state sound) sound
  have failing : (∃ failed, Stuck state failed ∧ Queued failed ∧ Fails failed) ↔
      ¬∀ item ∈ queue state, ¬Fails item := by
    simp only [found, not_forall, not_not, exists_prop, and_assoc]
  cases done : each settle (queue state) state with
  | mk next all =>
      simp only [done, found] at after finished left
      cases all with
      | false =>
          have stopped : ∃ failed, Stuck state failed ∧ Queued failed ∧ Fails failed := by
            simpa [found] using finished
          simp only [sweep, done, left, stopped, true_or, implies_true, and_true, and_imp]
          exact and_congr_right fun stuck => forall_prop_of_true stuck
      | true =>
          have works := finished.mp rfl
          have free : ∀ item, Queued item → Stuck state item →
              ¬(Fails item ∨ Behind Fails (queue state) item) := by
            rintro item queued stuck (fails | behind)
            · exact works item ⟨stuck, queued⟩ fails
            · obtain ⟨failed, member, fails⟩ := behind.failing
              exact works failed ((found failed).mp member) fails
          have calm : ∀ item, Queued item → ¬Stuck next item := by
            intro item queued stuck
            obtain ⟨was, held⟩ := (left item).mp stuck
            exact free item queued was (held ⟨was, queued⟩)
          have same : Held Stuck Fails plan next other ↔ Held Stuck Fails plan state other := by
            apply Held.congr
            intro failed fails
            rw [left]
            exact ⟨And.left, fun stuck => ⟨stuck, fun _ => Or.inl fails⟩⟩
          have none : ¬∃ failed, Stuck state failed ∧ Queued failed ∧ Fails failed := by
            rintro ⟨failed, stuck, queued, fails⟩
            exact works failed ⟨stuck, queued⟩ fails
          have batches := lawful.second.batches_left lawful.apart lawful.exact ⟨after, calm⟩ other
          simp only [sweep, done, batches, left, same, none, false_or]
          constructor
          · rintro ⟨⟨stuck, held⟩, batched⟩
            exact ⟨stuck, fun queued => held ⟨stuck, queued⟩, fun _ => batched⟩
          · rintro ⟨stuck, first, later⟩
            have unqueued : ¬Queued other := fun queued => free other queued stuck (first queued)
            exact ⟨⟨stuck, fun held => first held.2⟩, later unqueued⟩

end Sweeps
