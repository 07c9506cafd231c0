import Thought2Build.Library.Histories
import Thought2Build.Pipeline.StoryboardsCore

/-!
The charges of storyboards. Reservations, versions and single refunds hold in every run; the status of a row agrees
with its refund exactly as long as no run finishes a row that the sweep has failed, or fails one that it has
finished.
-/

namespace Thought2Build.Pipeline

open Histories

section

attribute [local simp] StoryboardStore.step StoryboardStore.finaliseReady StoryboardStore.forceFail
  StoryboardStore.reserve StoryboardStore.failAndRefund StoryboardStore.raise

end

theorem cost_pos (action : StoryboardAction) : 0 < action.cost := by
  cases action <;> decide

variable {ledger : List StoryboardEntry} {entry user : Nat} {original : StoryboardEntry}

theorem refundEntry_prefix (ledger : List StoryboardEntry) (entry user : Nat) :
    ledger <+: refundEntry ledger entry user := by
  unfold refundEntry
  split
  · exact List.prefix_refl _
  · split
    · exact List.prefix_refl _
    · exact List.prefix_append _ _

theorem countP_refundEntry_other {kept : StoryboardEntry → Bool}
    (other : ∀ amount, kept { user, amount, reason := .refund entry } = false) :
    (refundEntry ledger entry user).countP kept = ledger.countP kept := by
  unfold refundEntry
  split
  · rfl
  · split
    · rfl
    · simp [other]

theorem countP_refundEntry (found : ledger[entry]? = some original) (deduction : original.amount < 0)
    (own : original.user = user)
    (refunders : ∀ other ∈ ledger, other.reason = .refund entry → other.user = original.user)
    (once : ledger.countP (·.reason = .refund entry) ≤ 1) :
    (refundEntry ledger entry user).countP (·.reason = .refund entry) = 1 := by
  unfold refundEntry
  rw [found]
  simp only [Int.not_le.mpr deduction, own, ne_eq, not_true_eq_false, false_or]
  split
  · rename_i refunded
    obtain ⟨other, member, both⟩ := List.any_eq_true.mp refunded
    simp only [decide_eq_true_eq] at both
    have some_ : 0 < ledger.countP (·.reason = .refund entry) :=
      List.countP_pos_iff.mpr ⟨other, member, by simpa using both.2⟩
    omega
  · rename_i fresh
    have none_ : ledger.countP (·.reason = .refund entry) = 0 := by
      refine List.countP_eq_zero.mpr ?_
      intro other member refund
      refine fresh (List.any_eq_true.mpr ⟨other, member, ?_⟩)
      have reason : other.reason = .refund entry := by simpa using refund
      simpa [reason] using (refunders other member reason).trans own
    simp [none_]

namespace StoryboardStore

def charges (storyboard : Nat) (entry : StoryboardEntry) : Bool :=
  match entry.reason with
  | .charge _ charged => charged = storyboard
  | .refund _ => false

def refunds (store : StoryboardStore) (row : StoryboardRow) : Nat :=
  store.ledger.countP (·.reason = .refund row.creditLedgerId)

structure Agrees (store : StoryboardStore) : Prop where
  single : ∀ (first second : Nat) (row other : StoryboardRow), store.rows[first]? = some row →
    store.rows[second]? = some other → row.status = .generating → other.status = .generating →
      row.workspace = other.workspace → row.user = other.user → first = second
  versions : ∀ (first second : Nat) (row other : StoryboardRow), store.rows[first]? = some row →
    store.rows[second]? = some other → row.workspace = other.workspace → row.version = other.version →
      first = second
  charged : ∀ (place : Nat) (row : StoryboardRow), store.rows[place]? = some row →
    store.ledger.countP (charges place) = 1 ∧ store.ledger[row.creditLedgerId]?.any (charges place) = true
  refunded : ∀ (place : Nat) (row : StoryboardRow), store.rows[place]? = some row → store.refunds row ≤ 1
  failed : ∀ (place : Nat) (row : StoryboardRow), store.rows[place]? = some row →
    (row.status = .failed ↔ store.refunds row = 1)

def StatusChange (before after : StoryboardStatus) : Prop :=
  after = before ∨ (before = .generating ∧ (after = .ready ∨ after = .failed)) ∨
    (before = .ready ∧ after = .stale)

structure Moves (before after : StoryboardStore) : Prop where
  kept : ∀ (place : Nat) (row : StoryboardRow), before.rows[place]? = some row → ∃ later,
    after.rows[place]? = some later ∧ later = { row with status := later.status, updatedAt := later.updatedAt } ∧
      StatusChange row.status later.status
  new : ∀ (place : Nat) (row : StoryboardRow), before.rows[place]? = none → after.rows[place]? = some row →
    row.status = .generating

/-- The run finishes a row that is still generating; an error fails no row that has been finished. -/
def Careful (store : StoryboardStore) : StoryboardEvent → Prop
  | .finaliseReady storyboard => store.runs[storyboard]? = some .generating →
      store.rows[storyboard]?.all (·.status = .generating) = true
  | .forceFail storyboard lost => lost = false ∧ store.runs[storyboard]? = some .raised →
      store.rows[storyboard]?.all (fun row => row.status = .generating ∨ row.status = .failed) = true
  | _ => True

instance (store : StoryboardStore) (event : StoryboardEvent) : Decidable (store.Careful event) := by
  unfold Careful
  split <;> infer_instance

structure Sound (store : StoryboardStore) : Prop where
  sizes : store.runs.length = store.rows.length
  single : ∀ (first second : Nat) (row other : StoryboardRow), store.rows[first]? = some row →
    store.rows[second]? = some other → row.status = .generating → other.status = .generating →
      row.workspace = other.workspace → row.user = other.user → first = second
  versions : ∀ (first second : Nat) (row other : StoryboardRow), store.rows[first]? = some row →
    store.rows[second]? = some other → row.workspace = other.workspace → row.version = other.version →
      first = second
  charged : ∀ (place : Nat) (row : StoryboardRow), store.rows[place]? = some row → ∃ entry action,
    store.ledger[row.creditLedgerId]? = some entry ∧ entry.amount < 0 ∧ entry.user = row.user ∧
      entry.reason = .charge action place
  once : ∀ place < store.rows.length, store.ledger.countP (charges place) = 1
  ahead : ∀ entry ∈ store.ledger, ∀ place, charges place entry = true → place < store.rows.length
  refunders : ∀ entry ∈ store.ledger, ∀ number, entry.reason = .refund number →
    ∃ original, store.ledger[number]? = some original ∧ entry.user = original.user
  refunded : ∀ (place : Nat) (row : StoryboardRow), store.rows[place]? = some row → store.refunds row ≤ 1
  phases : ∀ (place : Nat) (row : StoryboardRow), store.rows[place]? = some row →
    store.runs[place]? = some .generating → row.status = .generating ∨ row.status = .failed

variable {store : StoryboardStore}

theorem Sound.withRows (sound : store.Sound) {rows : List StoryboardRow} {runs : List StoryboardRun}
    (length : rows.length = store.rows.length) (sizes : runs.length = store.runs.length)
    (former : ∀ (place : Nat) (row : StoryboardRow), rows[place]? = some row → ∃ before,
      store.rows[place]? = some before ∧
        row = { before with status := row.status, updatedAt := row.updatedAt } ∧
        (row.status = .generating → before.status = .generating) ∧
        (runs[place]? = some .generating → row.status = .generating ∨ row.status = .failed)) :
    Sound { store with rows, runs } where
  sizes := by rw [sizes, length]; exact sound.sizes
  single first second row other held also generating second_ workspace user := by
    obtain ⟨before, earlier, same, status, _⟩ := former first row held
    obtain ⟨rival, present, equal, state, _⟩ := former second other also
    rw [same, equal] at workspace user
    exact sound.single first second before rival earlier present (status generating) (state second_) workspace user
  versions first second row other held also workspace version := by
    obtain ⟨before, earlier, same, _⟩ := former first row held
    obtain ⟨rival, present, equal, _⟩ := former second other also
    rw [same, equal] at workspace version
    exact sound.versions first second before rival earlier present workspace version
  charged place row held := by
    obtain ⟨before, earlier, same, _⟩ := former place row held
    rw [same]
    exact sound.charged place before earlier
  once place inside := sound.once place (length ▸ inside)
  ahead entry member place charged := by
    rw [length]
    exact sound.ahead entry member place charged
  refunders := sound.refunders
  refunded place row held := by
    obtain ⟨before, earlier, same, _⟩ := former place row held
    rw [same]
    exact sound.refunded place before earlier
  phases place row held := (former place row held).choose_spec.2.2.2

theorem charges_refund (storyboard entry user : Nat) (amount : Int) :
    charges storyboard { user, amount, reason := .refund entry } = false := rfl

theorem Sound.refunds_self (sound : store.Sound) {place : Nat} {row : StoryboardRow}
    (held : store.rows[place]? = some row) :
    (refundEntry store.ledger row.creditLedgerId row.user).countP (·.reason = .refund row.creditLedgerId) = 1 := by
  obtain ⟨original, action, found, deduction, own, _⟩ := sound.charged place row held
  refine countP_refundEntry found deduction own ?_ (sound.refunded place row held)
  intro other member refund
  obtain ⟨charge, charged, same⟩ := sound.refunders other member _ refund
  rw [Option.some.inj (found.symm.trans charged)]
  exact same

theorem refunds_other {row : StoryboardRow} {entry user : Nat} (other : row.creditLedgerId ≠ entry) :
    (refundEntry store.ledger entry user).countP (·.reason = .refund row.creditLedgerId) = store.refunds row :=
  countP_refundEntry_other (by simp [Ne.symm other])

theorem Sound.place_of_ledger (sound : store.Sound) {first second : Nat} {row other : StoryboardRow}
    (held : store.rows[first]? = some row) (also : store.rows[second]? = some other)
    (same : row.creditLedgerId = other.creditLedgerId) : first = second := by
  obtain ⟨entry, action, found, _, _, reason⟩ := sound.charged first row held
  obtain ⟨rival, acted, present, _, _, given⟩ := sound.charged second other also
  rw [same, present] at found
  rw [Option.some.inj found, reason] at given
  simp only [StoryboardReason.charge.injEq] at given
  exact given.2

theorem Sound.withRefund (sound : store.Sound) {place : Nat} {row : StoryboardRow}
    (held : store.rows[place]? = some row) :
    Sound { store with ledger := refundEntry store.ledger row.creditLedgerId row.user } := by
  have kept := refundEntry_prefix store.ledger row.creditLedgerId row.user
  have found : ∀ {number : Nat} {entry : StoryboardEntry}, store.ledger[number]? = some entry →
      (refundEntry store.ledger row.creditLedgerId row.user)[number]? = some entry := by
    intro number entry known
    obtain ⟨inside, rfl⟩ := List.getElem?_eq_some_iff.mp known
    exact List.prefix_iff_getElem?.mp kept number inside
  obtain ⟨original, charge, known, deduction, own, reason⟩ := sound.charged place row held
  exact { sound with
    charged := by
      intro place row held
      obtain ⟨entry, action, known, rest⟩ := sound.charged place row held
      exact ⟨entry, action, found known, rest⟩
    once := by
      intro place inside
      rw [countP_refundEntry_other fun _ => rfl]
      exact sound.once place inside
    ahead := by
      intro entry member place charged
      unfold refundEntry at member
      rw [known] at member
      simp only at member
      split at member
      · exact sound.ahead entry member place charged
      · rcases List.mem_append.mp member with old | new
        · exact sound.ahead entry old place charged
        · rw [List.mem_singleton.mp new, charges_refund] at charged
          contradiction
    refunders := by
      intro entry member number refund
      unfold refundEntry at member
      rw [known] at member
      simp only at member
      split at member
      · obtain ⟨charge, charged, same⟩ := sound.refunders entry member number refund
        exact ⟨charge, found charged, same⟩
      · rcases List.mem_append.mp member with old | new
        · obtain ⟨charge, charged, same⟩ := sound.refunders entry old number refund
          exact ⟨charge, found charged, same⟩
        · rw [List.mem_singleton.mp new] at refund ⊢
          simp only [StoryboardReason.refund.injEq] at refund
          exact ⟨original, found (refund ▸ known), own.symm⟩
    refunded := by
      intro second other also
      by_cases same : other.creditLedgerId = row.creditLedgerId
      · unfold refunds
        rw [same]
        exact Nat.le_of_eq (sound.refunds_self held)
      · unfold refunds
        rw [refunds_other same]
        exact sound.refunded second other also }

theorem failRow_rows (store : StoryboardStore) (storyboard : Nat) :
    (store.failRow storyboard).rows =
      store.rows.modify storyboard fun row => { row with status := .failed, updatedAt := store.clock } := by
  unfold failRow
  split
  · rename_i absent
    rw [List.modify_eq_self (by simpa using absent)]
  · rfl

theorem modify_cases {rows : List StoryboardRow} {target place : Nat} {change : StoryboardRow → StoryboardRow}
    {row : StoryboardRow} (found : (rows.modify target change)[place]? = some row) :
    ∃ before, rows[place]? = some before ∧ ((place = target ∧ row = change before) ∨
      (place ≠ target ∧ row = before)) := by
  rw [List.getElem?_modify] at found
  obtain ⟨before, held, equal⟩ := Option.map_eq_some_iff.mp found
  refine ⟨before, held, ?_⟩
  by_cases own : target = place
  · rw [if_pos own] at equal
    exact Or.inl ⟨own.symm, equal.symm⟩
  · rw [if_neg own] at equal
    exact Or.inr ⟨Ne.symm own, equal.symm⟩

theorem Sound.failRow (sound : store.Sound) (storyboard : Nat) : (store.failRow storyboard).Sound := by
  unfold StoryboardStore.failRow
  split
  · exact sound
  · rename_i row held
    refine (sound.withRefund held).withRows (List.length_modify ..) rfl ?_
    intro place later found
    obtain ⟨before, earlier, ⟨_, rfl⟩ | ⟨_, rfl⟩⟩ := modify_cases found
    · exact ⟨before, earlier, rfl, nofun, fun _ => Or.inr rfl⟩
    · exact ⟨later, earlier, rfl, id, sound.phases place later earlier⟩

theorem Sound.setRun (sound : store.Sound) (storyboard : Nat) {run : StoryboardRun} (ends : run ≠ .generating) :
    (store.setRun storyboard run).Sound := by
  refine sound.withRows rfl (List.length_modify ..) ?_
  intro place row held
  refine ⟨row, held, rfl, id, ?_⟩
  intro generating
  rw [List.getElem?_modify] at generating
  split at generating
  · obtain ⟨_, _, own⟩ := Option.map_eq_some_iff.mp generating
    exact absurd own ends
  · exact sound.phases place row held (by simpa using generating)

theorem version_lt_nextVersion {row : StoryboardRow} (member : row ∈ store.rows) :
    row.version < store.nextVersion row.workspace := by
  have grows : ∀ (versions : List Nat) (start : Nat), start ≤ versions.foldl max start ∧
      ∀ version ∈ versions, version ≤ versions.foldl max start := by
    intro versions
    induction versions with
    | nil => simp
    | cons first rest ih =>
        intro start
        obtain ⟨reach, every⟩ := ih (max start first)
        refine ⟨by rw [List.foldl_cons]; omega, ?_⟩
        intro version held
        rcases List.mem_cons.mp held with rfl | later
        · rw [List.foldl_cons]
          omega
        · exact every version later
  have own : row.version ∈ (store.rows.filter (·.workspace = row.workspace)).map (·.version) :=
    List.mem_map_of_mem (List.mem_filter.mpr ⟨member, by simp⟩)
  have bound := (grows _ 0).2 row.version own
  unfold nextVersion
  omega

theorem getElem?_concat_cases {α : Type} {rows : List α} {last row : α} {place : Nat}
    (found : (rows ++ [last])[place]? = some row) :
    rows[place]? = some row ∨ (place = rows.length ∧ row = last) := by
  rcases Nat.lt_or_ge place rows.length with inside | beyond
  · rw [List.getElem?_append_left inside] at found
    exact Or.inl found
  · rw [List.getElem?_append_right beyond] at found
    have zero : place - rows.length = 0 := by
      have bound := (List.getElem?_eq_some_iff.mp found).1
      simp only [List.length_singleton] at bound
      omega
    rw [zero] at found
    exact Or.inr ⟨by omega, (Option.some.inj found).symm⟩

theorem inside_of_some {row : StoryboardRow} {place : Nat} (held : store.rows[place]? = some row) :
    place < store.rows.length := (List.getElem?_eq_some_iff.mp held).1

theorem Sound.unrefunded (sound : store.Sound) :
    store.ledger.countP (·.reason = .refund store.ledger.length) = 0 := by
  refine List.countP_eq_zero.mpr ?_
  intro entry member refund
  obtain ⟨original, found, _⟩ := sound.refunders entry member _ (by simpa using refund)
  simp at found

theorem Sound.reserve (sound : store.Sound) (workspace user : Nat) (action : StoryboardAction) (affordable : Bool) :
    (store.reserve workspace user action affordable).Sound := by
  unfold StoryboardStore.reserve
  split
  · exact sound
  · rename_i refused
    simp only [not_or] at refused
    have idle : ∀ row ∈ store.rows, row.workspace = workspace → row.user = user → row.status ≠ .generating := by
      intro row member same own generating
      exact refused.2.1 (List.any_eq_true.mpr ⟨row, member, by simp [same, own, generating]⟩)
    have found : ∀ {number : Nat} {entry last : StoryboardEntry}, store.ledger[number]? = some entry →
        (store.ledger ++ [last])[number]? = some entry := by
      intro number entry last known
      rw [List.getElem?_append_left (List.getElem?_eq_some_iff.mp known).1]
      exact known
    constructor
    · simp [sound.sizes]
    · intro first second row other held also generating second_ same own
      rcases getElem?_concat_cases held with old | ⟨rfl, rfl⟩ <;>
        rcases getElem?_concat_cases also with before | ⟨rfl, rfl⟩
      · exact sound.single first second row other old before generating second_ same own
      · exact absurd generating (idle row (List.mem_of_getElem? old) same own)
      · exact absurd second_ (idle other (List.mem_of_getElem? before) same.symm own.symm)
      · rfl
    · intro first second row other held also same version
      rcases getElem?_concat_cases held with old | ⟨rfl, rfl⟩ <;>
        rcases getElem?_concat_cases also with before | ⟨rfl, rfl⟩
      · exact sound.versions first second row other old before same version
      · have newer := version_lt_nextVersion (List.mem_of_getElem? old)
        rw [same, version] at newer
        exact absurd newer (Nat.lt_irrefl _)
      · have newer := version_lt_nextVersion (List.mem_of_getElem? before)
        rw [← same, ← version] at newer
        exact absurd newer (Nat.lt_irrefl _)
      · rfl
    · intro place row held
      rcases getElem?_concat_cases held with old | ⟨rfl, rfl⟩
      · obtain ⟨entry, action, known, rest⟩ := sound.charged place row old
        exact ⟨entry, action, found known, rest⟩
      · exact ⟨_, action, List.getElem?_concat_length, Int.neg_neg_of_pos (cost_pos action), rfl, rfl⟩
    · intro place inside
      rw [List.length_append, List.length_singleton] at inside
      rw [List.countP_append]
      by_cases own : place = store.rows.length
      · have none_ : store.ledger.countP (charges place) = 0 := by
          refine List.countP_eq_zero.mpr ?_
          intro entry member charged
          exact absurd (sound.ahead entry member place charged) (by omega)
        rw [none_]
        simp [charges, own]
      · rw [sound.once place (by omega)]
        simp [charges, Ne.symm own]
    · intro entry member place charged
      rw [List.length_append, List.length_singleton]
      rcases List.mem_append.mp member with old | new
      · exact Nat.lt_succ_of_lt (sound.ahead entry old place charged)
      · rw [List.mem_singleton.mp new] at charged
        simp only [charges, decide_eq_true_eq] at charged
        omega
    · intro entry member number refund
      rcases List.mem_append.mp member with old | new
      · obtain ⟨original, known, same⟩ := sound.refunders entry old number refund
        exact ⟨original, found known, same⟩
      · rw [List.mem_singleton.mp new] at refund
        contradiction
    · intro place row held
      unfold refunds
      rw [List.countP_append]
      rcases getElem?_concat_cases held with old | ⟨rfl, rfl⟩
      · have kept := sound.refunded place row old
        unfold refunds at kept
        simpa using kept
      · simp [sound.unrefunded]
    · intro place row held generating
      rcases getElem?_concat_cases held with old | ⟨rfl, rfl⟩
      · refine sound.phases place row old ?_
        have inside := inside_of_some old
        rwa [List.getElem?_append_left (by rw [sound.sizes]; exact inside)] at generating
      · exact Or.inl rfl

theorem Sound.finaliseReady (sound : store.Sound) (storyboard : Nat) : (store.finaliseReady storyboard).Sound := by
  unfold StoryboardStore.finaliseReady
  split
  · refine sound.withRows (List.length_modify ..) (List.length_modify ..) ?_
    intro place later found
    obtain ⟨before, earlier, ⟨rfl, rfl⟩ | ⟨other, rfl⟩⟩ := modify_cases found
    · refine ⟨before, earlier, rfl, nofun, ?_⟩
      intro generating
      rw [List.getElem?_modify_eq] at generating
      obtain ⟨_, _, own⟩ := Option.map_eq_some_iff.mp generating
      contradiction
    · refine ⟨later, earlier, rfl, id, ?_⟩
      intro generating
      rw [List.getElem?_modify_ne _ _ (Ne.symm other)] at generating
      exact sound.phases place later earlier generating
  · exact sound

theorem Sound.markStale (sound : store.Sound) (workspace : Nat) : (store.markStale workspace).Sound := by
  refine sound.withRows (List.length_map ..) rfl ?_
  intro place later found
  rw [List.getElem?_map] at found
  obtain ⟨before, earlier, equal⟩ := Option.map_eq_some_iff.mp found
  refine ⟨before, earlier, ?_⟩
  split at equal
  · rename_i ready
    subst equal
    refine ⟨rfl, nofun, ?_⟩
    intro generating
    have phase := sound.phases place before earlier generating
    rw [ready.2] at phase
    simp at phase
  · subst equal
    exact ⟨rfl, id, sound.phases place before earlier⟩

theorem Sound.recover (sound : store.Sound) : store.recover.Sound := by
  unfold StoryboardStore.recover
  generalize store.stuck = stuck
  induction stuck generalizing store with
  | nil => exact sound
  | cons first rest ih => exact ih (sound.failRow first)

theorem Sound.step (sound : store.Sound) (event : StoryboardEvent) : (store.step event).Sound := by
  cases event with
  | tick seconds => exact { sound with }
  | generate workspace user affordable => exact sound.reserve ..
  | regenerate base user affordable =>
      simp only [StoryboardStore.step]
      split
      · exact sound
      · split
        · exact sound.reserve ..
        · exact sound
  | regenerateSection base user affordable =>
      simp only [StoryboardStore.step]
      split
      · exact sound
      · split
        · exact sound.reserve ..
        · exact sound
  | finaliseReady storyboard => exact sound.finaliseReady storyboard
  | failAndRefund storyboard =>
      simp only [StoryboardStore.step, StoryboardStore.failAndRefund]
      split
      · exact (sound.failRow storyboard).setRun storyboard (by decide)
      · exact sound
  | raise storyboard =>
      simp only [StoryboardStore.step, StoryboardStore.raise]
      split
      · exact sound.setRun storyboard (by decide)
      · exact sound
  | forceFail storyboard lost =>
      simp only [StoryboardStore.step, StoryboardStore.forceFail]
      split
      · cases lost with
        | true => exact sound.setRun storyboard (by decide)
        | false => exact (sound.failRow storyboard).setRun storyboard (by decide)
      · exact sound
  | crash storyboard => exact sound.setRun storyboard (by decide)
  | markStale workspace => exact sound.markStale workspace
  | recover => exact sound.recover

theorem sound_initial (owners : List Nat) : Sound { owners } := by
  constructor <;> simp

def Settled (store : StoryboardStore) : Prop :=
  ∀ (place : Nat) (row : StoryboardRow), store.rows[place]? = some row →
    (row.status = .failed ↔ store.refunds row = 1)

theorem Sound.agrees (sound : store.Sound) (settled : store.Settled) : store.Agrees where
  single := sound.single
  versions := sound.versions
  charged place row held := by
    obtain ⟨entry, action, found, _, _, reason⟩ := sound.charged place row held
    exact ⟨sound.once place (inside_of_some held), by simp [found, charges, reason]⟩
  refunded := sound.refunded
  failed := settled

theorem Settled.failRow (settled : store.Settled) (sound : store.Sound) (storyboard : Nat) :
    (store.failRow storyboard).Settled := by
  unfold StoryboardStore.failRow
  split
  · exact settled
  · rename_i row held
    intro place later found
    obtain ⟨before, earlier, ⟨rfl, rfl⟩ | ⟨other, rfl⟩⟩ := modify_cases found
    · have refunded := sound.refunds_self held
      rw [Option.some.inj (earlier.symm.trans held)]
      exact iff_of_true rfl refunded
    · have differs : later.creditLedgerId ≠ row.creditLedgerId :=
        fun same => other (sound.place_of_ledger earlier held same)
      rw [settled place later earlier]
      unfold refunds
      rw [refunds_other differs]
      rfl

theorem Settled.recover (settled : store.Settled) (sound : store.Sound) : store.recover.Settled := by
  unfold StoryboardStore.recover
  generalize store.stuck = stuck
  induction stuck generalizing store with
  | nil => exact settled
  | cons first rest ih => exact ih (settled.failRow sound first) (sound.failRow first)

theorem Settled.reserve (settled : store.Settled) (sound : store.Sound) (workspace user : Nat)
    (action : StoryboardAction) (affordable : Bool) :
    (store.reserve workspace user action affordable).Settled := by
  unfold StoryboardStore.reserve
  split
  · exact settled
  · intro place row held
    unfold refunds
    rw [List.countP_append]
    rcases getElem?_concat_cases held with old | ⟨rfl, rfl⟩
    · have agrees := settled place row old
      unfold refunds at agrees
      simpa using agrees
    · simp [sound.unrefunded]

theorem Settled.finaliseReady (settled : store.Settled) {storyboard : Nat}
    (careful : store.Careful (.finaliseReady storyboard)) : (store.finaliseReady storyboard).Settled := by
  unfold StoryboardStore.finaliseReady
  split
  · rename_i generating
    intro place later found
    obtain ⟨before, earlier, ⟨rfl, rfl⟩ | ⟨other, rfl⟩⟩ := modify_cases found
    · have status : before.status = .generating := by simpa [earlier] using careful generating
      have kept : store.refunds before ≠ 1 := fun once => by
        have failed := (settled place before earlier).mpr once
        rw [status] at failed
        contradiction
      exact iff_of_false (by simp) kept
    · exact settled place later earlier
  · exact settled

theorem Settled.markStale (settled : store.Settled) (workspace : Nat) : (store.markStale workspace).Settled := by
  intro place later found
  simp only [StoryboardStore.markStale, List.getElem?_map] at found
  obtain ⟨before, earlier, equal⟩ := Option.map_eq_some_iff.mp found
  split at equal
  · rename_i ready
    have kept : store.refunds before ≠ 1 := fun once => by
      have failed := (settled place before earlier).mpr once
      rw [ready.2] at failed
      contradiction
    subst equal
    exact iff_of_false (by simp) kept
  · subst equal
    exact settled place before earlier

theorem Settled.step (settled : store.Settled) (sound : store.Sound) {event : StoryboardEvent}
    (careful : store.Careful event) : (store.step event).Settled := by
  cases event with
  | tick | crash => exact settled
  | generate workspace user affordable => exact settled.reserve sound _ _ _ _
  | regenerate base user affordable =>
      simp only [StoryboardStore.step]
      split
      · exact settled
      · split
        · exact settled.reserve sound _ _ _ _
        · exact settled
  | regenerateSection base user affordable =>
      simp only [StoryboardStore.step]
      split
      · exact settled
      · split
        · exact settled.reserve sound _ _ _ _
        · exact settled
  | finaliseReady storyboard => exact settled.finaliseReady careful
  | failAndRefund storyboard =>
      simp only [StoryboardStore.step, StoryboardStore.failAndRefund]
      split
      · exact settled.failRow sound storyboard
      · exact settled
  | raise storyboard =>
      simp only [StoryboardStore.step, StoryboardStore.raise]
      split <;> exact settled
  | forceFail storyboard lost =>
      simp only [StoryboardStore.step, StoryboardStore.forceFail]
      split
      · cases lost with
        | true => exact settled
        | false => exact settled.failRow sound storyboard
      · exact settled
  | markStale workspace => exact settled.markStale workspace
  | recover => exact settled.recover sound

theorem moves_of_rows {after : StoryboardStore} (same : after.rows = store.rows) : Moves store after where
  kept place row held := ⟨row, same ▸ held, rfl, Or.inl rfl⟩
  new place row absent held := by
    rw [same, absent] at held
    contradiction

theorem moves_modify {after : StoryboardStore} {storyboard : Nat} {status : StoryboardStatus} {now : Int}
    (rows : after.rows = store.rows.modify storyboard fun row => { row with status, updatedAt := now })
    (allowed : ∀ row, store.rows[storyboard]? = some row → StatusChange row.status status) : Moves store after where
  kept place row held := by
    rw [rows]
    by_cases own : storyboard = place
    · subst own
      exact ⟨{ row with status, updatedAt := now }, by rw [List.getElem?_modify_eq, held]; rfl, rfl,
        allowed row held⟩
    · exact ⟨row, by rw [List.getElem?_modify_ne _ _ own]; exact held, rfl, Or.inl rfl⟩
  new place row absent held := by
    rw [rows, List.getElem?_modify, absent] at held
    contradiction

theorem moves_reserve (workspace user : Nat) (action : StoryboardAction) (affordable : Bool) :
    Moves store (store.reserve workspace user action affordable) := by
  unfold StoryboardStore.reserve
  split
  · exact moves_of_rows rfl
  · constructor
    · intro place row held
      refine ⟨row, ?_, rfl, Or.inl rfl⟩
      rw [List.getElem?_append_left (inside_of_some held)]
      exact held
    · intro place row absent held
      rcases getElem?_concat_cases held with old | ⟨rfl, rfl⟩
      · rw [absent] at old
        contradiction
      · rfl

theorem moves_markStale (workspace : Nat) : Moves store (store.markStale workspace) where
  kept place row held := by
    simp only [StoryboardStore.markStale, List.getElem?_map, held, Option.map_some, Option.some.injEq,
      exists_eq_left']
    split
    · rename_i ready
      exact ⟨rfl, Or.inr (Or.inr ⟨ready.2, rfl⟩)⟩
    · exact ⟨rfl, Or.inl rfl⟩
  new place row absent held := by
    simp only [StoryboardStore.markStale, List.getElem?_map, absent] at held
    contradiction

theorem foldl_failRow (chosen : List Nat) (store : StoryboardStore) (place : Nat) :
    (∀ row, store.rows[place]? = some row → ∃ later, (chosen.foldl failRow store).rows[place]? = some later ∧
      later = { row with status := later.status, updatedAt := later.updatedAt } ∧
        (later.status = row.status ∨ (place ∈ chosen ∧ later.status = .failed))) ∧
    (store.rows[place]? = none → (chosen.foldl failRow store).rows[place]? = none) := by
  induction chosen generalizing store with
  | nil => exact ⟨fun row held => ⟨row, held, rfl, Or.inl rfl⟩, id⟩
  | cons first rest ih =>
      obtain ⟨later, gone⟩ := ih (store.failRow first)
      rw [failRow_rows, List.getElem?_modify] at later gone
      constructor
      · intro row held
        rw [held] at later
        by_cases own : first = place
        · obtain ⟨final, found, same, status⟩ :=
            later { row with status := .failed, updatedAt := store.clock } (by simp [own])
          refine ⟨final, found, same, Or.inr ⟨own ▸ List.mem_cons_self .., ?_⟩⟩
          rcases status with kept | ⟨_, failed⟩
          · exact kept
          · exact failed
        · obtain ⟨final, found, same, status⟩ := later row (by simp [own])
          exact ⟨final, found, same, status.imp_right fun both => ⟨List.mem_cons_of_mem _ both.1, both.2⟩⟩
      · intro absent
        exact gone (by rw [absent]; rfl)

theorem moves_recover : Moves store store.recover where
  kept place row held := by
    obtain ⟨later, found, same, status⟩ := (foldl_failRow store.stuck store place).1 row held
    refine ⟨later, found, same, ?_⟩
    rcases status with kept | ⟨chosen, failed⟩
    · exact Or.inl kept
    · have generating := (List.mem_filter.mp chosen).2
      rw [held] at generating
      simp only [Option.any_some, decide_eq_true_eq] at generating
      exact Or.inr (Or.inl ⟨generating.1, Or.inr failed⟩)
  new place row absent held := by
    have gone := (foldl_failRow store.stuck store place).2 absent
    rw [show store.recover.rows[place]? = none from gone] at held
    contradiction

theorem moves_failRow {storyboard : Nat} {after : StoryboardStore}
    (rows : after.rows = (store.failRow storyboard).rows)
    (unfinished : ∀ row, store.rows[storyboard]? = some row → row.status = .generating ∨ row.status = .failed) :
    Moves store after := by
  refine moves_modify (rows.trans (failRow_rows store storyboard)) ?_
  intro row held
  rcases unfinished row held with generating | failed
  · exact Or.inr (Or.inl ⟨generating, Or.inr rfl⟩)
  · exact Or.inl failed.symm

theorem Sound.moves (sound : store.Sound) {event : StoryboardEvent} (careful : store.Careful event) :
    Moves store (store.step event) := by
  cases event with
  | tick | crash => exact moves_of_rows rfl
  | generate workspace user affordable => exact moves_reserve ..
  | regenerate base user affordable =>
      simp only [StoryboardStore.step]
      split
      · exact moves_of_rows rfl
      · split
        · exact moves_reserve ..
        · exact moves_of_rows rfl
  | regenerateSection base user affordable =>
      simp only [StoryboardStore.step]
      split
      · exact moves_of_rows rfl
      · split
        · exact moves_reserve ..
        · exact moves_of_rows rfl
  | finaliseReady storyboard =>
      simp only [StoryboardStore.step, StoryboardStore.finaliseReady]
      split
      · rename_i generating
        refine moves_modify rfl ?_
        intro row held
        exact Or.inr (Or.inl ⟨by simpa [held] using careful generating, Or.inl rfl⟩)
      · exact moves_of_rows rfl
  | failAndRefund storyboard =>
      simp only [StoryboardStore.step, StoryboardStore.failAndRefund]
      split
      · rename_i generating
        exact moves_failRow rfl fun row held => sound.phases storyboard row held generating
      · exact moves_of_rows rfl
  | raise storyboard =>
      simp only [StoryboardStore.step, StoryboardStore.raise]
      split <;> exact moves_of_rows rfl
  | forceFail storyboard lost =>
      simp only [StoryboardStore.step, StoryboardStore.forceFail]
      split
      · rename_i raised
        cases lost with
        | true => exact moves_of_rows rfl
        | false =>
            refine moves_failRow rfl ?_
            intro row held
            simpa [held] using careful ⟨rfl, raised⟩
      · exact moves_of_rows rfl
  | markStale workspace => exact moves_markStale workspace
  | recover => exact moves_recover

theorem Sound.careful_of_moves (sound : store.Sound) {event : StoryboardEvent}
    (moves : Moves store (store.step event)) : store.Careful event := by
  cases event with
  | finaliseReady storyboard =>
      intro generating
      cases held : store.rows[storyboard]? with
      | none => rfl
      | some row =>
          obtain ⟨later, found, _, change⟩ := moves.kept storyboard row held
          simp only [StoryboardStore.step, StoryboardStore.finaliseReady, if_pos generating] at found
          have finished : (store.rows.modify storyboard fun row =>
              { row with status := .ready, updatedAt := store.clock })[storyboard]? = some later := found
          rw [List.getElem?_modify_eq, held] at finished
          rw [← Option.some.inj finished] at change
          -- a row of a run that is generating is generating or failed
          have phase := sound.phases storyboard row held generating
          simp only [StatusChange, reduceCtorEq, and_false, or_false, and_true] at change
          rcases phase with still | failed
          · simp [still]
          · rw [failed] at change
            simp at change
  | forceFail storyboard lost =>
      rintro ⟨rfl, raised⟩
      cases held : store.rows[storyboard]? with
      | none => rfl
      | some row =>
          obtain ⟨later, found, _, change⟩ := moves.kept storyboard row held
          simp only [StoryboardStore.step, StoryboardStore.forceFail, if_pos raised] at found
          have failed : (store.failRow storyboard).rows[storyboard]? = some later := found
          rw [failRow_rows, List.getElem?_modify_eq, held] at failed
          rw [← Option.some.inj failed] at change
          simp only [StatusChange, reduceCtorEq, and_false, or_false, or_true, and_true] at change
          rcases change with failed | generating
          · simp [← failed]
          · simp [generating]
  | _ => trivial

/-- Charges and rows agree in every state, and rows change as they may, exactly in the careful runs. -/
theorem storyboards_agree_iff (owners : List Nat) (events : List StoryboardEvent) :
    ((∀ front back, events = front ++ back → (play StoryboardStore.step { owners } front).Agrees) ∧
      ∀ front event back, events = front ++ event :: back →
        Moves (play StoryboardStore.step { owners } front)
          ((play StoryboardStore.step { owners } front).step event)) ↔
    Along StoryboardStore.step Careful { owners } events := by
  have always : ∀ front, (play StoryboardStore.step { owners } front).Sound :=
    fun front => invariant (fun _ event sound => sound.step event) (sound_initial owners) front
  constructor
  · rintro ⟨_, moves⟩
    rw [along_iff]
    intro front event back split
    exact (always front).careful_of_moves (moves front event back split)
  · intro careful
    constructor
    · rintro front back rfl
      have kept : ∀ state event, Sound state ∧ Settled state → state.Careful event →
          Sound (state.step event) ∧ Settled (state.step event) :=
        fun _ event both met => ⟨both.1.step event, both.2.step both.1 met⟩
      have start : Sound { owners } ∧ Settled { owners } := ⟨sound_initial owners, by simp [Settled]⟩
      obtain ⟨sound, settled⟩ := (along_append.mp careful).1.invariant kept start
      exact sound.agrees settled
    · intro front event back split
      exact (always front).moves (along_iff.mp careful front event back split)

example : Along StoryboardStore.step Careful { owners := [7] }
    [.generate 0 7 true, .finaliseReady 0, .markStale 0, .regenerate 0 7 true, .raise 1, .recover] := by
  decide +kernel

theorem late_run_resurrects_refunded_storyboard :
    ¬((∀ front back, [StoryboardEvent.generate 0 7 true, .tick 1801, .recover, .finaliseReady 0] = front ++ back →
        (play StoryboardStore.step { owners := [7] } front).Agrees) ∧
      ∀ front event back, [StoryboardEvent.generate 0 7 true, .tick 1801, .recover, .finaliseReady 0] =
          front ++ event :: back →
        Moves (play StoryboardStore.step { owners := [7] } front)
          ((play StoryboardStore.step { owners := [7] } front).step event)) := by
  rintro ⟨agrees, _⟩
  have last := (agrees _ [] (List.append_nil _).symm).failed 0 ⟨0, 7, 1, .ready, 1801, 0⟩ (by decide)
  revert last
  decide

end StoryboardStore

end Thought2Build.Pipeline
