import Thought2Build.Evals.EvalBatchCore

/-!
Which steps of the jobs create one batch for a row, bill it once and settle it before the row goes.
Nothing marks the row before the provider is asked, nor between what is billed and the deletion.
-/

namespace Thought2Build.Evals

open Histories

namespace BatchPoint

def IsBilled (point : BatchPoint) : Prop :=
  point = .recorded true ∨ point = .failing true ∨ point = .settled true

def IsCreated : BatchPoint → Prop
  | created _ => True
  | _ => False

instance (point : BatchPoint) : Decidable point.IsBilled := inferInstanceAs (Decidable (_ ∨ _ ∨ _))

instance (point : BatchPoint) : Decidable point.IsCreated := by
  unfold IsCreated
  split <;> infer_instance

end BatchPoint

namespace EvalBatch

open BatchPoint

variable {batch : EvalBatch} {key : Nat} {point : BatchPoint}

structure Respects (batch : EvalBatch) (event : BatchEvent) : Prop where
  created : (batch.step event).batches.length ≤ 1
  stored : ∀ row ∈ batch.row, ∀ providerBatchId ∈ row.providerBatchId, ∀ later ∈ (batch.step event).row,
    later.providerBatchId = some providerBatchId
  charged : (batch.step event).costEvents ≤ 1
  deleted : (batch.step event).row = none → 0 < (batch.step event).results ∨ (batch.step event).fallbacks = 1

def Settles (batch : EvalBatch) (key : Nat) : Prop :=
  batch.row ≠ none ∧ batch.jobs.All fun other point => point.IsBilled → other = key

def Creates (batch : EvalBatch) : Prop :=
  (∃ row ∈ batch.row, row.providerBatchId = none) ∧ batch.jobs.All fun _ point => ¬point.IsCreated

def Careful (batch : EvalBatch) : BatchEvent → Prop
  | .createBatch key _ => batch.jobs.lookup key = some .loaded → batch.Creates
  | .recordCost key written => written = true → batch.jobs.lookup key = some .succeeded → batch.Settles key
  | .fallbackScore key => ∀ point ∈ batch.jobs.lookup key, (∃ billed, point = .failing billed) → batch.Settles key
  | .fail key => ∀ point ∈ batch.jobs.lookup key, ¬point.IsCreated ∧ ¬point.IsBilled
  | _ => True

instance : Decidable (batch.Settles key) := inferInstanceAs (Decidable (_ ∧ _))

instance : Decidable batch.Creates := by
  unfold Creates; infer_instance

instance : Decidable (∃ billed, point = .failing billed) :=
  decidable_of_iff (point = .failing false ∨ point = .failing true) (by simp)

instance (event : BatchEvent) : Decidable (batch.Careful event) := by
  unfold Careful
  split <;> infer_instance

structure Submits (batch : EvalBatch) : Prop where
  creating : ∀ key providerBatchId, batch.jobs.lookup key = some (.created providerBatchId) →
    batch.batches = [providerBatchId] ∧ ∀ row ∈ batch.row, row.providerBatchId = none
  sole : ∀ key first other second, batch.jobs.lookup key = some (.created first) →
    batch.jobs.lookup other = some (.created second) → other = key
  waiting : ∀ row ∈ batch.row, row.providerBatchId = none →
    (∀ key providerBatchId, batch.jobs.lookup key ≠ some (.created providerBatchId)) → batch.batches = []
  batches : batch.batches.length ≤ 1

structure Settled (batch : EvalBatch) : Prop where
  sole : ∀ key first other second, batch.jobs.lookup key = some first → first.IsBilled →
    batch.jobs.lookup other = some second → second.IsBilled → other = key
  unbilled : batch.row ≠ none → (∀ key point, batch.jobs.lookup key = some point → ¬point.IsBilled) →
    batch.costEvents = 0 ∧ batch.fallbacks = 0
  scoring : ∀ key point, batch.jobs.lookup key = some point → point = .recorded true ∨ point = .failing true →
    batch.fallbacks = 0
  costs : batch.costEvents ≤ 1
  scored : ∀ key billed, batch.jobs.lookup key = some (.settled billed) → 0 < batch.results ∨ batch.fallbacks = 1
  deleted : batch.row = none → 0 < batch.results ∨ batch.fallbacks = 1

section

attribute [local simp] EvalBatch.step

end

theorem Submits.update {later : EvalBatch} (submits : batch.Submits) (batches : later.batches = batch.batches)
    (created : ∀ key providerBatchId, later.jobs.lookup key = some (.created providerBatchId) ↔
      batch.jobs.lookup key = some (.created providerBatchId))
    (rows : ∀ row ∈ later.row, ∃ former ∈ batch.row, former.providerBatchId = row.providerBatchId) :
    later.Submits where
  creating key providerBatchId found := by
    obtain ⟨own, absent⟩ := submits.creating key providerBatchId ((created _ _).mp found)
    refine ⟨batches.trans own, ?_⟩
    intro row held
    obtain ⟨former, before, same⟩ := rows row held
    exact same.symm.trans (absent former before)
  sole key first other second found also :=
    submits.sole key first other second ((created _ _).mp found) ((created _ _).mp also)
  waiting row held absent none := by
    obtain ⟨former, before, same⟩ := rows row held
    rw [batches]
    exact submits.waiting former before (same.trans absent)
      fun key providerBatchId found => none key providerBatchId ((created _ _).mpr found)
  batches := batches ▸ submits.batches

theorem Submits.move (submits : batch.Submits) (key : Nat)
    (before : ∀ point ∈ batch.jobs.lookup key, ¬point.IsCreated) (after : ¬point.IsCreated) :
    (batch.move key point).Submits := by
  refine submits.update rfl ?_ fun row held => ⟨row, held, rfl⟩
  intro other providerBatchId
  rw [EvalBatch.move, Workers.lookup_insert_eq]
  split
  · rename_i same
    subst same
    constructor
    · intro found
      rw [Option.some.inj found] at after
      exact absurd trivial after
    · intro found
      exact absurd trivial (before _ found)
  · rfl

theorem Submits.leave (submits : batch.Submits) (key : Nat)
    (before : ∀ point ∈ batch.jobs.lookup key, ¬point.IsCreated) : (batch.leave key).Submits := by
  refine submits.update rfl ?_ fun row held => ⟨row, held, rfl⟩
  intro other providerBatchId
  rw [EvalBatch.leave, Workers.lookup_erase_eq]
  split
  · rename_i same
    subst same
    constructor
    · intro found
      contradiction
    · intro found
      exact absurd trivial (before _ found)
  · rfl

theorem Submits.start (submits : batch.Submits) (key : Nat) (after : ¬point.IsCreated) :
    (batch.start key point).Submits := by
  unfold EvalBatch.start
  split
  · exact submits
  · rename_i free
    refine submits.move key ?_ after
    intro other found
    rw [AList.lookup_eq_none.mpr free] at found
    contradiction

theorem Submits.createBatch (submits : batch.Submits) (providerBatchId : String)
    (creates : batch.jobs.lookup key = some .loaded → batch.Creates) :
    (batch.createBatch key providerBatchId).Submits := by
  unfold EvalBatch.createBatch
  split
  · rename_i loaded
    obtain ⟨⟨row, held, absent⟩, idle⟩ := creates loaded
    have none : ∀ other first, batch.jobs.lookup other ≠ some (.created first) :=
      fun other first found => idle.at found trivial
    have first := submits.waiting row held absent none
    have only : ∀ other second, (batch.jobs.insert key (.created providerBatchId)).lookup other =
        some (.created second) → other = key ∧ second = providerBatchId := by
      intro other second found
      rw [Workers.lookup_insert_eq] at found
      split at found
      · rename_i same
        have point := Option.some.inj found
        injection point with same'
        exact ⟨same, same'.symm⟩
      · exact absurd found (none other second)
    exact {
      creating := by
        intro other second found
        obtain ⟨_, rfl⟩ := only other second found
        refine ⟨by simp [first], ?_⟩
        intro other held'
        obtain rfl : row = other := Option.some.inj (held.symm.trans held')
        exact absent
      sole := fun one _ two _ found also => (only two _ also).1.trans (only one _ found).1.symm
      waiting := by
        intro _ _ _ never
        exact absurd (AList.lookup_insert _) (never key providerBatchId)
      batches := by simp [first] }
  · exact submits

theorem Submits.commitBatch (submits : batch.Submits) (key : Nat) : (batch.commitBatch key).Submits := by
  unfold EvalBatch.commitBatch
  split
  · rename_i providerBatchId found
    have only : ∀ other second, (batch.jobs.erase key).lookup other ≠ some (.created second) := by
      intro other second also
      rw [Workers.lookup_erase_eq] at also
      split at also
      · contradiction
      · rename_i differs
        exact differs (submits.sole key _ other _ found also)
    exact {
      creating := fun other second also => absurd also (only other second)
      sole := fun one first _ _ also => absurd also (only one first)
      waiting := by
        intro row held absent
        obtain ⟨_, _, rfl⟩ := Option.map_eq_some_iff.mp held
        contradiction
      batches := submits.batches }
  · exact submits

theorem forall_lookup {holds : BatchPoint → Prop} (found : batch.jobs.lookup key = some point)
    (own : holds point) : ∀ stands ∈ batch.jobs.lookup key, holds stands := by
  intro stands also
  rw [found] at also
  rwa [← Option.some.inj also]

theorem Submits.pollBatch (submits : batch.Submits) (key : Nat) (ended stale : Bool) :
    (batch.pollBatch key ended stale).Submits := by
  unfold EvalBatch.pollBatch
  split
  · rename_i polling
    have before : ∀ stands ∈ batch.jobs.lookup key, ¬stands.IsCreated := forall_lookup polling not_false
    split
    · exact submits.move key before not_false
    · split
      · exact submits.move key before not_false
      · refine (submits.leave key before).update rfl (fun _ _ => Iff.rfl) ?_
        intro row held
        obtain ⟨former, before, rfl⟩ := Option.map_eq_some_iff.mp held
        exact ⟨former, before, rfl⟩
  · exact submits

theorem Submits.step (submits : batch.Submits) (event : BatchEvent) (careful : batch.Careful event) :
    (batch.step event).Submits := by
  have idle : ∀ {key point}, batch.jobs.lookup key = some point → ¬point.IsCreated →
      ∀ stands ∈ batch.jobs.lookup key, ¬stands.IsCreated :=
    fun found own => forall_lookup found own
  cases event with
  | beginSubmit key =>
      simp only [EvalBatch.step, EvalBatch.beginSubmit]
      split
      · exact submits.start key not_false
      · exact submits
  | createBatch key providerBatchId => exact submits.createBatch providerBatchId careful
  | commitBatch key => exact submits.commitBatch key
  | beginCollect key =>
      simp only [EvalBatch.step, EvalBatch.beginCollect]
      split
      · exact submits.start key not_false
      · exact submits
  | pollBatch key ended stale => exact submits.pollBatch key ended stale
  | fetchResults key succeeded =>
      simp only [EvalBatch.step, EvalBatch.fetchResults]
      split
      · rename_i found
        exact submits.move key (idle found not_false) (by cases succeeded <;> exact not_false)
      · exact submits
  | recordCost key written =>
      simp only [EvalBatch.step, EvalBatch.recordCost]
      split
      · rename_i found
        have moved : (batch.move key (.recorded written)).Submits := submits.move key (idle found not_false) not_false
        exact { moved with }
      · exact submits
  | persistEval key parsed =>
      simp only [EvalBatch.step, EvalBatch.persistEval]
      split
      · rename_i billed found
        split
        · have moved : (batch.move key (.settled billed)).Submits :=
            submits.move key (idle found not_false) not_false
          exact { moved with }
        · exact submits.move key (idle found not_false) not_false
      · exact submits
  | fallbackScore key =>
      simp only [EvalBatch.step, EvalBatch.fallbackScore]
      split
      · rename_i found
        have moved : (batch.move key (.settled true)).Submits := submits.move key (idle found not_false) not_false
        exact { moved with }
      · exact submits
  | deleteRow key =>
      simp only [EvalBatch.step, EvalBatch.deleteRow]
      split
      · rename_i found
        exact (submits.leave key (idle found not_false)).update rfl (fun _ _ => Iff.rfl) nofun
      · exact submits
  | fail key => exact submits.leave key fun point found => (careful point found).1

theorem Settled.advance (settled : batch.Settled) (key : Nat) {results : Nat} (more : batch.results ≤ results)
    (billed : point.IsBilled ↔ ∃ stands ∈ batch.jobs.lookup key, stands.IsBilled)
    (scoring : point = .recorded true ∨ point = .failing true → batch.fallbacks = 0)
    (scored : ∀ billed, point = .settled billed → 0 < results ∨ batch.fallbacks = 1) :
    Settled { batch.move key point with results } := by
  have cases : ∀ other stands, (batch.jobs.insert key point).lookup other = some stands →
      (other = key ∧ stands = point) ∨ (other ≠ key ∧ batch.jobs.lookup other = some stands) := by
    intro other stands found
    rw [Workers.lookup_insert_eq] at found
    split at found
    · rename_i same
      exact Or.inl ⟨same, (Option.some.inj found).symm⟩
    · rename_i differs
      exact Or.inr ⟨differs, found⟩
  have earlier : ∀ other stands, (batch.jobs.insert key point).lookup other = some stands → stands.IsBilled →
      ∃ former, batch.jobs.lookup other = some former ∧ former.IsBilled := by
    intro other stands found own
    rcases cases other stands found with ⟨rfl, rfl⟩ | ⟨_, before⟩
    · exact billed.mp own
    · exact ⟨stands, before, own⟩
  have raise : 0 < batch.results ∨ batch.fallbacks = 1 → 0 < results ∨ batch.fallbacks = 1 := by omega
  constructor
  · intro one first two second found own also other
    obtain ⟨_, before, bills⟩ := earlier one first found own
    obtain ⟨_, before', bills'⟩ := earlier two second also other
    exact settled.sole one _ two _ before bills before' bills'
  · intro present none
    refine settled.unbilled present ?_
    intro other stands found own
    by_cases same : other = key
    · subst same
      exact none other point (AList.lookup_insert _) (billed.mpr ⟨stands, found, own⟩)
    · exact none other stands ((AList.lookup_insert_ne same).trans found) own
  · intro other stands found own
    rcases cases other stands found with ⟨_, rfl⟩ | ⟨_, before⟩
    · exact scoring own
    · exact settled.scoring other stands before own
  · exact settled.costs
  · intro other bills found
    rcases cases other _ found with ⟨_, same⟩ | ⟨_, before⟩
    · exact scored bills same.symm
    · exact raise (settled.scored other bills before)
  · exact fun gone => raise (settled.deleted gone)

theorem Settled.leave (settled : batch.Settled) (key : Nat)
    (unbilled : ∀ point ∈ batch.jobs.lookup key, ¬point.IsBilled) : (batch.leave key).Settled := by
  have before : ∀ {other stands}, (batch.jobs.erase key).lookup other = some stands →
      batch.jobs.lookup other = some stands := by
    intro other stands found
    rw [Workers.lookup_erase_eq] at found
    split at found
    · contradiction
    · exact found
  constructor
  · exact fun one first two second found own also other =>
      settled.sole one first two second (before found) own (before also) other
  · intro present none
    refine settled.unbilled present ?_
    intro other stands found own
    by_cases same : other = key
    · subst same
      exact unbilled stands found own
    · exact none other stands ((AList.lookup_erase_ne same).trans found) own
  · exact fun other stands found => settled.scoring other stands (before found)
  · exact settled.costs
  · exact fun other bills found => settled.scored other bills (before found)
  · exact settled.deleted

theorem not_billed_of_lookup (found : batch.jobs.lookup key = some point) (own : ¬point.IsBilled) :
    ¬∃ stands ∈ batch.jobs.lookup key, stands.IsBilled := by
  rintro ⟨stands, also, bills⟩
  rw [found] at also
  rw [← Option.some.inj also] at bills
  exact own bills

theorem Settled.start (settled : batch.Settled) (key : Nat) (unbilled : ¬point.IsBilled)
    (unsettled : ∀ billed, point ≠ .settled billed) : (batch.start key point).Settled := by
  unfold EvalBatch.start
  split
  · exact settled
  · rename_i free
    refine settled.advance key (Nat.le_refl _) ?_ ?_ ?_
    · rw [AList.lookup_eq_none.mpr free]
      simp [unbilled]
    · exact fun billed => absurd (billed.elim Or.inl fun failing => Or.inr (Or.inl failing)) unbilled
    · exact fun billed own => absurd own (unsettled billed)

theorem Settled.move (settled : batch.Settled) {stands : BatchPoint} (found : batch.jobs.lookup key = some stands)
    (before : ¬stands.IsBilled) (after : ¬point.IsBilled) (unsettled : ∀ billed, point ≠ .settled billed) :
    (batch.move key point).Settled :=
  settled.advance key (Nat.le_refl _) (iff_of_false after (not_billed_of_lookup found before))
    (fun billed => absurd (billed.elim Or.inl fun failing => Or.inr (Or.inl failing)) after)
    (fun billed own => absurd own (unsettled billed))

theorem Settled.bill (settled : batch.Settled) (key : Nat) {costEvents fallbacks : Nat}
    (settles : batch.Settles key) (costs : costEvents ≤ 1)
    (scoring : point = .recorded true ∨ point = .failing true → fallbacks = 0)
    (scored : (∃ billed, point = .settled billed) → fallbacks = 1)
    (kept : batch.fallbacks = 1 → fallbacks = 1) (bills : point.IsBilled) :
    Settled { batch.move key point with costEvents, fallbacks } := by
  have cases : ∀ other stands, (batch.jobs.insert key point).lookup other = some stands →
      (other = key ∧ stands = point) ∨ (batch.jobs.lookup other = some stands ∧ ¬stands.IsBilled) := by
    intro other stands found
    rw [Workers.lookup_insert_eq] at found
    split at found
    · rename_i same
      exact Or.inl ⟨same, (Option.some.inj found).symm⟩
    · rename_i differs
      exact Or.inr ⟨found, fun own => differs (settles.2.at found own)⟩
  constructor
  · intro one first two second found own also other
    rcases cases one first found with ⟨rfl, _⟩ | ⟨_, none⟩
    · rcases cases two second also with ⟨same, _⟩ | ⟨_, none⟩
      · exact same
      · exact absurd other none
    · exact absurd own none
  · intro _ none
    exact absurd bills (none key point (AList.lookup_insert _))
  · intro other stands found own
    rcases cases other stands found with ⟨_, rfl⟩ | ⟨_, none⟩
    · exact scoring own
    · exact absurd (own.elim Or.inl fun failing => Or.inr (Or.inl failing)) none
  · exact costs
  · intro other billed found
    rcases cases other _ found with ⟨_, same⟩ | ⟨before, _⟩
    · exact Or.inr (scored ⟨billed, same.symm⟩)
    · exact (settled.scored other billed before).imp_right kept
  · intro gone
    exact absurd gone settles.1

theorem Settled.recordCost (settled : batch.Settled) {written : Bool}
    (settles : written = true → batch.jobs.lookup key = some .succeeded → batch.Settles key) :
    (batch.recordCost key written).Settled := by
  unfold EvalBatch.recordCost
  split
  · rename_i found
    cases written with
    | false =>
        have moved : (batch.move key (.recorded false)).Settled := settled.move found (by decide) (by decide) (by simp)
        exact { moved with }
    | true =>
        have sole := settles rfl found
        obtain ⟨costs, fallbacks⟩ := settled.unbilled sole.1 fun other stands also own => by
          obtain rfl := sole.2.at also own
          rw [found] at also
          obtain rfl := Option.some.inj also
          revert own
          decide
        exact settled.bill key sole (by simp [costs]) (fun _ => fallbacks) (by simp) id (by decide)
  · exact settled

theorem Settled.fallbackScore (settled : batch.Settled)
    (settles : ∀ point ∈ batch.jobs.lookup key, (∃ billed, point = .failing billed) → batch.Settles key) :
    (batch.fallbackScore key).Settled := by
  unfold EvalBatch.fallbackScore
  split
  · rename_i billed found
    have sole := settles _ found ⟨billed, rfl⟩
    have none : batch.fallbacks = 0 := by
      cases billed with
      | true => exact settled.scoring key _ found (Or.inr rfl)
      | false =>
          refine (settled.unbilled sole.1 fun other stands also own => ?_).2
          obtain rfl := sole.2.at also own
          rw [found] at also
          obtain rfl := Option.some.inj also
          revert own
          decide
    exact settled.bill key sole settled.costs (by simp) (fun _ => by omega) (by omega) (by decide)
  · exact settled

theorem Settled.persistEval (settled : batch.Settled) (key : Nat) (parsed : Bool) :
    (batch.persistEval key parsed).Settled := by
  unfold EvalBatch.persistEval
  split
  · rename_i billed found
    have bills : ∀ point : BatchPoint, (point.IsBilled ↔ billed = true) →
        (point.IsBilled ↔ ∃ stands ∈ batch.jobs.lookup key, stands.IsBilled) := by
      intro point own
      rw [own, found]
      simp [IsBilled]
    split
    · exact settled.advance key (Nat.le_succ _) (bills _ (by simp [IsBilled])) (by simp)
        fun _ _ => Or.inl (Nat.succ_pos _)
    · refine settled.advance key (Nat.le_refl _) (bills _ (by simp [IsBilled])) ?_ (by simp)
      intro own
      obtain rfl : billed = true := by simpa using own
      exact settled.scoring key _ found (Or.inl rfl)
  · exact settled

theorem Settled.deleteRow (settled : batch.Settled) (key : Nat) : (batch.deleteRow key).Settled := by
  unfold EvalBatch.deleteRow
  split
  · rename_i billed found
    have before : ∀ {other stands}, (batch.jobs.erase key).lookup other = some stands →
        batch.jobs.lookup other = some stands := by
      intro other stands also
      rw [Workers.lookup_erase_eq] at also
      split at also
      · contradiction
      · exact also
    exact {
      sole := fun one first two second found own also other =>
        settled.sole one first two second (before found) own (before also) other
      unbilled := fun present => absurd rfl present
      scoring := fun other stands also => settled.scoring other stands (before also)
      costs := settled.costs
      scored := fun other bills also => settled.scored other bills (before also)
      deleted := fun _ => settled.scored key billed found }
  · exact settled

theorem Settled.step (settled : batch.Settled) (event : BatchEvent) (careful : batch.Careful event) :
    (batch.step event).Settled := by
  cases event with
  | beginSubmit key =>
      simp only [EvalBatch.step, EvalBatch.beginSubmit]
      split
      · exact settled.start key (by decide) (by simp)
      · exact settled
  | createBatch key providerBatchId =>
      simp only [EvalBatch.step, EvalBatch.createBatch]
      split
      · rename_i found
        have moved : (batch.move key (.created providerBatchId)).Settled :=
          settled.move found (by decide) (by simp [IsBilled]) (by simp)
        exact { moved with }
      · exact settled
  | commitBatch key =>
      simp only [EvalBatch.step, EvalBatch.commitBatch]
      split
      · rename_i providerBatchId found
        have left : (batch.leave key).Settled := settled.leave key (forall_lookup found (by simp [IsBilled]))
        exact { left with
          unbilled := fun present => left.unbilled (mt Option.map_eq_none_iff.mpr present)
          deleted := fun gone => left.deleted (Option.map_eq_none_iff.mp gone) }
      · exact settled
  | beginCollect key =>
      simp only [EvalBatch.step, EvalBatch.beginCollect]
      split
      · exact settled.start key (by decide) (by simp)
      · exact settled
  | pollBatch key ended stale =>
      simp only [EvalBatch.step, EvalBatch.pollBatch]
      split
      · rename_i found
        split
        · exact settled.move found (by decide) (by decide) (by simp)
        · split
          · exact settled.move found (by decide) (by decide) (by simp)
          · have left : (batch.leave key).Settled := settled.leave key (forall_lookup found (by decide))
            exact { left with
              unbilled := fun present => left.unbilled (mt Option.map_eq_none_iff.mpr present)
              deleted := fun gone => left.deleted (Option.map_eq_none_iff.mp gone) }
      · exact settled
  | fetchResults key succeeded =>
      simp only [EvalBatch.step, EvalBatch.fetchResults]
      split
      · rename_i found
        cases succeeded with
        | true => exact settled.move found (by decide) (by decide) (by simp)
        | false => exact settled.move found (by decide) (by decide) (by simp)
      · exact settled
  | recordCost key written => exact settled.recordCost careful
  | persistEval key parsed => exact settled.persistEval key parsed
  | fallbackScore key => exact settled.fallbackScore careful
  | deleteRow key => exact settled.deleteRow key
  | fail key => exact settled.leave key fun point found => (careful point found).2

theorem row_start (batch : EvalBatch) (key : Nat) (point : BatchPoint) : (batch.start key point).row = batch.row := by
  unfold EvalBatch.start
  split <;> rfl

theorem Submits.stored_kept (submits : batch.Submits) (event : BatchEvent) {row later : BatchRow}
    {providerBatchId : String} (held : batch.row = some row) (stored : row.providerBatchId = some providerBatchId)
    (after : (batch.step event).row = some later) : later.providerBatchId = some providerBatchId := by
  have unchanged : batch.row = some later → later.providerBatchId = some providerBatchId := by
    intro same
    rw [held] at same
    rw [← Option.some.inj same, stored]
  cases event with
  | commitBatch key =>
      simp only [EvalBatch.step, EvalBatch.commitBatch] at after
      split at after
      · rename_i created found
        have absent := (submits.creating key created found).2 row held
        rw [stored] at absent
        contradiction
      · exact unchanged after
  | pollBatch key ended stale =>
      simp only [EvalBatch.step, EvalBatch.pollBatch] at after
      split at after
      · split at after
        · exact unchanged after
        · split at after
          · exact unchanged after
          · rw [held] at after
            rw [← Option.some.inj after]
            exact stored
      · exact unchanged after
  | deleteRow key =>
      simp only [EvalBatch.step, EvalBatch.deleteRow] at after
      split at after
      · contradiction
      · exact unchanged after
  | beginSubmit key | beginCollect key =>
      refine unchanged (Eq.trans (Eq.symm ?_) after)
      simp only [EvalBatch.step, EvalBatch.beginSubmit, EvalBatch.beginCollect]
      split
      · exact row_start ..
      · rfl
  | createBatch key | fetchResults key | recordCost key | fallbackScore key =>
      refine unchanged (Eq.trans (Eq.symm ?_) after)
      simp only [EvalBatch.step, EvalBatch.createBatch, EvalBatch.fetchResults, EvalBatch.recordCost,
        EvalBatch.fallbackScore]
      split <;> rfl
  | persistEval key parsed =>
      refine unchanged (Eq.trans (Eq.symm ?_) after)
      simp only [EvalBatch.step, EvalBatch.persistEval]
      split
      · split <;> rfl
      · rfl
  | fail key => exact unchanged after

theorem submits_initial : Submits {} := by
  constructor <;> simp

theorem settled_initial : Settled {} := by
  constructor <;> simp

/-- In a run of careful steps the row gets one batch, is billed for it once, and goes only when it is scored. -/
theorem eval_billed_once (events : List BatchEvent) (careful : Along step Careful {} events)
    (front : List BatchEvent) (event : BatchEvent) (back : List BatchEvent)
    (split : events = front ++ event :: back) : (play step {} front).Respects event := by
  subst split
  obtain ⟨before, now, _⟩ := along_append.mp careful
  have kept : ∀ state event, Submits state ∧ Settled state → Careful state event →
      Submits (state.step event) ∧ Settled (state.step event) :=
    fun _ event sound careful => ⟨sound.1.step event careful, sound.2.step event careful⟩
  have sound := before.invariant kept ⟨submits_initial, settled_initial⟩
  obtain ⟨submits, settled⟩ := kept _ event sound now
  exact {
    created := submits.batches
    stored := fun _ held _ stored _ after => sound.1.stored_kept event held stored after
    charged := settled.costs
    deleted := settled.deleted }

def sampleEvents : List BatchEvent :=
  [.beginSubmit 0, .createBatch 0 "batch", .commitBatch 0, .beginCollect 1, .fail 1, .beginCollect 2,
    .pollBatch 2 false false, .beginCollect 3, .pollBatch 3 true false, .fetchResults 3 true, .recordCost 3 true,
    .persistEval 3 true]

theorem eval_billed_once_sample : (play step {} sampleEvents).Respects (.deleteRow 3) :=
  eval_billed_once (sampleEvents ++ [.deleteRow 3]) (by decide) sampleEvents _ [] rfl

def resubmitted : List BatchEvent :=
  [.beginSubmit 0, .createBatch 0 "first", .fail 0, .beginSubmit 1]

def recollected : List BatchEvent :=
  [.beginSubmit 0, .createBatch 0 "batch", .commitBatch 0, .beginCollect 1, .pollBatch 1 true false,
    .fetchResults 1 true, .recordCost 1 true, .fail 1, .beginCollect 2, .pollBatch 2 true false, .fetchResults 2 true]

def rescored : List BatchEvent :=
  [.beginSubmit 0, .createBatch 0 "batch", .commitBatch 0, .beginCollect 1, .pollBatch 1 true false,
    .fetchResults 1 false, .fallbackScore 1, .fail 1, .beginCollect 2, .pollBatch 2 true false,
    .fetchResults 2 false, .fallbackScore 2]

theorem eval_billed_twice :
    ¬(play step {} resubmitted).Respects (.createBatch 1 "second") ∧
      ¬(play step {} recollected).Respects (.recordCost 2 true) ∧
      ¬(play step {} rescored).Respects (.deleteRow 2) := by
  refine ⟨fun respects => ?_, fun respects => ?_, fun respects => ?_⟩
  · have created := respects.created
    revert created
    decide
  · have charged := respects.charged
    revert charged
    decide
  · have deleted := respects.deleted
    revert deleted
    decide

end EvalBatch

end Thought2Build.Evals
