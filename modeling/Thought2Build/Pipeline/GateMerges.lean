import Mathlib.Data.Finset.Basic
import Thought2Build.Pipeline.QualityGates
import Thought2Build.Pipeline.RunProgress

/-!
The background writers of a delivered draft's gate in any order. The merges run under the row lock; the
sweep of stale checks writes later what it has computed from the row it read.
-/

namespace Thought2Build.Pipeline

open StageRecord

namespace QualityGate

def findings (gate : QualityGate) : List Finding := (gate.payload.map (·.findings)).getD []

instance (gate : QualityGate) : Decidable gate.Holds := inferInstanceAs (Decidable (_ ∨ _))

end QualityGate

structure GateView where
  status : GateStatus
  kind : Option String
  version : Option Nat
  findings : Finset Finding

namespace GateView

def merge (view : GateView) (findings : Finset Finding) (currentVersion : Nat)
    (technologyFinished technologyBlocked : Bool) : GateView :=
  let existing := view.findings ∪ findings
  if view.status = .blocked ∨ view.status = .overridden then { view with findings := existing }
  else if technologyBlocked then
    ⟨.blocked, some techSafetyGateKind, some currentVersion, existing⟩
  else if view.status = .checking ∧ ¬technologyFinished then
    { view with version := some currentVersion, findings := existing }
  else if existing.Nonempty then ⟨.advisory, some "critic_findings", some currentVersion, existing⟩
  else ⟨.clear, none, none, ∅⟩

variable {view : GateView} {technology critic : Finset Finding} {version : Nat} {blocked : Bool}

theorem merge_of_decided {finished : Bool} {findings : Finset Finding}
    (decided : view.status = .blocked ∨ view.status = .overridden) :
    view.merge findings version finished blocked = { view with findings := view.findings ∪ findings } :=
  if_pos decided

theorem merge_of_blocked {findings : Finset Finding} {finished : Bool}
    (open_ : ¬(view.status = .blocked ∨ view.status = .overridden)) :
    view.merge findings version finished true =
      ⟨.blocked, some techSafetyGateKind, some version, view.findings ∪ findings⟩ := by
  simp [merge, open_]

theorem merge_of_checking {findings : Finset Finding} (checking : view.status = .checking) :
    view.merge findings version false false =
      { view with version := some version, findings := view.findings ∪ findings } := by
  simp [merge, checking]

def settled (findings : Finset Finding) (version : Nat) : GateView :=
  if findings.Nonempty then ⟨.advisory, some "critic_findings", some version, findings⟩
  else ⟨.clear, none, none, ∅⟩

theorem settled_findings (findings : Finset Finding) (version : Nat) :
    (settled findings version).findings = findings := by
  unfold settled
  split
  · rfl
  · rename_i empty
    exact (Finset.not_nonempty_iff_eq_empty.mp empty).symm

theorem settled_open (findings : Finset Finding) (version : Nat) :
    ¬((settled findings version).status = .blocked ∨ (settled findings version).status = .overridden) ∧
      (settled findings version).status ≠ .checking := by
  unfold settled
  split <;> simp

theorem merge_of_open {findings : Finset Finding} {finished : Bool}
    (open_ : ¬(view.status = .blocked ∨ view.status = .overridden))
    (checked : view.status ≠ .checking ∨ finished = true) :
    view.merge findings version finished false = settled (view.findings ∪ findings) version := by
  have past : ¬(view.status = .checking ∧ ¬finished = true) := by tauto
  unfold merge
  dsimp only
  rw [if_neg open_, if_neg Bool.false_ne_true, if_neg past]
  rfl

theorem merge_comm : (view.merge technology version true blocked).merge critic version false false =
    (view.merge critic version false false).merge technology version true blocked := by
  have same := Finset.union_right_comm view.findings technology critic
  by_cases decided : view.status = .blocked ∨ view.status = .overridden
  · unfold merge
    simp only [if_pos decided, same]
  · have kept : ¬((view.merge critic version false false).status = .blocked ∨
        (view.merge critic version false false).status = .overridden) ∧
          (view.merge critic version false false).findings = view.findings ∪ critic := by
      by_cases checking : view.status = .checking
      · rw [merge_of_checking checking]
        exact ⟨decided, rfl⟩
      · rw [merge_of_open decided (Or.inl checking), settled_findings]
        exact ⟨(settled_open _ _).1, rfl⟩
    cases blocked with
    | true =>
        rw [merge_of_blocked decided, merge_of_decided (Or.inl rfl), merge_of_blocked kept.1, kept.2, same]
    | false =>
        rw [merge_of_open decided (Or.inr rfl), merge_of_open kept.1 (Or.inr rfl), kept.2,
          merge_of_open (settled_open _ _).1 (Or.inl (settled_open _ _).2), settled_findings, same]

theorem merge_settled {finished : Bool} {findings : Finset Finding}
    (checked : view.status ≠ .checking ∨ finished = true) :
    (view.merge findings version finished blocked).status ≠ .checking := by
  by_cases decided : view.status = .blocked ∨ view.status = .overridden
  · rw [merge_of_decided decided]
    rcases decided with held | held <;> simp [held]
  · cases blocked with
    | true => simp [merge_of_blocked decided]
    | false =>
        rw [merge_of_open decided checked]
        exact (settled_open _ _).2

end GateView

namespace QualityGate

variable {gate : QualityGate} {found : List Finding} {version : Nat} {finished blocked : Bool}

def view (gate : QualityGate) : GateView := ⟨gate.status, gate.kind, gate.version, gate.findings.toFinset⟩

theorem mem_mergedFindings {finding : Finding} :
    finding ∈ gate.mergedFindings found ↔ finding ∈ gate.findings ∨ finding ∈ found := by
  unfold mergedFindings findings
  generalize (gate.payload.map (·.findings)).getD [] = existing
  induction found generalizing existing with
  | nil => simp
  | cons next rest ih =>
      rw [List.foldl_cons, ih]
      split
      · rename_i known
        constructor
        · rintro (old | later)
          · exact Or.inl old
          · exact Or.inr (List.mem_cons_of_mem _ later)
        · rintro (old | new)
          · exact Or.inl old
          · rcases List.mem_cons.mp new with rfl | later
            · exact Or.inl known
            · exact Or.inr later
      · simp [or_assoc]

theorem mem_merge {finding : Finding} : finding ∈ (gate.merge found version finished blocked).findings ↔
    finding ∈ gate.findings ∨ finding ∈ found := by
  rw [← mem_mergedFindings]
  unfold merge
  dsimp only
  split
  · rfl
  · split
    · rfl
    · split
      · rfl
      · split
        · rfl
        · rename_i empty
          rw [not_not.mp empty]
          rfl

theorem view_merge : (gate.merge found version finished blocked).view =
    gate.view.merge found.toFinset version finished blocked := by
  have existing : (gate.merge found version finished blocked).findings.toFinset =
      gate.findings.toFinset ∪ found.toFinset := by
    ext finding
    simp [mem_merge]
  have empty : gate.mergedFindings found ≠ [] ↔ (gate.findings.toFinset ∪ found.toFinset).Nonempty := by
    simp only [ne_eq, List.eq_nil_iff_forall_not_mem, mem_mergedFindings, not_forall, not_not,
      Finset.Nonempty, Finset.mem_union, List.mem_toFinset]
  rw [view, existing]
  by_cases holds : gate.status = .blocked ∨ gate.status = .overridden
  · rw [GateView.merge_of_decided holds, merge_of_holds holds]
    rfl
  · unfold merge
    dsimp only
    rw [if_neg holds]
    cases blocked with
    | true =>
        rw [GateView.merge_of_blocked holds, if_pos rfl]
        rfl
    | false =>
        rw [if_neg Bool.false_ne_true]
        by_cases checking : gate.status = .checking ∧ ¬finished = true
        · obtain rfl : finished = false := by simpa using checking.2
          rw [GateView.merge_of_checking checking.1, if_pos checking]
          rfl
        · have ready : gate.view.status ≠ .checking ∨ finished = true := by
            rw [not_and_not_right] at checking
            exact or_iff_not_imp_left.mpr fun held => checking (not_not.mp held)
          have sets : gate.view.findings = gate.findings.toFinset := rfl
          rw [GateView.merge_of_open holds ready, if_neg checking, GateView.settled, sets]
          by_cases some : gate.mergedFindings found ≠ []
          · rw [if_pos some, if_pos (empty.mp some)]
            rfl
          · have none : ¬(gate.findings.toFinset ∪ found.toFinset).Nonempty := fun more => some (empty.mpr more)
            rw [if_neg some, if_neg none, Finset.not_nonempty_iff_eq_empty.mp none]
            rfl

end QualityGate

inductive GateEvent where
  | technologyCheck (version : Nat) (findings : List Finding)
  | criticReview (version : Nat) (findings : List Finding)
  | overrideQualityGate
  | sweepReads (cutoff : Int)
  | sweepWrites (position : Nat)

structure DraftGate where
  record : StageRecord
  seen : List Stage := []

namespace DraftGate

def locked (state : DraftGate) (result : Except StageError Committed) : DraftGate :=
  match result with
  | .error _ => state
  | .ok committed => { state with record := committed.record }

def sweptGate (checks : Checks) (seen : Stage) (gate : QualityGate) : QualityGate :=
  let found := recoveredGate checks seen
  { gate with
    status := found.status
    kind := if found.kind = seen.gate.kind then gate.kind else found.kind
    payload := found.payload }

def Stuck (stage : Stage) (cutoff : Int) : Prop :=
  stage.gate.status = .checking ∧
    ((stage.gate.payload.getD {}).checkingStartedAt.getD stage.updatedAt) < cutoff

instance (stage : Stage) (cutoff : Int) : Decidable (Stuck stage cutoff) :=
  inferInstanceAs (Decidable (_ ∧ _))

def step (checks : Checks) (state : DraftGate) (event : GateEvent × Int) : DraftGate :=
  let (event, now) := event
  match event with
  | .technologyCheck version findings => state.locked (state.record.technologyCheck now version findings)
  | .criticReview version findings => state.locked (state.record.criticReview now version findings)
  | .overrideQualityGate => state.locked (state.record.overrideQualityGate now)
  | .sweepReads cutoff =>
      if Stuck state.record.stage cutoff then { state with seen := state.seen ++ [state.record.stage] }
      else state
  | .sweepWrites position =>
      match state.seen[position]? with
      | none => state
      | some seen =>
          let stage := state.record.stage
          { record := state.record.withStage
              ((stage.touch now).withGate (sweptGate checks seen stage.gate))
            seen := state.seen.eraseIdx position }

theorem sweep_at_once {checks : Checks} {state : DraftGate} {cutoff now : Int} (idle : state.seen = [])
    (stuck : Stuck state.record.stage cutoff) :
    (state.step checks (.sweepReads cutoff, now)).step checks (.sweepWrites 0, now) =
      state.locked (state.record.recoverChecking checks now cutoff) := by
  have swept : sweptGate checks state.record.stage state.record.stage.gate =
      recoveredGate checks state.record.stage := by
    unfold sweptGate
    dsimp only
    split
    · rename_i same
      rw [← same]
      rfl
    · rfl
  have recovered : state.record.recoverChecking checks now cutoff = .ok {
      record := state.record.withStage ((state.record.stage.touch now).withGate
        (recoveredGate checks state.record.stage)) } := by
    simp [StageRecord.recoverChecking, require, stuck.1, stuck.2, bind, Except.bind, pure, Except.pure]
  have reads : state.step checks (.sweepReads cutoff, now) = { state with seen := [state.record.stage] } := by
    simp [step, stuck, idle]
  rw [reads, recovered]
  simp only [step, locked, List.getElem?_cons_zero, swept, List.eraseIdx_cons_zero, idle]

def delivered (checks : Checks) (record : StageRecord) (advisories : List Finding) (now : Int) : DraftGate where
  record := record.withStage (record.stage.markChecking checks advisories now)

def Intact (checks : Checks) (state : DraftGate) (event : GateEvent × Int) : Prop :=
  match event.1 with
  | .sweepWrites position => ∀ seen ∈ state.seen[position]?, ¬state.record.stage.gate.Holds ∧
      ∀ finding ∈ state.record.stage.gate.findings, finding ∈ (recoveredGate checks seen).findings
  | _ => True

instance (checks : Checks) (state : DraftGate) : ∀ event, Decidable (Intact checks state event)
  | (.sweepWrites _, _) => inferInstanceAs (Decidable (∀ seen ∈ (_ : Option Stage), _))
  | (.technologyCheck _ _, _) | (.criticReview _ _, _) | (.overrideQualityGate, _) | (.sweepReads _, _) =>
      isTrue trivial

def reported (version : Nat) : GateEvent → List Finding
  | .technologyCheck checked findings => if checked = version then findings else []
  | .criticReview checked findings => if checked = version then findings else []
  | _ => []

def blocks (version : Nat) : GateEvent → Bool
  | .technologyCheck checked findings => checked = version && anyBlocking findings
  | _ => false

variable {checks : Checks} {state : DraftGate} {event : GateEvent} {now : Int}

inductive Writes (checks : Checks) (state : DraftGate) (event : GateEvent) (gate : QualityGate) : Prop where
  | same (gate_eq : gate = state.record.stage.gate)
      (silent : reported state.record.stage.currentVersion event = [])
      (passes : blocks state.record.stage.currentVersion event = false)
  | merged {found : List Finding} {finished blocked : Bool}
      (reports : reported state.record.stage.currentVersion event = found)
      (blocking : blocks state.record.stage.currentVersion event = true → blocked = true)
      (gate_eq : gate = state.record.stage.gate.merge found state.record.stage.currentVersion finished blocked)
  | overridden (event_eq : event = .overrideQualityGate) (was : state.record.stage.gate.status = .blocked)
      (gate_eq : gate = { state.record.stage.gate with status := .overridden })
  | swept {position : Nat} {seen : Stage} (event_eq : event = .sweepWrites position)
      (found : state.seen[position]? = some seen) (gate_eq : gate = sweptGate checks seen state.record.stage.gate)

theorem locked_of_require {holds : Prop} [Decidable holds] {error : StageError} {after : StageRecord} :
    state.locked (do require holds error; return { record := after }) =
      if holds then { state with record := after } else state := by
  by_cases met : holds
  · simp [locked, require, met, bind, Except.bind, pure, Except.pure]
  · simp [locked, require, met, bind, Except.bind]

def merged (state : DraftGate) (found : List Finding) (now : Int) (finished blocked : Bool) : DraftGate :=
  { state with record := state.record.withStage ((state.record.stage.touch now).withGate
      (state.record.stage.gate.merge found state.record.stage.currentVersion finished blocked)) }

theorem step_technologyCheck (version : Nat) (findings : List Finding) :
    state.step checks (.technologyCheck version findings, now) =
      if state.record.stage.currentVersion = version ∧ state.record.stage.status = .draft then
        state.merged findings now true (anyBlocking findings)
      else state := by
  refine locked_of_require.trans ?_
  by_cases current : state.record.stage.currentVersion = version ∧ state.record.stage.status = .draft
  · rw [if_pos current, if_pos current, ← current.1]
    rfl
  · rw [if_neg current, if_neg current]

theorem step_criticReview (version : Nat) (findings : List Finding) :
    state.step checks (.criticReview version findings, now) =
      if state.record.stage.currentVersion = version then state.merged findings now false false
      else state := by
  refine locked_of_require.trans ?_
  by_cases current : state.record.stage.currentVersion = version
  · rw [if_pos current, if_pos current, ← current]
    rfl
  · rw [if_neg current, if_neg current]

theorem step_writes (checks : Checks) (event : GateEvent) (now : Int) (draft : state.record.stage.status = .draft) :
    Writes checks state event (state.step checks (event, now)).record.stage.gate ∧
      (state.step checks (event, now)).record.stage.status = .draft ∧
        (state.step checks (event, now)).record.stage.currentVersion = state.record.stage.currentVersion := by
  cases event with
  | technologyCheck version findings =>
      rw [step_technologyCheck]
      by_cases current : version = state.record.stage.currentVersion
      · subst current
        rw [if_pos ⟨rfl, draft⟩]
        refine ⟨.merged (if_pos rfl) ?_ rfl, draft, rfl⟩
        simp [blocks]
      · rw [if_neg fun both => current both.1.symm]
        exact ⟨.same rfl (if_neg current) (by simp [blocks, current]), draft, rfl⟩
  | criticReview version findings =>
      rw [step_criticReview]
      by_cases current : version = state.record.stage.currentVersion
      · subst current
        rw [if_pos rfl]
        exact ⟨.merged (if_pos rfl) (by simp [blocks]) rfl, draft, rfl⟩
      · rw [if_neg (Ne.symm current)]
        exact ⟨.same rfl (if_neg current) rfl, draft, rfl⟩
  | overrideQualityGate =>
      simp only [step]
      cases done : state.record.overrideQualityGate now with
      | error _ => exact ⟨.same rfl rfl rfl, draft, rfl⟩
      | ok committed =>
          simp only [StageRecord.overrideQualityGate, bind_eq_ok, require_eq_ok, pure_eq_ok] at done
          obtain ⟨_, _, _, blocked, rfl⟩ := done
          exact ⟨.overridden rfl (Stage.pinned_eq_true.mp blocked).1 rfl, draft, rfl⟩
  | sweepReads cutoff =>
      simp only [step]
      split
      · exact ⟨.same rfl rfl rfl, draft, rfl⟩
      · exact ⟨.same rfl rfl rfl, draft, rfl⟩
  | sweepWrites position =>
      simp only [step]
      split
      · exact ⟨.same rfl rfl rfl, draft, rfl⟩
      · rename_i seen found
        exact ⟨.swept rfl found rfl, draft, rfl⟩

structure Keeps (before after : QualityGate) (reports : List Finding) (blocking : Prop) : Prop where
  findings : ∀ finding ∈ before.findings ++ reports, finding ∈ after.findings
  holds : before.Holds ∨ blocking → after.Holds
  overridden : before.status = .overridden → after.status = .overridden

theorem Keeps.refl (gate : QualityGate) : Keeps gate gate [] False :=
  ⟨by simp, by simp, id⟩

theorem Keeps.trans {first second third : QualityGate} {reports more : List Finding} {blocking also : Prop}
    (former : Keeps first second reports blocking) (latter : Keeps second third more also) :
    Keeps first third (reports ++ more) (blocking ∨ also) where
  findings := by
    intro finding member
    rw [← List.append_assoc] at member
    refine latter.findings finding (List.mem_append.mpr ?_)
    rcases List.mem_append.mp member with early | late
    · exact Or.inl (former.findings finding early)
    · exact Or.inr late
  holds := by
    rintro (held | blocked | later)
    · exact latter.holds (Or.inl (former.holds (Or.inl held)))
    · exact latter.holds (Or.inl (former.holds (Or.inr blocked)))
    · exact latter.holds (Or.inr later)
  overridden held := latter.overridden (former.overridden held)

theorem keeps_merge (gate : QualityGate) (found : List Finding) (version : Nat) (finished blocked : Bool) :
    Keeps gate (gate.merge found version finished blocked) found (blocked = true) where
  findings := by
    intro finding member
    exact QualityGate.mem_merge.mpr (List.mem_append.mp member)
  holds := by
    by_cases held : gate.Holds
    · intro _
      rw [QualityGate.merge_of_holds held]
      exact held
    · rintro (holds | rfl)
      · exact absurd holds held
      · have open_ : ¬(gate.status = .blocked ∨ gate.status = .overridden) := held
        left
        unfold QualityGate.merge
        dsimp only
        rw [if_neg open_, if_pos rfl]
  overridden := by
    intro accepted
    rw [QualityGate.merge_of_holds (Or.inr accepted)]
    exact accepted

theorem Writes.keeps {gate : QualityGate} (writes : Writes checks state event gate)
    (intact : Intact checks state (event, now)) :
    Keeps state.record.stage.gate gate (reported state.record.stage.currentVersion event)
      (blocks state.record.stage.currentVersion event = true) := by
  cases writes with
  | same gate_eq silent passes =>
      subst gate_eq
      rw [silent, passes]
      exact ⟨by simp, by simp, id⟩
  | merged reports blocking gate_eq =>
      subst gate_eq reports
      have kept := keeps_merge state.record.stage.gate (reported state.record.stage.currentVersion event)
        state.record.stage.currentVersion
      exact { kept _ _ with holds := fun held => (kept _ _).holds (held.imp_right blocking) }
  | overridden event_eq was gate_eq =>
      subst event_eq gate_eq
      refine ⟨?_, fun _ => Or.inr rfl, fun _ => rfl⟩
      intro finding member
      have old : finding ∈ state.record.stage.gate.findings := by simpa [reported] using member
      exact old
  | swept event_eq found gate_eq =>
      subst event_eq gate_eq
      obtain ⟨open_, written⟩ := intact _ found
      refine ⟨?_, ?_, fun accepted => absurd (Or.inr accepted) open_⟩
      · intro finding member
        exact written finding (by simpa [reported] using member)
      · rintro (held | blocked)
        · exact absurd held open_
        · contradiction

open Histories

theorem play_keeps {events : List (GateEvent × Int)} (draft : state.record.stage.status = .draft)
    (intact : Along (step checks) (Intact checks) state events) :
    Keeps state.record.stage.gate (play (step checks) state events).record.stage.gate
      (events.flatMap fun event => reported state.record.stage.currentVersion event.1)
      (∃ event ∈ events, blocks state.record.stage.currentVersion event.1 = true) := by
  induction events generalizing state with
  | nil => simpa using Keeps.refl state.record.stage.gate
  | cons event rest ih =>
      obtain ⟨writes, still, version⟩ := step_writes checks event.1 event.2 draft
      have later := ih still intact.2
      rw [version] at later
      have both := (writes.keeps intact.1).trans later
      rw [List.flatMap_cons]
      simp only [List.exists_mem_cons_iff]
      exact both

theorem step_overrideQualityGate : state.step checks (.overrideQualityGate, now) =
    if state.record.stage.status = .draft ∧ state.record.stage.pinned .blocked = true then
      { state with record := state.record.withStage ((state.record.stage.touch now).withGate
          { state.record.stage.gate with status := .overridden }) }
    else state := by
  simp only [step, StageRecord.overrideQualityGate]
  by_cases draft : state.record.stage.status = .draft
  · by_cases blocked : state.record.stage.pinned .blocked = true
    · simp [locked, require, draft, blocked, bind, Except.bind, pure, Except.pure]
    · simp [locked, require, draft, blocked, bind, Except.bind]
  · simp [locked, require, draft, bind, Except.bind]

structure Alike (first second : DraftGate) : Prop where
  seen : first.seen = second.seen
  view : first.record.stage.gate.view = second.record.stage.gate.view
  version : first.record.stage.currentVersion = second.record.stage.currentVersion
  draft : first.record.stage.status = .draft ∧ second.record.stage.status = .draft
  settled : first.record.stage.gate.view.status ≠ .checking

variable {first second : DraftGate}

theorem Alike.status (alike : Alike first second) :
    first.record.stage.gate.status = second.record.stage.gate.status :=
  congrArg (·.status) alike.view

theorem recoveredGate_settled (checks : Checks) (stage : Stage) :
    (recoveredGate checks stage).status ≠ .checking := by
  unfold recoveredGate
  dsimp only
  split
  · exact GateStatus.noConfusion
  · exact GateStatus.noConfusion

theorem view_merged (state : DraftGate) (found : List Finding) (now : Int) (finished blocked : Bool) :
    (state.merged found now finished blocked).record.stage.gate.view =
      state.record.stage.gate.view.merge found.toFinset state.record.stage.currentVersion finished blocked :=
  QualityGate.view_merge

theorem Alike.merged (alike : Alike first second) (found : List Finding) (now : Int)
    (finished blocked : Bool) :
    Alike (first.merged found now finished blocked) (second.merged found now finished blocked) where
  seen := alike.seen
  view := by rw [view_merged, view_merged, alike.view, alike.version]
  version := alike.version
  draft := alike.draft
  settled := by
    rw [view_merged]
    exact GateView.merge_settled (Or.inl alike.settled)

theorem Alike.step (alike : Alike first second) (event : GateEvent × Int) :
    Alike (first.step checks event) (second.step checks event) := by
  obtain ⟨event, now⟩ := event
  cases event with
  | technologyCheck version findings =>
      rw [step_technologyCheck, step_technologyCheck, ← alike.version, alike.draft.1, alike.draft.2]
      split
      · exact alike.merged findings now true (anyBlocking findings)
      · exact alike
  | criticReview version findings =>
      rw [step_criticReview, step_criticReview, ← alike.version]
      split
      · exact alike.merged findings now false false
      · exact alike
  | overrideQualityGate =>
      have pinned : first.record.stage.pinned .blocked = second.record.stage.pinned .blocked := by
        have gate : first.record.stage.gate.version = second.record.stage.gate.version :=
          congrArg (·.version) alike.view
        rw [Stage.pinned, Stage.pinned, alike.status, gate, alike.version]
      rw [step_overrideQualityGate, step_overrideQualityGate, ← pinned, alike.draft.1, alike.draft.2]
      split
      · refine ⟨alike.seen, ?_, alike.version, alike.draft, GateStatus.noConfusion⟩
        exact congrArg (fun view : GateView => { view with status := .overridden }) alike.view
      · exact alike
  | sweepReads cutoff =>
      have idle (state : DraftGate) (settled : state.record.stage.gate.status ≠ .checking) :
          state.step checks (.sweepReads cutoff, now) = state :=
        if_neg fun stuck => settled stuck.1
      rw [idle first alike.settled, idle second (alike.status ▸ alike.settled)]
      exact alike
  | sweepWrites position =>
      simp only [DraftGate.step]
      rw [← alike.seen]
      split
      · exact alike
      · rename_i seen found
        let swept := recoveredGate checks seen
        refine ⟨by simp only [alike.seen], ?_, alike.version, alike.draft, ?_⟩
        · exact congrArg (fun view : GateView => {
            status := swept.status
            kind := if swept.kind = seen.gate.kind then view.kind else swept.kind
            version := view.version
            findings := swept.findings.toFinset : GateView }) alike.view
        · exact recoveredGate_settled checks seen

theorem swap_merges (checks : Checks) (draft : state.record.stage.status = .draft) (checked reviewed : Nat)
    (technology critic : List Finding) (first second : Int) :
    let technologyFirst := play (step checks) state
      [(.technologyCheck checked technology, first), (.criticReview reviewed critic, second)]
    let criticFirst := play (step checks) state
      [(.criticReview reviewed critic, second), (.technologyCheck checked technology, first)]
    technologyFirst = criticFirst ∨ Alike technologyFirst criticFirst := by
  simp only [play_cons, play_nil]
  have version (found : List Finding) (now : Int) (finished blocked : Bool) :
      (state.merged found now finished blocked).record.stage.currentVersion =
        state.record.stage.currentVersion := rfl
  have still (found : List Finding) (now : Int) (finished blocked : Bool) :
      (state.merged found now finished blocked).record.stage.status = .draft := draft
  by_cases current : state.record.stage.currentVersion = checked
  · by_cases same : state.record.stage.currentVersion = reviewed
    · right
      have technologyFirst : (state.step checks (.technologyCheck checked technology, first)).step checks
          (.criticReview reviewed critic, second) =
            (state.merged technology first true (anyBlocking technology)).merged critic second false false := by
        rw [step_technologyCheck, if_pos ⟨current, draft⟩, step_criticReview, version, if_pos same]
      have criticFirst : (state.step checks (.criticReview reviewed critic, second)).step checks
          (.technologyCheck checked technology, first) =
            (state.merged critic second false false).merged technology first true (anyBlocking technology) := by
        rw [step_criticReview, if_pos same, step_technologyCheck, version, still, if_pos ⟨current, rfl⟩]
      rw [technologyFirst, criticFirst]
      refine ⟨rfl, ?_, rfl, ⟨draft, draft⟩, ?_⟩
      · rw [view_merged, view_merged, view_merged, view_merged, version, version]
        exact GateView.merge_comm
      · rw [view_merged, view_merged, version]
        exact GateView.merge_settled (Or.inl (GateView.merge_settled (Or.inr rfl)))
    · left
      have silent (state' : DraftGate)
          (kept : state'.record.stage.currentVersion = state.record.stage.currentVersion) :
          state'.step checks (.criticReview reviewed critic, second) = state' := by
        rw [step_criticReview, kept, if_neg same]
      rw [silent state rfl, silent]
      rw [step_technologyCheck, if_pos ⟨current, draft⟩, version]
  · left
    have silent (state' : DraftGate)
        (kept : state'.record.stage.currentVersion = state.record.stage.currentVersion) :
        state'.step checks (.technologyCheck checked technology, first) = state' := by
      rw [step_technologyCheck, kept, if_neg fun both => current both.1]
    rw [silent state rfl, silent]
    rw [step_criticReview]
    split <;> rfl

theorem Alike.play (alike : Alike first second) (events : List (GateEvent × Int)) :
    Alike (Histories.play (DraftGate.step checks) first events)
      (Histories.play (DraftGate.step checks) second events) := by
  induction events generalizing first second with
  | nil => exact alike
  | cons event rest ih => exact ih (alike.step event)

theorem play_draft (checks : Checks) (draft : state.record.stage.status = .draft) (events : List (GateEvent × Int)) :
    (play (step checks) state events).record.stage.status = .draft := by
  induction events generalizing state with
  | nil => exact draft
  | cons event rest ih => exact ih (step_writes checks event.1 event.2 draft).2.1

theorem delivered_holds {record : StageRecord} (advisories : List Finding) (delivery : Int)
    (found : anyBlocking (checks.localSafety record.stage.type record.stage.text []) = true) :
    (delivered checks record advisories delivery).record.stage.gate.Holds := by
  simp only [delivered, StageRecord.withStage_stage, Stage.markChecking, Stage.withGate_gate, Stage.checkingGate]
  rw [if_pos found]
  exact (keeps_merge _ _ _ _ _).holds (Or.inr rfl)

/-- The findings of a draft's gate and its decision, whatever the order of the background writers, as long
as every sweep leaves them intact. -/
theorem intact_sweeps_keep_decisions (checks : Checks) (record : StageRecord)
    (draft : record.stage.status = .draft) (advisories : List Finding) (delivery : Int)
    (events : List (GateEvent × Int))
    (intact : Along (step checks) (Intact checks) (delivered checks record advisories delivery) events) :
    let start := delivered checks record advisories delivery
    let gate := (play (step checks) start events).record.stage.gate
    let version := record.stage.currentVersion
    (∀ finding ∈ start.record.stage.gate.findings ++ events.flatMap (fun event => reported version event.1),
      finding ∈ gate.findings) ∧
    (anyBlocking (checks.localSafety record.stage.type record.stage.text []) = true ∨
      (∃ event ∈ events, blocks version event.1 = true) → gate.Holds) ∧
    (∀ front back, events = front ++ back →
      (play (step checks) start front).record.stage.gate.status = .overridden → gate.status = .overridden) ∧
    ∀ front back checked technology first reviewed critic second,
      events = front ++ (.technologyCheck checked technology, first) ::
        (.criticReview reviewed critic, second) :: back →
      let swapped := (play (step checks) start (front ++ (.criticReview reviewed critic, second) ::
        (.technologyCheck checked technology, first) :: back)).record.stage.gate
      swapped.status = gate.status ∧ ∀ finding, finding ∈ swapped.findings ↔ finding ∈ gate.findings := by
  intro start gate version
  have still : start.record.stage.status = .draft := draft
  have kept : Keeps start.record.stage.gate gate _ _ := play_keeps still intact
  refine ⟨kept.findings, ?_, ?_, ?_⟩
  · rintro (found | blocked)
    · exact kept.holds (Or.inl (delivered_holds advisories delivery found))
    · exact kept.holds (Or.inr blocked)
  · rintro front back rfl overridden
    have later := play_keeps (play_draft checks still front) (along_append.mp intact).2
    rw [← play_append] at later
    exact later.overridden overridden
  · rintro front back checked technology first reviewed critic second rfl
    intro swapped
    have swap := swap_merges checks (play_draft checks still front) checked reviewed technology critic first second
    have views : swapped.view = gate.view := by
      simp only [swapped, gate, play_append]
      rcases swap with equal | alike
      · exact congrArg (fun state : DraftGate => (play (step checks) state back).record.stage.gate.view) equal.symm
      · exact (alike.play back).view.symm
    refine ⟨congrArg (·.status) views, ?_⟩
    intro finding
    have sets : swapped.findings.toFinset = gate.findings.toFinset := congrArg (·.findings) views
    rw [← List.mem_toFinset, sets, List.mem_toFinset]

def sampleWriters : List (GateEvent × Int) :=
  [ (.criticReview 1 [{ payload := "vague" }], 3), (.sweepReads 0, 4)
  , (.technologyCheck 1 [{ payload := "end of life", blocking := true }], 5), (.overrideQualityGate, 6) ]

def sampleDraft : StageRecord where
  stage := { type := .spec, content := some "text", status := .draft, currentVersion := 1 }

theorem intact_sweeps_keep_decisions_sample :
    Along (step sampleChecks) (Intact sampleChecks) (delivered sampleChecks sampleDraft [] 1) sampleWriters ∧
      (play (step sampleChecks) (delivered sampleChecks sampleDraft [] 1) sampleWriters).record.stage.gate.Holds := by
  have intact : Along (step sampleChecks) (Intact sampleChecks) (delivered sampleChecks sampleDraft [] 1)
      sampleWriters := by decide
  exact ⟨intact, (intact_sweeps_keep_decisions sampleChecks sampleDraft rfl [] 1 sampleWriters intact).2.1
    (Or.inr (by decide))⟩

theorem late_sweep_replaces_decision :
    let finding : Finding := { payload := "end of life", blocking := true }
    let events : List (GateEvent × Int) :=
      [ (.sweepReads 100, 101), (.technologyCheck 1 [finding], 102), (.overrideQualityGate, 103)
      , (.sweepWrites 0, 104) ]
    let gate (count : Nat) := (play (step sampleChecks) (delivered sampleChecks sampleDraft [] 1)
      (events.take count)).record.stage.gate
    (gate 3).status = .overridden ∧ (gate 4).status = .advisory ∧ finding ∉ (gate 4).findings := by
  decide

end DraftGate

end Thought2Build.Pipeline
