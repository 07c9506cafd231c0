import Thought2Build.Evals.CoverageFiguresCore
import Thought2Build.Evals.RequirementCoverage

/-!
Which steps of a history keep the coverage figure that of the harness text it is shown with. The query takes the
newest row that has a figure, whichever version the row belongs to, and a new text has no row of its own.
-/

namespace Thought2Build.Evals

open Dictionaries Histories Pipeline
open Integrations (Texts sampleTexts)

variable {texts : Texts} {cases : LetterCases} {mergeHarnessPatch : DocText → DocText → DocText}
  {book : HarnessBook} {rows : List (Nat × Option Int)} {number : Nat} {workspaceId : Nat} {ids : List Nat}
  {table : List EvaluatedVersion}

def newestRow : List (Nat × Option Int) → Option (Nat × Int)
  | [] => none
  | row :: rest => (newestRow rest).or (row.2.map (row.1, ·))

def overtaken (number : Nat) : List (Nat × Option Int) → Bool
  | [] => false
  | row :: rest => if row.1 = number then (newestRow rest).isSome else overtaken number rest

def Holds (table : List EvaluatedVersion) (workspaceId : Nat) (rows : List (Nat × Option Int)) : Prop :=
  (table.filter fun row => row.workspaceId = workspaceId ∧ row.stageType = .harness) =
    rows.map fun row => { workspaceId, stageType := .harness, coveragePercent := row.2 }

theorem newestRow_findSome (rows : List (Nat × Option Int)) :
    rows.reverse.findSome? (·.2) = (newestRow rows).map (·.2) := by
  induction rows with
  | nil => rfl
  | cons row rest ih =>
      rw [List.reverse_cons, List.findSome?_append, ih, newestRow]
      cases newestRow rest with
      | some newest => rfl
      | none =>
          obtain ⟨version, figure⟩ := row
          cases figure <;> rfl

theorem lookup_coverageRows (asked : workspaceId ∈ ids) (holds : Holds table workspaceId rows) :
    (coverageRows ids table).lookup workspaceId = (newestRow rows).map (·.2) := by
  have found (newer : List EvaluatedVersion) : (newer.filterMap fun row =>
      if row.workspaceId ∈ ids ∧ row.stageType = .harness then row.coveragePercent.map (row.workspaceId, ·)
      else none).lookup workspaceId =
      (newer.filter fun row => row.workspaceId = workspaceId ∧ row.stageType = .harness).findSome?
        (·.coveragePercent) := by
    induction newer with
    | nil => rfl
    | cons row older ih =>
        obtain ⟨owner, stageType, figure⟩ := row
        rw [List.filterMap_cons]
        by_cases own : owner = workspaceId ∧ stageType = .harness
        · obtain ⟨rfl, rfl⟩ := own
          cases figure with
          | none => simpa [asked] using ih
          | some percent => simp [asked]
        · rw [List.filter_cons_of_neg (by simpa using own), ← ih]
          by_cases queried : owner ∈ ids ∧ stageType = .harness
          · have other : (workspaceId == owner) = false :=
              beq_eq_false_iff_ne.mpr fun same => own ⟨same.symm, queried.2⟩
            cases figure with
            | none => simp [queried]
            | some percent => simp [queried, List.lookup_cons, other]
          · simp [queried]
  rw [coverageRows, found, List.filter_reverse, holds, ← List.map_reverse, List.findSome?_map,
    ← newestRow_findSome]
  rfl

theorem lookup_summaries (ids : List Nat) (table : List EvaluatedVersion) (workspaceId : Nat) :
    (deriveCoverageSummaries ids table).lookup workspaceId =
      if workspaceId ∈ ids then
        some (((coverageRows (ids.take maxBatchSize) table).lookup workspaceId).map coverageSummary)
      else none := by
  rw [deriveCoverageSummaries]
  generalize coverageRows (ids.take maxBatchSize) table = queried
  induction ids with
  | nil => rfl
  | cons id rest ih =>
      rw [List.map_cons, List.lookup_cons]
      by_cases here : workspaceId = id
      · simp [here]
      · rw [beq_eq_false_iff_ne.mpr here, ih]
        simp [here]

section

variable (texts cases)

def HarnessVersion.figure (version : HarnessVersion) : Option Nat :=
  match version.scoring with
  | .scored specContent => deterministicCoveragePercent texts cases version.content specContent
  | _ => none

namespace HarnessBook

variable (book : HarnessBook)

def figureOf (number : Nat) : Option Nat := (book.versions.lookup number).bind (·.figure texts cases)

def current : Option Nat := deterministicCoveragePercent texts cases book.content book.specContent

def FigureCurrent : Prop :=
  ∀ (workspaceId : Nat) (ids : List Nat) (table : List EvaluatedVersion), Holds table workspaceId book.rows →
    ∀ summary, (deriveCoverageSummaries ids table).lookup workspaceId = some (some summary) →
      (book.current texts cases).map Int.ofNat = some summary.percent

def Fits (content specContent : DocText) : Prop :=
  ∀ row ∈ newestRow book.rows,
    book.figureOf texts cases row.1 = deterministicCoveragePercent texts cases content specContent

instance (content specContent : DocText) : Decidable (book.Fits texts cases content specContent) :=
  inferInstanceAs (Decidable (∀ _ ∈ newestRow book.rows, _ = _))

/-- A text that replaces the harness or the spec fits the newest figure, and a score that becomes the newest figure
fits the current text. -/
def Careful (mergeHarnessPatch : DocText → DocText → DocText) : BookEvent → Prop
  | .generate accumulated => book.Fits texts cases accumulated book.specContent
  | .patch accumulated => book.Fits texts cases (mergeHarnessPatch book.content accumulated) book.specContent
  | .edit newContent => book.Fits texts cases newContent book.specContent
  | .rollback versionNumber =>
      ∀ version ∈ book.versions.lookup versionNumber, book.Fits texts cases version.content book.specContent
  | .editSpec newContent => book.Fits texts cases book.content newContent
  | .score versionNumber =>
      ∀ version ∈ book.versions.lookup versionNumber, ∀ specContent, version.scoring = .running specContent →
        overtaken versionNumber book.rows = true ∨
          deterministicCoveragePercent texts cases version.content specContent = none ∨
          deterministicCoveragePercent texts cases version.content specContent = book.current texts cases
  | _ => True

structure Sound : Prop where
  numbers : ∀ entry ∈ book.versions, entry.1 ≤ book.currentVersion
  distinct : (book.rows.map (·.1)).Nodup
  coverage : ∀ row ∈ book.rows, row.2 = (book.figureOf texts cases row.1).map Int.ofNat
  listed : ∀ number, book.rows.lookup number = none → book.figureOf texts cases number = none

structure Writes (after : HarnessBook) (number : Nat) (figure : Option Nat) : Prop where
  numbers : ∀ entry ∈ after.versions, entry.1 ≤ after.currentVersion
  rows : after.rows = put number (figure.map Int.ofNat) book.rows
  blank : book.figureOf texts cases number = none
  figures : ∀ other, after.figureOf texts cases other =
    if other = number then figure else book.figureOf texts cases other

end HarnessBook

end

theorem mem_newestRow {row : Nat × Int} (newest : row ∈ newestRow rows) : (row.1, some row.2) ∈ rows := by
  induction rows with
  | nil => simp [newestRow] at newest
  | cons first rest ih =>
      rw [newestRow, Option.mem_def, Option.or_eq_some_iff] at newest
      rcases newest with later | ⟨_, here⟩
      · exact List.mem_cons_of_mem _ (ih later)
      · obtain ⟨version, figure⟩ := first
        obtain ⟨percent, rfl, rfl⟩ := Option.map_eq_some_iff.mp here
        exact List.mem_cons_self

theorem newestRow_put (blank : ∀ percent, (number, some percent) ∉ rows) (figure : Option Int) :
    newestRow (put number figure rows) =
      if overtaken number rows then newestRow rows else (figure.map (number, ·)).or (newestRow rows) := by
  induction rows with
  | nil =>
      cases figure <;> rfl
  | cons row rest ih =>
      have later := ih fun percent member => blank percent (List.mem_cons_of_mem _ member)
      obtain ⟨version, old⟩ := row
      rw [put, overtaken]
      by_cases here : version = number
      · subst here
        have none : old = none := by
          cases old with
          | none => rfl
          | some percent => exact absurd List.mem_cons_self (blank percent)
        subst none
        rw [if_pos rfl, if_pos rfl, newestRow, newestRow, Option.map_none, Option.or_none]
        cases newestRow rest with
        | none => simp
        | some newest => rfl
      · rw [if_neg here, if_neg here, newestRow, newestRow, later]
        split
        · rfl
        · rw [Option.or_assoc]

theorem percent_le (texts : Texts) (cases : LetterCases) (content specContent : DocText) :
    ∀ percent ∈ deterministicCoveragePercent texts cases content specContent, percent ≤ 100 := by
  intro percent found
  rw [deterministicCoveragePercent] at found
  split at found
  · simp at found
  · rename_i positive
    obtain rfl := Option.some.inj found
    exact roundQuotient_le (Nat.pos_of_ne_zero positive) coverageRatio_le

namespace HarnessBook

theorem figureOf_le (book : HarnessBook) (number : Nat) :
    ∀ percent ∈ book.figureOf texts cases number, percent ≤ 100 := by
  intro percent found
  rw [figureOf] at found
  obtain ⟨version, _, figure⟩ := Option.bind_eq_some_iff.mp found
  unfold HarnessVersion.figure at figure
  split at figure
  · exact percent_le texts cases _ _ percent figure
  · simp at figure

theorem Sound.newest (sound : Sound texts cases book) {row : Nat × Int} (newest : row ∈ newestRow book.rows) :
    ∃ percent ≤ 100, book.figureOf texts cases row.1 = some percent ∧ row.2 = Int.ofNat percent := by
  have coverage := sound.coverage _ (mem_newestRow newest)
  obtain ⟨percent, found, same⟩ := Option.map_eq_some_iff.mp coverage.symm
  exact ⟨percent, figureOf_le book row.1 percent found, found, same.symm⟩

theorem Sound.current_iff (sound : Sound texts cases book) :
    book.FigureCurrent texts cases ↔ book.Fits texts cases book.content book.specContent := by
  constructor
  · intro current row newest
    obtain ⟨percent, small, figure, same⟩ := sound.newest newest
    have holds : Holds (book.rows.map fun row => ⟨0, .harness, row.2⟩) 0 book.rows := by
      simp [Holds, List.filter_map, Function.comp_def]
    have shown := current 0 [0] _ holds (coverageSummary row.2) (by
      have asked : 0 ∈ [0].take maxBatchSize := List.mem_singleton_self 0
      rw [lookup_summaries, if_pos (List.mem_singleton_self 0), lookup_coverageRows asked holds,
        Option.mem_def.mp newest]
      rfl)
    obtain ⟨covered, here, equal⟩ := Option.map_eq_some_iff.mp shown
    rw [same, coverageSummary] at equal
    rw [figure]
    refine Eq.trans ?_ here.symm
    rw [Option.some_inj]
    simp only [Int.ofNat_eq_natCast] at equal
    omega
  · intro fits workspaceId ids table holds summary shown
    rw [lookup_summaries] at shown
    split at shown
    · obtain ⟨percent, found, rfl⟩ := Option.map_eq_some_iff.mp (Option.some.inj shown)
      have asked : workspaceId ∈ ids.take maxBatchSize := by
        have member := mem_of_lookup found
        rw [coverageRows, List.mem_filterMap] at member
        obtain ⟨row, _, kept⟩ := member
        split at kept
        · rename_i queried
          obtain ⟨_, _, same⟩ := Option.map_eq_some_iff.mp kept
          obtain ⟨rfl, _⟩ := Prod.mk.inj same
          exact queried.1
        · simp at kept
      rw [lookup_coverageRows asked holds] at found
      obtain ⟨row, newest, rfl⟩ := Option.map_eq_some_iff.mp found
      obtain ⟨percent, small, figure, same⟩ := sound.newest newest
      have covered := (fits row newest).symm.trans figure
      rw [HarnessBook.current, covered, same, coverageSummary]
      simp only [Option.map_some, Option.some_inj, Int.ofNat_eq_natCast]
      omega
    · simp at shown

theorem fits_congr {other : HarnessBook} {content specContent : DocText} (rows : other.rows = book.rows)
    (figures : ∀ row ∈ newestRow book.rows, other.figureOf texts cases row.1 = book.figureOf texts cases row.1) :
    other.Fits texts cases content specContent ↔ book.Fits texts cases content specContent := by
  unfold Fits
  rw [rows]
  exact forall₂_congr fun row newest => by rw [figures row newest]

theorem figureOf_save (sound : Sound texts cases book) (content : DocText) (number : Nat) :
    (book.save content).figureOf texts cases number = book.figureOf texts cases number := by
  rw [figureOf, save, lookup_put]
  split
  · rename_i new
    have unknown : book.versions.lookup number = none := by
      cases found : book.versions.lookup number with
      | none => rfl
      | some version =>
          have below := sound.numbers _ (mem_of_lookup found)
          dsimp only at below
          omega
    rw [figureOf, unknown]
    rfl
  · rfl

theorem Sound.save (sound : Sound texts cases book) (content : DocText) : Sound texts cases (book.save content) where
  numbers := by
    intro entry member
    rcases mem_put member with rfl | old
    · exact le_rfl
    · exact (sound.numbers entry old).trans (Nat.le_succ _)
  distinct := sound.distinct
  coverage row member := by
    rw [figureOf_save sound]
    exact sound.coverage row member
  listed number absent := (figureOf_save sound content number).trans (sound.listed number absent)

theorem figureOf_withScoring {version : HarnessVersion} {scoring : Scoring} {other : Nat} :
    (book.withScoring number version scoring).figureOf texts cases other =
      if other = number then HarnessVersion.figure texts cases { version with scoring }
      else book.figureOf texts cases other := by
  rw [figureOf, withScoring, lookup_put]
  split <;> rfl

theorem Sound.withScoring (sound : Sound texts cases book) {version : HarnessVersion} (scoring : Scoring)
    (found : book.versions.lookup number = some version)
    (same : HarnessVersion.figure texts cases { version with scoring } = version.figure texts cases) :
    Sound texts cases (book.withScoring number version scoring) ∧
      ∀ other, (book.withScoring number version scoring).figureOf texts cases other =
        book.figureOf texts cases other := by
  have figures (other : Nat) : (book.withScoring number version scoring).figureOf texts cases other =
      book.figureOf texts cases other := by
    rw [figureOf_withScoring]
    split
    · rename_i here
      rw [same, here, figureOf, found]
      rfl
    · rfl
  refine ⟨⟨?_, sound.distinct, fun row member => ?_, fun other absent => ?_⟩, figures⟩
  · intro entry member
    rcases mem_put member with rfl | old
    · exact sound.numbers (number, version) (mem_of_lookup found)
    · exact sound.numbers entry old
  · rw [figures]
    exact sound.coverage row member
  · exact (figures other).trans (sound.listed other absent)

theorem current_of_same {other : HarnessBook} (sound : Sound texts cases other) (rows : other.rows = book.rows)
    (figures : ∀ number, other.figureOf texts cases number = book.figureOf texts cases number) :
    other.FigureCurrent texts cases ↔ book.Fits texts cases other.content other.specContent :=
  sound.current_iff.trans (fits_congr rows fun row _ => figures row.1)

theorem current_save (sound : Sound texts cases book) (content : DocText) :
    (book.save content).FigureCurrent texts cases ↔ book.Fits texts cases content book.specContent :=
  current_of_same (sound.save content) rfl (figureOf_save sound content)

theorem step_patch (sound : Sound texts cases book) (accumulated : DocText) :
    Sound texts cases (book.patch mergeHarnessPatch accumulated) ∧
      ((book.patch mergeHarnessPatch accumulated).FigureCurrent texts cases ↔
        book.Fits texts cases (mergeHarnessPatch book.content accumulated) book.specContent) := by
  rw [patch]
  split
  · rename_i same
    rw [same]
    exact ⟨sound, sound.current_iff⟩
  · exact ⟨sound.save _, current_save sound _⟩

theorem step_rollback (sound : Sound texts cases book) (current : book.FigureCurrent texts cases) (number : Nat) :
    Sound texts cases (book.rollback number) ∧
      ((book.rollback number).FigureCurrent texts cases ↔
        ∀ version ∈ book.versions.lookup number, book.Fits texts cases version.content book.specContent) := by
  rw [rollback]
  cases found : book.versions.lookup number with
  | none => exact ⟨sound, fun _ version member => by simp at member, fun _ => current⟩
  | some version =>
      simp only [Option.mem_def, Option.some_inj, forall_eq']
      split
      · rename_i inPlace
        rw [inPlace.2]
        exact ⟨sound, sound.current_iff⟩
      · exact ⟨sound.save _, current_save sound _⟩

theorem Writes.sound {after : HarnessBook} {figure : Option Nat} (sound : Sound texts cases book)
    (writes : Writes texts cases book after number figure) : Sound texts cases after := by
  have distinct : (after.rows.map (·.1)).Nodup := by
    rw [writes.rows]
    exact nodup_put sound.distinct _ _
  refine ⟨writes.numbers, distinct, fun row member => ?_, fun other absent => ?_⟩
  · rw [writes.figures]
    split
    · rename_i here
      have found : after.rows.lookup row.1 = some row.2 := lookup_of_mem distinct member
      rw [writes.rows, lookup_put, if_pos here] at found
      exact (Option.some.inj found).symm
    · rename_i other
      rw [writes.rows] at member
      rcases mem_put member with rfl | old
      · exact absurd rfl other
      · exact sound.coverage row old
  · rw [writes.rows, lookup_put] at absent
    rw [writes.figures]
    split at absent
    · simp at absent
    · rename_i away
      rw [if_neg away]
      exact sound.listed other absent

theorem Writes.fits {after : HarnessBook} {figure : Option Nat} (sound : Sound texts cases book)
    (writes : Writes texts cases book after number figure) (content specContent : DocText) :
    after.Fits texts cases content specContent ↔
      if overtaken number book.rows = true ∨ figure = none then book.Fits texts cases content specContent
      else figure = deterministicCoveragePercent texts cases content specContent := by
  have blank : ∀ percent, (number, some percent) ∉ book.rows := by
    intro percent member
    have coverage := sound.coverage _ member
    rw [writes.blank] at coverage
    simp at coverage
  have newest := newestRow_put blank (figure.map Int.ofNat)
  have same : newestRow after.rows = newestRow book.rows →
      (after.Fits texts cases content specContent ↔ book.Fits texts cases content specContent) := by
    intro rows
    unfold Fits
    rw [rows]
    refine forall₂_congr fun row member => ?_
    rw [writes.figures, if_neg]
    rintro rfl
    exact blank row.2 (mem_newestRow member)
  rw [← writes.rows] at newest
  split
  · rename_i keeps
    refine same (newest.trans ?_)
    rcases keeps with late | none
    · rw [if_pos late]
    · rw [none, Option.map_none, Option.map_none, Option.none_or, ite_self]
  · rename_i changes
    obtain ⟨late, some_⟩ := not_or.mp changes
    obtain ⟨percent, rfl⟩ := Option.ne_none_iff_exists'.mp some_
    rw [if_neg late] at newest
    unfold Fits
    rw [newest]
    simp [writes.figures]

theorem step_persistStructural (sound : Sound texts cases book) (current : book.FigureCurrent texts cases)
    (number : Nat) : Sound texts cases (book.persistStructural number) ∧
      (book.persistStructural number).FigureCurrent texts cases := by
  rw [persistStructural]
  split
  · exact ⟨sound, current⟩
  · rename_i fresh
    obtain ⟨_, listed⟩ := not_or.mp fresh
    have absent : book.rows.lookup number = none := Option.not_isSome_iff_eq_none.mp listed
    have blank := sound.listed number absent
    have writes : Writes texts cases book { book with rows := put number none book.rows } number none := by
      refine ⟨sound.numbers, rfl, blank, fun other => ?_⟩
      split
      · rename_i here
        exact here ▸ blank
      · rfl
    have kept := writes.sound sound
    refine ⟨kept, kept.current_iff.mpr ((writes.fits sound _ _).mpr ?_)⟩
    rw [if_pos (.inr rfl)]
    exact sound.current_iff.mp current

theorem step_score (sound : Sound texts cases book) (current : book.FigureCurrent texts cases) (number : Nat) :
    Sound texts cases (book.score texts cases number) ∧
      ((book.score texts cases number).FigureCurrent texts cases ↔
        book.Careful texts cases mergeHarnessPatch (.score number)) := by
  rw [score]
  unfold Careful
  split
  · rename_i content specContent found
    let figure := deterministicCoveragePercent texts cases content specContent
    have writes : Writes texts cases book { book.withScoring number { content } (.scored specContent) with
        rows := put number (figure.map Int.ofNat) book.rows } number figure := by
      have known := sound.numbers _ (mem_of_lookup found)
      refine ⟨?_, rfl, ?_, fun other => ?_⟩
      · intro entry member
        rcases mem_put member with rfl | old
        · exact known
        · exact sound.numbers entry old
      · rw [figureOf, found]
        rfl
      · exact figureOf_withScoring
    have kept := writes.sound sound
    refine ⟨kept, kept.current_iff.trans ((writes.fits sound _ _).trans ?_)⟩
    simp only [found, Option.mem_def, Option.some_inj, forall_eq', Scoring.running.injEq]
    split
    · rename_i keeps
      exact iff_of_true (sound.current_iff.mp current) (keeps.imp_right .inl)
    · rename_i changes
      obtain ⟨late, some_⟩ := not_or.mp changes
      constructor
      · exact fun fits => .inr (.inr fits)
      · rintro (overtaken | none | fits)
        · exact absurd overtaken late
        · exact absurd none some_
        · exact fits
  · rename_i none
    refine ⟨sound, iff_of_true current fun version found specContent running => ?_⟩
    obtain ⟨content, scoring⟩ := version
    obtain rfl := running
    exact absurd found (none content specContent)

theorem step_schedule (sound : Sound texts cases book) (number : Nat) (loaded : Bool) :
    Sound texts cases (book.schedule number loaded) ∧
      ((book.schedule number loaded).FigureCurrent texts cases ↔ book.FigureCurrent texts cases) := by
  rw [schedule]
  split
  · rename_i content found
    obtain ⟨kept, figures⟩ := sound.withScoring (.running (if loaded then book.specContent else [])) found rfl
    exact ⟨kept, (current_of_same kept (show _ = book.rows from rfl) figures).trans sound.current_iff.symm⟩
  · exact ⟨sound, Iff.rfl⟩

theorem step_skip (sound : Sound texts cases book) (number : Nat) : Sound texts cases (book.skip number) ∧
    ((book.skip number).FigureCurrent texts cases ↔ book.FigureCurrent texts cases) := by
  rw [skip]
  split
  · rename_i content specContent found
    obtain ⟨kept, figures⟩ := sound.withScoring .skipped found rfl
    exact ⟨kept, (current_of_same kept (show _ = book.rows from rfl) figures).trans sound.current_iff.symm⟩
  · exact ⟨sound, Iff.rfl⟩

theorem Sound.editSpec (sound : Sound texts cases book) (newContent : DocText) :
    Sound texts cases { book with specContent := newContent } :=
  ⟨sound.numbers, sound.distinct, sound.coverage, sound.listed⟩

theorem figure_step (sound : Sound texts cases book) (current : book.FigureCurrent texts cases) (event : BookEvent) :
    Sound texts cases (book.step texts cases mergeHarnessPatch event) ∧
      ((book.step texts cases mergeHarnessPatch event).FigureCurrent texts cases ↔
        book.Careful texts cases mergeHarnessPatch event) := by
  cases event with
  | generate accumulated => exact ⟨sound.save _, current_save sound _⟩
  | patch accumulated => exact step_patch sound accumulated
  | edit newContent => exact ⟨sound.save _, current_save sound _⟩
  | rollback number => exact step_rollback sound current number
  | editSpec newContent => exact ⟨sound.editSpec _, current_of_same (sound.editSpec _) rfl fun _ => rfl⟩
  | persistStructural number =>
      obtain ⟨kept, same⟩ := step_persistStructural sound current number
      exact ⟨kept, iff_of_true same trivial⟩
  | schedule number loaded =>
      obtain ⟨kept, same⟩ := step_schedule sound number loaded
      exact ⟨kept, iff_of_true (same.mpr current) trivial⟩
  | skip number =>
      obtain ⟨kept, same⟩ := step_skip sound number
      exact ⟨kept, iff_of_true (same.mpr current) trivial⟩
  | score number => exact step_score sound current number

def fresh (specContent : DocText) : HarnessBook := { specContent }

theorem sound_fresh (specContent : DocText) : Sound texts cases (fresh specContent) where
  numbers := by simp [fresh]
  distinct := List.nodup_nil
  coverage := by simp [fresh]
  listed _ _ := rfl

theorem current_fresh (specContent : DocText) : (fresh specContent).FigureCurrent texts cases :=
  (sound_fresh specContent).current_iff.mpr (by simp [Fits, fresh, newestRow])

variable (texts cases mergeHarnessPatch)

def emptied : List BookEvent := [.generate oneTest, .schedule 1 true, .score 1, .edit []]

theorem oneTest_full : deterministicCoveragePercent sampleTexts sampleCases oneTest "FR-000".toList = some 100 := by
  have letters : oneTest = List.flatten _ := DocText.ofParts_letters [_, _]
  rw [letters]
  decide +kernel

theorem emptied_book (mergeHarnessPatch : DocText → DocText → DocText) :
    play (step sampleTexts sampleCases mergeHarnessPatch) (fresh "FR-000".toList) emptied =
      { specContent := "FR-000".toList
        content := []
        currentVersion := 2
        versions := [(1, { content := oneTest, scoring := .scored "FR-000".toList }), (2, { content := [] })]
        rows := [(1, some 100)] } := by
  have full := oneTest_full
  generalize "FR-000".toList = specContent at full ⊢
  simp only [emptied, play_cons, play_nil, step, save, schedule, score, withScoring, fresh, put, List.lookup_cons,
    beq_self_eq_true, full, if_true]
  rfl

end HarnessBook

end Thought2Build.Evals
