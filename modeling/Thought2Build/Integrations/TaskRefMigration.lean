import Thought2Build.Integrations.TaskReferences

/-!
The migration of legacy references: which references the rows of a title get, and when there is room for all
of them among the first.
-/

namespace Thought2Build.Integrations

open FirstFit

namespace Texts

def Apart (texts : Texts) (limit : Nat) (titles : List String) : Prop :=
  ∀ first ∈ titles, ∀ second ∈ titles, ∀ i < limit, ∀ j < limit,
    texts.computeTaskRef first i = texts.computeTaskRef second j →
      texts.normalizedTaskTitle first = texts.normalizedTaskTitle second ∧ i = j

end Texts

namespace IssueTracker

variable {texts : Texts} {tracker : IssueTracker} {limit : Nat} {titles : List String} {title : String}

def recoveredTitle (tracker : IssueTracker) (number : Nat) : Option String :=
  (tracker.titleByNumber number).filter (· ≠ "")

def recovers (texts : Texts) (tracker : IssueTracker) (title : String) (row : IntegrationPushTask) : Bool :=
  (tracker.recoveredTitle row.externalIssueNumber).any fun found =>
    texts.normalizedTaskTitle found = texts.normalizedTaskTitle title

section

attribute [local simp] repoint migrateLegacyTaskRefs

end

theorem repoint_cons (texts : Texts) (tracker : IssueTracker) (taken : List String)
    (row : IntegrationPushTask) (rest : List IntegrationPushTask) :
    (tracker.recoveredTitle row.externalIssueNumber = none ∧
        tracker.repoint texts taken (row :: rest) = tracker.repoint texts taken rest) ∨
      ∃ found, tracker.recoveredTitle row.externalIssueNumber = some found ∧
        ((lowest (texts.computeTaskRef found) maxTitleOccurrences taken = none ∧
            tracker.repoint texts taken (row :: rest) = tracker.repoint texts taken rest) ∨
          ∃ index, lowest (texts.computeTaskRef found) maxTitleOccurrences taken = some index ∧
            tracker.repoint texts taken (row :: rest) =
              (row.taskRef, texts.computeTaskRef found index) ::
                tracker.repoint texts (texts.computeTaskRef found index :: taken) rest) := by
  cases recovered : tracker.recoveredTitle row.externalIssueNumber with
  | none =>
      left
      rw [recoveredTitle] at recovered
      simp only [repoint, recovered, true_and]
  | some found =>
      refine Or.inr ⟨found, rfl, ?_⟩
      rw [recoveredTitle] at recovered
      cases slot : lowest (texts.computeTaskRef found) maxTitleOccurrences taken with
      | none =>
          left
          simp only [repoint, recovered, Texts.nextFreeRef, slot, Option.map_none, true_and]
      | some index =>
          right
          refine ⟨index, rfl, ?_⟩
          simp only [repoint, recovered, Texts.nextFreeRef, slot, Option.map_some]

theorem recovers_iff {row : IntegrationPushTask} : tracker.recovers texts title row = true ↔
    ∃ found, tracker.recoveredTitle row.externalIssueNumber = some found ∧
      texts.normalizedTaskTitle found = texts.normalizedTaskTitle title := by
  simp [recovers, Option.any_eq_true]

theorem recovers_of_some {row : IntegrationPushTask} {found : String}
    (recovered : tracker.recoveredTitle row.externalIssueNumber = some found) :
    tracker.recovers texts title row = true ↔
      texts.normalizedTaskTitle found = texts.normalizedTaskTitle title := by
  simp [recovers, recovered]

theorem not_recovers_of_none {row : IntegrationPushTask}
    (lost : tracker.recoveredTitle row.externalIssueNumber = none) :
    tracker.recovers texts title row = false := by
  simp [recovers, lost]

def Covers (titles : List String) (tracker : IssueTracker) : Prop :=
  ∀ number found, tracker.recoveredTitle number = some found → found ∈ titles

theorem mem_repoint (apart : texts.Apart limit titles) (room : maxTitleOccurrences ≤ limit)
    (covers : Covers titles tracker) (known : title ∈ titles) {index : Nat} (below : index < limit)
    (rows : List IntegrationPushTask) (taken : List String) :
    texts.computeTaskRef title index ∈ (tracker.repoint texts taken rows).map (·.2) ↔
      texts.computeTaskRef title index ∉ taken ∧ index < maxTitleOccurrences ∧
        free (texts.computeTaskRef title) taken index < rows.countP (tracker.recovers texts title) := by
  induction rows generalizing taken with
  | nil => simp [repoint]
  | cons row rest ih =>
      rcases repoint_cons texts tracker taken row rest with
        ⟨lost, same⟩ | ⟨found, recovered, ⟨full, same⟩ | ⟨slot, first, same⟩⟩
      · rw [same, ih, List.countP_cons_of_neg (by simp [not_recovers_of_none lost])]
      · rw [same, ih]
        by_cases own : texts.normalizedTaskTitle found = texts.normalizedTaskTitle title
        · rw [List.countP_cons_of_pos ((recovers_of_some recovered).mpr own)]
          have slots : texts.computeTaskRef found = texts.computeTaskRef title :=
            funext (Texts.computeTaskRef_congr own)
          rw [slots] at full
          have none := free_eq_zero.mp (lowest_eq_none.mp full)
          constructor
          · rintro ⟨vacant, under, _⟩
            exact absurd (none index under) vacant
          · rintro ⟨vacant, under, _⟩
            exact absurd (none index under) vacant
        · rw [List.countP_cons_of_neg (by rwa [recovers_of_some recovered])]
      · rw [same, List.map_cons, List.mem_cons, ih]
        obtain ⟨under, vacant, lowest⟩ := lowest_eq_some.mp first
        by_cases own : texts.normalizedTaskTitle found = texts.normalizedTaskTitle title
        · rw [List.countP_cons_of_pos ((recovers_of_some recovered).mpr own)]
          have slots : texts.computeTaskRef found = texts.computeTaskRef title :=
            funext (Texts.computeTaskRef_congr own)
          rw [slots] at vacant lowest ⊢
          have single : ∀ other < limit, texts.computeTaskRef title other = texts.computeTaskRef title slot →
              other = slot := fun other bound equal =>
            (apart title known title known other bound slot (by omega) equal).2
          rcases Nat.lt_trichotomy index slot with before | rfl | after
          · have taken := free_eq_zero.mp lowest index before
            have other : texts.computeTaskRef title index ≠ texts.computeTaskRef title slot :=
              fun equal => absurd (single index below equal) (by omega)
            simp [taken, other]
          · simp [vacant, lowest, under]
          · have other : texts.computeTaskRef title index ≠ texts.computeTaskRef title slot :=
              fun equal => absurd (single index below equal) (by omega)
            have less := free_cons_slot vacant after fun other lower => single other (by omega)
            simp only [other, false_or, List.mem_cons]
            exact and_congr_right fun _ => and_congr_right fun _ => by omega
        · rw [List.countP_cons_of_neg (by rwa [recovers_of_some recovered])]
          have other : ∀ own < limit, texts.computeTaskRef title own ≠ texts.computeTaskRef found slot := by
            intro place bound equal
            have := (apart title known found (covers _ _ recovered) place bound slot (by omega) equal).1
            exact own this.symm
          rw [free_cons_other fun place lower => other place (by omega)]
          simp [other index below]

theorem repoint_keys {rows : List IntegrationPushTask} {taken : List String} {move : String × String}
    (member : move ∈ tracker.repoint texts taken rows) : ∃ row ∈ rows, row.taskRef = move.1 := by
  induction rows generalizing taken with
  | nil => simp [repoint] at member
  | cons row rest ih =>
      have later : ∀ taken, move ∈ tracker.repoint texts taken rest →
          ∃ other ∈ row :: rest, other.taskRef = move.1 := by
        intro taken inside
        obtain ⟨other, found, same⟩ := ih inside
        exact ⟨other, List.mem_cons_of_mem _ found, same⟩
      rcases repoint_cons texts tracker taken row rest with
        ⟨_, same⟩ | ⟨found, _, ⟨_, same⟩ | ⟨slot, _, same⟩⟩
      · exact later taken (same ▸ member)
      · exact later taken (same ▸ member)
      · rw [same] at member
        rcases List.mem_cons.mp member with rfl | inside
        · exact ⟨row, List.mem_cons_self, rfl⟩
        · exact later _ inside

def MovesBelow (texts : Texts) (title : String) (bound : Nat) (moves : List (String × String))
    (row : IntegrationPushTask) : Prop :=
  ∃ index < bound, (row.taskRef, texts.computeTaskRef title index) ∈ moves

theorem all_move_below (apart : texts.Apart limit titles) (room : maxTitleOccurrences ≤ limit)
    (covers : Covers titles tracker) (known : title ∈ titles) {bound : Nat} (fits : bound ≤ limit)
    {rows : List IntegrationPushTask} (distinct : (rows.map (·.taskRef)).Nodup) (taken : List String) :
    (∀ row ∈ rows, tracker.recovers texts title row = true →
        MovesBelow texts title bound (tracker.repoint texts taken rows) row) ↔
      rows.countP (tracker.recovers texts title) ≤
        free (texts.computeTaskRef title) taken (min maxTitleOccurrences bound) := by
  induction rows generalizing taken with
  | nil => simp
  | cons row rest ih =>
      obtain ⟨fresh, distinct⟩ := List.nodup_cons.mp distinct
      have unmoved : ∀ taken ref, (row.taskRef, ref) ∉ tracker.repoint texts taken rest := by
        intro taken ref inside
        obtain ⟨other, found, same⟩ := repoint_keys inside
        exact fresh (List.mem_map.mpr ⟨other, found, same⟩)
      rw [List.forall_mem_cons]
      rcases repoint_cons texts tracker taken row rest with
        ⟨lost, same⟩ | ⟨found, recovered, ⟨full, same⟩ | ⟨slot, first, same⟩⟩
      · rw [same, ih distinct, not_recovers_of_none lost,
          List.countP_cons_of_neg (by simp [not_recovers_of_none lost])]
        simp
      · rw [same, ih distinct]
        by_cases own : texts.normalizedTaskTitle found = texts.normalizedTaskTitle title
        · have slots : texts.computeTaskRef found = texts.computeTaskRef title :=
            funext (Texts.computeTaskRef_congr own)
          rw [slots] at full
          have none := lowest_eq_none.mp full
          have less : free (texts.computeTaskRef title) taken (min maxTitleOccurrences bound) ≤
              free (texts.computeTaskRef title) taken maxTitleOccurrences := free_mono (Nat.min_le_left _ _)
          rw [List.countP_cons_of_pos ((recovers_of_some recovered).mpr own)]
          constructor
          · rintro ⟨moved, _⟩
            obtain ⟨index, _, inside⟩ := moved ((recovers_of_some recovered).mpr own)
            exact absurd inside (unmoved _ _)
          · omega
        · have other : ¬tracker.recovers texts title row = true := by rwa [recovers_of_some recovered]
          rw [List.countP_cons_of_neg other]
          simp [other]
      · obtain ⟨under, vacant, lowest⟩ := lowest_eq_some.mp first
        have step : ∀ other ∈ rest, MovesBelow texts title bound (tracker.repoint texts taken (row :: rest)) other ↔
            MovesBelow texts title bound
              (tracker.repoint texts (texts.computeTaskRef found slot :: taken) rest) other := by
          intro other inside
          have apart : other.taskRef ≠ row.taskRef := fun equal =>
            fresh (List.mem_map.mpr ⟨other, inside, equal⟩)
          simp [MovesBelow, same, apart]
        have others : (∀ other ∈ rest, tracker.recovers texts title other = true →
            MovesBelow texts title bound (tracker.repoint texts taken (row :: rest)) other) ↔
            rest.countP (tracker.recovers texts title) ≤ free (texts.computeTaskRef title)
              (texts.computeTaskRef found slot :: taken) (min maxTitleOccurrences bound) := by
          rw [← ih distinct]
          exact forall₂_congr fun other inside => imp_congr_right fun _ => step other inside
        rw [others]
        by_cases own : texts.normalizedTaskTitle found = texts.normalizedTaskTitle title
        · have slots : texts.computeTaskRef found = texts.computeTaskRef title :=
            funext (Texts.computeTaskRef_congr own)
          rw [slots] at vacant lowest same ⊢
          have recovers := (recovers_of_some recovered).mpr own
          have single : ∀ other < limit, texts.computeTaskRef title other = texts.computeTaskRef title slot →
              other = slot := fun other bound equal =>
            (apart title known title known other bound slot (by omega) equal).2
          have moved : MovesBelow texts title bound (tracker.repoint texts taken (row :: rest)) row ↔
              slot < bound := by
            rw [MovesBelow, same]
            constructor
            · rintro ⟨index, below, inside⟩
              rcases List.mem_cons.mp inside with here | later
              · rw [← single index (by omega) (Prod.mk.inj here).2]
                exact below
              · exact absurd later (unmoved _ _)
            · exact fun below => ⟨slot, below, List.mem_cons_self⟩
          rw [List.countP_cons_of_pos recovers]
          simp only [recovers, forall_const, moved]
          rcases Nat.lt_or_ge slot bound with below | beyond
          · have less := free_cons_slot vacant (show slot < min maxTitleOccurrences bound by omega)
              fun other lower => single other (by omega)
            omega
          · have less : free (texts.computeTaskRef title) taken (min maxTitleOccurrences bound) ≤
                free (texts.computeTaskRef title) taken slot := free_mono (by omega)
            omega
        · have alien : ¬tracker.recovers texts title row = true := by rwa [recovers_of_some recovered]
          have other : ∀ own < limit, texts.computeTaskRef title own ≠ texts.computeTaskRef found slot := by
            intro place below equal
            have := (apart title known found (covers _ _ recovered) place below slot (by omega) equal).1
            exact own this.symm
          rw [List.countP_cons_of_neg alien, free_cons_other fun place lower => other place (by omega)]
          simp [alien]

theorem repoint_keys_distinct {rows : List IntegrationPushTask} (distinct : (rows.map (·.taskRef)).Nodup)
    (taken : List String) : ((tracker.repoint texts taken rows).map (·.1)).Nodup := by
  induction rows generalizing taken with
  | nil => simp [repoint]
  | cons row rest ih =>
      obtain ⟨fresh, distinct⟩ := List.nodup_cons.mp distinct
      rcases repoint_cons texts tracker taken row rest with ⟨_, same⟩ | ⟨found, _, ⟨_, same⟩ | ⟨slot, _, same⟩⟩
      · exact same ▸ ih distinct taken
      · exact same ▸ ih distinct taken
      · rw [same, List.map_cons]
        refine List.nodup_cons.mpr ⟨?_, ih distinct _⟩
        intro inside
        obtain ⟨move, member, key⟩ := List.mem_map.mp inside
        obtain ⟨other, held, also⟩ := repoint_keys member
        exact fresh (List.mem_map.mpr ⟨other, held, also.trans key⟩)

theorem repoint_values {rows : List IntegrationPushTask} (taken : List String) :
    ((tracker.repoint texts taken rows).map (·.2)).Nodup ∧
      ∀ move ∈ tracker.repoint texts taken rows, move.2 ∉ taken ∧
        ∃ row ∈ rows, row.taskRef = move.1 ∧ ∃ found index, index < maxTitleOccurrences ∧
          tracker.recoveredTitle row.externalIssueNumber = some found ∧
          move.2 = texts.computeTaskRef found index := by
  induction rows generalizing taken with
  | nil => simp [repoint]
  | cons row rest ih =>
      have later : ∀ taken, ∀ move ∈ tracker.repoint texts taken rest, move.2 ∉ taken ∧
          ∃ other ∈ row :: rest, other.taskRef = move.1 ∧ ∃ found index, index < maxTitleOccurrences ∧
            tracker.recoveredTitle other.externalIssueNumber = some found ∧
            move.2 = texts.computeTaskRef found index := by
        intro taken move member
        obtain ⟨fresh, other, inside, origin⟩ := (ih taken).2 move member
        exact ⟨fresh, other, List.mem_cons_of_mem _ inside, origin⟩
      rcases repoint_cons texts tracker taken row rest with
        ⟨_, same⟩ | ⟨found, recovered, ⟨_, same⟩ | ⟨slot, first, same⟩⟩
      · exact same ▸ ⟨(ih taken).1, later taken⟩
      · exact same ▸ ⟨(ih taken).1, later taken⟩
      · obtain ⟨under, vacant, _⟩ := lowest_eq_some.mp first
        rw [same]
        refine ⟨List.nodup_cons.mpr ⟨?_, (ih _).1⟩, ?_⟩
        · intro inside
          obtain ⟨move, member, value⟩ := List.mem_map.mp inside
          exact (later _ move member).1 (value ▸ List.mem_cons_self)
        · intro move member
          rcases List.mem_cons.mp member with rfl | inside
          · exact ⟨vacant, row, List.mem_cons_self, rfl, found, slot, under, recovered, rfl⟩
          · obtain ⟨fresh, origin⟩ := later _ move inside
            exact ⟨fun taken => fresh (List.mem_cons_of_mem _ taken), origin⟩

def moves (texts : Texts) (tracker : IssueTracker) : List (String × String) :=
  tracker.repoint texts (tracker.stableRefs texts) (tracker.legacyRows texts)

def newRef (texts : Texts) (tracker : IssueTracker) (row : IntegrationPushTask) : String :=
  ((tracker.moves texts).lookup row.taskRef).getD row.taskRef

variable {row : IntegrationPushTask}

theorem mem_legacyRows : row ∈ tracker.legacyRows texts ↔
    row ∈ tracker.rows ∧ texts.isLegacyTaskRef row.taskRef = true := by
  simp [legacyRows, (List.perm_insertionSort _ _).mem_iff]

theorem mem_stableRefs {ref : String} : ref ∈ tracker.stableRefs texts ↔
    ∃ row ∈ tracker.rows, texts.isLegacyTaskRef row.taskRef = false ∧ row.taskRef = ref := by
  simp [stableRefs, and_assoc]

theorem legacyRows_distinct (distinct : (tracker.rows.map (·.taskRef)).Nodup) :
    ((tracker.legacyRows texts).map (·.taskRef)).Nodup := by
  have sorted : (tracker.legacyRows texts).Perm
      (tracker.rows.filter fun row => texts.isLegacyTaskRef row.taskRef) := List.perm_insertionSort _ _
  exact (sorted.map _).nodup_iff.mpr ((List.filter_sublist.map _).nodup distinct)

theorem moves_legacy {move : String × String} (member : move ∈ tracker.moves texts) :
    texts.isLegacyTaskRef move.1 = true := by
  obtain ⟨row, inside, same⟩ := repoint_keys member
  exact same ▸ (mem_legacyRows.mp inside).2

theorem newRef_stable (stable : texts.isLegacyTaskRef row.taskRef = false) :
    tracker.newRef texts row = row.taskRef := by
  rw [newRef, Option.getD_eq_iff]
  right
  refine ⟨?_, rfl⟩
  by_contra found
  obtain ⟨ref, same⟩ := Option.ne_none_iff_exists'.mp found
  have legacy := moves_legacy (Dictionaries.mem_of_lookup same)
  simp [stable] at legacy

theorem newRef_cases (texts : Texts) (tracker : IssueTracker) (row : IntegrationPushTask) :
    (row.taskRef, tracker.newRef texts row) ∈ tracker.moves texts ∨ tracker.newRef texts row = row.taskRef := by
  rw [newRef]
  cases found : (tracker.moves texts).lookup row.taskRef with
  | none => exact Or.inr rfl
  | some ref => exact Or.inl (Dictionaries.mem_of_lookup found)

theorem newRef_of_mem (distinct : (tracker.rows.map (·.taskRef)).Nodup) {ref : String}
    (member : (row.taskRef, ref) ∈ tracker.moves texts) : tracker.newRef texts row = ref := by
  have keys : ((tracker.moves texts).map (·.1)).Nodup := repoint_keys_distinct (legacyRows_distinct distinct) _
  rw [newRef, Dictionaries.lookup_of_mem keys member]
  rfl

theorem mem_migrated {migrated : IntegrationPushTask} :
    migrated ∈ (tracker.migrateLegacyTaskRefs texts).rows ↔
      ∃ row ∈ tracker.rows, migrated = ⟨tracker.newRef texts row, row.externalIssueNumber⟩ := by
  simp only [migrateLegacyTaskRefs, List.mem_map]
  exact exists_congr fun row => and_congr_right fun _ => ⟨Eq.symm, Eq.symm⟩

theorem migrated_numbers : (tracker.migrateLegacyTaskRefs texts).rows.map (·.externalIssueNumber) =
    tracker.rows.map (·.externalIssueNumber) := by
  simp [migrateLegacyTaskRefs, Function.comp_def]

theorem migrated_refs_distinct (distinct : (tracker.rows.map (·.taskRef)).Nodup) :
    ((tracker.migrateLegacyTaskRefs texts).rows.map (·.taskRef)).Nodup := by
  have values : ((tracker.moves texts).map (·.2)).Nodup := (repoint_values _).1
  have apart : ∀ row ∈ tracker.rows, ∀ other ∈ tracker.rows, (row.taskRef, other.taskRef) ∉ tracker.moves texts := by
    intro row _ other member moved
    obtain ⟨free, _, _, _, found, index, _, _, computed⟩ := (repoint_values _).2 _ moved
    cases legacy : texts.isLegacyTaskRef other.taskRef with
    | true =>
        simp [show other.taskRef = _ from computed, Texts.isLegacyTaskRef_computeTaskRef] at legacy
    | false => exact free (mem_stableRefs.mpr ⟨other, member, legacy, rfl⟩)
  have single : ∀ row ∈ tracker.rows, ∀ other ∈ tracker.rows,
      tracker.newRef texts row = tracker.newRef texts other → row = other := by
    intro row inside other member same
    have keyed : row.taskRef = other.taskRef → row = other :=
      List.inj_on_of_nodup_map distinct inside member
    rcases newRef_cases texts tracker row with moved | unmoved
    · rcases newRef_cases texts tracker other with also | still
      · rw [← same] at also
        exact keyed (Prod.mk.inj (List.inj_on_of_nodup_map values moved also rfl)).1
      · rw [same, still] at moved
        exact absurd moved (apart row inside other member)
    · rcases newRef_cases texts tracker other with also | still
      · rw [← same, unmoved] at also
        exact absurd also (apart other member row inside)
      · exact keyed (unmoved.symm.trans (same.trans still))
  have mapped : (tracker.migrateLegacyTaskRefs texts).rows.map (·.taskRef) =
      tracker.rows.map (tracker.newRef texts) := by
    simp [migrateLegacyTaskRefs, newRef, moves, Function.comp_def]
  rw [mapped]
  exact distinct.of_map.map_on single

end IssueTracker

end Thought2Build.Integrations
