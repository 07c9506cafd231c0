import Thought2Build.Integrations.AgentIssuesCore
import Thought2Build.Integrations.ContentPaths

/-!
When the header of an issue is read back. What is in quotes keeps its backslashes, which begin escapes there; what is
not in quotes is read as YAML reads it; and a list without entries is a null.
-/

namespace Thought2Build.Integrations

open HeaderTexts Trimming
open Pipeline (DocText StageType isSpace sectionContracts)
open Pipeline.DocText (backtick)

variable {dialect : Dialect} {texts : Texts} {issue : IssueTexts} {text front back : DocText}

def IssueTexts.LowersAscii (issue : IssueTexts) : Prop :=
  ∀ text, text.all (· ≤ '~') = true → issue.lower text = text.map Char.toLower

def Readable (dialect : Dialect) (text : DocText) : Prop :=
  if needsQuotes text then Itself dialect text
  else startsPlain text = true ∧ (∀ letter ∈ text, dialect.plain letter = true) ∧ dialect.isText text = true

/-! Scalars -/

def swapQuote (letter : Char) : Char := if letter = '\x22' then '\x27' else letter

theorem yamlScalar_quoted (quotes : needsQuotes text = true) :
    yamlScalar text = '\x22' :: (text.map swapQuote ++ ['\x22']) := if_pos quotes

theorem yamlScalar_plain (plain : ¬needsQuotes text = true) : yamlScalar text = text := if_neg plain

theorem swapQuote_eq {letter : Char} : swapQuote letter = letter ↔ letter ≠ '\x22' := by
  unfold swapQuote
  split
  · rename_i quote
    rw [quote]
    decide
  · rename_i other
    exact iff_of_true rfl other

theorem swapped_itself (itself : Itself dialect text) : text.map swapQuote = text :=
  (List.map_congr_left fun letter member => swapQuote_eq.mpr (itself letter member).1).trans (List.map_id' text)

theorem newline_swapped (line : '\n' ∉ text) : '\n' ∉ text.map swapQuote := by
  intro member
  obtain ⟨letter, among, same⟩ := List.mem_map.mp member
  rw [swapQuote] at same
  split at same
  · cases same
  · exact line (same ▸ among)

theorem trimmed_strip (text : DocText) : Trimmed isBlank (DocText.strip text) := by
  have weaker {end_ : Option Char} (good : end_.all (!isSpace ·) = true) : end_.all (!isBlank ·) = true := by
    cases end_ with
    | none => rfl
    | some letter =>
        refine Bool.not_eq_true' _ |>.mpr (Bool.eq_false_iff.mpr fun blank => ?_)
        rcases Bool.or_eq_true_iff.mp blank with same | same
        · rw [of_decide_eq_true same] at good
          cases good
        · rw [of_decide_eq_true same] at good
          cases good
  obtain ⟨first, last⟩ := trimmed_trim isSpace text
  exact ⟨weaker first, weaker last⟩

theorem trim_yamlScalar (trimmed : Trimmed isBlank text) : trim isBlank (yamlScalar text) = yamlScalar text := by
  refine Trimmed.trim_eq ?_
  by_cases quotes : needsQuotes text = true
  · rw [yamlScalar_quoted quotes]
    refine ⟨rfl, ?_⟩
    rw [← List.cons_append, List.getLast?_concat]
    rfl
  · rwa [yamlScalar_plain quotes]

theorem scalar_yamlScalar (trimmed : Trimmed isBlank text) :
    scalar dialect (trim isBlank (yamlScalar text)) = some (.text text) ↔ Readable dialect text := by
  rw [trim_yamlScalar trimmed, Readable]
  by_cases quotes : needsQuotes text = true
  · rw [if_pos quotes, yamlScalar_quoted quotes, scalar, if_pos List.head?_cons, List.tail_cons,
      Option.map_eq_some_iff]
    constructor
    · rintro ⟨letters, read, same⟩
      obtain rfl := Scalar.text.inj same
      obtain ⟨same, itself⟩ := itself_of_unquoted read (List.length_map swapQuote).le
      rwa [← same] at itself
    · intro itself
      rw [swapped_itself itself]
      exact ⟨text, unquoted_itself itself, rfl⟩
  · rw [if_neg quotes, yamlScalar_plain quotes]
    have simple : ∀ letter ∈ text, letter ≠ ':' ∧ letter ≠ '#' := by
      intro letter member
      constructor
      · rintro rfl
        exact quotes (Bool.or_eq_true_iff.mpr (.inr (List.any_eq_true.mpr ⟨_, member, by decide⟩)))
      · rintro rfl
        exact quotes (Bool.or_eq_true_iff.mpr (.inr (List.any_eq_true.mpr ⟨_, member, by decide⟩)))
    have stays := @staysPlain_simple dialect text ' ' (by decide) simple
    constructor
    · intro read
      have unquoted : ¬text.head? = some '\x22' := fun quote => by
        have short := (scalar_length read).2 quote
        omega
      rw [scalar, if_neg unquoted] at read
      obtain ⟨_, starts, plain, whole⟩ := plainScalar_text.mp read
      exact ⟨starts, stays.mp plain, whole⟩
    · rintro ⟨starts, plain, whole⟩
      have unquoted : ¬text.head? = some '\x22' := by
        intro quote
        obtain ⟨rest, rfl⟩ := List.head?_eq_some_iff.mp quote
        cases starts
      rw [scalar, if_neg unquoted]
      exact plainScalar_text.mpr ⟨rfl, starts, stays.mpr plain, whole⟩

theorem Readable.line (readable : Readable dialect text) : '\n' ∉ text := by
  intro member
  by_cases quotes : needsQuotes text = true
  · rw [Readable, if_pos quotes] at readable
    have quoted := (readable _ member).2.2
    rw [dialect.newline.2] at quoted
    cases quoted
  · rw [Readable, if_neg quotes] at readable
    have plain := readable.2.1 _ member
    rw [dialect.newline.1] at plain
    cases plain

theorem yamlScalar_line (line : '\n' ∉ text) : '\n' ∉ yamlScalar text := by
  by_cases quotes : needsQuotes text = true
  · rw [yamlScalar_quoted quotes]
    intro member
    rcases List.mem_cons.mp member with same | inside
    · cases same
    · rcases List.mem_append.mp inside with inside | last
      · exact newline_swapped line inside
      · exact absurd last (by decide)
  · rwa [yamlScalar_plain quotes]

theorem yamlScalar_broken (front back : DocText) (line : '\n' ∉ front) : ∃ first rest,
    yamlScalar (front ++ '\n' :: back) = first ++ '\n' :: rest ∧ '\n' ∉ first ∧
      scalar dialect (trim isBlank first) ≠ some (.text (front ++ '\n' :: back)) := by
  have long : front.length < (front ++ '\n' :: back).length := by
    rw [List.length_append]
    exact Nat.lt_add_of_pos_right (Nat.succ_pos _)
  by_cases quotes : needsQuotes (front ++ '\n' :: back) = true
  · refine ⟨'\x22' :: front.map swapQuote, back.map swapQuote ++ ['\x22'], ?_, ?_, fun read => ?_⟩
    · rw [yamlScalar_quoted quotes, List.map_append, List.append_assoc]
      rfl
    · exact List.not_mem_cons_of_ne_of_not_mem (by decide) (newline_swapped line)
    · have short := (scalar_length read).2 (head_trim (by decide) _)
      have within := (trim_within isBlank ('\x22' :: front.map swapQuote)).length_le
      rw [List.length_cons, List.length_map] at within
      omega
  · refine ⟨front, back, yamlScalar_plain quotes, line, fun read => ?_⟩
    have short := (scalar_length read).1
    have within := (trim_within isBlank front).length_le
    omega

/-! Entries -/

theorem readOn_entry {key written : DocText} {entries : List Scalar} {before final : Mapping}
    (line : '\n' ∉ written) (rest : DocText)
    (read : readOn dialect ((key, entriesNode entries) :: before) (entryMark ++ written ++ '\n' :: rest) = some final) :
    ∃ entry, scalar dialect (trim isBlank written) = some entry ∧
      readOn dialect ((key, entriesNode (entries ++ [entry])) :: before) rest = some final := by
  have whole : '\n' ∉ entryMark ++ written := fun member =>
    (List.mem_append.mp member).elim (by decide) line
  have other : entryMark ++ written ≠ dashes := by rintro ⟨⟩
  rw [readOn, List.splitOn_append_cons_self_of_not_mem whole,
    @List.takeWhile_cons_of_pos _ (· ≠ dashes) _ _ (decide_eq_true other), List.foldlM_cons, readLine_entry] at read
  obtain ⟨state, step, later⟩ := Option.bind_eq_some_iff.mp read
  obtain ⟨entry, found, pushed⟩ := Option.bind_eq_some_iff.mp step
  rw [push_entriesNode, Option.map_some] at pushed
  obtain rfl := Option.some.inj pushed
  exact ⟨entry, found, later⟩

/-- Where the list is the texts that were written, each of them is readable: the first that is not would leave another
entry in its place. -/
theorem readable_of_readOn {key tail : DocText} {refs : List DocText} {entries : List Scalar} {before final : Mapping}
    (trimmed : ∀ ref ∈ refs, Trimmed isBlank ref)
    (read : readOn dialect ((key, entriesNode entries) :: before)
      (unlines (refs.map fun ref => entryMark ++ yamlScalar ref) ++ tail) = some final)
    (whole : ∀ list, (key, .list list) ∈ final → list = entries ++ refs.map .text) :
    ∀ ref ∈ refs, Readable dialect ref := by
  induction refs generalizing entries with
  | nil => exact nofun
  | cons ref rest ih =>
      obtain ⟨here, later⟩ := List.forall_mem_cons.mp trimmed
      have meant {entry : Scalar} {lines : List DocText}
          (read : lines.foldlM (readLine dialect) ((key, entriesNode (entries ++ [entry])) :: before) = some final) :
          entry = .text ref := by
        have node : entriesNode (entries ++ [entry]) = .list (entries ++ [entry]) := if_neg (by simp)
        rw [node] at read
        obtain ⟨more, member⟩ := readLines_grow read key _ List.mem_cons_self
        have same := whole _ member
        rw [List.append_assoc, List.append_cancel_left_eq] at same
        exact (List.cons.inj same).1
      let more := unlines (rest.map fun ref => entryMark ++ yamlScalar ref) ++ tail
      have line : '\n' ∉ ref := by
        intro member
        obtain ⟨front, back, rfl, fresh⟩ := List.eq_append_cons_of_mem member
        obtain ⟨first, behind, written, plain, other⟩ := @yamlScalar_broken dialect front back fresh
        obtain ⟨entry, found, on⟩ := readOn_entry plain (behind ++ '\n' :: more)
          (by simpa [more, unlines, written] using read)
        exact other (meant on ▸ found)
      obtain ⟨entry, found, on⟩ := readOn_entry (yamlScalar_line line) more (by simpa [more, unlines] using read)
      obtain rfl := meant on
      refine List.forall_mem_cons.mpr ⟨(scalar_yamlScalar here).mp found, ih later on fun list member => ?_⟩
      rw [whole list member, List.append_assoc]
      rfl

/-! Anchors -/

theorem printable_of_all (all : text.all (fun letter => '!' ≤ letter ∧ letter ≤ '~' ∧ letter ≠ ':') = true) :
    ∀ letter ∈ text, '!' ≤ letter ∧ letter ≤ '~' ∧ letter ≠ ':' :=
  fun letter member => of_decide_eq_true (List.all_eq_true.mp all letter member)

theorem collapseSpaces_letters {inSpace : Bool} {letter : Char} (member : letter ∈ Texts.collapseSpaces inSpace text) :
    letter = ' ' ∨ letter ∈ text := by
  induction text generalizing inSpace with
  | nil => cases member
  | cons other rest ih =>
      have later {inSpace : Bool} (member : letter ∈ Texts.collapseSpaces inSpace rest) :
          letter = ' ' ∨ letter ∈ other :: rest :=
        (ih member).imp_right (List.mem_cons_of_mem _)
      rw [Texts.collapseSpaces] at member
      split at member
      · split at member
        · exact later member
        · exact (List.mem_cons.mp member).elim .inl later
      · exact (List.mem_cons.mp member).elim (fun same => .inr (same ▸ List.mem_cons_self)) later

theorem headings_plain : ((sectionContracts .spec ++ sectionContracts .plan).all fun heading =>
    (headingLabel heading).all (· ≤ '~') && ((headingLabel heading).map Char.toLower).all fun letter =>
      letter = ' ' || ('!' ≤ letter && letter ≤ '~' && letter ≠ ':')) = true := by decide +kernel

theorem slugify_letters (ascii : issue.LowersAscii) {heading : String}
    (among : heading ∈ sectionContracts .spec ++ sectionContracts .plan) :
    ∀ letter ∈ slugify issue texts (headingLabel heading), '!' ≤ letter ∧ letter ≤ '~' ∧ letter ≠ ':' := by
  obtain ⟨low, plain⟩ := Bool.and_eq_true_iff.mp (List.all_eq_true.mp headings_plain heading among)
  have within : DocText.strip (headingLabel heading) ⊆ headingLabel heading := (trim_within isSpace _).subset
  have lowered := ascii _ (List.all_eq_true.mpr fun letter member => List.all_eq_true.mp low letter (within member))
  intro letter member
  rw [slugify, lowered] at member
  obtain ⟨origin, inside, rfl⟩ := List.mem_map.mp ((trim_within _ _).subset member)
  by_cases blank : origin = ' '
  · rw [if_pos blank]
    decide
  · rw [if_neg blank]
    have origins := (List.mem_filter.mp ((collapseSpaces_letters inside).resolve_left blank)).1
    have good := List.all_eq_true.mp plain origin (List.map_subset _ within origins)
    simpa [blank, and_assoc] using good

theorem specAnchors_solid (ascii : issue.LowersAscii) (text : DocText) :
    specAnchors issue texts text ≠ [] ∧ ∀ anchor ∈ specAnchors issue texts text, solid anchor = true := by
  unfold specAnchors
  dsimp only
  split
  · exact ⟨List.cons_ne_nil _ _, by decide⟩
  · rename_i filled
    refine ⟨filled, fun anchor member => ?_⟩
    obtain ⟨stage, stages, member⟩ := List.mem_flatMap.mp member
    obtain ⟨label, labels, rfl⟩ := List.mem_map.mp member
    obtain ⟨heading, headings, rfl⟩ := List.mem_map.mp (List.mem_filter.mp labels).1
    simp only [List.mem_cons, List.not_mem_nil, or_false] at stages
    rcases stages with rfl | rfl
    · have slug := @slugify_letters texts issue ascii heading (List.mem_append_left _ headings)
      exact solid_of_mark rfl (List.forall_mem_append.mpr ⟨printable_of_all (by decide), slug⟩)
        (List.mem_append_left _ (by decide : '.' ∈ "SPEC.md#".toList)) (.inr rfl)
    · have slug := @slugify_letters texts issue ascii heading (List.mem_append_right _ headings)
      exact solid_of_mark rfl (List.forall_mem_append.mpr ⟨printable_of_all (by decide), slug⟩)
        (List.mem_append_left _ (by decide : '.' ∈ "PLAN.md#".toList)) (.inr rfl)

theorem taskRef_solid (digests : texts.HexDigests) (title : String) (occurrence : Nat) :
    solid (texts.computeTaskRef title occurrence).toList = true := by
  obtain ⟨digits, same, hex⟩ := computeTaskRef_digits digests title occurrence
  rw [same]
  refine solid_of_mark rfl (List.forall_mem_append.mpr ⟨printable_of_all (by decide), fun letter member => ?_⟩)
    (List.mem_append_left _ (by decide : '-' ∈ "task-".toList)) (.inl rfl)
  exact @printable_of_all "0123456789abcdef".toList (by decide) letter (hex letter member)

/-! Headers -/

theorem joinLines_unlines (line : DocText) (lines : List DocText) :
    joinLines (line :: lines) ++ ['\n'] = unlines (line :: lines) := by
  induction lines generalizing line with
  | nil => simp [joinLines, unlines]
  | cons next rest ih =>
      have tail := ih next
      rw [joinLines] at tail ⊢
      rw [List.intercalate_cons_cons, List.append_assoc, tail, unlines, List.flatMap_cons]
      rfl

def frontLines (taskRef : DocText) (anchors : List DocText) : List DocText :=
  ["task_ref: ".toList ++ taskRef, "stage: tasks".toList, "spec_anchors:".toList] ++ anchors.map (entryMark ++ ·) ++
    ["test_path:".toList]

def labelsLine : DocText := "labels: [thought2build, stage:tasks, ready-for-agent]".toList

theorem yamlHeader_lines (taskRef : DocText) (anchors refs : List DocText) : yamlHeader issue taskRef anchors refs =
    unlines (dashes :: frontLines taskRef anchors) ++ (unlines ((refs.map (san issue)).map fun ref =>
      entryMark ++ yamlScalar ref) ++ unlines [labelsLine, dashes]) := by
  have labels : "labels: [".toList ++ ", ".toList.intercalate (agentLabels.map String.toList) ++ "]".toList =
      labelsLine := by decide
  rw [yamlHeader, labels]
  refine (joinLines_unlines _ _).trans ?_
  rw [unlines, unlines, unlines, unlines, ← List.flatMap_append, ← List.flatMap_append]
  refine congrArg (List.flatMap (· ++ ['\n'])) ?_
  simp [frontLines, dashes, entryMark, List.map_map, Function.comp_def]

theorem issue_begins (digests : texts.HexDigests) (title rawBody : String) (occurrence : Option Nat) : ∃ rest,
    formatAgentIssueBody issue texts title rawBody (occurrence.map (texts.computeTaskRef title)) =
      yamlHeader issue (texts.computeTaskRef title (occurrence.getD 0)).toList
        (specAnchors issue texts (title ++ "\n" ++ rawBody).toList) (testRefs issue rawBody) ++ rest := by
  have resolved : ((occurrence.map (texts.computeTaskRef title)).filter (· ≠ "")).getD (texts.computeTaskRef title 0) =
      texts.computeTaskRef title (occurrence.getD 0) := by
    cases occurrence with
    | none => rfl
    | some occurrence =>
        have filled : texts.computeTaskRef title occurrence ≠ "" := by
          intro none
          obtain ⟨digits, same, _⟩ := computeTaskRef_digits digests title occurrence
          rw [none] at same
          cases same
        rw [Option.map_some, Option.filter_some, if_pos (by simpa using filled), Option.getD_some, Option.getD_some]
  unfold formatAgentIssueBody
  dsimp only
  rw [resolved]
  exact ⟨_, rfl⟩

def frontState (taskRef : DocText) (anchors : List DocText) : Mapping := [
  ("spec_anchors".toList, .list (anchors.map .text)), ("stage".toList, .scalar (.text "tasks".toList)),
  ("task_ref".toList, .scalar (.text taskRef))]

theorem value_empty : value dialect [] = some (entriesNode []) := by
  have typed : plainScalar dialect [] = some (.typed []) := by
    have starts : (startsPlain [] && staysPlain dialect ' ' []) = true := rfl
    rw [plainScalar, if_pos starts, dialect.empty, if_neg Bool.false_ne_true]
  rw [value, if_neg (by simp), scalar, if_neg (by simp), typed]
  rfl

theorem readLine_solid {key text : DocText} {mapping : Mapping} (named : solid key = true) (colon : ':' ∉ key)
    (fresh : key ∉ mapping.map (·.1)) (good : solid text = true) :
    readLine dialect mapping (key ++ ':' :: ' ' :: text) = some ((key, .scalar (.text text)) :: mapping) := by
  have blank : trim isBlank (' ' :: text) = trim isBlank text :=
    @trim_append_left _ isBlank text [' '] (by simp [isBlank])
  rw [readLine_field (plainScalar_solid named) colon fresh rfl, blank, trim_solid good, value_solid good]
  rfl

theorem readLine_key {key : DocText} {mapping : Mapping} (named : solid key = true) (colon : ':' ∉ key)
    (fresh : key ∉ mapping.map (·.1)) :
    readLine dialect mapping (key ++ [':']) = some ((key, entriesNode []) :: mapping) := by
  rw [readLine_field (plainScalar_solid named) colon fresh rfl]
  exact congrArg (Option.map _) value_empty

theorem front_read {taskRef : DocText} {anchors : List DocText} (ref : solid taskRef = true) (filled : anchors ≠ [])
    (good : ∀ anchor ∈ anchors, solid anchor = true) : (frontLines taskRef anchors).foldlM (readLine dialect) [] =
      some (("test_path".toList, entriesNode []) :: frontState taskRef anchors) := by
  let opened : Mapping :=
    [("stage".toList, .scalar (.text "tasks".toList)), ("task_ref".toList, .scalar (.text taskRef))]
  have first : readLine dialect [] ("task_ref: ".toList ++ taskRef) =
      some [("task_ref".toList, .scalar (.text taskRef))] :=
    @readLine_solid dialect "task_ref".toList taskRef [] (by decide) (by decide) (by decide) ref
  have second : readLine dialect [("task_ref".toList, .scalar (.text taskRef))] "stage: tasks".toList = some opened :=
    @readLine_solid dialect "stage".toList "tasks".toList _ (by decide) (by decide) (by simp) (by decide)
  have third : readLine dialect opened "spec_anchors:".toList =
      some (("spec_anchors".toList, entriesNode []) :: opened) :=
    @readLine_key dialect "spec_anchors".toList opened (by decide) (by decide) (by simp [opened])
  have entries : (anchors.map (entryMark ++ ·)).foldlM (readLine dialect)
      (("spec_anchors".toList, entriesNode []) :: opened) = some (frontState taskRef anchors) := by
    have read := @read_entries dialect opened _ "spec_anchors".toList [] anchors id id fun anchor member =>
      (trim_solid (good anchor member)).symm ▸ scalar_solid (good anchor member)
    have list : entriesNode ([] ++ anchors.map .text) = .list (anchors.map .text) := if_neg (by simpa using filled)
    exact read.trans (by simp only [id, list]; rfl)
  have last : readLine dialect (frontState taskRef anchors) "test_path:".toList =
      some (("test_path".toList, entriesNode []) :: frontState taskRef anchors) :=
    @readLine_key dialect "test_path".toList _ (by decide) (by decide) (by simp [frontState])
  rw [frontLines, List.foldlM_append, List.foldlM_append]
  simp only [List.foldlM_cons, List.foldlM_nil, first, second, third, entries, last, Option.bind_eq_bind,
    Option.bind_some, Option.pure_def]

theorem labels_read {mapping : Mapping} (fresh : "labels".toList ∉ mapping.map (·.1)) :
    readLine dialect mapping labelsLine =
      some (("labels".toList, .list (agentLabels.map fun label => .text label.toList)) :: mapping) := by
  have list : value dialect "[thought2build, stage:tasks, ready-for-agent]".toList =
      some (.list (agentLabels.map fun label => .text label.toList)) := by
    have first := @flowEntry_solid dialect "thought2build".toList (by decide) (by decide)
    have second := @flowEntry_solid dialect " stage:tasks".toList (by decide) (by decide)
    have third := @flowEntry_solid dialect " ready-for-agent".toList (by decide) (by decide)
    have parts : "[thought2build, stage:tasks, ready-for-agent]".toList.tail.dropLast.splitOn ',' =
      ["thought2build".toList, " stage:tasks".toList, " ready-for-agent".toList] := by decide
    rw [value, if_pos (by decide), if_pos (by decide), parts]
    simp only [List.mapM_cons, List.mapM_nil, first, second, third, Option.bind_eq_bind, Option.bind_some,
      Option.pure_def]
    decide
  have line := @readLine_field dialect " [thought2build, stage:tasks, ready-for-agent]".toList mapping "labels".toList
    (plainScalar_solid (by decide)) (by decide) fresh rfl
  rw [show trim isBlank " [thought2build, stage:tasks, ready-for-agent]".toList =
    "[thought2build, stage:tasks, ready-for-agent]".toList by decide, list] at line
  exact line

theorem front_plain {taskRef : DocText} {anchors : List DocText} (ref : solid taskRef = true)
    (good : ∀ anchor ∈ anchors, solid anchor = true) :
    (∀ line ∈ frontLines taskRef anchors, '\n' ∉ line) ∧ dashes ∉ frontLines taskRef anchors := by
  have plain {front text : DocText} (line : '\n' ∉ front) (good : solid text = true) : '\n' ∉ front ++ text :=
    fun member => (List.mem_append.mp member).elim line fun inside => absurd (solid_letters good _ inside).1 (by decide)
  have each : ∀ line ∈ frontLines taskRef anchors, '\n' ∉ line ∧ line.head? ≠ some '-' := by
    refine List.forall_mem_append.mpr ⟨List.forall_mem_append.mpr ⟨?_, fun line member => ?_⟩, ?_⟩
    · simp only [List.forall_mem_cons]
      exact ⟨⟨plain (by decide) ref, nofun⟩, by decide, by decide, nofun⟩
    · obtain ⟨anchor, among, rfl⟩ := List.mem_map.mp member
      exact ⟨plain (by decide) (good anchor among), nofun⟩
    · exact List.forall_mem_singleton.mpr ⟨by decide, by decide⟩
  exact ⟨fun line member => (each line member).1, fun member => (each _ member).2 rfl⟩

theorem readOn_refs {taskRef rest text : DocText} {anchors refs : List DocText}
    (trimmed : ∀ ref ∈ refs, Trimmed isBlank ref) (readable : ∀ ref ∈ refs, Readable dialect ref)
    (whole : text = unlines (refs.map fun ref => entryMark ++ yamlScalar ref) ++
      (unlines [labelsLine, dashes] ++ rest)) :
    dashes ∈ text.splitOn '\n' ∧
      readOn dialect (("test_path".toList, entriesNode []) :: frontState taskRef anchors) text =
        some (("labels".toList, .list (agentLabels.map fun label => .text label.toList)) ::
          ("test_path".toList, entriesNode (refs.map .text)) :: frontState taskRef anchors) := by
  have each : ∀ line ∈ (refs.map fun ref => entryMark ++ yamlScalar ref) ++ [labelsLine],
      '\n' ∉ line ∧ decide (line ≠ dashes) = true := by
    refine List.forall_mem_append.mpr ⟨fun line member => ?_, List.forall_mem_singleton.mpr ⟨by decide, by decide⟩⟩
    obtain ⟨ref, among, rfl⟩ := List.mem_map.mp member
    refine ⟨fun inside => ?_, decide_eq_true nofun⟩
    exact (List.mem_append.mp inside).elim (by decide) (yamlScalar_line (readable ref among).line)
  have plain : ∀ line ∈ ((refs.map fun ref => entryMark ++ yamlScalar ref) ++ [labelsLine]) ++ [dashes], '\n' ∉ line :=
    List.forall_mem_append.mpr ⟨fun line member => (each line member).1, List.forall_mem_singleton.mpr (by decide)⟩
  have split : text.splitOn '\n' =
      ((refs.map fun ref => entryMark ++ yamlScalar ref) ++ [labelsLine]) ++ dashes :: rest.splitOn '\n' := by
    have lines := splitOn_unlines plain rest
    rw [whole, ← List.append_assoc]
    simpa [unlines] using lines
  have entries := @read_entries dialect (frontState taskRef anchors) _ "test_path".toList [] refs yamlScalar id
    fun ref member => (scalar_yamlScalar (trimmed ref member)).mpr (readable ref member)
  have labels := @labels_read dialect (("test_path".toList, entriesNode (refs.map .text)) :: frontState taskRef anchors)
    (by simp [frontState])
  rw [readOn, split, List.takeWhile_append_of_pos fun line member => (each line member).2,
    List.takeWhile_cons_of_neg (by simp), List.append_nil, List.foldlM_append, entries]
  refine ⟨List.mem_append_right _ List.mem_cons_self, ?_⟩
  simp only [List.foldlM_cons, List.foldlM_nil, List.nil_append, id, labels, Option.bind_eq_bind, Option.bind_some,
    Option.pure_def]

/-- The header is read back if the lines behind its front add the references and the labels. -/
theorem header_front (digests : texts.HexDigests) (ascii : issue.LowersAscii) (dialect : Dialect)
    (title rawBody : String) (occurrence : Option Nat) : ∃ taskRef anchors rest,
    let refs := (testRefs issue rawBody).map (san issue)
    let text := unlines (refs.map fun ref => entryMark ++ yamlScalar ref) ++ (unlines [labelsLine, dashes] ++ rest)
    (HeaderReadsBack dialect texts issue title rawBody occurrence ↔ dashes ∈ text.splitOn '\n' ∧
      readOn dialect (("test_path".toList, entriesNode []) :: frontState taskRef anchors) text =
        some (headerMapping taskRef anchors refs).reverse) := by
  obtain ⟨filled, anchors⟩ := @specAnchors_solid texts issue ascii (title ++ "\n" ++ rawBody).toList
  have ref := taskRef_solid digests title (occurrence.getD 0)
  obtain ⟨rest, begins⟩ := @issue_begins texts issue digests title rawBody occurrence
  obtain ⟨plain, away⟩ := front_plain ref anchors
  refine ⟨(texts.computeTaskRef title (occurrence.getD 0)).toList,
    specAnchors issue texts (title ++ "\n" ++ rawBody).toList, rest, ?_⟩
  dsimp only
  rw [HeaderReadsBack, begins, yamlHeader_lines, List.append_assoc, List.append_assoc, readHeader_unlines plain away,
    front_read ref filled anchors]
  simp only [Option.some.injEq, exists_eq_left']

theorem trimmed_refs {refs : List DocText} : ∀ ref ∈ refs.map (san issue), Trimmed isBlank ref := by
  intro _ member
  obtain ⟨ref, _, rfl⟩ := List.mem_map.mp member
  exact trimmed_strip _

theorem readable_of_header (digests : texts.HexDigests) (ascii : issue.LowersAscii) {title rawBody : String}
    {occurrence : Option Nat} (reads : HeaderReadsBack dialect texts issue title rawBody occurrence) :
    testRefs issue rawBody ≠ [] ∧ ∀ ref ∈ testRefs issue rawBody, Readable dialect (san issue ref) := by
  obtain ⟨taskRef, anchors, rest, same⟩ := header_front digests ascii dialect title rawBody occurrence
  obtain ⟨_, read⟩ := same.mp reads
  have readable := @readable_of_readOn _ _ _ _ [] _ _ trimmed_refs read fun list member => by
    simpa [headerMapping] using member
  refine ⟨fun none => ?_, fun ref member => readable _ (List.mem_map_of_mem member)⟩
  rw [(readOn_refs trimmed_refs readable rfl).2, none] at read
  simp [headerMapping, frontState, entriesNode] at read

theorem header_reads_back_iff (digests : texts.HexDigests) (ascii : issue.LowersAscii) (dialect : Dialect)
    (title rawBody : String) (occurrence : Option Nat) :
    HeaderReadsBack dialect texts issue title rawBody occurrence ↔
      testRefs issue rawBody ≠ [] ∧ ∀ ref ∈ testRefs issue rawBody, Readable dialect (san issue ref) := by
  refine ⟨readable_of_header digests ascii, fun ⟨filled, readable⟩ => ?_⟩
  obtain ⟨taskRef, anchors, rest, same⟩ := header_front digests ascii dialect title rawBody occurrence
  obtain ⟨closed, read⟩ := readOn_refs trimmed_refs (List.forall_mem_map.mpr readable) rfl
  refine same.mpr ⟨closed, read.trans ?_⟩
  simp [headerMapping, frontState, entriesNode, filled]

def sampleDialect : Dialect where
  plain letter := letter = '\t' || ' ' ≤ letter
  quoted letter := letter = '\t' || ' ' ≤ letter
  isText text := text.head?.any Char.isAlpha && typedWords.all (· ≠ text.map Char.toLower)
  ascii letter low _ := by simp [low]
  newline := by decide
  empty := rfl
  words text first word := by
    rw [first, Bool.true_and, List.all_eq_true]
    exact fun other typed => decide_eq_true fun same => word (same ▸ typed)

def sampleIssue : IssueTexts := ⟨List.map Char.toLower, id⟩

theorem sampleIssue_lowers : sampleIssue.LowersAscii := fun _ _ => rfl

theorem header_reads_back_sample :
    HeaderReadsBack sampleDialect hexTexts sampleIssue "A" "**Tests:** `tests/a.py::b`" none := by
  have refs : testRefs sampleIssue "**Tests:** `tests/a.py::b`" = ["tests/a.py::b".toList] := by decide
  refine (header_reads_back_iff hexTexts_hexDigests sampleIssue_lowers sampleDialect _ _ none).mpr ⟨?_, ?_⟩
  · exact refs ▸ List.cons_ne_nil _ _
  · have all : (san sampleIssue "tests/a.py::b".toList).all (fun letter =>
      letter ≠ '\x22' ∧ letter ≠ '\x5c' ∧ sampleDialect.quoted letter = true) = true := by decide
    rw [refs, List.forall_mem_singleton, Readable, if_pos (by decide)]
    exact fun letter member => of_decide_eq_true (List.all_eq_true.mp all letter member)

theorem header_misread : ¬HeaderReadsBack sampleDialect hexTexts sampleIssue "A" "**Tests:** `tests\\new.py::a`" none ∧
    scalar sampleDialect (yamlScalar "tests\\new.py::a".toList) = some (.text "tests\new.py::a".toList) ∧
    ¬HeaderReadsBack sampleDialect hexTexts sampleIssue "A" "**Tests:** `a\n---\nb`" none ∧
    ¬HeaderReadsBack sampleDialect hexTexts sampleIssue "A" "" none := by
  have escaped : testRefs sampleIssue "**Tests:** `tests\\new.py::a`" = ["tests\\new.py::a".toList] := by decide
  have broken : testRefs sampleIssue "**Tests:** `a\n---\nb`" = ["a\n---\nb".toList] := by decide
  refine ⟨fun reads => ?_, by decide, fun reads => ?_, fun reads => ?_⟩
  · have readable := (readable_of_header hexTexts_hexDigests sampleIssue_lowers reads).2
    rw [escaped, List.forall_mem_singleton, Readable, if_pos (by decide)] at readable
    exact (readable '\x5c' (by decide)).2.1 rfl
  · have readable := (readable_of_header hexTexts_hexDigests sampleIssue_lowers reads).2
    rw [broken, List.forall_mem_singleton] at readable
    exact absurd readable.line (by decide)
  · exact (readable_of_header hexTexts_hexDigests sampleIssue_lowers reads).1 (by decide)

end Thought2Build.Integrations
