import Thought2Build.Integrations.ContentPathsCore
import Thought2Build.Pipeline.HarnessExport

/-!
Which exported files reach GitHub under their path. The paths are checked for what a file system cannot hold, and put
into the URL as they are; what a URL takes for a fragment, a query or an escape is lost.
-/

namespace Thought2Build.Integrations

open UriTexts
open Pipeline

structure ExportReaches (repo : DocText) (paths : List DocText) : Prop where
  reaches : ∀ path ∈ paths, ∀ call, (contentsUrl repo path call).bind (addressed repo) = some (utf8 path)
  apart : ∀ path ∈ paths, ∀ other ∈ paths, ∀ call otherCall,
    (contentsUrl repo path call).bind (addressed repo) = (contentsUrl repo other otherCall).bind (addressed repo) →
      path = other

def OneSegment (text : DocText) : Prop := ∀ letter ∈ text, ¬(letter = '#' ∨ letter = '?')

def Addressable (path : DocText) : Prop := OneSegment path ∧ hasEscape path = false

instance (text : DocText) : Decidable (OneSegment text) := List.decidableBAll _ text

instance (path : DocText) : Decidable (Addressable path) := inferInstanceAs (Decidable (_ ∧ _))

def Texts.HexDigests (texts : Texts) : Prop :=
  ∀ text, ∀ letter ∈ (texts.sha256 text).toList, letter ∈ "0123456789abcdef".toList

variable {texts : Texts} {repo path : DocText} {task : ParsedTask}

theorem quotePath_intercalate {first : DocText} {parts : List DocText} (filled : first ≠ [])
    (plain : ∀ part ∈ first :: parts, '/' ∉ part ∧ part ≠ "..".toList) :
    quotePath (['/'].intercalate (first :: parts)) = some (['/'].intercalate (first :: parts)) := by
  have split : (['/'].intercalate (first :: parts)).splitOn '/' = first :: parts :=
    List.splitOn_intercalate '/' (fun part member => (plain part member).1) (List.cons_ne_nil _ _)
  have climbs : (first :: parts).contains "..".toList = false := by
    rw [Bool.eq_false_iff]
    exact fun member => (plain _ (List.contains_iff_mem.mp member)).2 rfl
  have cleaned : (['/'].intercalate (first :: parts)).dropWhile (· = '/') = ['/'].intercalate (first :: parts) := by
    obtain ⟨letter, rest, rfl⟩ := List.exists_cons_of_ne_nil filled
    have other : letter ≠ '/' := fun same => (plain _ List.mem_cons_self).1 (same ▸ List.mem_cons_self)
    cases parts with
    | nil => rw [List.intercalate_singleton, List.dropWhile_cons_of_neg (by simpa using other)]
    | cons next parts =>
        rw [List.intercalate_cons_cons, List.append_assoc, List.cons_append,
          List.dropWhile_cons_of_neg (by simpa using other)]
  rw [quotePath, cleaned, split, climbs, if_neg Bool.false_ne_true]

theorem addressed_contentsUrl (plain : OneSegment repo) (quoted : quotePath path = some path) (call : ContentsCall) :
    (contentsUrl repo path call).bind (addressed repo) = some (percentDecode (pathOf path)) := by
  have front : OneSegment (contentsOf repo) := by
    have start : OneSegment "/repos/".toList := by decide
    have middle : OneSegment "/contents/".toList := by decide
    intro letter member
    rcases List.mem_append.mp member with before | behind
    · rcases List.mem_append.mp before with first | inside
      · exact start letter first
      · exact plain letter inside
    · exact middle letter behind
  have read (suffix : DocText) (same : pathOf (path ++ suffix) = pathOf path) :
      addressed repo (contentsOf repo ++ path ++ suffix) = some (percentDecode (pathOf path)) := by
    rw [addressed, List.append_assoc, pathOf_append front, same, if_pos (List.isPrefixOf_iff_prefix.mpr (List.prefix_append _ _)),
      List.drop_left]
  rw [contentsUrl, quoted, Option.map_some, Option.bind_some]
  split
  · exact read _ (pathOf_query _ _)
  · have whole := read [] (by rw [List.append_nil])
    rwa [List.append_nil] at whole

theorem reaches_iff (plain : OneSegment repo) (quoted : quotePath path = some path) :
    (∀ call, (contentsUrl repo path call).bind (addressed repo) = some (utf8 path)) ↔ Addressable path := by
  rw [Addressable, OneSegment, ← decode_pathOf_iff path]
  constructor
  · intro reaches
    have here := reaches .upsertFile
    rwa [addressed_contentsUrl plain quoted, Option.some_inj] at here
  · intro same call
    rw [addressed_contentsUrl plain quoted, same]

theorem quotePath_harness (plain : PathOf PlainComponent path) : quotePath path = some path := by
  obtain ⟨parts, _, rfl, each⟩ := plain
  refine quotePath_intercalate (by decide) fun part member => ?_
  rcases List.mem_cons.mp member with rfl | below
  · decide
  · exact ⟨(each part below).noSlash, (each part below).notDotDot⟩

theorem taskAt_ref {length : Nat} {seen : List String} {heading : Patterns.Cursor × Patterns.Cursor}
    {following : List (Patterns.Cursor × Patterns.Cursor)}
    (found : texts.taskAt length seen heading following = some task) :
    ∃ occurrence, task.taskRef = texts.computeTaskRef task.title occurrence := by
  unfold Texts.taskAt at found
  split at found
  · obtain rfl := Option.some.inj found
    exact ⟨seen.count _, rfl⟩
  · simp at found

theorem tasksFrom_ref {headings : List (Patterns.Cursor × Patterns.Cursor)} {length : Nat} {seen : List String}
    (member : task ∈ texts.tasksFrom length seen headings) :
    ∃ occurrence, task.taskRef = texts.computeTaskRef task.title occurrence := by
  induction headings generalizing seen with
  | nil => simp [Texts.tasksFrom] at member
  | cons heading following ih =>
      rw [Texts.tasksFrom] at member
      split at member
      · exact ih member
      · rename_i other found
        rcases List.mem_cons.mp member with rfl | later
        · exact taskAt_ref found
        · exact ih later

def Plain (text : DocText) : Prop :=
  ∀ letter ∈ text, letter ∉ "#?%/".toList

instance (text : DocText) : Decidable (Plain text) := List.decidableBAll _ text

theorem plain_append {front back : DocText} (first : Plain front) (second : Plain back) : Plain (front ++ back) :=
  fun letter member => (List.mem_append.mp member).elim (first letter) (second letter)

theorem plain_hex {text : DocText} (digits : ∀ letter ∈ text, letter ∈ "0123456789abcdef".toList) : Plain text := by
  have each : Plain "0123456789abcdef".toList := by decide
  exact fun letter member => each letter (digits letter member)

theorem plain_underscores {text : DocText} (plain : Plain text) :
    Plain (text.map fun letter => if letter = '-' then '_' else letter) := by
  have mark : '_' ∉ "#?%/".toList := by decide
  intro letter member
  obtain ⟨origin, inside, rfl⟩ := List.mem_map.mp member
  by_cases dash : origin = '-'
  · rwa [if_pos dash]
  · rw [if_neg dash]
    exact plain origin inside

theorem computeTaskRef_digits (digests : texts.HexDigests) (title : String) (occurrence : Nat) :
    ∃ digits, (texts.computeTaskRef title occurrence).toList = "task-".toList ++ digits ∧
      ∀ letter ∈ digits, letter ∈ "0123456789abcdef".toList := by
  unfold Texts.computeTaskRef
  rw [String.toList_ofList]
  generalize (if occurrence = 0 then _ else _ : String) = salted
  exact ⟨_, rfl, fun letter inside => digests salted letter (List.take_subset _ _ inside)⟩

theorem computeTaskRef_plain (digests : texts.HexDigests) (title : String) (occurrence : Nat) :
    Plain (texts.computeTaskRef title occurrence).toList := by
  obtain ⟨digits, same, hex⟩ := computeTaskRef_digits digests title occurrence
  rw [same]
  exact plain_append (by decide) (plain_hex hex)

theorem taskRef_plain (digests : texts.HexDigests) {content : String} (member : task ∈ texts.parseTasks content) :
    Plain task.taskRef.toList := by
  obtain ⟨occurrence, same⟩ := tasksFrom_ref member
  rw [same]
  exact computeTaskRef_plain digests _ _

theorem mem_intercalate {parts : List DocText} {letter : Char} (member : letter ∈ ['/'].intercalate parts) :
    letter = '/' ∨ ∃ part ∈ parts, letter ∈ part := by
  match parts with
  | [] => simp at member
  | [part] => exact .inr ⟨part, List.mem_cons_self, by rwa [List.intercalate_singleton] at member⟩
  | part :: next :: rest =>
      rw [List.intercalate_cons_cons] at member
      rcases List.mem_append.mp member with front | later
      · rcases List.mem_append.mp front with here | separator
        · exact .inr ⟨part, List.mem_cons_self, here⟩
        · exact .inl (List.mem_singleton.mp separator)
      · obtain slash | ⟨found, among, inside⟩ := mem_intercalate later
        · exact .inl slash
        · exact .inr ⟨found, List.mem_cons_of_mem _ among, inside⟩

def Safe (path : DocText) : Prop := quotePath path = some path ∧ Addressable path

theorem safe_names {first : DocText} {parts : List DocText} (filled : first ≠ [])
    (plain : ∀ part ∈ first :: parts, Plain part ∧ part ≠ "..".toList) : Safe (['/'].intercalate (first :: parts)) := by
  have marks : '/' ∈ "#?%/".toList ∧ '#' ∈ "#?%/".toList ∧ '?' ∈ "#?%/".toList ∧ '%' ∈ "#?%/".toList := by
    decide
  have letters : ∀ letter ∈ ['/'].intercalate (first :: parts), letter = '/' ∨ letter ∉ "#?%/".toList :=
    fun letter member => (mem_intercalate member).imp_right fun ⟨part, among, inside⟩ => (plain part among).1 letter inside
  refine ⟨quotePath_intercalate filled fun part member =>
    ⟨fun here => (plain part member).1 _ here marks.1, (plain part member).2⟩, fun letter member => ?_,
    hasEscape_of_plain fun here => ?_⟩
  · rcases letters letter member with rfl | other
    · decide
    · rintro (rfl | rfl)
      · exact other marks.2.1
      · exact other marks.2.2.1
  · rcases letters _ here with same | other
    · exact absurd same (by decide)
    · exact other marks.2.2.2

theorem safe_root {name : String} (member : name ∈ rootFiles) : Safe name.toList := by
  have plain : ∀ name ∈ rootFiles, name.toList ≠ [] ∧ Plain name.toList ∧ name.toList ≠ "..".toList := by decide
  obtain ⟨filled, names⟩ := plain name member
  have whole : Safe (['/'].intercalate [name.toList]) := safe_names filled (by simpa using names)
  rwa [List.intercalate_singleton] at whole

theorem safe_ciWorkflow : Safe ciWorkflowPath.toList := by
  have parts : ciWorkflowPath.toList =
      ['/'].intercalate [".github".toList, "workflows".toList, "thought2build.yml".toList] := by decide
  rw [parts]
  exact safe_names (by decide) (by decide)

theorem safe_inFolder {name : DocText} (plain : Plain name) (long : 2 < name.length) :
    Safe ("tests/thought2build/".toList ++ name) := by
  have folders : (Plain "tests".toList ∧ "tests".toList ≠ "..".toList) ∧
      Plain "thought2build".toList ∧ "thought2build".toList ≠ "..".toList := by decide
  have start : "tests/thought2build/".toList = "tests".toList ++ ['/'] ++ ("thought2build".toList ++ ['/']) := by
    decide
  have other : name ≠ "..".toList := fun dots => absurd (dots ▸ long) (by decide)
  have names : Safe (['/'].intercalate ["tests".toList, "thought2build".toList, name]) := by
    refine safe_names (by decide) ?_
    simp only [List.forall_mem_cons]
    exact ⟨folders.1, folders.2, ⟨plain, other⟩, List.forall_mem_nil _⟩
  rwa [List.intercalate_cons_cons, List.intercalate_cons_cons, List.intercalate_singleton, ← List.append_assoc,
    ← start] at names

theorem safe_taskStub {taskRef : String} (plain : Plain taskRef.toList) (stack : Stack) :
    Safe (taskStubPath taskRef stack) := by
  cases stack with
  | node =>
      have tail : Plain ".test.ts".toList ∧ 2 < ".test.ts".toList.length := by decide
      unfold taskStubPath
      rw [List.append_assoc]
      refine safe_inFolder (plain_append plain tail.1) ?_
      rw [List.length_append]
      omega
  | python =>
      have folder : "tests/thought2build/test_".toList = "tests/thought2build/".toList ++ "test_".toList := by
        decide
      have front : Plain "test_".toList ∧ 2 < "test_".toList.length := by decide
      have tail : Plain ".py".toList := by decide
      have name := plain_append front.1 (plain_append (plain_underscores plain) tail)
      have long (back : DocText) : 2 < ("test_".toList ++ back).length := by
        rw [List.length_append]
        omega
      have whole := safe_inFolder name (long _)
      rwa [← List.append_assoc, ← folder, ← List.append_assoc] at whole

theorem exportedPaths_cases {harnessFiles : List (DocText × DocText)} {tasks : List ParsedTask}
    {detectedStacks : List Stack} (member : path ∈ exportedPaths harnessFiles tasks detectedStacks) :
    (∃ file ∈ harnessFiles, path = file.1) ∨ (∃ name ∈ rootFiles, path = name.toList) ∨
      path = ciWorkflowPath.toList ∨ ∃ task ∈ tasks, ∃ stack, path = taskStubPath task.taskRef stack := by
  rcases List.mem_append.mp member with root | scaffold
  · obtain ⟨name, among, rfl⟩ := List.mem_map.mp root
    exact .inr (.inl ⟨name, among, rfl⟩)
  rcases List.mem_append.mp scaffold with front | stub
  · rcases List.mem_append.mp front with harness | workflow
    · obtain ⟨file, among, rfl⟩ := List.mem_map.mp harness
      exact .inl ⟨file, among, rfl⟩
    · exact .inr (.inr (.inl (List.mem_singleton.mp workflow)))
  · obtain ⟨task, among, inside⟩ := List.mem_flatMap.mp stub
    obtain ⟨stack, _, rfl⟩ := List.mem_map.mp inside
    exact .inr (.inr (.inr ⟨task, among, stack, rfl⟩))

section

variable {upper redactUnsafeLines : DocText → DocText} {harnessContent : DocText} {content : String}
  {detectedStacks : List Stack}

theorem quotePath_exported (digests : texts.HexDigests)
    (member : path ∈ exportedPaths (parseHarnessFiles upper redactUnsafeLines harnessContent)
      (texts.parseTasks content) detectedStacks) : quotePath path = some path := by
  rcases exportedPaths_cases member with ⟨file, among, rfl⟩ | ⟨name, among, rfl⟩ | rfl | ⟨task, among, stack, rfl⟩
  · exact quotePath_harness (parseHarnessFiles_plain among)
  · exact (safe_root among).1
  · exact safe_ciWorkflow.1
  · exact (safe_taskStub (taskRef_plain digests among) stack).1

theorem addressable_exported (digests : texts.HexDigests)
    (harness : ∀ file ∈ parseHarnessFiles upper redactUnsafeLines harnessContent, Addressable file.1)
    (member : path ∈ exportedPaths (parseHarnessFiles upper redactUnsafeLines harnessContent)
      (texts.parseTasks content) detectedStacks) : Addressable path := by
  rcases exportedPaths_cases member with ⟨file, among, rfl⟩ | ⟨name, among, rfl⟩ | rfl | ⟨task, among, stack, rfl⟩
  · exact harness file among
  · exact (safe_root among).2
  · exact safe_ciWorkflow.2
  · exact (safe_taskStub (taskRef_plain digests among) stack).2

theorem harness_exported {file : DocText × DocText}
    (member : file ∈ parseHarnessFiles upper redactUnsafeLines harnessContent) :
    file.1 ∈ exportedPaths (parseHarnessFiles upper redactUnsafeLines harnessContent) (texts.parseTasks content)
      detectedStacks :=
  List.mem_append_right _ (List.mem_append_left _ (List.mem_append_left _ (List.mem_map_of_mem member)))

/-- An export reaches GitHub under its paths exactly if a URL can hold those of the harness. -/
theorem exports_reach_iff (digests : texts.HexDigests) (plain : OneSegment repo)
    (upper redactUnsafeLines : DocText → DocText) (harnessContent : DocText) (content : String)
    (detectedStacks : List Stack) :
    ExportReaches repo (exportedPaths (parseHarnessFiles upper redactUnsafeLines harnessContent)
      (texts.parseTasks content) detectedStacks) ↔
      ∀ file ∈ parseHarnessFiles upper redactUnsafeLines harnessContent, Addressable file.1 := by
  constructor
  · intro exported file member
    have among := @harness_exported texts _ _ _ content detectedStacks file member
    exact (reaches_iff plain (quotePath_exported digests among)).mp (exported.reaches _ among)
  · intro harness
    have reaches : ∀ path ∈ exportedPaths (parseHarnessFiles upper redactUnsafeLines harnessContent)
        (texts.parseTasks content) detectedStacks,
        ∀ call, (contentsUrl repo path call).bind (addressed repo) = some (utf8 path) := fun path member =>
      (reaches_iff plain (quotePath_exported digests member)).mpr (addressable_exported digests harness member)
    refine ⟨reaches, fun path member other among call otherCall same => ?_⟩
    rw [reaches path member, reaches other among] at same
    exact utf8_inj (Option.some.inj same)

end

def hexTexts : Texts := { sampleTexts with sha256 := fun _ => "0123456789abcdef" }

theorem hexTexts_hexDigests : hexTexts.HexDigests := fun _ _ member => member

def hiddenNames : DocText := DocText.ofParts [
  "## File: notes#1.md\n```\n1\n```\n## File: notes#2.md\n```\n2\n```\n",
  "## File: %41.md\n```\n3\n```"]

theorem hiddenNames_paths : (parseHarnessFiles sampleUpper id hiddenNames).map (·.1) =
    ["harness/notes#1.md".toList, "harness/notes#2.md".toList, "harness/%41.md".toList] := by
  have letters : hiddenNames = List.flatten _ := DocText.ofParts_letters [_, _]
  rw [letters]
  decide

theorem exports_reach_iff_sample : (hexTexts.HexDigests ∧ OneSegment "me/repo".toList) ∧
    (ExportReaches "me/repo".toList
      (exportedPaths (parseHarnessFiles sampleUpper id hiddenNames) (hexTexts.parseTasks "### T-1: A") [.python]) ↔
      ∀ file ∈ parseHarnessFiles sampleUpper id hiddenNames, Addressable file.1) :=
  have plain : OneSegment "me/repo".toList := by decide
  ⟨⟨hexTexts_hexDigests, plain⟩, exports_reach_iff hexTexts_hexDigests plain sampleUpper id hiddenNames "### T-1: A" _⟩

theorem hidden_names_meet :
    let paths := exportedPaths (parseHarnessFiles sampleUpper id hiddenNames) (hexTexts.parseTasks "### T-1: A") [.python]
    let writes (path : DocText) := (contentsUrl "me/repo".toList path .upsertFile).bind (addressed "me/repo".toList)
    ("harness/notes#1.md".toList ∈ paths ∧ "harness/notes#2.md".toList ∈ paths ∧ "harness/%41.md".toList ∈ paths) ∧
      writes "harness/notes#1.md".toList = some (utf8 "harness/notes".toList) ∧
      writes "harness/notes#2.md".toList = some (utf8 "harness/notes".toList) ∧
      writes "harness/%41.md".toList = some (utf8 "harness/A.md".toList) ∧ ¬ExportReaches "me/repo".toList paths := by
  have among {path : DocText} (member : path ∈ (parseHarnessFiles sampleUpper id hiddenNames).map (·.1)) :
      path ∈ exportedPaths (parseHarnessFiles sampleUpper id hiddenNames) (hexTexts.parseTasks "### T-1: A") [.python] :=
    List.mem_append_right _ (List.mem_append_left _ (List.mem_append_left _ member))
  rw [hiddenNames_paths] at among
  have first := among (.head _)
  have second := among (.tail _ (.head _))
  have same : (contentsUrl "me/repo".toList "harness/notes#1.md".toList .upsertFile).bind (addressed "me/repo".toList) =
      (contentsUrl "me/repo".toList "harness/notes#2.md".toList .upsertFile).bind (addressed "me/repo".toList) := by
    decide
  refine ⟨⟨first, second, among (.tail _ (.tail _ (.head _)))⟩, ?_, ?_, ?_, fun exported => ?_⟩
  · decide
  · decide
  · decide
  · exact absurd (exported.apart _ first _ second _ _ same) (by decide)

end Thought2Build.Integrations
