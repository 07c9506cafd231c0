import Thought2Build.Integrations.ContentPaths
import Thought2Build.Integrations.TaskHeadings
import Thought2Build.Integrations.TaskReaders
import Thought2Build.Integrations.TaskReferences
import Thought2Build.Integrations.TaskStubsCore
import Thought2Build.Library.Trimming

/-!
When the title of a task is no code in its stubs. A line feed in a title becomes a blank, but Python ends a comment at a
carriage return as well, and TypeScript at two separators more.
-/

namespace Thought2Build.Integrations

open Lexing Trimming Patterns
open Pipeline (DocText isSpace)

variable {texts : Texts} {content : String} {task : ParsedTask} {stack : Stack} {title : DocText} {letter : Char}

def meantLetter (letter : Char) : Char := if letter = '\x22' then '\x27' else if letter = '\n' then ' ' else letter

theorem escapeTitle_eq (title : DocText) : escapeTitle title = doubled (meantTitle title) := by
  have letters : ((doubled title).map fun letter => if letter = '\x22' then '\x27' else letter).map
      (fun letter => if letter = '\n' then ' ' else letter) = doubled (title.map meantLetter) := by
    induction title with
    | nil => rfl
    | cons letter title ih =>
        rw [doubled_cons, List.map_append, List.map_append, ih, List.map_cons, doubled_cons, meantLetter]
        by_cases backslash : letter = '\x5c'
        · subst backslash
          rfl
        · by_cases quote : letter = '\x22'
          · subst quote
            rfl
          · by_cases newline : letter = '\n'
            · subst newline
              rfl
            · simp [backslash, quote, newline]
  have keeps : KeepsKind isSpace isSpace fun letter => if letter = '\x5c' then ['\x5c', '\x5c'] else [letter] := by
    constructor
    · intro letter
      split <;> simp
    · intro letter other member
      split at member
      · rename_i backslash
        simp only [List.mem_cons, List.not_mem_nil, or_false, or_self] at member
        rw [member, backslash]
      · rw [List.mem_singleton.mp member]
  rw [escapeTitle, letters]
  exact keeps.trim_flatMap _

def Texts.QuietDigits (texts : Texts) : Prop :=
  ∀ letter, texts.isDigit letter = true → isSpace letter = false ∧ letter ≠ '\x22' ∧ letter ≠ '\x5c'

theorem stub_pieces (plain : '\x5c' ∉ task.ref.toList) (stack : Stack) :
    (taskStub task stack).2 = (stubPieces task stack).flatMap (Piece.written stack.lexicon) := by
  cases stack with
  | python =>
      simp only [taskStub, stubPieces, stubComments, escapeTitle_eq, Stack.lexicon]
      delta pythonStub
      simp [Piece.written, Lexicon.mark, pythonLexicon, doubled_cons, doubled_append, doubled_plain plain]
  | node =>
      simp only [taskStub, stubPieces, stubComments, escapeTitle_eq, Stack.lexicon]
      delta nodeStub
      simp [Piece.written, Lexicon.mark, nodeLexicon, doubled_cons, doubled_append, doubled_plain plain]

def Keeps (stack : Stack) (text : DocText) : Prop :=
  ∀ letter ∈ text, letter ≠ '\x22' ∧ stack.lexicon.terminates letter = false

theorem Keeps.append {front back : DocText} (early : Keeps stack front) (late : Keeps stack back) :
    Keeps stack (front ++ back) :=
  List.forall_mem_append.mpr ⟨early, late⟩

theorem Keeps.of_all {text : DocText}
    (all : text.all (fun letter => letter ≠ '\x22' && !stack.lexicon.terminates letter) = true) : Keeps stack text := by
  intro letter member
  simpa using List.all_eq_true.mp all letter member

theorem space_of_terminates (last : stack.lexicon.terminates letter = true) : isSpace letter = true := by
  cases stack with
  | python =>
      simp only [Stack.lexicon, pythonLexicon, Bool.or_eq_true, decide_eq_true_eq] at last
      rcases last with rfl | rfl <;> decide
  | node =>
      simp only [Stack.lexicon, nodeLexicon, Bool.or_eq_true, decide_eq_true_eq] at last
      rcases last with ((rfl | rfl) | rfl) | rfl <;> decide

theorem terminates_of_breaks (broken : stack.lexicon.breaks letter = true) :
    stack.lexicon.terminates letter = true := by
  cases stack with
  | python => exact broken
  | node => simp_all [Stack.lexicon, nodeLexicon]

theorem Keeps.comment {text : DocText} (keeps : Keeps stack text) : (Piece.comment text).Fits stack.lexicon :=
  fun letter member => (keeps letter member).2

theorem Keeps.literal {text : DocText} (keeps : Keeps stack text) : (Piece.literal text).Fits stack.lexicon := by
  intro letter member
  obtain ⟨quote, inside⟩ := keeps letter member
  refine ⟨quote, Bool.eq_false_iff.mpr fun broken => ?_⟩
  rw [terminates_of_breaks broken] at inside
  cases inside

def refLetters : DocText := "task-".toList ++ "0123456789abcdef".toList

theorem code_fits {text : DocText}
    (all : text.all (fun letter => letter ≠ '\x22' && letter ≠ stack.lexicon.opener) = true) :
    (Piece.code text).Fits stack.lexicon := by
  intro letter member
  simpa using List.all_eq_true.mp all letter member

theorem stubPieces_fit (hex : ∀ letter ∈ task.taskRef.toList, letter ∈ refLetters) (ref : Keeps stack task.ref.toList)
    (title : Keeps stack (meantTitle task.title.toList)) :
    ∀ piece ∈ stubPieces task stack, piece.Fits stack.lexicon := by
  have doubles : Keeps stack (doubled (meantTitle task.title.toList)) := fun letter member =>
    title letter (mem_doubled.mp member)
  have digest : Keeps stack task.taskRef.toList := by
    have all : refLetters.all (fun letter => letter ≠ '\x22' && !stack.lexicon.terminates letter) = true := by
      cases stack <;> decide
    exact fun letter member => Keeps.of_all all letter (hex letter member)
  have colon : Keeps stack ": ".toList := .of_all (by cases stack <;> decide)
  have comments : ∀ piece ∈ stubComments task.taskRef.toList task.ref.toList (meantTitle task.title.toList),
      piece.Fits stack.lexicon := by
    have first : Keeps stack " Thought2Build task stub — task_ref: ".toList := .of_all (by cases stack <;> decide)
    have blank : Keeps stack " ".toList := .of_all (by cases stack <;> decide)
    have purpose : Keeps stack " This test fails on purpose. Implement ".toList := .of_all (by cases stack <;> decide)
    have behind : Keeps stack ", then replace the failing".toList := .of_all (by cases stack <;> decide)
    have last : Keeps stack " assertion below with a real test that proves it.".toList :=
      .of_all (by cases stack <;> decide)
    simp only [stubComments, List.forall_mem_cons]
    exact ⟨(first.append digest).comment, (((blank.append ref).append colon).append doubles).comment, nofun,
      ((purpose.append ref).append behind).comment, last.comment, nofun⟩
  refine List.forall_mem_append.mpr ⟨comments, ?_⟩
  cases stack with
  | python =>
      have early : Keeps .python "Not implemented yet — ".toList := .of_all (by decide)
      have slug : (task.taskRef.toList.map fun letter => if letter = '-' then '_' else letter).all
          (fun letter => letter ≠ '\x22' && letter ≠ pythonLexicon.opener) = true := by
        have all : refLetters.all (fun letter => (if letter = '-' then '_' else letter) ≠ '\x22' &&
            (if letter = '-' then '_' else letter) ≠ pythonLexicon.opener) = true := by decide
        rw [List.all_map]
        exact List.all_eq_true.mpr fun letter member => List.all_eq_true.mp all letter (hex letter member)
      simp only [List.forall_mem_cons]
      refine ⟨code_fits ?_, (((early.append ref).append colon).append title).literal, code_fits (by decide), nofun⟩
      rw [List.all_append, List.all_append, Stack.lexicon, slug]
      decide
  | node =>
      simp only [List.forall_mem_cons]
      exact ⟨code_fits (by decide), (Keeps.of_all (by decide)).literal, code_fits (by decide),
        ((ref.append colon).append title).literal, code_fits (by decide), (Keeps.of_all (by decide)).literal,
        code_fits (by decide), nofun⟩

theorem meantLetter_terminates (line : letter ≠ '\n') :
    stack.lexicon.terminates (meantLetter letter) = stack.lexicon.terminates letter := by
  by_cases quote : letter = '\x22'
  · rw [quote]
    cases stack <;> decide
  · rw [meantLetter, if_neg quote, if_neg line]

theorem meantLetter_quote (letter : Char) : meantLetter letter ≠ '\x22' := by
  by_cases quote : letter = '\x22'
  · rw [meantLetter, if_pos quote]
    decide
  · by_cases line : letter = '\n'
    · rw [meantLetter, if_neg quote, if_pos line]
      decide
    · rwa [meantLetter, if_neg quote, if_neg line]

theorem meantTitle_eq (trimmed : DocText.strip title = title) : meantTitle title = title.map meantLetter := by
  have same : ∀ letter, isSpace (meantLetter letter) = isSpace letter := by
    intro letter
    by_cases quote : letter = '\x22'
    · rw [quote]
      decide
    · by_cases line : letter = '\n'
      · rw [line]
        decide
      · rw [meantLetter, if_neg quote, if_neg line]
  calc meantTitle title
    _ = trim isSpace (title.map meantLetter) := rfl
    _ = (trim isSpace title).map meantLetter := trim_map same title
    _ = title.map meantLetter := congrArg (List.map meantLetter) trimmed

theorem keeps_meantTitle (line : '\n' ∉ title) (trimmed : DocText.strip title = title)
    (inside : ∀ letter ∈ title, stack.lexicon.terminates letter = false) : Keeps stack (meantTitle title) := by
  intro other member
  rw [meantTitle_eq trimmed] at member
  obtain ⟨letter, among, rfl⟩ := List.mem_map.mp member
  refine ⟨meantLetter_quote letter, ?_⟩
  rw [meantLetter_terminates (ne_of_mem_of_not_mem among line), inside letter among]

theorem title_inside (line : '\n' ∉ task.title.toList) (trimmed : DocText.strip task.title.toList = task.title.toList)
    (same : tokens stack.lexicon .code (taskStub task stack).2 =
      (stubPieces task stack).flatMap (Piece.tokens stack.lexicon)) :
    ∀ letter ∈ task.title.toList, stack.lexicon.terminates letter = false := by
  intro letter member
  have comment : .comment (stack.lexicon.mark ++ (" ".toList ++ task.ref.toList ++ ": ".toList ++
      doubled (meantTitle task.title.toList))) ∈ tokens stack.lexicon .code (taskStub task stack).2 := by
    rw [same]
    refine List.mem_flatMap.mpr ⟨_, List.mem_append_left _ (List.mem_cons_of_mem _ List.mem_cons_self), ?_⟩
    exact List.mem_cons_self
  have among : meantLetter letter ∈ meantTitle task.title.toList := by
    rw [meantTitle_eq trimmed]
    exact List.mem_map_of_mem member
  rw [← meantLetter_terminates (ne_of_mem_of_not_mem member line)]
  refine @comment_plain stack.lexicon _ .code _ (fun _ same => Mode.noConfusion same) comment (meantLetter letter) ?_
  exact List.mem_append_right _ (List.mem_append_right _ (mem_doubled.mpr among))

theorem task_letters (member : task ∈ texts.parseTasks content) : ∃ digits name, texts.AllDigits digits ∧
    task.ref.toList = "T-".toList ++ digits ∧ '\n' ∉ name ∧ task.title.toList = DocText.strip name := by
  obtain ⟨heading, among, before, following, parsed⟩ := Texts.mem_tasksFrom member
  obtain ⟨found, _⟩ := mem_search among
  have fresh := search_groups rfl among
  obtain ⟨_, spaces, digits, gap, name, tail, rest, opening, _, ⟨_, line⟩, _, _, finish⟩ :=
    Texts.mem_taskHeading.mp found
  rw [Texts.taskAt, finish, fresh] at parsed
  obtain rfl := Option.some.inj parsed
  exact ⟨digits, name, opening.digits, by simp, line, by simp [Pipeline.strip, DocText.strip]⟩

theorem taskRef_letters (digests : texts.HexDigests) (member : task ∈ texts.parseTasks content) :
    ∀ letter ∈ task.taskRef.toList, letter ∈ refLetters := by
  obtain ⟨occurrence, same⟩ := tasksFrom_ref member
  obtain ⟨digits, whole, hex⟩ := computeTaskRef_digits digests task.title occurrence
  rw [same, whole]
  exact List.forall_mem_append.mpr ⟨fun _ => List.mem_append_left _, fun letter inside =>
    List.mem_append_right _ (hex letter inside)⟩

theorem ref_keeps (digits : texts.QuietDigits) (member : task ∈ texts.parseTasks content) :
    '\x5c' ∉ task.ref.toList ∧ Keeps stack task.ref.toList := by
  obtain ⟨number, _, all, same, _⟩ := task_letters member
  rw [same]
  constructor
  · intro inside
    rcases List.mem_append.mp inside with mark | digit
    · exact absurd mark (by decide)
    · exact (digits _ (all.2 _ digit)).2.2 rfl
  · refine Keeps.append (.of_all (by cases stack <;> decide)) fun letter digit => ?_
    obtain ⟨space, quote, _⟩ := digits letter (all.2 letter digit)
    exact ⟨quote, Bool.eq_false_iff.mpr fun last => Bool.eq_false_iff.mp space (space_of_terminates last)⟩

theorem title_trimmed (member : task ∈ texts.parseTasks content) :
    '\n' ∉ task.title.toList ∧ DocText.strip task.title.toList = task.title.toList := by
  obtain ⟨_, name, _, _, line, same⟩ := task_letters member
  rw [same]
  exact ⟨fun inside => line ((trim_within _ _).subset inside), (trimmed_trim isSpace name).trim_eq⟩

def Texts.taskSeed (texts : Texts) (title : String) (occurrence : Nat) : String :=
  let seed := "tasks\x1f" ++ texts.normalizedTaskTitle title
  if occurrence = 0 then seed else seed ++ "\x1f" ++ toString occurrence

def Texts.digest (texts : Texts) (seed : String) : DocText := (texts.sha256 seed).toList.take 12

def Texts.seedsFrom (texts : Texts) : List String → List ParsedTask → List String
  | _, [] => []
  | seen, task :: rest =>
      texts.taskSeed task.title (seen.count (texts.normalizedTaskTitle task.title)) ::
        seedsFrom texts (texts.normalizedTaskTitle task.title :: seen) rest

theorem seedsFrom_refs {seen : List String} {tasks : List ParsedTask} (numbered : texts.Numbered seen tasks) :
    tasks.map (·.taskRef) =
      (texts.seedsFrom seen tasks).map fun seed => String.ofList ("task-".toList ++ texts.digest seed) := by
  induction tasks generalizing seen with
  | nil => rfl
  | cons task rest ih =>
      rw [List.map_cons, Texts.seedsFrom, List.map_cons, ih numbered.2, numbered.1]
      rfl

def digestPath (stack : Stack) (digest : DocText) : DocText :=
  taskStubPath (String.ofList ("task-".toList ++ digest)) stack

theorem digest_letters (digests : texts.HexDigests) (seed : String) :
    ∀ letter ∈ texts.digest seed, letter ∈ "0123456789abcdef".toList :=
  fun letter member => digests seed letter (List.take_subset _ _ member)

theorem no_dashes {text : DocText} (plain : '-' ∉ text) :
    ∀ letter ∈ text, (if letter = '-' then '_' else letter) = letter :=
  fun _ member => if_neg (ne_of_mem_of_not_mem member plain)

theorem digestPath_inj {first second : DocText} (plain : '-' ∉ first) (plain' : '-' ∉ second)
    (same : digestPath stack first = digestPath stack second) : first = second := by
  unfold digestPath taskStubPath at same
  rw [@String.toList_ofList ("task-".toList ++ first), @String.toList_ofList ("task-".toList ++ second)] at same
  cases stack with
  | node =>
      exact List.append_cancel_left (List.append_cancel_left (List.append_cancel_right same))
  | python =>
      have whole := List.append_cancel_left (List.append_cancel_right same)
      rw [List.map_append, List.map_append, List.map_congr_left (no_dashes plain),
        List.map_congr_left (no_dashes plain'), List.map_id', List.map_id'] at whole
      exact List.append_cancel_left whole

def DigestsApart (texts : Texts) (content : String) : Prop :=
  ((texts.seedsFrom [] (texts.parseTasks content)).map texts.digest).Nodup

theorem paths_apart_iff (digests : texts.HexDigests) (content : String) (stack : Stack) :
    ((texts.parseTasks content).map fun task => (taskStub task stack).1).Nodup ↔ DigestsApart texts content := by
  have paths : ((texts.parseTasks content).map fun task => (taskStub task stack).1) =
      ((texts.seedsFrom [] (texts.parseTasks content)).map texts.digest).map (digestPath stack) := by
    have refs := seedsFrom_refs
      (texts.tasksFrom_numbered content.toList.length [] (findIter texts.taskHeading content.toList))
    calc ((texts.parseTasks content).map fun task => (taskStub task stack).1)
      _ = ((texts.parseTasks content).map (·.taskRef)).map (taskStubPath · stack) := by
        rw [List.map_map]
        exact List.map_congr_left fun task _ => by cases stack <;> rfl
      _ = _ := by
        rw [show (texts.parseTasks content).map (·.taskRef) = _ from refs, List.map_map, List.map_map]
        rfl
  rw [paths, DigestsApart]
  constructor
  · exact List.Nodup.of_map _
  · intro apart
    refine apart.map_on fun first member second member' same => ?_
    obtain ⟨_, _, rfl⟩ := List.mem_map.mp member
    obtain ⟨_, _, rfl⟩ := List.mem_map.mp member'
    have dash : '-' ∉ "0123456789abcdef".toList := by decide
    exact digestPath_inj (fun inside => dash (digest_letters digests _ _ inside))
      (fun inside => dash (digest_letters digests _ _ inside)) same

theorem mark_stays (stack : Stack) : ∀ letter ∈ stack.lexicon.more, stack.lexicon.terminates letter = false := by
  cases stack with
  | python => exact nofun
  | node => exact List.forall_mem_singleton.mpr rfl

theorem hexTexts_quietDigits : hexTexts.QuietDigits := by
  intro letter digit
  have word := sampleTexts_standard.digit letter digit
  refine ⟨Bool.eq_false_iff.mpr fun space => ?_, ?_, ?_⟩
  · rw [sampleTexts_standard.space letter space] at word
    cases word
  · rintro rfl
    exact absurd digit (by decide)
  · rintro rfl
    exact absurd digit (by decide)

end Thought2Build.Integrations
