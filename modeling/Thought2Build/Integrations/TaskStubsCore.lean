import Thought2Build.Integrations.ContentPathsCore
import Thought2Build.Library.Lexing

/-! The failing tests that an export writes, one for each task and stack, and the tokens of their templates. -/

namespace Thought2Build.Integrations

open Lexing
open Pipeline (DocText)

/-! Stubs -/

def escapeTitle (text : DocText) : DocText :=
  let quotes := (doubled text).map fun letter => if letter = '\x22' then '\x27' else letter
  DocText.strip (quotes.map fun letter => if letter = '\n' then ' ' else letter)

def pythonStub (taskRef ref slug title : DocText) : DocText := List.flatten [
  "# Thought2Build task stub — task_ref: ".toList, taskRef, "\n".toList,
  "# ".toList, ref, ": ".toList, title, "\n".toList,
  "#\n".toList,
  "# This test fails on purpose. Implement ".toList, ref, ", then replace the failing\n".toList,
  "# assertion below with a real test that proves it.\n".toList,
  "\n\ndef test_".toList, slug, "() -> None:\n".toList,
  "    raise AssertionError(\"Not implemented yet — ".toList, ref, ": ".toList, title, "\")\n".toList]

def nodeStub (taskRef ref title : DocText) : DocText := List.flatten [
  "// Thought2Build task stub — task_ref: ".toList, taskRef, "\n".toList,
  "// ".toList, ref, ": ".toList, title, "\n".toList,
  "//\n".toList,
  "// This test fails on purpose. Implement ".toList, ref, ", then replace the failing\n".toList,
  "// assertion below with a real test that proves it.\n".toList,
  "import \x7b describe, expect, it \x7d from \"vitest\"\n\n".toList,
  "describe(\"".toList, ref, ": ".toList, title, "\", () => \x7b\n".toList,
  "  it(\"is implemented\", () => \x7b\n    expect(false).toBe(true)\n  \x7d)\n\x7d)\n".toList]

def taskStub (task : ParsedTask) (stack : Stack) : DocText × DocText :=
  let taskRef := task.taskRef.toList
  let slug := taskRef.map fun letter => if letter = '-' then '_' else letter
  let title := escapeTitle task.title.toList
  match stack with
  | .node => (taskStubPath task.taskRef .node, nodeStub taskRef task.ref.toList title)
  | .python => (taskStubPath task.taskRef .python, pythonStub taskRef task.ref.toList slug title)

/-! Languages -/

def pythonLexicon : Lexicon where
  opener := '#'
  more := []
  terminates letter := letter = '\n' || letter = '\r'
  breaks letter := letter = '\n' || letter = '\r'
  quiet := by decide
  apart := by decide

def nodeLexicon : Lexicon where
  opener := '/'
  more := ['/']
  terminates letter := letter = '\n' || letter = '\r' || letter = '\u2028' || letter = '\u2029'
  breaks letter := letter = '\n' || letter = '\r'
  quiet := by decide
  apart := by decide

def Stack.lexicon : Stack → Lexicon
  | .python => pythonLexicon
  | .node => nodeLexicon

/-! Templates -/

def meantTitle (title : DocText) : DocText :=
  DocText.strip (title.map fun letter => if letter = '\x22' then '\x27' else if letter = '\n' then ' ' else letter)

def stubComments (taskRef ref title : DocText) : List Piece := [
  .comment (" Thought2Build task stub — task_ref: ".toList ++ taskRef),
  .comment (" ".toList ++ ref ++ ": ".toList ++ doubled title),
  .comment [],
  .comment (" This test fails on purpose. Implement ".toList ++ ref ++ ", then replace the failing".toList),
  .comment " assertion below with a real test that proves it.".toList]

def stubPieces (task : ParsedTask) (stack : Stack) : List Piece :=
  let taskRef := task.taskRef.toList
  let ref := task.ref.toList
  let title := meantTitle task.title.toList
  stubComments taskRef ref title ++
    match stack with
    | .python => [
        .code ("\n\ndef test_".toList ++ taskRef.map (fun letter => if letter = '-' then '_' else letter) ++
          "() -> None:\n    raise AssertionError(".toList),
        .literal ("Not implemented yet — ".toList ++ ref ++ ": ".toList ++ title), .code ")\n".toList]
    | .node => [
        .code "import \x7b describe, expect, it \x7d from ".toList, .literal "vitest".toList,
        .code "\n\ndescribe(".toList, .literal (ref ++ ": ".toList ++ title),
        .code ", () => \x7b\n  it(".toList, .literal "is implemented".toList,
        .code ", () => \x7b\n    expect(false).toBe(true)\n  \x7d)\n\x7d)\n".toList]

variable (texts : Texts)

/-- The tokens of each stub are the ones of its template, with the title in a comment and a literal; no two stubs have
one path. -/
structure StubsInert (content : String) (stack : Stack) : Prop where
  inert : ∀ task ∈ texts.parseTasks content,
    tokens stack.lexicon .code (taskStub task stack).2 = (stubPieces task stack).flatMap (Piece.tokens stack.lexicon)
  apart : ((texts.parseTasks content).map fun task => (taskStub task stack).1).Nodup

end Thought2Build.Integrations
