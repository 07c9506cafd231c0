import Mathlib.Data.List.Basic

/-!
Line comments and string literals in double quotes, as far as they decide what of a text is code. A comment goes up to a
line terminator; a literal goes up to a quote that is not escaped, and none of some characters may stand in it.
-/

namespace Lexing

inductive Token where
  | code (letter : Char)
  | comment (text : List Char)
  | literal (text : List Char)
  | unclosed (text : List Char)
  deriving DecidableEq

structure Lexicon where
  opener : Char
  more : List Char
  terminates : Char → Bool
  breaks : Char → Bool
  quiet : terminates opener = false
  apart : opener ≠ '\x22'

def Lexicon.mark (lexicon : Lexicon) : List Char := lexicon.opener :: lexicon.more

inductive Mode where
  | code
  | comment (read : List Char)
  | literal (read : List Char)
  | escaped (read : List Char)

variable (lexicon : Lexicon)

/-- The tokens of a text; each mode has what it has read, the latest letter first. -/
def tokens : Mode → List Char → List Token
  | .code, [] => []
  | .comment read, [] => [.comment read.reverse]
  | .literal read, [] => [.unclosed read.reverse]
  | .escaped read, [] => [.unclosed read.reverse]
  | .code, letter :: rest =>
      if letter = '\x22' then tokens (.literal [letter]) rest
      else if lexicon.mark.isPrefixOf (letter :: rest) then tokens (.comment [letter]) rest
      else .code letter :: tokens .code rest
  | .comment read, letter :: rest =>
      if lexicon.terminates letter then .comment read.reverse :: .code letter :: tokens .code rest
      else tokens (.comment (letter :: read)) rest
  | .literal read, letter :: rest =>
      if letter = '\x22' then .literal (letter :: read).reverse :: tokens .code rest
      else if letter = '\x5c' then tokens (.escaped (letter :: read)) rest
      else if lexicon.breaks letter then .unclosed read.reverse :: .code letter :: tokens .code rest
      else tokens (.literal (letter :: read)) rest
  | .escaped read, '\r' :: '\n' :: rest => tokens (.literal ('\n' :: '\r' :: read)) rest
  | .escaped read, letter :: rest => tokens (.literal (letter :: read)) rest

variable {lexicon} {text read rest : List Char} {letter : Char}

def Quiet (lexicon : Lexicon) (text : List Char) : Prop :=
  ∀ letter ∈ text, letter ≠ '\x22' ∧ letter ≠ lexicon.opener

theorem tokens_code (quiet : Quiet lexicon text) (rest : List Char) :
    tokens lexicon .code (text ++ rest) = text.map .code ++ tokens lexicon .code rest := by
  induction text with
  | nil => rfl
  | cons letter text ih =>
      obtain ⟨⟨quote, opener⟩, later⟩ := List.forall_mem_cons.mp quiet
      have plain : lexicon.mark.isPrefixOf (letter :: (text ++ rest)) = false := by
        rw [Lexicon.mark, List.isPrefixOf_cons_cons, beq_false_of_ne opener.symm, Bool.false_and]
      rw [List.cons_append, tokens, if_neg quote, plain, if_neg Bool.false_ne_true, ih later]
      rfl

theorem tokens_comment_rest (inside : ∀ letter ∈ text, lexicon.terminates letter = false)
    (last : lexicon.terminates letter = true) : tokens lexicon (.comment read) (text ++ letter :: rest) =
      .comment (read.reverse ++ text) :: .code letter :: tokens lexicon .code rest := by
  induction text generalizing read with
  | nil => rw [List.nil_append, tokens, if_pos last, List.append_nil]
  | cons other text ih =>
      obtain ⟨here, later⟩ := List.forall_mem_cons.mp inside
      rw [List.cons_append, tokens, here, if_neg Bool.false_ne_true, ih later, List.reverse_cons, List.append_assoc,
        List.singleton_append]

theorem tokens_comment (inside : ∀ letter ∈ lexicon.more ++ text, lexicon.terminates letter = false)
    (last : lexicon.terminates letter = true) : tokens lexicon .code (lexicon.mark ++ text ++ letter :: rest) =
      .comment (lexicon.mark ++ text) :: .code letter :: tokens lexicon .code rest := by
  have opens : lexicon.mark.isPrefixOf (lexicon.opener :: (lexicon.more ++ text ++ letter :: rest)) = true := by
    rw [List.append_assoc]
    exact List.isPrefixOf_iff_prefix.mpr (List.prefix_append lexicon.mark _)
  rw [Lexicon.mark, List.cons_append, List.cons_append, tokens, if_neg lexicon.apart, if_pos opens,
    tokens_comment_rest inside last]
  rfl

def doubled (text : List Char) : List Char :=
  text.flatMap fun letter => if letter = '\x5c' then ['\x5c', '\x5c'] else [letter]

@[simp] theorem doubled_nil : doubled [] = [] := rfl

theorem doubled_cons (letter : Char) (text : List Char) :
    doubled (letter :: text) = (if letter = '\x5c' then ['\x5c', '\x5c'] else [letter]) ++ doubled text := rfl

theorem doubled_append (front back : List Char) : doubled (front ++ back) = doubled front ++ doubled back :=
  List.flatMap_append

theorem mem_doubled : letter ∈ doubled text ↔ letter ∈ text := by
  induction text with
  | nil => rfl
  | cons other text ih =>
      rw [doubled_cons, List.mem_append, ih, List.mem_cons]
      by_cases backslash : other = '\x5c'
      · simp [backslash]
      · simp [backslash]

theorem doubled_plain (plain : '\x5c' ∉ text) : doubled text = text := by
  induction text with
  | nil => rfl
  | cons letter text ih =>
      obtain ⟨other, later⟩ := not_or.mp (List.mem_cons.not.mp plain)
      rw [doubled_cons, if_neg (Ne.symm other), ih later, List.singleton_append]

theorem tokens_literal_rest (inside : ∀ letter ∈ text, letter ≠ '\x22' ∧ lexicon.breaks letter = false) :
    tokens lexicon (.literal read) (doubled text ++ '\x22' :: rest) =
      .literal (read.reverse ++ doubled text ++ ['\x22']) :: tokens lexicon .code rest := by
  induction text generalizing read with
  | nil =>
      rw [doubled, List.flatMap_nil, List.nil_append, tokens, if_pos rfl]
      simp
  | cons other text ih =>
      obtain ⟨⟨quote, whole⟩, later⟩ := List.forall_mem_cons.mp inside
      rw [doubled_cons]
      by_cases backslash : other = '\x5c'
      · subst backslash
        simp only [if_true, List.cons_append, List.nil_append]
        rw [tokens, if_neg (by decide), if_pos rfl, tokens, ih later]
        · simp
        · exact fun _ same => absurd same (by decide)
      · rw [if_neg backslash, List.singleton_append, List.cons_append, tokens, if_neg quote, if_neg backslash, whole,
          if_neg Bool.false_ne_true, ih later]
        simp

theorem tokens_literal (inside : ∀ letter ∈ text, letter ≠ '\x22' ∧ lexicon.breaks letter = false) :
    tokens lexicon .code ('\x22' :: (doubled text ++ '\x22' :: rest)) =
      .literal ('\x22' :: (doubled text ++ ['\x22'])) :: tokens lexicon .code rest := by
  rw [tokens, if_pos rfl, tokens_literal_rest inside]
  rfl

theorem comment_plain {mode : Mode} {comment : List Char}
    (begun : ∀ read, mode = .comment read → ∀ letter ∈ read, lexicon.terminates letter = false)
    (member : .comment comment ∈ tokens lexicon mode text) : ∀ letter ∈ comment, lexicon.terminates letter = false := by
  fun_induction tokens lexicon mode text with
  | case1 => simp at member
  | case2 read =>
      obtain rfl := Token.comment.inj (List.mem_singleton.mp member)
      exact fun letter inside => begun read rfl letter (List.mem_reverse.mp inside)
  | case3 read => simp at member
  | case4 read => simp at member
  | case5 rest ih => exact ih nofun member
  | case6 letter rest quote opens ih =>
      refine ih (fun read same other inside => ?_) member
      obtain rfl := Mode.comment.inj same
      rw [Lexicon.mark, List.isPrefixOf_cons_cons, Bool.and_eq_true, beq_iff_eq] at opens
      rw [List.mem_singleton.mp inside, ← opens.1, lexicon.quiet]
  | case7 letter rest quote plain ih =>
      exact ih nofun ((List.mem_cons.mp member).resolve_left nofun)
  | case8 read letter rest last ih =>
      rcases List.mem_cons.mp member with same | later
      · obtain rfl := Token.comment.inj same
        exact fun letter inside => begun read rfl letter (List.mem_reverse.mp inside)
      · exact ih nofun ((List.mem_cons.mp later).resolve_left nofun)
  | case9 read letter rest stays ih =>
      refine ih (fun _ same => ?_) member
      obtain rfl := Mode.comment.inj same
      exact List.forall_mem_cons.mpr ⟨by simpa using stays, begun read rfl⟩
  | case10 read rest ih => exact ih nofun ((List.mem_cons.mp member).resolve_left nofun)
  | case11 read rest _ ih => exact ih nofun member
  | case12 read letter rest _ _ broken ih =>
      exact ih nofun ((List.mem_cons.mp ((List.mem_cons.mp member).resolve_left nofun)).resolve_left nofun)
  | case13 read letter rest _ _ whole ih => exact ih nofun member
  | case14 read rest ih => exact ih nofun member
  | case15 read letter rest _ ih => exact ih nofun member

/-! Texts in pieces -/

inductive Piece where
  | code (text : List Char)
  | comment (text : List Char)
  /-- A literal, with the backslashes that the text of it is to have -/
  | literal (text : List Char)

namespace Piece

def written (lexicon : Lexicon) : Piece → List Char
  | .code text => text
  | .comment text => lexicon.mark ++ text ++ ['\n']
  | .literal text => '\x22' :: (doubled text ++ ['\x22'])

def tokens (lexicon : Lexicon) : Piece → List Token
  | .code text => text.map .code
  | .comment text => [.comment (lexicon.mark ++ text), .code '\n']
  | .literal text => [.literal ('\x22' :: (doubled text ++ ['\x22']))]

def Fits (lexicon : Lexicon) : Piece → Prop
  | .code text => Quiet lexicon text
  | .comment text => ∀ letter ∈ text, lexicon.terminates letter = false
  | .literal text => ∀ letter ∈ text, letter ≠ '\x22' ∧ lexicon.breaks letter = false

end Piece

theorem tokens_pieces (newline : lexicon.terminates '\n' = true)
    (more : ∀ letter ∈ lexicon.more, lexicon.terminates letter = false) {pieces : List Piece}
    (fits : ∀ piece ∈ pieces, piece.Fits lexicon) :
    tokens lexicon .code (pieces.flatMap (Piece.written lexicon)) = pieces.flatMap (Piece.tokens lexicon) := by
  induction pieces with
  | nil => rfl
  | cons piece pieces ih =>
      obtain ⟨here, later⟩ := List.forall_mem_cons.mp fits
      rw [List.flatMap_cons, List.flatMap_cons, ← ih later]
      cases piece with
      | code text => exact tokens_code here _
      | comment text =>
          rw [Piece.written, List.append_assoc, List.singleton_append, tokens_comment _ newline]
          · rfl
          · intro letter member
            exact (List.mem_append.mp member).elim (more letter) (here letter)
      | literal text =>
          rw [Piece.written, List.cons_append, List.append_assoc, List.singleton_append, tokens_literal here]
          rfl

end Lexing
