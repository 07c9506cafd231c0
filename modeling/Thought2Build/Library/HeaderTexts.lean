import Mathlib.Data.List.Basic
import Thought2Build.Library.Trimming
import Thought2Build.Library.UriTexts

/-!
Headers in YAML: what is between two lines of dashes, as a mapping to scalars and to lists of scalars. A scalar is read
from one line, plain or in double quotes. What goes on in a next line is refused, and so are comments, tags, anchors,
block scalars, single quotes and nested collections: YAML reads a text from none of them as it is written.
-/

namespace HeaderTexts

open Trimming

inductive Scalar where
  | text (letters : List Char)
  | typed (letters : List Char)
  deriving DecidableEq

inductive Node where
  | scalar (scalar : Scalar)
  | list (entries : List Scalar)
  deriving DecidableEq

/-- The words of all schemas that start with a letter and are no texts -/
def typedWords : List (List Char) :=
  ["y", "n", "yes", "no", "true", "false", "on", "off", "null"].map String.toList

/-- What the versions and schemas of YAML differ in: the letters that may stand in a plain scalar, those that stand for
themselves between quotes, and the plain scalars that are texts. -/
structure Dialect where
  plain : Char → Bool
  quoted : Char → Bool
  isText : List Char → Bool
  ascii : ∀ letter, ' ' ≤ letter → letter ≤ '~' → plain letter = true ∧ quoted letter = true
  newline : plain '\n' = false ∧ quoted '\n' = false
  empty : isText [] = false
  words : ∀ text, text.head?.any Char.isAlpha = true → text.map Char.toLower ∉ typedWords → isText text = true

abbrev Mapping := List (List Char × Node)

variable (dialect : Dialect)

def isBlank (letter : Char) : Bool := letter = ' ' || letter = '\t'

/-! Quotes -/

def escapes : List (Char × Char) := [
  ('0', '\x00'), ('a', '\x07'), ('b', '\x08'), ('t', '\t'), ('\t', '\t'), ('n', '\n'), ('v', '\x0b'), ('f', '\x0c'),
  ('r', '\r'), ('e', '\x1b'), (' ', ' '), ('\x22', '\x22'), ('/', '/'), ('\x5c', '\x5c'), ('N', '\u0085'),
  ('_', '\u00a0'), ('L', '\u2028'), ('P', '\u2029')]

def codes : List (Char × Nat) := [('x', 2), ('u', 4), ('U', 8)]

inductive Escape where
  | none
  | begun
  | digits (left value : Nat)

/-- What a text up to its closing quote means; only blanks may follow. -/
def unquoted : Escape → List Char → Option (List Char)
  | _, [] => .none
  | .none, letter :: rest =>
      if letter = '\x22' then if rest.all isBlank then some [] else .none
      else if letter = '\x5c' then unquoted .begun rest
      else if dialect.quoted letter then (unquoted .none rest).map (letter :: ·)
      else .none
  | .begun, letter :: rest =>
      match escapes.lookup letter, codes.lookup letter with
      | some meant, _ => (unquoted .none rest).map (meant :: ·)
      | .none, some left => unquoted (.digits left 0) rest
      | .none, .none => .none
  | .digits left value, letter :: rest =>
      (UriTexts.hexDigit letter).bind fun digit =>
        if 1 < left then unquoted (.digits (left - 1) (16 * value + digit)) rest
        else if (16 * value + digit).isValidChar then (unquoted .none rest).map (Char.ofNat (16 * value + digit) :: ·)
        else .none

/-! Plain scalars -/

def indicators : List Char := ",[]\x7b\x7d#&*!|>'\x22%@\x60".toList

def startsPlain : List Char → Bool
  | [] => true
  | first :: rest =>
      if first ∈ ['-', '?', ':'] then rest.head?.any (!isBlank ·) else !isBlank first && first ∉ indicators

/-- No colon ends the scalar as a key, and no number sign as a comment. -/
def staysPlain : Char → List Char → Bool
  | before, [] => before ≠ ':'
  | before, letter :: rest =>
      dialect.plain letter && !(before = ':' && isBlank letter) && !(isBlank before && letter = '#') &&
        staysPlain letter rest

def plainScalar (text : List Char) : Option Scalar :=
  if startsPlain text && staysPlain dialect ' ' text then
    some (if dialect.isText text then .text text else .typed text)
  else none

def scalar (text : List Char) : Option Scalar :=
  if text.head? = some '\x22' then (unquoted dialect .none text.tail).map .text else plainScalar dialect text

/-! Lines -/

def flowEntry (text : List Char) : Option Scalar :=
  let entry := trim isBlank text
  if entry = [] || entry.any (· ∈ "[]\x7b\x7d\x22".toList) then none else plainScalar dialect entry

def value (text : List Char) : Option Node :=
  if text.head? = some '[' then
    if text.getLast? = some ']' then
      ((text.tail.dropLast.splitOn ',').mapM (flowEntry dialect)).map .list
    else none
  else (scalar dialect text).map .scalar

/-- The node with one more entry; a key without a value begins a list. -/
def Node.push : Node → Scalar → Option Node
  | .list entries, entry => some (.list (entries ++ [entry]))
  | .scalar (.typed []), entry => some (.list [entry])
  | .scalar _, _ => none

def entryMark : List Char := "  - ".toList

/-- The mapping, latest key first, with what one more line says -/
def readLine (mapping : Mapping) (line : List Char) : Option Mapping :=
  if line.all isBlank then some mapping
  else if entryMark.isPrefixOf line then
    match mapping with
    | [] => none
    | (key, node) :: before =>
        (scalar dialect (trim isBlank (line.drop entryMark.length))).bind fun entry =>
          (node.push entry).map fun node => (key, node) :: before
  else
    let key := line.takeWhile (· ≠ ':')
    let rest := line.drop key.length
    if plainScalar dialect key = some (.text key) ∧ (mapping.all fun entry => entry.1 ≠ key) = true ∧ rest ≠ [] ∧
        rest.tail.head?.all isBlank = true then
      (value dialect (trim isBlank rest.tail)).map fun node => (key, node) :: mapping
    else none

def dashes : List Char := "---".toList

def frontMatter (text : List Char) : Option (List (List Char)) :=
  let lines := ((text.splitOn '\n').dropWhile (· ≠ dashes)).tail
  if lines.any (· = dashes) then some (lines.takeWhile (· ≠ dashes)) else none

def readHeader (text : List Char) : Option Mapping :=
  (frontMatter text).bind fun lines => (lines.foldlM (readLine dialect) []).map List.reverse

variable {dialect} {text written letters : List Char} {mapping next : Mapping} {line : List Char}

/-! Scalars -/

theorem unquoted_length {mode : Escape} (read : unquoted dialect mode text = some letters) :
    letters.length < text.length := by
  induction text generalizing mode letters with
  | nil => cases mode <;> simp [unquoted] at read
  | cons letter rest ih =>
      have push {front : Char} (read : (unquoted dialect .none rest).map (front :: ·) = some letters) :
          letters.length < (letter :: rest).length := by
        obtain ⟨tail, found, rfl⟩ := Option.map_eq_some_iff.mp read
        exact Nat.succ_lt_succ (ih found)
      cases mode with
      | none =>
          rw [unquoted] at read
          split at read
          · split at read
            · obtain rfl := Option.some.inj read
              exact Nat.succ_pos _
            · cases read
          · split at read
            · exact (ih read).trans (Nat.lt_succ_self _)
            · split at read
              · exact push read
              · cases read
      | begun =>
          rw [unquoted] at read
          split at read
          · exact push read
          · exact (ih read).trans (Nat.lt_succ_self _)
          · cases read
      | digits left value =>
          rw [unquoted] at read
          obtain ⟨digit, _, read⟩ := Option.bind_eq_some_iff.mp read
          split at read
          · exact (ih read).trans (Nat.lt_succ_self _)
          · split at read
            · exact push read
            · cases read

def Itself (dialect : Dialect) (text : List Char) : Prop :=
  ∀ letter ∈ text, letter ≠ '\x22' ∧ letter ≠ '\x5c' ∧ dialect.quoted letter = true

theorem unquoted_itself (itself : Itself dialect text) : unquoted dialect .none (text ++ ['\x22']) = some text := by
  induction text with
  | nil => rfl
  | cons letter rest ih =>
      obtain ⟨⟨quote, backslash, quoted⟩, later⟩ := List.forall_mem_cons.mp itself
      rw [List.cons_append, unquoted, if_neg quote, if_neg backslash, if_pos quoted, ih later]
      rfl

theorem itself_of_unquoted (read : unquoted dialect .none (written ++ ['\x22']) = some letters)
    (long : written.length ≤ letters.length) : letters = written ∧ Itself dialect written := by
  induction written generalizing letters with
  | nil => exact ⟨List.eq_nil_of_length_eq_zero (Nat.lt_one_iff.mp (unquoted_length read)), nofun⟩
  | cons letter rest ih =>
      rw [List.cons_append, unquoted] at read
      split at read
      · split at read
        · obtain rfl := Option.some.inj read
          cases long
        · cases read
      · rename_i quote
        split at read
        · have short := unquoted_length read
          rw [List.length_append, List.length_singleton] at short
          exact absurd short (Nat.not_lt.mpr long)
        · rename_i backslash
          split at read
          · rename_i quoted
            obtain ⟨tail, found, rfl⟩ := Option.map_eq_some_iff.mp read
            obtain ⟨rfl, itself⟩ := ih found (Nat.le_of_succ_le_succ long)
            exact ⟨rfl, List.forall_mem_cons.mpr ⟨⟨quote, backslash, quoted⟩, itself⟩⟩
          · cases read

theorem plainScalar_text : plainScalar dialect text = some (.text letters) ↔
    letters = text ∧ startsPlain text = true ∧ staysPlain dialect ' ' text = true ∧ dialect.isText text = true := by
  unfold plainScalar
  split
  · rename_i plain
    obtain ⟨starts, stays⟩ := Bool.and_eq_true_iff.mp plain
    split
    · rename_i whole
      simp [starts, stays, whole, eq_comm]
    · rename_i other
      simp [other]
  · rename_i other
    rw [Bool.and_eq_true] at other
    exact ⟨nofun, fun plain => absurd ⟨plain.2.1, plain.2.2.1⟩ other⟩

theorem scalar_length (read : scalar dialect text = some (.text letters)) : letters.length ≤ text.length ∧
    (text.head? = some '\x22' → letters.length + 2 ≤ text.length) := by
  unfold scalar at read
  split at read
  · rename_i quote
    obtain ⟨_, found, same⟩ := Option.map_eq_some_iff.mp read
    obtain rfl := Scalar.text.inj same
    have short := unquoted_length found
    rw [List.length_tail] at short
    exact ⟨by omega, fun _ => by omega⟩
  · rename_i other
    obtain ⟨rfl, _⟩ := plainScalar_text.mp read
    exact ⟨Nat.le_refl _, fun quote => absurd quote other⟩

theorem staysPlain_simple {before : Char} (colon : before ≠ ':')
    (simple : ∀ letter ∈ text, letter ≠ ':' ∧ letter ≠ '#') :
    staysPlain dialect before text = true ↔ ∀ letter ∈ text, dialect.plain letter = true := by
  induction text generalizing before with
  | nil => simp [staysPlain, colon]
  | cons letter rest ih =>
      obtain ⟨⟨other, sign⟩, later⟩ := List.forall_mem_cons.mp simple
      rw [staysPlain, List.forall_mem_cons, ← ih other later]
      simp [colon, sign]

/-- The text is a word of printable letters that no schema takes for anything else. -/
def solid (text : List Char) : Bool :=
  text.head?.any Char.isAlpha && text.all (fun letter => '!' ≤ letter && letter ≤ '~') && text.getLast? ≠ some ':' &&
    typedWords.all (· ≠ text.map Char.toLower)

theorem space_le : ' ' ≤ '!' := by decide

theorem not_blank {letter : Char} (low : '!' ≤ letter) : isBlank letter = false := by
  refine Bool.eq_false_iff.mpr fun space => ?_
  rcases Bool.or_eq_true_iff.mp space with same | same
  · exact absurd (of_decide_eq_true same ▸ low) (by decide)
  · exact absurd (of_decide_eq_true same ▸ low) (by decide)

theorem staysPlain_solid {before : Char} (blank : isBlank before = false)
    (letters : ∀ letter ∈ text, '!' ≤ letter ∧ letter ≤ '~') (last : (before :: text).getLast? ≠ some ':') :
    staysPlain dialect before text = true := by
  induction text generalizing before with
  | nil => simpa [staysPlain] using last
  | cons letter rest ih =>
      obtain ⟨⟨low, high⟩, later⟩ := List.forall_mem_cons.mp letters
      rw [staysPlain, ih (not_blank low) later (by rwa [List.getLast?_cons_cons] at last), blank, not_blank low,
        (dialect.ascii letter (Char.le_trans space_le low) high).1]
      simp

theorem solid_first (good : solid text = true) : ∃ letter rest, text = letter :: rest ∧ letter.isAlpha = true := by
  cases text with
  | nil => cases good
  | cons letter rest =>
      simp only [solid, Bool.and_eq_true] at good
      exact ⟨letter, rest, rfl, good.1.1.1⟩

theorem solid_letters (good : solid text = true) : ∀ letter ∈ text, '!' ≤ letter ∧ letter ≤ '~' := by
  simp only [solid, Bool.and_eq_true] at good
  intro letter member
  simpa using List.all_eq_true.mp good.1.1.2 letter member

theorem solid_of_mark {mark : Char} (first : text.head?.any Char.isAlpha = true)
    (letters : ∀ letter ∈ text, '!' ≤ letter ∧ letter ≤ '~' ∧ letter ≠ ':') (member : mark ∈ text)
    (sign : mark = '-' ∨ mark = '.') : solid text = true := by
  have word : ∀ word ∈ typedWords, word ≠ text.map Char.toLower := by
    have plain : typedWords.all (fun word => '-' ∉ word ∧ '.' ∉ word) = true := by decide
    rintro _ typed rfl
    obtain ⟨dash, dot⟩ := of_decide_eq_true (List.all_eq_true.mp plain _ typed)
    rcases sign with rfl | rfl
    · exact dash (List.mem_map_of_mem member)
    · exact dot (List.mem_map_of_mem member)
  have last : text.getLast? ≠ some ':' := fun last => (letters _ (List.mem_of_getLast? last)).2.2 rfl
  simp only [solid, Bool.and_eq_true, decide_eq_true_eq, List.all_eq_true]
  exact ⟨⟨⟨first, fun letter member => ⟨(letters letter member).1, (letters letter member).2.1⟩⟩, last⟩, word⟩

theorem plainScalar_solid (good : solid text = true) : plainScalar dialect text = some (.text text) := by
  obtain ⟨letter, rest, rfl, alpha⟩ := solid_first good
  obtain ⟨⟨low, high⟩, later⟩ := List.forall_mem_cons.mp (solid_letters good)
  simp only [solid, Bool.and_eq_true, decide_eq_true_eq] at good
  have others : (['-', '?', ':', ' ', '\t', '#'] ++ indicators).all (fun mark => !mark.isAlpha) = true := by decide
  have away : letter ∉ ['-', '?', ':', ' ', '\t', '#'] ++ indicators := by
    intro member
    have other := List.all_eq_true.mp others letter member
    rw [alpha] at other
    cases other
  simp only [List.mem_append, List.mem_cons, List.not_mem_nil, or_false, not_or] at away
  have blank : isBlank letter = false := by simp [isBlank, away]
  have typed : (letter :: rest).map Char.toLower ∉ typedWords := fun typed =>
    of_decide_eq_true (List.all_eq_true.mp good.2 _ typed) rfl
  refine plainScalar_text.mpr ⟨rfl, by simp [startsPlain, away, blank], ?_, dialect.words _ good.1.1.1 typed⟩
  rw [staysPlain, staysPlain_solid blank later good.1.2, (dialect.ascii letter (Char.le_trans space_le low) high).1]
  simp [away]

theorem trim_solid (good : solid text = true) : trim isBlank text = text := by
  refine (Trimmed.of_all fun letter member => ?_).trim_eq
  exact not_blank (solid_letters good letter member).1

theorem scalar_solid (good : solid text = true) : scalar dialect text = some (.text text) := by
  have plain := @plainScalar_solid dialect text good
  obtain ⟨letter, rest, rfl, alpha⟩ := solid_first good
  rw [scalar, if_neg, plain]
  rintro ⟨⟩
  cases alpha

theorem value_solid (good : solid text = true) : value dialect text = some (.scalar (.text text)) := by
  have plain := @scalar_solid dialect text good
  obtain ⟨letter, rest, rfl, alpha⟩ := solid_first good
  rw [value, if_neg, plain]
  · rfl
  · rintro ⟨⟩
    cases alpha

theorem flowEntry_solid (good : solid (trim isBlank text) = true)
    (outside : (trim isBlank text).any (· ∈ "[]\x7b\x7d\x22".toList) = false) :
    flowEntry dialect text = some (.text (trim isBlank text)) := by
  have plain := @plainScalar_solid dialect _ good
  obtain ⟨letter, rest, same, _⟩ := solid_first good
  rw [flowEntry, outside, Bool.or_false, if_neg, plain]
  rw [same]
  simp

/-! Lines -/

def entriesNode (entries : List Scalar) : Node := if entries = [] then .scalar (.typed []) else .list entries

theorem push_entriesNode (entries : List Scalar) (entry : Scalar) :
    (entriesNode entries).push entry = some (entriesNode (entries ++ [entry])) := by
  cases entries with
  | nil => rfl
  | cons first rest => simp [entriesNode, Node.push]

theorem readLine_entry (key : List Char) (node : Node) (mapping : Mapping) (text : List Char) :
    readLine dialect ((key, node) :: mapping) (entryMark ++ text) =
      (scalar dialect (trim isBlank text)).bind fun entry =>
        (node.push entry).map fun node => (key, node) :: mapping := by
  have filled : (entryMark ++ text).all isBlank = false := by
    rw [List.all_append, show entryMark.all isBlank = false by decide, Bool.false_and]
  have marked : entryMark.isPrefixOf (entryMark ++ text) = true :=
    List.isPrefixOf_iff_prefix.mpr (List.prefix_append entryMark text)
  rw [readLine, filled, marked, List.drop_left]
  rfl

theorem read_entries {α : Type*} {key : List Char} {entries : List Scalar} {items : List α}
    {written meant : α → List Char}
    (reads : ∀ item ∈ items, scalar dialect (trim isBlank (written item)) = some (.text (meant item))) :
    (items.map fun item => entryMark ++ written item).foldlM (readLine dialect)
      ((key, entriesNode entries) :: mapping) = some ((key, entriesNode (entries ++ items.map fun item => .text (meant item))) :: mapping) := by
  induction items generalizing entries with
  | nil =>
      rw [List.map_nil, List.map_nil, List.append_nil]
      rfl
  | cons item rest ih =>
      obtain ⟨here, later⟩ := List.forall_mem_cons.mp reads
      rw [List.map_cons, List.foldlM_cons, readLine_entry, here, Option.bind_some, push_entriesNode, Option.map_some]
      refine (ih later).trans ?_
      rw [List.map_cons, List.append_assoc, List.singleton_append]

theorem readLine_field {key : List Char} (named : plainScalar dialect key = some (.text key)) (colon : ':' ∉ key)
    (fresh : key ∉ mapping.map (·.1)) (apart : text.head?.all isBlank = true) :
    readLine dialect mapping (key ++ ':' :: text) =
      (value dialect (trim isBlank text)).map fun node => (key, node) :: mapping := by
  have filled : (key ++ ':' :: text).all isBlank = false := by
    rw [List.all_append, List.all_cons, show isBlank ':' = false by decide, Bool.false_and, Bool.and_false]
  have unmarked : entryMark.isPrefixOf (key ++ ':' :: text) = false := by
    obtain ⟨_, starts, _, whole⟩ := plainScalar_text.mp named
    cases key with
    | nil =>
        rw [dialect.empty] at whole
        cases whole
    | cons first rest =>
        refine Bool.eq_false_iff.mpr fun marked => ?_
        rw [show entryMark = ' ' :: " - ".toList by decide, List.cons_append, List.isPrefixOf_cons_cons,
          Bool.and_eq_true, beq_iff_eq] at marked
        rw [← marked.1] at starts
        cases starts
  have others : ∀ letter ∈ key, decide (letter ≠ ':') = true := fun letter member =>
    decide_eq_true (ne_of_mem_of_not_mem member colon)
  have front : (key ++ ':' :: text).takeWhile (· ≠ ':') = key := by
    rw [List.takeWhile_append_of_pos others, List.takeWhile_cons_of_neg (by simp), List.append_nil]
  unfold readLine
  rw [filled, unmarked, front, if_neg Bool.false_ne_true, if_neg Bool.false_ne_true]
  dsimp only
  rw [List.drop_left]
  have other : (mapping.all fun entry => entry.1 ≠ key) = true := List.all_eq_true.mpr fun entry member =>
    decide_eq_true fun same => fresh (List.mem_map.mpr ⟨entry, member, same⟩)
  exact if_pos ⟨named, other, List.cons_ne_nil _ _, apart⟩

def Grows (early late : Mapping) : Prop :=
  ∀ key entries, (key, .list entries) ∈ early → ∃ more, (key, .list (entries ++ more)) ∈ late

theorem Grows.refl (mapping : Mapping) : Grows mapping mapping :=
  fun _ entries member => ⟨[], by rwa [List.append_nil entries]⟩

theorem readLine_grows (read : readLine dialect mapping line = some next) : Grows mapping next := by
  have behind {entry : List Char × Node} : Grows mapping (entry :: mapping) := fun key entries member => by
    obtain ⟨more, later⟩ := Grows.refl mapping key entries member
    exact ⟨more, List.mem_cons_of_mem _ later⟩
  unfold readLine at read
  split at read
  · obtain rfl := Option.some.inj read
    exact .refl mapping
  · split at read
    · cases mapping with
      | nil => exact nofun
      | cons first before =>
          obtain ⟨entry, _, pushed⟩ := Option.bind_eq_some_iff.mp read
          obtain ⟨node, found, rfl⟩ := Option.map_eq_some_iff.mp pushed
          intro key entries member
          rcases List.mem_cons.mp member with rfl | later
          · obtain rfl := Option.some.inj found
            exact ⟨[entry], List.mem_cons_self⟩
          · exact ⟨[], List.mem_cons_of_mem _ (by rwa [List.append_nil])⟩
    · dsimp only at read
      split at read
      · obtain ⟨node, _, rfl⟩ := Option.map_eq_some_iff.mp read
        exact behind
      · cases read

theorem readLines_grow {lines : List (List Char)} (read : lines.foldlM (readLine dialect) mapping = some next) :
    Grows mapping next := by
  induction lines generalizing mapping with
  | nil =>
      obtain rfl := Option.some.inj read
      exact .refl mapping
  | cons line rest ih =>
      rw [List.foldlM_cons] at read
      obtain ⟨middle, first, later⟩ := Option.bind_eq_some_iff.mp read
      intro key entries member
      obtain ⟨more, inside⟩ := readLine_grows first key entries member
      obtain ⟨most, found⟩ := ih later key _ inside
      exact ⟨more ++ most, by rwa [← List.append_assoc]⟩

/-! Headers -/

def readOn (dialect : Dialect) (state : Mapping) (rest : List Char) : Option Mapping :=
  ((rest.splitOn '\n').takeWhile (· ≠ dashes)).foldlM (readLine dialect) state

def unlines (lines : List (List Char)) : List Char := lines.flatMap (· ++ ['\n'])

theorem splitOn_unlines {lines : List (List Char)} (plain : ∀ line ∈ lines, '\n' ∉ line) (rest : List Char) :
    (unlines lines ++ rest).splitOn '\n' = lines ++ rest.splitOn '\n' := by
  induction lines with
  | nil => rfl
  | cons line lines ih =>
      obtain ⟨here, later⟩ := List.forall_mem_cons.mp plain
      rw [unlines, List.flatMap_cons, List.append_assoc, List.append_assoc, List.singleton_append,
        List.splitOn_append_cons_self_of_not_mem here, List.cons_append]
      exact congrArg (line :: ·) (ih later)

theorem readHeader_unlines {lines : List (List Char)} (plain : ∀ line ∈ lines, '\n' ∉ line) (away : dashes ∉ lines)
    (rest : List Char) : readHeader dialect (unlines (dashes :: lines) ++ rest) = some mapping ↔
      ∃ state, lines.foldlM (readLine dialect) [] = some state ∧ dashes ∈ rest.splitOn '\n' ∧
        readOn dialect state rest = some mapping.reverse := by
  have whole : (unlines (dashes :: lines) ++ rest).splitOn '\n' = dashes :: (lines ++ rest.splitOn '\n') :=
    splitOn_unlines (List.forall_mem_cons.mpr ⟨by decide, plain⟩) rest
  have others : ∀ line ∈ lines, decide (line ≠ dashes) = true := fun line member =>
    decide_eq_true (ne_of_mem_of_not_mem member away)
  have inside : lines.any (· = dashes) = false :=
    List.any_eq_false.mpr fun line member => by simpa using others line member
  have front : frontMatter (unlines (dashes :: lines) ++ rest) = if (rest.splitOn '\n').any (· = dashes) then
      some (lines ++ (rest.splitOn '\n').takeWhile (· ≠ dashes)) else none := by
    rw [frontMatter, whole, List.dropWhile_cons_of_neg (by simp), List.tail_cons, List.takeWhile_append_of_pos others,
      List.any_append, inside, Bool.false_or]
  have closes : (rest.splitOn '\n').any (· = dashes) = true ↔ dashes ∈ rest.splitOn '\n' := by simp
  rw [readHeader, front]
  by_cases closed : dashes ∈ rest.splitOn '\n'
  · rw [if_pos (closes.mpr closed), Option.bind_some, List.foldlM_append, Option.map_eq_some_iff]
    constructor
    · rintro ⟨last, read, rfl⟩
      obtain ⟨state, first, later⟩ := Option.bind_eq_some_iff.mp read
      exact ⟨state, first, closed, by rwa [List.reverse_reverse]⟩
    · rintro ⟨state, first, _, later⟩
      exact ⟨mapping.reverse, Option.bind_eq_some_iff.mpr ⟨state, first, later⟩, List.reverse_reverse mapping⟩
  · rw [if_neg (closes.not.mpr closed)]
    exact ⟨nofun, fun ⟨_, _, other, _⟩ => absurd other closed⟩

end HeaderTexts
