import Thought2Build.Library.Trimming
import Thought2Build.Pipeline.HarnessIndex

/-! The canonical form of a path, and the one that the index takes for a file heading with it. -/

namespace Thought2Build.Pipeline

open Trimming
open Integrations (Texts sampleTexts)

namespace DocText

variable {text front back white : DocText} {letter : Char}

theorem strip_def (text : DocText) : strip text = trim isSpace text := rfl

theorem stripTicks_def (text : DocText) : stripTicks text = trim (· = backtick) text := rfl

def firstScope (text : DocText) : DocText := (splitScopes text).headD []

def laterScopes (text : DocText) : List DocText := (splitScopes text).tail

theorem splitScopes_ne_nil (text : DocText) : splitScopes text ≠ [] := by
  induction text using splitScopes.induct with
  | case1 => exact List.cons_ne_nil _ _
  | case2 rest ih => exact List.cons_ne_nil _ _
  | case3 letter rest other empty ih => exact absurd empty ih
  | case4 letter rest other part parts split ih =>
      rw [splitScopes, split]
      · exact List.cons_ne_nil _ _
      · exact other

theorem splitScopes_eq (text : DocText) : splitScopes text = firstScope text :: laterScopes text := by
  rw [firstScope, laterScopes]
  cases split : splitScopes text with
  | nil => exact absurd split (splitScopes_ne_nil text)
  | cons part parts => rfl

theorem splitScopes_cons (stays : ¬(letter = ':' ∧ text.head? = some ':')) :
    splitScopes (letter :: text) = (letter :: firstScope text) :: laterScopes text := by
  have other : ∀ rest, letter = ':' → text = ':' :: rest → False := by
    rintro rest rfl rfl
    exact stays ⟨rfl, rfl⟩
  rw [splitScopes, splitScopes_eq text]
  exact other

theorem firstScope_cons (stays : ¬(letter = ':' ∧ text.head? = some ':')) :
    firstScope (letter :: text) = letter :: firstScope text := by
  rw [firstScope, splitScopes_cons stays, List.headD_cons]

theorem laterScopes_cons (stays : ¬(letter = ':' ∧ text.head? = some ':')) :
    laterScopes (letter :: text) = laterScopes text := by
  rw [laterScopes, splitScopes_cons stays, List.tail_cons]

theorem firstScope_break (rest : DocText) : firstScope (':' :: ':' :: rest) = [] := rfl

theorem firstScope_append (plain : ':' ∉ front) (text : DocText) :
    firstScope (front ++ text) = front ++ firstScope text ∧ laterScopes (front ++ text) = laterScopes text := by
  induction front with
  | nil => exact ⟨rfl, rfl⟩
  | cons letter front ih =>
      obtain ⟨here, later⟩ := not_or.mp (List.mem_cons.not.mp plain)
      have stays : ¬(letter = ':' ∧ (front ++ text).head? = some ':') := fun both => here both.1.symm
      rw [List.cons_append, firstScope_cons stays, laterScopes_cons stays]
      exact ⟨by rw [(ih later).1, List.cons_append], (ih later).2⟩

theorem firstScope_front (text : DocText) : firstScope text <+: text := by
  induction text with
  | nil => exact List.prefix_rfl
  | cons letter text ih =>
      by_cases breaks : letter = ':' ∧ text.head? = some ':'
      · obtain ⟨rfl, colon⟩ := breaks
        obtain ⟨rest, rfl⟩ := List.head?_eq_some_iff.mp colon
        exact List.nil_prefix
      · rw [firstScope_cons breaks]
        exact (List.prefix_cons_inj letter).mpr ih

theorem firstScope_parts (self : firstScope (front ++ back) = front ++ back) :
    firstScope front = front ∧ firstScope back = back := by
  induction front with
  | nil => exact ⟨rfl, self⟩
  | cons letter front ih =>
      have stays : ¬(letter = ':' ∧ (front ++ back).head? = some ':') := by
        rintro ⟨rfl, colon⟩
        obtain ⟨rest, same⟩ := List.head?_eq_some_iff.mp colon
        rw [List.cons_append, same, firstScope_break] at self
        exact absurd self (List.cons_ne_nil _ _).symm
      rw [List.cons_append, firstScope_cons stays] at self
      obtain ⟨own, other⟩ := ih (List.cons.inj self).2
      refine ⟨?_, other⟩
      rw [firstScope_cons, own]
      rintro ⟨colon, next⟩
      exact stays ⟨colon, by rw [List.head?_append, next, Option.some_or]⟩

theorem firstScope_firstScope (text : DocText) : firstScope (firstScope text) = firstScope text := by
  induction text with
  | nil => rfl
  | cons letter text ih =>
      by_cases breaks : letter = ':' ∧ text.head? = some ':'
      · obtain ⟨rfl, colon⟩ := breaks
        obtain ⟨rest, rfl⟩ := List.head?_eq_some_iff.mp colon
        rfl
      · rw [firstScope_cons breaks, firstScope_cons, ih]
        rintro ⟨colon, next⟩
        obtain ⟨behind, whole⟩ := firstScope_front text
        exact breaks ⟨colon, by rw [← whole, List.head?_append, next, Option.some_or]⟩

theorem firstScope_behind (plain : ':' ∉ back) (text : DocText) : firstScope (text ++ back) = firstScope text ∨
    firstScope text = text ∧ firstScope (text ++ back) = text ++ back := by
  induction text with
  | nil =>
      have whole := (firstScope_append plain []).1
      rw [List.append_nil, show firstScope [] = [] from rfl, List.append_nil] at whole
      exact .inr ⟨rfl, whole⟩
  | cons letter text ih =>
      by_cases breaks : letter = ':' ∧ text.head? = some ':'
      · obtain ⟨rfl, colon⟩ := breaks
        obtain ⟨rest, rfl⟩ := List.head?_eq_some_iff.mp colon
        exact .inl rfl
      · have stays : ¬(letter = ':' ∧ (text ++ back).head? = some ':') := by
          rintro ⟨rfl, colon⟩
          cases text with
          | nil => exact plain (List.mem_of_head? colon)
          | cons next text => exact breaks ⟨rfl, colon⟩
        rw [List.cons_append, firstScope_cons stays, firstScope_cons breaks]
        rcases ih with same | ⟨own, whole⟩
        · exact .inl (by rw [same])
        · exact .inr ⟨by rw [own], by rw [whole]⟩

theorem strip_firstScope (text : DocText) : strip (firstScope (strip text)) = strip (firstScope text) := by
  obtain ⟨front, back, whole, early, late⟩ := trim_split isSpace text
  have space {letters : DocText} (all : ∀ letter ∈ letters, isSpace letter = true) : ':' ∉ letters := fun member =>
    absurd (all ':' member) (by decide)
  rw [← strip_def] at whole
  conv_rhs => rw [whole, List.append_assoc, (firstScope_append (space early) _).1, strip_def, trim_append_left early]
  rcases firstScope_behind (space late) (strip text) with same | ⟨own, same⟩
  · rw [same, strip_def]
  · rw [same, own, trim_append_right late, strip_def]

theorem firstScope_around (self : firstScope (text ++ [':']) = text ++ [':']) (rest : DocText) :
    firstScope (text ++ ':' :: ':' :: rest) = text := by
  induction text with
  | nil => rfl
  | cons letter text ih =>
      have stays : ¬(letter = ':' ∧ (text ++ [':']).head? = some ':') := by
        rintro ⟨rfl, colon⟩
        obtain ⟨more, same⟩ := List.head?_eq_some_iff.mp colon
        rw [List.cons_append, same, firstScope_break] at self
        exact absurd self (List.cons_ne_nil _ _).symm
      have head : (text ++ ':' :: ':' :: rest).head? = (text ++ [':']).head? := by cases text <;> rfl
      rw [List.cons_append, firstScope_cons (by rwa [head])]
      rw [List.cons_append, firstScope_cons stays] at self
      rw [ih (List.cons.inj self).2]

theorem firstScope_colon (self : firstScope text = text) (last : text.getLast? ≠ some ':') :
    firstScope (text ++ [':']) = text ++ [':'] := by
  induction text with
  | nil => rfl
  | cons letter text ih =>
      have stays : ¬(letter = ':' ∧ text.head? = some ':') := by
        rintro ⟨rfl, colon⟩
        obtain ⟨more, rfl⟩ := List.head?_eq_some_iff.mp colon
        exact absurd self (List.cons_ne_nil _ _).symm
      rw [firstScope_cons stays] at self
      have next : ¬(letter = ':' ∧ (text ++ [':']).head? = some ':') := by
        rintro ⟨rfl, colon⟩
        cases text with
        | nil => exact last rfl
        | cons next text => exact stays ⟨rfl, colon⟩
      rw [List.cons_append, firstScope_cons next, ih (List.cons.inj self).2]
      intro colon
      cases text with
      | nil => exact absurd colon (by simp)
      | cons next text => exact last (by rw [List.getLast?_cons_cons]; exact colon)

theorem dropDots_suffix (text : DocText) :
    ∃ dots, text = (List.replicate dots "./".toList).flatten ++ dropDots text := by
  induction text using dropDots.induct with
  | case1 rest ih =>
      obtain ⟨dots, whole⟩ := ih
      refine ⟨dots + 1, ?_⟩
      rw [dropDots, List.replicate_succ, List.flatten_cons, List.append_assoc, ← whole]
      rfl
  | case2 text other =>
      refine ⟨0, ?_⟩
      rw [dropDots]
      · rfl
      · exact other

theorem dropDots_dots (dots : Nat) (text : DocText) :
    dropDots ((List.replicate dots "./".toList).flatten ++ text) = dropDots text := by
  induction dots with
  | zero => rfl
  | succ dots ih => exact ih

theorem dropDots_of_head (other : text.head? ≠ some '.') : dropDots text = text := by
  rw [dropDots]
  rintro rest rfl
  exact other rfl

theorem dropHarness_cases (text : DocText) :
    dropHarness text = text ∨ text = "harness/".toList ++ dropHarness text := by
  rw [dropHarness]
  split
  · rename_i begins
    obtain ⟨rest, rfl⟩ := List.isPrefixOf_iff_prefix.mp begins
    exact .inr (by rw [List.drop_left])
  · exact .inl rfl

theorem dropHarness_append (text : DocText) : dropHarness ("harness/".toList ++ text) = text := by
  rw [dropHarness, if_pos (List.isPrefixOf_iff_prefix.mpr (List.prefix_append _ _)), List.drop_left]

def stripMarks (text : DocText) : DocText := dropHarness ((dropDots text).dropWhile (· = '/'))

def Leading (front : DocText) : Prop := ∃ dots slashes, ∃ harness ∈ [[], "harness/".toList],
  front = (List.replicate dots "./".toList).flatten ++ (List.replicate slashes '/' ++ harness)

structure Unmarked (path : DocText) : Prop where
  dots : dropDots path = path
  slashes : path.dropWhile (· = '/') = path
  harness : dropHarness path = path

theorem stripMarks_split (text : DocText) : ∃ front, Leading front ∧ text = front ++ stripMarks text := by
  obtain ⟨dots, first⟩ := dropDots_suffix text
  have second := List.takeWhile_append_dropWhile (p := fun letter => decide (letter = '/')) (l := dropDots text)
  obtain ⟨slashes, run⟩ : ∃ slashes, (dropDots text).takeWhile (· = '/') = List.replicate slashes '/' :=
    ⟨_, List.eq_replicate_of_mem fun letter member => by simpa using List.mem_takeWhile_imp member⟩
  rw [run] at second
  rcases dropHarness_cases ((dropDots text).dropWhile (· = '/')) with same | same
  · refine ⟨_, ⟨dots, slashes, [], by simp, rfl⟩, ?_⟩
    rw [List.append_nil, List.append_assoc, stripMarks, same, second]
    exact first
  · refine ⟨_, ⟨dots, slashes, "harness/".toList, by simp, rfl⟩, ?_⟩
    rw [List.append_assoc, List.append_assoc, stripMarks, ← same, second]
    exact first

theorem stripMarks_append {path : DocText} (leading : Leading front) (unmarked : Unmarked path) :
    stripMarks (front ++ path) = path := by
  obtain ⟨dots, slashes, harness, among, rfl⟩ := leading
  have plain : (harness ++ path).dropWhile (· = '/') = harness ++ path ∧ dropDots (harness ++ path) = harness ++ path ∧
      dropHarness (harness ++ path) = path := by
    rcases List.mem_cons.mp among with rfl | rest
    · exact ⟨unmarked.slashes, unmarked.dots, unmarked.harness⟩
    · obtain rfl := List.mem_singleton.mp rest
      exact ⟨rfl, dropDots_of_head (by simp), dropHarness_append path⟩
  rw [stripMarks, List.append_assoc, List.append_assoc, dropDots_dots]
  cases slashes with
  | zero => rw [List.replicate_zero, List.nil_append, plain.2.1, plain.1, plain.2.2]
  | succ slashes =>
      have all : ∀ letter ∈ List.replicate (slashes + 1) '/', decide (letter = '/') = true := fun letter member => by
        rw [(List.mem_replicate.mp member).2]
        rfl
      rw [dropDots_of_head (by simp [List.replicate_succ]), List.dropWhile_append_of_pos all, plain.1, plain.2.2]

theorem stripMarks_harness (text : DocText) : stripMarks ("harness/".toList ++ text) = text := by
  rw [stripMarks, dropDots_of_head (by simp)]
  exact dropHarness_append text

theorem dropDots_length (text : DocText) : (dropDots text).length ≤ text.length := by
  obtain ⟨dots, whole⟩ := dropDots_suffix text
  conv_rhs => rw [whole, List.length_append]
  omega

theorem Unmarked.begins {path behind : DocText} (unmarked : Unmarked (path ++ behind)) : Unmarked path where
  dots := by
    by_cases dotted : ∃ rest, path = '.' :: '/' :: rest
    · obtain ⟨rest, rfl⟩ := dotted
      have same := congrArg List.length unmarked.dots
      have most := dropDots_length (rest ++ behind)
      simp only [List.cons_append, dropDots, List.length_cons] at same
      omega
    · rw [dropDots]
      exact fun rest same => dotted ⟨rest, same⟩
  slashes := by
    cases path with
    | nil => rfl
    | cons letter rest =>
        have same := unmarked.slashes
        by_cases slash : letter = '/'
        · have shorter := congrArg List.length same
          rw [List.cons_append, List.dropWhile_cons_of_pos (by simpa using slash), List.length_cons] at shorter
          have most := (List.dropWhile_sublist (p := fun letter => decide (letter = '/'))
            (l := rest ++ behind)).length_le
          omega
        · exact List.dropWhile_cons_of_neg (by simpa using slash)
  harness := by
    rcases dropHarness_cases path with same | begins
    · exact same
    · have same := unmarked.harness
      rw [begins, List.append_assoc, dropHarness_append] at same
      have longer := congrArg List.length same
      rw [@List.length_append _ "harness/".toList, show "harness/".toList.length = 8 from rfl] at longer
      omega

theorem Leading.letters (leading : Leading front) : ∀ letter ∈ front, letter ∈ "./harness".toList := by
  obtain ⟨dots, slashes, harness, among, rfl⟩ := leading
  intro letter member
  rcases List.mem_append.mp member with dotted | member
  · obtain ⟨part, same, inside⟩ := List.mem_flatten.mp dotted
    rw [(List.mem_replicate.mp same).2] at inside
    revert inside
    simp
    tauto
  rcases List.mem_append.mp member with slash | member
  · rw [(List.mem_replicate.mp slash).2]
    decide
  rcases List.mem_cons.mp among with rfl | rest
  · exact absurd member List.not_mem_nil
  · obtain rfl := List.mem_singleton.mp rest
    revert member
    simp
    tauto

structure Stripped (path : DocText) : Prop extends Unmarked path where
  spaces : strip path = path
  ticks : stripTicks path = path

theorem Stripped.trimmed {path : DocText} (stripped : Stripped path) :
    Trimmed isSpace path ∧ Trimmed (· = backtick) path := by
  have spaces := trimmed_trim isSpace path
  have ticks := trimmed_trim (· = backtick) path
  rw [← strip_def, stripped.spaces] at spaces
  rw [← stripTicks_def, stripped.ticks] at ticks
  exact ⟨spaces, ticks⟩

end DocText

open DocText

def isMark (letter : Char) : Bool := isSpace letter || ['.', '/', ':', backtick, '\x5c'].contains letter

structure FoldsLetters (texts : Texts) (fold : Char → DocText) : Prop where
  letterwise : ∀ text : DocText, texts.casefold (String.ofList text) = String.ofList (text.flatMap fold)
  filled : ∀ letter, fold letter ≠ []
  settled : ∀ letter, ∀ other ∈ fold letter, fold other = [other]
  marks : ∀ letter, isMark letter = true → fold letter = [letter]
  apart : ∀ letter, isMark letter = false → ∀ other ∈ fold letter, isMark other = false
  small : ∀ letter ∈ "harness".toList, fold letter = [letter]

variable {texts : Texts} {fold : Char → DocText} {token path text front rest : DocText} {letter other : Char}

theorem FoldsLetters.mark_of_mem (folds : FoldsLetters texts fold) (member : other ∈ fold letter)
    (mark : isMark other = true) : other = letter := by
  cases own : isMark letter with
  | true =>
      rw [folds.marks letter own] at member
      exact List.mem_singleton.mp member
  | false =>
      rw [folds.apart letter own other member] at mark
      contradiction

theorem FoldsLetters.keeps (folds : FoldsLetters texts fold) {kind : Char → Bool}
    (marked : ∀ letter, kind letter = true → isMark letter = true) : KeepsKind kind kind fold where
  filled := folds.filled
  same letter other member := by
    cases own : isMark letter with
    | true =>
        rw [folds.marks letter own] at member
        rw [List.mem_singleton.mp member]
    | false =>
        have apart := folds.apart letter own other member
        rw [Bool.eq_iff_iff]
        constructor
        · intro kinds
          rw [marked other kinds] at apart
          contradiction
        · intro kinds
          rw [marked letter kinds] at own
          contradiction

theorem FoldsLetters.spaces (folds : FoldsLetters texts fold) : KeepsKind isSpace isSpace fold :=
  folds.keeps fun letter space => by rw [isMark, space, Bool.true_or]

theorem FoldsLetters.ticks (folds : FoldsLetters texts fold) : KeepsKind (· = backtick) (· = backtick) fold :=
  folds.keeps fun letter tick => by
    obtain rfl := of_decide_eq_true tick
    decide

theorem FoldsLetters.strip (folds : FoldsLetters texts fold) (text : DocText) :
    DocText.strip (text.flatMap fold) = (DocText.strip text).flatMap fold :=
  folds.spaces.trim_flatMap text

theorem FoldsLetters.firstScope (folds : FoldsLetters texts fold) (text : DocText) :
    firstScope (text.flatMap fold) = (DocText.firstScope text).flatMap fold := by
  induction text with
  | nil => rfl
  | cons letter text ih =>
      rw [List.flatMap_cons]
      by_cases colon : letter = ':'
      · subst colon
        rw [folds.marks ':' (by decide), List.singleton_append]
        by_cases breaks : text.head? = some ':'
        · obtain ⟨rest, rfl⟩ := List.head?_eq_some_iff.mp breaks
          rw [List.flatMap_cons, folds.marks ':' (by decide)]
          rfl
        · have stays : ¬(text.flatMap fold).head? = some ':' := by
            intro found
            cases text with
            | nil => exact absurd found (by simp)
            | cons next text =>
                obtain ⟨first, others, own⟩ := List.exists_cons_of_ne_nil (folds.filled next)
                rw [List.flatMap_cons, own, List.cons_append, List.head?_cons] at found
                have same := folds.mark_of_mem (by rw [own]; exact List.mem_cons_self)
                  (by rw [Option.some.inj found]; decide)
                exact breaks (by rw [List.head?_cons, ← same, Option.some.inj found])
          rw [firstScope_cons (by simpa using stays), firstScope_cons (by simpa using breaks), ih, List.flatMap_cons,
            folds.marks ':' (by decide), List.singleton_append]
      · have plain : ':' ∉ fold letter := fun member => colon (folds.mark_of_mem member (by decide)).symm
        rw [(firstScope_append plain _).1, ih, firstScope_cons (fun both => colon both.1), List.flatMap_cons]

theorem flatMap_settled (settled : ∀ letter ∈ text, fold letter = [letter]) : text.flatMap fold = text := by
  induction text with
  | nil => rfl
  | cons letter text ih =>
      rw [List.flatMap_cons, settled letter List.mem_cons_self, ih fun other member =>
        settled other (List.mem_cons_of_mem _ member), List.singleton_append]

def ticked (token : DocText) : DocText := forwardSlashes (stripTicks token.strip)

def filePart (token : DocText) : DocText := DocText.strip (firstScope (ticked token))

theorem forwardSlashes_strip (text : DocText) : forwardSlashes text.strip = (forwardSlashes text).strip :=
  (trim_map (fun letter => by
    by_cases backslash : letter = '\x5c'
    · rw [if_pos backslash, backslash]
      decide
    · rw [if_neg backslash]) text).symm

theorem canonicalTestPath_eq (folds : FoldsLetters texts fold) (token : DocText) :
    canonicalTestPath texts token = stripMarks ((filePart token).flatMap fold) := by
  rw [canonicalTestPath, stripMarks, filePart, ticked]
  rw [forwardSlashes_strip, ← firstScope, strip_firstScope, folds.letterwise, String.toList_ofList]

theorem normaliseHarnessRef_eq (token : DocText) : normaliseHarnessRef token =
    joinScopes (DocText.strip (firstScope (dropHarness (ticked token))) ::
      (laterScopes (dropHarness (ticked token))).map DocText.strip) := by
  rw [normaliseHarnessRef, ← ticked, splitScopes_eq, List.map_cons]

theorem backslash_ticked (token : DocText) : '\x5c' ∉ ticked token := by
  intro member
  obtain ⟨letter, _, same⟩ := List.mem_map.mp member
  split at same
  · exact absurd same (by decide)
  · rename_i other
    exact other same

theorem forwardSlashes_plain (plain : '\x5c' ∉ text) : forwardSlashes text = text := by
  refine (List.map_congr_left fun letter member => ?_).trans (List.map_id text)
  rw [if_neg (ne_of_mem_of_not_mem member plain), id]

theorem filePart_subset (token : DocText) : filePart token ⊆ ticked token :=
  List.Subset.trans (trim_within _ _).subset (firstScope_front _).subset

theorem firstScope_strip (self : firstScope text = text) : firstScope text.strip = text.strip := by
  obtain ⟨front, back, whole⟩ := trim_within isSpace text
  rw [← whole] at self
  exact (firstScope_parts (firstScope_parts self).1).2

structure Folded (fold : Char → DocText) (path : DocText) : Prop where
  settled : ∀ letter ∈ path, fold letter = [letter]
  slashes : '\x5c' ∉ path
  scopeless : firstScope path = path

theorem folded_filePart (folds : FoldsLetters texts fold) (token : DocText) :
    Folded fold ((filePart token).flatMap fold) where
  settled other member := by
    obtain ⟨letter, _, inside⟩ := List.mem_flatMap.mp member
    exact folds.settled letter other inside
  slashes member := by
    obtain ⟨letter, among, inside⟩ := List.mem_flatMap.mp member
    obtain rfl := folds.mark_of_mem inside (by decide)
    exact backslash_ticked token (filePart_subset token among)
  scopeless := by rw [folds.firstScope, filePart, firstScope_strip (firstScope_firstScope _)]

theorem Folded.behind (folded : Folded fold (front ++ rest)) : Folded fold rest where
  settled letter member := folded.settled letter (List.mem_append_right _ member)
  slashes member := folded.slashes (List.mem_append_right _ member)
  scopeless := (firstScope_parts folded.scopeless).2

theorem folded_canonical (folds : FoldsLetters texts fold) (token : DocText) :
    Folded fold (canonicalTestPath texts token) := by
  rw [canonicalTestPath_eq folds]
  obtain ⟨front, _, whole⟩ := stripMarks_split ((filePart token).flatMap fold)
  have folded := folded_filePart folds token
  rw [whole] at folded
  exact folded.behind

theorem leading_nil : Leading [] := ⟨0, 0, [], by simp, rfl⟩

theorem DocText.Stripped.canonical (folds : FoldsLetters texts fold) (stripped : Stripped path)
    (folded : Folded fold path) : canonicalTestPath texts path = path := by
  rw [canonicalTestPath_eq folds, filePart, ticked, stripped.spaces, stripped.ticks,
    forwardSlashes_plain folded.slashes, folded.scopeless, stripped.spaces, flatMap_settled folded.settled]
  exact stripMarks_append leading_nil stripped.toUnmarked

theorem stripMarks_length (text : DocText) : (stripMarks text).length ≤ ((dropDots text).dropWhile (· = '/')).length ∧
    ((dropDots text).dropWhile (· = '/')).length ≤ (dropDots text).length := by
  refine ⟨?_, (List.dropWhile_sublist _).length_le⟩
  rcases dropHarness_cases ((dropDots text).dropWhile (· = '/')) with same | same
  · rw [stripMarks, same]
  · rw [stripMarks]
    conv_rhs => rw [same, List.length_append]
    omega

theorem unmarked_of_stripMarks (same : stripMarks text = text) : Unmarked text := by
  obtain ⟨dots, whole⟩ := dropDots_suffix text
  obtain ⟨last, middle⟩ := stripMarks_length text
  have first := dropDots_length text
  rw [same] at last
  have dotless : dropDots text = text := List.IsSuffix.eq_of_length ⟨_, whole.symm⟩ (by omega)
  have slashless : (dropDots text).dropWhile (· = '/') = dropDots text :=
    (List.dropWhile_suffix _).eq_of_length (by omega)
  rw [stripMarks, slashless, dotless] at same
  rw [dotless] at slashless
  exact ⟨dotless, slashless, same⟩

theorem stripped_of_canonical (folds : FoldsLetters texts fold) (folded : Folded fold path)
    (same : canonicalTestPath texts path = path) : Stripped path := by
  have outer : DocText.strip path <:+: path := trim_within _ _
  have inner : stripTicks (DocText.strip path) <:+: DocText.strip path := trim_within _ _
  have plain : ticked path = stripTicks (DocText.strip path) :=
    forwardSlashes_plain fun member => folded.slashes (outer.subset (inner.subset member))
  have part : filePart path <:+: stripTicks (DocText.strip path) := by
    rw [filePart, plain]
    exact (trim_within _ _).trans (firstScope_front _).isInfix
  have letters : (filePart path).flatMap fold = filePart path := flatMap_settled fun letter member =>
    folded.settled letter (outer.subset (inner.subset (part.subset member)))
  rw [canonicalTestPath_eq folds, letters] at same
  have shorter := stripMarks_length (filePart path)
  have dots := dropDots_length (filePart path)
  have lengths := And.intro part.length_le (And.intro inner.length_le outer.length_le)
  rw [same] at shorter
  have spaces : DocText.strip path = path := outer.eq_of_length (by omega)
  have ticks : stripTicks (DocText.strip path) = DocText.strip path := inner.eq_of_length (by omega)
  have own : filePart path = stripTicks (DocText.strip path) := part.eq_of_length (by omega)
  rw [own, ticks, spaces] at same
  rw [spaces] at ticks
  exact { toUnmarked := unmarked_of_stripMarks same, spaces, ticks }

theorem canonical_idempotent_iff (folds : FoldsLetters texts fold) (token : DocText) :
    canonicalTestPath texts (canonicalTestPath texts token) = canonicalTestPath texts token ↔
      Stripped (canonicalTestPath texts token) :=
  ⟨stripped_of_canonical folds (folded_canonical folds token), fun stripped =>
    stripped.canonical folds (folded_canonical folds token)⟩

/-! The path that the index takes from a file heading -/

theorem DocText.Leading.plain (leading : Leading front) :
    ∀ letter ∈ front, isSpace letter = false ∧ decide (letter = backtick) = false ∧ letter ≠ ':' := by
  have letters : ∀ letter ∈ ['.', '/', 'h', 'a', 'r', 'n', 'e', 's', 's'],
      isSpace letter = false ∧ decide (letter = backtick) = false ∧ letter ≠ ':' := by simp; decide
  intro letter member
  exact letters letter (by simpa using leading.letters letter member)

/-- The first scope of a reference, in the form that `_normalise_harness_ref` gives it -/
structure Cell (fold : Char → DocText) (file front rest : DocText) : Prop where
  leading : Leading front
  stripped : Stripped rest
  whole : file.flatMap fold = front ++ rest
  slashes : '\x5c' ∉ file
  scopeless : firstScope file = file

namespace Cell

variable {file : DocText} {later : List DocText}

theorem spaces (cell : Cell fold file front rest) (folds : FoldsLetters texts fold) : Trimmed isSpace file :=
  (folds.spaces.trimmed_flatMap _).mp (by
    rw [cell.whole]
    exact (Trimmed.of_all fun letter member => (cell.leading.plain letter member).1).append cell.stripped.trimmed.1)

theorem ticks (cell : Cell fold file front rest) (folds : FoldsLetters texts fold) : Trimmed (· = backtick) file :=
  (folds.ticks.trimmed_flatMap _).mp (by
    rw [cell.whole]
    exact (Trimmed.of_all fun letter member => (cell.leading.plain letter member).2.1).append cell.stripped.trimmed.2)

theorem ticked_alone (cell : Cell fold file front rest) (folds : FoldsLetters texts fold) : ticked file = file := by
  rw [ticked, strip_def, (cell.spaces folds).trim_eq, stripTicks_def, (cell.ticks folds).trim_eq,
    forwardSlashes_plain cell.slashes]

theorem ticked_scopes (cell : Cell fold file front rest) (folds : FoldsLetters texts fold) (behind : DocText) :
    ∃ behind', ticked (file ++ ':' :: ':' :: behind) = file ++ ':' :: ':' :: behind' := by
  have colon {kind : Char → Bool} (trimmed : Trimmed kind file) (stays : kind ':' = false) (behind : DocText) :
      trim kind (file ++ ':' :: ':' :: behind) = file ++ ':' :: ':' :: behind.rdropWhile kind := by
    have first := (trimmed.append (List.forall_mem_singleton.mpr stays |> Trimmed.of_all)).first
    rw [show file ++ ':' :: ':' :: behind = (file ++ [':']) ++ ':' :: behind by simp, trim_around stays,
      dropWhile_of_first first, List.append_assoc, List.singleton_append]
  refine ⟨forwardSlashes ((behind.rdropWhile isSpace).rdropWhile (· = backtick)), ?_⟩
  rw [ticked, strip_def, colon (cell.spaces folds) (by decide), stripTicks_def, colon (cell.ticks folds) (by decide)]
  rw [forwardSlashes, List.map_append, ← forwardSlashes, forwardSlashes_plain cell.slashes]
  rfl

theorem canonical_alone (cell : Cell fold file front rest) (folds : FoldsLetters texts fold) :
    canonicalTestPath texts file = rest := by
  rw [canonicalTestPath_eq folds, filePart, cell.ticked_alone folds, cell.scopeless, strip_def,
    (cell.spaces folds).trim_eq, cell.whole, stripMarks_append cell.leading cell.stripped.toUnmarked]

theorem colon_iff (cell : Cell fold file front rest) (folds : FoldsLetters texts fold) :
    file.getLast? = .some ':' ↔ rest.getLast? = .some ':' := by
  have ends : (file.flatMap fold).getLast? = .some ':' ↔ file.getLast? = .some ':' := by
    cases file using List.reverseRecOn with
    | nil => rfl
    | append_singleton file letter =>
        obtain ⟨others, other, own⟩ := List.eq_nil_or_concat' (fold letter) |>.resolve_left (folds.filled letter)
        rw [List.flatMap_append, List.flatMap_singleton, own, ← List.append_assoc, List.getLast?_concat,
          List.getLast?_concat, Option.some_inj, Option.some_inj]
        constructor
        · rintro rfl
          exact (folds.mark_of_mem (by rw [own]; simp) (by decide)).symm
        · rintro rfl
          rw [folds.marks ':' (by decide)] at own
          have same := congrArg List.getLast? own
          rw [List.getLast?_concat] at same
          exact (Option.some.inj same).symm
  rw [← ends, cell.whole, List.getLast?_append]
  cases found : rest.getLast? with
  | some letter => rfl
  | none =>
      rw [Option.none_or]
      constructor
      · intro last
        exact absurd rfl (cell.leading.plain ':' (List.mem_of_getLast? last)).2.2
      · intro none
        contradiction

theorem canonical_scopes (cell : Cell fold file front rest) (folds : FoldsLetters texts fold)
    (last : rest.getLast? ≠ .some ':') (behind : DocText) :
    canonicalTestPath texts (file ++ ':' :: ':' :: behind) = rest := by
  obtain ⟨behind', same⟩ := cell.ticked_scopes folds behind
  have scope : firstScope (file ++ ':' :: ':' :: behind') = file :=
    firstScope_around (firstScope_colon cell.scopeless fun colon => last ((cell.colon_iff folds).mp colon)) behind'
  rw [canonicalTestPath_eq folds, filePart, same, scope, strip_def, (cell.spaces folds).trim_eq, cell.whole,
    stripMarks_append cell.leading cell.stripped.toUnmarked]

theorem canonical_colon (cell : Cell fold file front rest) (folds : FoldsLetters texts fold)
    (last : rest.getLast? = .some ':') (behind : DocText) : ∃ white, white ≠ [] ∧ '/' ∉ white ∧
      rest = canonicalTestPath texts (file ++ ':' :: ':' :: behind) ++ white := by
  obtain ⟨behind', same⟩ := cell.ticked_scopes folds behind
  obtain ⟨file', rfl⟩ := List.getLast?_eq_some_iff.mp ((cell.colon_iff folds).mpr last)
  obtain ⟨rest', rfl⟩ := List.getLast?_eq_some_iff.mp last
  have whole : file'.flatMap fold = front ++ rest' := by
    have whole := cell.whole
    rw [List.flatMap_append, List.flatMap_singleton, folds.marks ':' (by decide), ← List.append_assoc] at whole
    exact (List.append_inj' whole rfl).1
  have scope : firstScope (file' ++ [':'] ++ ':' :: ':' :: behind') = file' := by
    rw [List.append_assoc]
    exact firstScope_around cell.scopeless (':' :: behind')
  have first : (rest' ++ [':']).head?.all (!isSpace ·) = true := cell.stripped.trimmed.1.first
  have early : (front ++ rest').dropWhile isSpace = front ++ rest' := by
    apply dropWhile_of_first
    cases front with
    | cons letter front => simp [(cell.leading.plain letter List.mem_cons_self).1]
    | nil => cases rest' with
      | nil => rfl
      | cons letter rest' => exact first
  have cut : DocText.strip (front ++ rest') = front ++ rest'.rdropWhile isSpace := by
    rw [DocText.strip, early, rdropWhile_append_left fun letter member => (cell.leading.plain letter member).1]
  have rejoined := List.rdropWhile_append_rtakeWhile (p := isSpace) (l := rest')
  refine ⟨rest'.rtakeWhile isSpace ++ [':'], by simp, ?_, ?_⟩
  · intro member
    rcases List.mem_append.mp member with space | colon
    · exact absurd (List.mem_rtakeWhile_imp space) (by decide)
    · exact absurd colon (by decide)
  · have unmarked : Unmarked (rest'.rdropWhile isSpace ++ (rest'.rtakeWhile isSpace ++ [':'])) := by
      rw [← List.append_assoc, rejoined]
      exact cell.stripped.toUnmarked
    rw [canonicalTestPath_eq folds, filePart, same, scope, ← folds.strip, whole, cut,
      stripMarks_append cell.leading unmarked.begins, ← List.append_assoc, rejoined]

end Cell

theorem cell_of_stripped (folds : FoldsLetters texts fold) (leading : Leading front) (stripped : Stripped rest)
    (whole : (filePart token).flatMap fold = front ++ rest) : ∃ file front' later,
      normaliseHarnessRef token = joinScopes (file :: later) ∧ (later = [] ↔ laterScopes (ticked token) = []) ∧
      Cell fold file front' rest := by
  have slashes : '\x5c' ∉ DocText.strip (firstScope (dropHarness (ticked token))) := by
    intro member
    have inside := (firstScope_front _).subset ((trim_within _ _).subset member)
    rcases dropHarness_cases (ticked token) with same | same
    · rw [same] at inside
      exact backslash_ticked token inside
    · have among := List.mem_append_right "harness/".toList inside
      rw [← same] at among
      exact backslash_ticked token among
  have scopeless := firstScope_strip (firstScope_firstScope (dropHarness (ticked token)))
  rw [normaliseHarnessRef_eq]
  rcases dropHarness_cases (ticked token) with same | same
  · refine ⟨_, front, _, rfl, ?_, { leading, stripped, slashes, scopeless, whole := ?_ }⟩
    · rw [same, List.map_eq_nil_iff]
    · rw [same]
      exact whole
  · have plain : ':' ∉ "harness/".toList := by decide
    obtain ⟨scope, later⟩ := firstScope_append plain (dropHarness (ticked token))
    rw [← same] at scope later
    refine ⟨_, [], _, rfl, ?_, { leading := leading_nil, stripped, slashes, scopeless, whole := ?_ }⟩
    · rw [later, List.map_eq_nil_iff]
    · -- `harness/` is all that is stripped in front of the path.
      have none : "harness/".toList.all (!isSpace ·) = true := by decide
      have dark : ∀ letter ∈ "harness/".toList, isSpace letter = false := fun letter member => by
        simpa using List.all_eq_true.mp none letter member
      have part : filePart token =
          "harness/".toList ++ (firstScope (dropHarness (ticked token))).rdropWhile isSpace := by
        rw [filePart, scope, DocText.strip, dropWhile_of_first (by rfl), rdropWhile_append_left dark]
      have letters : "harness/".toList.flatMap fold = "harness/".toList := flatMap_settled fun letter member => by
        rw [show "harness/".toList = "harness".toList ++ ['/'] from rfl] at member
        rcases List.mem_append.mp member with small | slash
        · exact folds.small letter small
        · obtain rfl := List.mem_singleton.mp slash
          exact folds.marks '/' (by decide)
      have behind := stripMarks_append leading stripped.toUnmarked
      rw [← whole, part, List.flatMap_append, letters, stripMarks_harness] at behind
      have shorter : DocText.strip (firstScope (dropHarness (ticked token))) =
          DocText.strip ((firstScope (dropHarness (ticked token))).rdropWhile isSpace) := by
        conv_lhs => rw [← List.rdropWhile_append_rtakeWhile (p := isSpace)
          (l := firstScope (dropHarness (ticked token)))]
        exact trim_append_right fun letter member => List.mem_rtakeWhile_imp member
      rw [shorter, ← folds.strip, behind, stripped.spaces, List.nil_append]

theorem joinScopes_cons (file : DocText) {later : List DocText} (filled : later ≠ []) :
    joinScopes (file :: later) = file ++ ':' :: ':' :: joinScopes later := by
  obtain ⟨scope, scopes, rfl⟩ := List.exists_cons_of_ne_nil filled
  rw [joinScopes, List.intercalate_cons_cons, List.append_assoc]
  rfl

theorem canonical_heading (folds : FoldsLetters texts fold) (leading : Leading front) (stripped : Stripped rest)
    (whole : (filePart token).flatMap fold = front ++ rest) :
    ((rest.getLast? = .some ':' → laterScopes (ticked token) = []) →
      canonicalTestPath texts (normaliseHarnessRef token) = rest) ∧
    (rest.getLast? = .some ':' → laterScopes (ticked token) ≠ [] → ∃ white, white ≠ [] ∧ '/' ∉ white ∧
      rest = canonicalTestPath texts (normaliseHarnessRef token) ++ white) := by
  obtain ⟨file, front', later, same, scopes, cell⟩ := cell_of_stripped folds leading stripped whole
  rw [same]
  constructor
  · intro last
    by_cases filled : later = []
    · rw [filled, joinScopes, List.intercalate_singleton]
      exact cell.canonical_alone folds
    · rw [joinScopes_cons file filled]
      exact cell.canonical_scopes folds (fun colon => filled (scopes.mpr (last colon))) _
  · intro colon filled
    rw [joinScopes_cons file fun empty => filled (scopes.mp empty)]
    exact cell.canonical_colon folds colon _

theorem normaliseHarnessRef_congr {other : DocText} (same : token.strip = other.strip) :
    normaliseHarnessRef token = normaliseHarnessRef other := by
  rw [normaliseHarnessRef, normaliseHarnessRef, same]

end Thought2Build.Pipeline
