import Thought2Build.Library.PatternPlaces

/-!
A stretch of a text can be searched on its own if the pattern does not read the characters around it. So a pattern that
reads no line break is searched for line by line.
-/

namespace Patterns

variable {pattern : Pattern} {cursor finish : Cursor} {before ahead line rest : List Char} {fuel : Nat}

/-- The pattern does not read these characters around a stretch, and finds there what it finds at the ends of a text. -/
def Pattern.fits (left right : Option Char) : Pattern → Bool
  | .nothing => true
  | .one meets | .many meets | .few meets => right.all fun letter => !meets letter
  | .lineStart => left.all (· = '\n')
  | .lineEnd => right.all (· = '\n')
  | .textEnd => right.isNone
  | .boundary isWord => (left.all fun letter => !isWord letter) && right.all fun letter => !isWord letter
  | .andThen first second | .either first second => first.fits left right && second.fits left right
  | .group inner => inner.fits left right

def Cursor.within (cursor : Cursor) (before ahead : List Char) : Cursor :=
  ⟨cursor.before ++ before, cursor.ahead ++ ahead, cursor.groups⟩

section

attribute [local simp] Cursor.within Pattern.fits

end

theorem stretch_within {meets : Char → Bool} (stops : ahead.head?.all (fun letter => !meets letter) = true)
    (groups : List (List Char)) (read own : List Char) :
    stretch meets groups (read ++ before) (own ++ ahead) =
      (stretch meets groups read own).map (·.within before ahead) := by
  induction own generalizing read with
  | nil =>
      cases ahead with
      | nil => rfl
      | cons letter rest =>
          have bad : meets letter = false := by simpa using stops
          simp [stretch, bad, Cursor.within]
  | cons letter own ih =>
      have next := ih (letter :: read)
      simp only [stretch, List.cons_append, List.map_cons] at next ⊢
      rw [next]
      split <;> rfl

theorem read_within (cursor finish : Cursor) :
    (cursor.within before ahead).read (finish.within before ahead) = cursor.read finish := by
  have length : (finish.before ++ before).length - (cursor.before ++ before).length =
      finish.before.length - cursor.before.length := by
    simp only [List.length_append]
    omega
  rw [Cursor.read, Cursor.read, Cursor.within, Cursor.within, length,
    List.take_append_of_le_length (Nat.sub_le _ _)]

theorem ends_within (fits : pattern.fits before.head? ahead.head? = true) (cursor : Cursor) :
    ends pattern (cursor.within before ahead) = (ends pattern cursor).map (·.within before ahead) := by
  induction pattern generalizing cursor with
  | nothing => rfl
  | one meets =>
      obtain ⟨read, own, groups⟩ := cursor
      cases own with
      | nil =>
          cases ahead with
          | nil => rfl
          | cons letter rest =>
              have bad : meets letter = false := by simpa [Pattern.fits] using fits
              simp [ends, Cursor.within, bad]
      | cons letter own =>
          simp only [ends, Cursor.within, List.cons_append]
          split <;> rfl
  | many meets => simp only [ends, Cursor.within, stretch_within fits, List.map_reverse]
  | few meets => simp only [ends, Cursor.within, stretch_within fits]
  | lineStart =>
      obtain ⟨read, own, groups⟩ := cursor
      cases read with
      | nil =>
          have edge : before.head?.all (· = '\n') = true := fits
          simp [ends, Cursor.within, edge]
      | cons letter read =>
          by_cases breaks : letter = '\n' <;> simp [ends, Cursor.within, breaks]
  | lineEnd =>
      obtain ⟨read, own, groups⟩ := cursor
      cases own with
      | nil =>
          have edge : ahead.head?.all (· = '\n') = true := fits
          simp [ends, Cursor.within, edge]
      | cons letter own =>
          by_cases breaks : letter = '\n' <;> simp [ends, Cursor.within, breaks]
  | textEnd =>
      obtain rfl : ahead = [] := by simpa [Pattern.fits] using fits
      simp only [ends, Cursor.within, List.append_nil]
      split <;> rfl
  | boundary isWord =>
      obtain ⟨left, right⟩ : before.head?.all (fun letter => !isWord letter) = true ∧
          ahead.head?.all (fun letter => !isWord letter) = true := by
        simpa [Pattern.fits] using fits
      have looks : ∀ own around : List Char, around.head?.all (fun letter => !isWord letter) = true →
          (own ++ around).head?.any isWord = own.head?.any isWord := by
        intro own around quiet
        cases own with
        | nil =>
            cases around with
            | nil => rfl
            | cons letter around => simpa using quiet
        | cons letter own => rfl
      simp only [ends, Cursor.within, looks _ _ left, looks _ _ right]
      split <;> rfl
  | andThen first second early late =>
      obtain ⟨firstFits, secondFits⟩ : first.fits before.head? ahead.head? = true ∧
          second.fits before.head? ahead.head? = true := by
        simpa [Pattern.fits] using fits
      simp only [ends, early firstFits, List.flatMap_map, List.map_flatMap]
      exact List.flatMap_congr fun middle _ => late secondFits middle
  | either first second left right =>
      obtain ⟨firstFits, secondFits⟩ : first.fits before.head? ahead.head? = true ∧
          second.fits before.head? ahead.head? = true := by
        simpa [Pattern.fits] using fits
      simp only [ends, left firstFits, right secondFits, List.map_append]
  | group inner same =>
      simp only [ends, same fits, List.map_map]
      refine List.map_congr_left fun finish _ => ?_
      simp only [Function.comp_apply, read_within]
      rfl

def Pattern.readsOnly (kind : Char → Prop) : Pattern → Prop
  | .one meets | .many meets | .few meets => ∀ letter, meets letter = true → kind letter
  | .andThen first second | .either first second => first.readsOnly kind ∧ second.readsOnly kind
  | .group inner => inner.readsOnly kind
  | _ => True

theorem readsOnly_ends {kind : Char → Prop} (only : pattern.readsOnly kind) (found : finish ∈ ends pattern cursor) :
    ∀ letter ∈ cursor.read finish, kind letter := by
  induction pattern generalizing cursor finish with
  | nothing =>
      obtain rfl := mem_ends_nothing.mp found
      simp [Cursor.read]
  | one meets =>
      obtain ⟨letter, rest, _, good, rfl⟩ := mem_ends_one_iff.mp found
      rw [Cursor.read_skip]
      simpa using only letter good
  | many meets =>
      obtain ⟨read, rest, _, all, rfl⟩ := mem_ends_many_iff.mp found
      rw [Cursor.read_skip]
      exact fun letter member => only letter (all letter member)
  | few meets =>
      obtain ⟨read, rest, _, all, rfl⟩ := mem_ends_few_iff.mp found
      rw [Cursor.read_skip]
      exact fun letter member => only letter (all letter member)
  | lineStart =>
      obtain ⟨_, rfl⟩ := mem_ends_lineStart.mp found
      simp [Cursor.read]
  | lineEnd =>
      obtain ⟨_, rfl⟩ := mem_ends_lineEnd.mp found
      simp [Cursor.read]
  | textEnd =>
      obtain ⟨_, rfl⟩ := mem_ends_textEnd.mp found
      simp [Cursor.read]
  | boundary isWord =>
      obtain ⟨_, rfl⟩ := mem_ends_boundary.mp found
      simp [Cursor.read]
  | andThen first second early late =>
      obtain ⟨middle, one, two⟩ := mem_ends_andThen.mp found
      obtain ⟨front, _, passed⟩ := ends_reads one
      obtain ⟨back, _, behind⟩ := ends_reads two
      have whole : cursor.read finish = front ++ back := Cursor.read_of_append (by simp [passed, behind])
      have firstPart := early only.1 one
      have secondPart := late only.2 two
      rw [Cursor.read_of_append passed] at firstPart
      rw [Cursor.read_of_append behind] at secondPart
      rw [whole]
      exact List.forall_mem_append.mpr ⟨firstPart, secondPart⟩
  | either first second left right =>
      rcases List.mem_append.mp found with one | two
      · exact left only.1 one
      · exact right only.2 two
  | group inner same =>
      obtain ⟨middle, within, rfl⟩ := mem_ends_group_iff.mp found
      have inside := same only within
      exact inside

/-! Searches -/

theorem search_fuel {more : Nat} (enough : cursor.ahead.length < fuel) (plenty : cursor.ahead.length < more) :
    search pattern fuel cursor = search pattern more cursor := by
  induction size : cursor.ahead.length using Nat.strongRecOn generalizing cursor fuel more with
  | ind size ih =>
      subst size
      cases fuel with
      | zero => omega
      | succ fuel =>
          cases more with
          | zero => omega
          | succ more =>
              have next : ∀ later : Cursor, later.ahead.length < cursor.ahead.length →
                  search pattern fuel later = search pattern more later :=
                fun later shorter => ih _ shorter (by omega) (by omega) rfl
              rw [search, search]
              cases found : (ends pattern cursor).head? with
              | none =>
                  cases ahead : cursor.ahead with
                  | nil => rfl
                  | cons letter rest => exact next ⟨letter :: cursor.before, rest, []⟩ (by simp [ahead])
              | some finish =>
                  obtain ⟨read, whole, behind⟩ := ends_reads (List.mem_of_head? found)
                  cases ahead : cursor.ahead with
                  | nil => rfl
                  | cons letter rest =>
                      refine congrArg ((cursor, finish) :: ·) ?_
                      split
                      · exact next ⟨letter :: cursor.before, rest, []⟩ (by simp [ahead])
                      · rename_i moved
                        refine next { finish with groups := [] } ?_
                        have filled : read ≠ [] := by
                          rintro rfl
                          exact moved (by simp [behind])
                        have long := List.length_pos_iff.mpr filled
                        simp only [whole, List.length_append]
                        omega

def withinBoth (before ahead : List Char) (found : Cursor × Cursor) : Cursor × Cursor :=
  (found.1.within before ahead, found.2.within before ahead)

theorem search_within {letter : Char} {read own : List Char} {later all : Nat}
    (fits : pattern.fits before.head? (some letter) = true) (enough : own.length < fuel) (last : rest.length < later)
    (whole : own.length + rest.length + 1 < all) :
    search pattern all ⟨read ++ before, own ++ letter :: rest, []⟩ =
      (search pattern fuel ⟨read, own, []⟩).map (withinBoth before (letter :: rest)) ++
        search pattern later ⟨letter :: (own.reverse ++ (read ++ before)), rest, []⟩ := by
  have edge : pattern.fits before.head? (letter :: rest).head? = true := fits
  induction size : own.length using Nat.strongRecOn generalizing read own fuel all with
  | ind size ih =>
      subst size
      have same := ends_within edge ⟨read, own, []⟩
      cases fuel with
      | zero => omega
      | succ fuel =>
          cases all with
          | zero => omega
          | succ all =>
              have go : ∀ front tail : List Char, own = front ++ tail → front ≠ [] →
                  search pattern all ⟨front.reverse ++ (read ++ before), tail ++ letter :: rest, []⟩ =
                    (search pattern fuel ⟨front.reverse ++ read, tail, []⟩).map (withinBoth before (letter :: rest)) ++
                      search pattern later ⟨letter :: (own.reverse ++ (read ++ before)), rest, []⟩ := by
                rintro front tail rfl filled
                have long := List.length_pos_iff.mpr filled
                rw [List.length_append] at enough whole ih
                have next : search pattern all ⟨(front.reverse ++ read) ++ before, tail ++ letter :: rest, []⟩ =
                    (search pattern fuel ⟨front.reverse ++ read, tail, []⟩).map (withinBoth before (letter :: rest)) ++
                      search pattern later
                        ⟨letter :: (tail.reverse ++ ((front.reverse ++ read) ++ before)), rest, []⟩ :=
                  ih tail.length (by omega) (by omega) (by omega) rfl
                simpa using next
              change ends pattern ⟨read ++ before, own ++ letter :: rest, []⟩ = _ at same
              rw [search, search, same, List.head?_map]
              cases found : (ends pattern ⟨read, own, []⟩).head? with
              | none =>
                  cases own with
                  | nil => exact search_fuel (by simpa using whole) last
                  | cons first own => exact go [first] own rfl (List.cons_ne_nil _ _)
              | some finish =>
                  obtain ⟨taken, split', behind⟩ := ends_reads (List.mem_of_head? found)
                  have moved : (finish.within before (letter :: rest)).before.length = (read ++ before).length ↔
                      finish.before.length = read.length := by
                    simp [Cursor.within]
                  cases own with
                  | nil =>
                      obtain ⟨rfl, _⟩ := List.append_eq_nil_iff.mp split'.symm
                      have empty : finish.before.length = read.length := by rw [behind]; rfl
                      have next :=
                        @search_fuel pattern ⟨letter :: (read ++ before), rest, []⟩ _ _ (by simpa using whole) last
                      simp only [Option.map_some, List.nil_append, if_pos (moved.mpr empty), next]
                      rfl
                  | cons first own =>
                      simp only [Option.map_some, List.cons_append, moved, List.map_cons]
                      refine congrArg₂ List.cons rfl ?_
                      split
                      · exact go [first] own rfl (List.cons_ne_nil _ _)
                      · rename_i full
                        have filled : taken ≠ [] := by
                          rintro rfl
                          exact full (by rw [behind]; rfl)
                        have next := go taken finish.ahead split' filled
                        rw [← behind, ← List.append_assoc, ← behind] at next
                        exact next

theorem search_within_end (fits : pattern.fits before.head? none = true) (cursor : Cursor) :
    search pattern fuel (cursor.within before []) = (search pattern fuel cursor).map (withinBoth before []) := by
  induction fuel generalizing cursor with
  | zero => rfl
  | succ fuel ih =>
      have same := @ends_within pattern before [] fits cursor
      have ahead : (cursor.within before []).ahead = cursor.ahead := List.append_nil _
      rw [search, search, same, List.head?_map, ahead]
      cases (ends pattern cursor).head? with
      | none =>
          cases own : cursor.ahead with
          | nil => rfl
          | cons letter rest =>
              have next := ih ⟨letter :: cursor.before, rest, []⟩
              simp only [Cursor.within, List.append_nil] at next
              exact next
      | some finish =>
          have moved : (finish.within before []).before.length = (cursor.within before []).before.length ↔
              finish.before.length = cursor.before.length := by
            simp [Cursor.within]
          cases own : cursor.ahead with
          | nil => rfl
          | cons letter rest =>
              simp only [Option.map_some, moved, List.map_cons]
              refine congrArg₂ List.cons rfl ?_
              split
              · have next := ih ⟨letter :: cursor.before, rest, []⟩
                simp only [Cursor.within, List.append_nil] at next
                exact next
              · exact ih { finish with groups := [] }

/-! Lines -/

def foundText (found : Cursor × Cursor) : List Char × List (List Char) := (found.1.read found.2, found.2.groups)

theorem foundText_withinBoth (found : Cursor × Cursor) :
    foundText (withinBoth before ahead found) = foundText found := by
  simp only [foundText, withinBoth, read_within]
  rfl

def findTexts (pattern : Pattern) (text : List Char) : List (List Char × List (List Char)) :=
  (findIter pattern text).map foundText

theorem readsOnly_findTexts {kind : Char → Prop} {text : List Char} {found : List Char × List (List Char)}
    (only : pattern.readsOnly kind) (member : found ∈ findTexts pattern text) : ∀ letter ∈ found.1, kind letter := by
  obtain ⟨places, within, rfl⟩ := List.mem_map.mp member
  obtain ⟨ended, _⟩ := mem_search within
  exact readsOnly_ends only ended

theorem findTexts_withinBoth (before ahead text : List Char) :
    ((findIter pattern text).map (withinBoth before ahead)).map foundText = findTexts pattern text := by
  rw [List.map_map, findTexts]
  exact List.map_congr_left fun found _ => foundText_withinBoth found

def Pattern.cutBy (pattern : Pattern) (letter : Char) : Bool := pattern.fits none letter && pattern.fits letter none

theorem findTexts_cut {letter : Char} (cut : pattern.cutBy letter = true) (front back : List Char) :
    findTexts pattern (front ++ letter :: back) = findTexts pattern front ++ findTexts pattern back := by
  obtain ⟨first, last⟩ : pattern.fits none letter = true ∧ pattern.fits letter none = true := by
    simpa [Pattern.cutBy] using cut
  have early := @search_within pattern [] back (front.length + 1) letter [] front (back.length + 1)
    ((front ++ letter :: back).length + 1) first (Nat.lt_succ_self _) (Nat.lt_succ_self _) (by simp [Nat.add_assoc])
  have late := @search_within_end pattern (letter :: front.reverse) (back.length + 1) last ⟨[], back, []⟩
  simp only [Cursor.within, List.nil_append, List.append_nil] at early late
  rw [findTexts, findIter, early, late, List.map_append]
  exact congrArg₂ (· ++ ·) (findTexts_withinBoth _ _ _) (findTexts_withinBoth _ _ _)

def linesBehind (lines : List (List Char)) : List Char := lines.flatMap fun line => '\n' :: line

theorem linesBehind_splitOn (text : List Char) : linesBehind (text.splitOn '\n') = '\n' :: text := by
  induction text with
  | nil => rfl
  | cons letter rest ih =>
      rw [List.splitOn_cons_eq_if_modifyHead]
      split
      · rename_i breaks
        obtain rfl : letter = '\n' := by simpa using breaks
        rw [linesBehind, List.flatMap_cons, ← linesBehind, ih]
        rfl
      · cases split' : rest.splitOn '\n' with
        | nil => exact absurd split' (List.splitOn_ne_nil _ _)
        | cons first lines =>
            rw [split', linesBehind, List.flatMap_cons, ← linesBehind, List.cons_append, List.cons.injEq] at ih
            rw [List.modifyHead_cons, linesBehind, List.flatMap_cons, ← linesBehind, ← ih.2]
            rfl

theorem splitOn_linesBehind {lines : List (List Char)} (plain : ∀ line ∈ lines, '\n' ∉ line) (front : List Char)
    (first : '\n' ∉ front) : (front ++ linesBehind lines).splitOn '\n' = front :: lines := by
  induction lines generalizing front with
  | nil =>
      rw [linesBehind, List.flatMap_nil, List.append_nil]
      exact List.splitOn_eq_singleton first
  | cons line lines ih =>
      obtain ⟨here, later⟩ := List.forall_mem_cons.mp plain
      have next := ih later line here
      rw [linesBehind, List.flatMap_cons, ← linesBehind, List.cons_append, List.splitOn_append_cons_self,
        List.splitOn_eq_singleton first, next]
      rfl

theorem findTexts_linesBehind (cut : pattern.cutBy '\n' = true) (lines : List (List Char)) (front : List Char) :
    findTexts pattern (front ++ linesBehind lines) = (front :: lines).flatMap (findTexts pattern) := by
  induction lines generalizing front with
  | nil => simp [linesBehind]
  | cons line rest ih =>
      have later := ih line
      rw [linesBehind, List.flatMap_cons, ← linesBehind, List.cons_append, findTexts_cut cut, later]
      rfl

/-! Patterns that match from the start of a line -/

theorem Pattern.fits_none (pattern : Pattern) : pattern.fits none none = true := by
  induction pattern with
  | andThen first second early late | either first second early late => simp [Pattern.fits, early, late]
  | group inner same => exact same
  | _ => rfl

theorem Pattern.fits_mix {left right farLeft farRight : Option Char} (early : pattern.fits left farRight = true)
    (late : pattern.fits farLeft right = true) : pattern.fits left right = true := by
  induction pattern with
  | andThen first second one two | either first second one two =>
      simp only [Pattern.fits, Bool.and_eq_true] at early late ⊢
      exact ⟨one early.1 late.1, two early.2 late.2⟩
  | boundary isWord =>
      simp only [Pattern.fits, Bool.and_eq_true] at early late ⊢
      exact ⟨early.1, late.2⟩
  | group inner same => exact same early late
  | lineStart => exact early
  | nothing => rfl
  | one | many | few | lineEnd | textEnd => exact late

def lineFinds (pattern : Pattern) : List Char → List (List Char) → List (Cursor × Cursor)
  | _, [] => []
  | before, line :: rest =>
      ((ends pattern ⟨[], line, []⟩).head?.map fun finish =>
        withinBoth before (linesBehind rest) (⟨[], line, []⟩, finish)).toList ++
      lineFinds pattern ('\n' :: (line.reverse ++ before)) rest

theorem search_line (plain : '\n' ∉ line) :
    search (.andThen .lineStart pattern) (line.length + 1) ⟨[], line, []⟩ =
      ((ends (.andThen .lineStart pattern) ⟨[], line, []⟩).head?.map fun finish =>
        (⟨[], line, []⟩, finish)).toList := by
  have later : ∀ fuel front back, line = front ++ back → front ≠ [] →
      search (.andThen .lineStart pattern) fuel ⟨front.reverse, back, []⟩ = [] := by
    rintro fuel front back rfl filled
    refine List.eq_nil_iff_forall_not_mem.mpr fun found member => ?_
    obtain ⟨ended, skipped, whole, passed⟩ := mem_search member
    obtain ⟨_, starts, _⟩ := mem_ends_andThen.mp ended
    obtain ⟨edge, _⟩ := mem_ends_lineStart.mp starts
    rw [passed, ← List.reverse_append] at edge
    cases same : (front ++ skipped).reverse with
    | nil =>
        rw [List.reverse_eq_nil_iff, List.append_eq_nil_iff] at same
        exact filled same.1
    | cons letter read =>
        rw [same] at edge
        obtain rfl : letter = '\n' := by simpa using edge
        have inside : '\n' ∈ front ++ skipped := List.mem_reverse.mp (same ▸ List.mem_cons_self)
        have whole' : back = skipped ++ found.1.ahead := whole
        rw [whole', ← List.append_assoc] at plain
        exact plain (List.mem_append_left _ inside)
  rw [search]
  cases first : (ends (.andThen .lineStart pattern) ⟨[], line, []⟩).head? with
  | none =>
      cases line with
      | nil => rfl
      | cons letter rest => exact later _ [letter] rest rfl (List.cons_ne_nil _ _)
  | some finish =>
      obtain ⟨read, whole, passed⟩ := ends_reads (List.mem_of_head? first)
      cases line with
      | nil => rfl
      | cons letter rest =>
          refine congrArg (_ :: ·) ?_
          split
          · exact later _ [letter] rest rfl (List.cons_ne_nil _ _)
          · rename_i moved
            have filled : read ≠ [] := by
              rintro rfl
              exact moved (by rw [passed]; rfl)
            have next := later (letter :: rest).length read finish.ahead whole filled
            rw [← List.append_nil read.reverse, ← passed] at next
            exact next

theorem search_lineStart (cut : (Pattern.andThen .lineStart pattern).cutBy '\n' = true) (text : List Char)
    (edge : before.head?.all (· = '\n') = true) (enough : text.length < fuel) :
    search (.andThen .lineStart pattern) fuel ⟨before, text, []⟩ =
      lineFinds (.andThen .lineStart pattern) before (text.splitOn '\n') := by
  obtain ⟨first, last⟩ : (Pattern.andThen .lineStart pattern).fits none ('\n' : Char) = true ∧
      (Pattern.andThen .lineStart pattern).fits ('\n' : Char) none = true := by
    simpa only [Pattern.cutBy, Bool.and_eq_true] using cut
  induction size : text.length using Nat.strongRecOn generalizing text before fuel with
  | ind size ih =>
      subst size
      have left : (Pattern.andThen .lineStart pattern).fits before.head? none = true := by
        cases before with
        | nil => exact Pattern.fits_none _
        | cons letter before =>
            obtain rfl : letter = '\n' := by simpa using edge
            exact last
      by_cases breaks : '\n' ∈ text
      · obtain ⟨line, rest, rfl, plain⟩ := List.eq_append_cons_of_mem breaks
        rw [List.length_append, List.length_cons] at enough
        have here := @search_within (.andThen .lineStart pattern) before rest (line.length + 1) '\n' [] line
          (rest.length + 1) fuel (Pattern.fits_mix left first) (Nat.lt_succ_self _) (Nat.lt_succ_self _) (by omega)
        have later := ih rest.length (by simp only [List.length_append, List.length_cons]; omega) rest
          (rfl : ('\n' :: (line.reverse ++ ([] ++ before))).head?.all (· = '\n') = true) (Nat.lt_succ_self _) rfl
        change search _ fuel ⟨before, line ++ '\n' :: rest, []⟩ = _ at here
        rw [here, later, search_line plain, List.splitOn_append_cons_self,
          List.splitOn_eq_singleton plain, List.singleton_append, lineFinds, linesBehind_splitOn]
        cases (ends (.andThen .lineStart pattern) ⟨[], line, []⟩).head? <;> rfl
      · have here := @search_within_end (.andThen .lineStart pattern) before fuel left ⟨[], text, []⟩
        have same := @search_fuel (.andThen .lineStart pattern) ⟨[], text, []⟩ fuel (text.length + 1) enough
          (Nat.lt_succ_self _)
        rw [Cursor.within, List.nil_append, List.append_nil, same, search_line breaks] at here
        rw [here, List.splitOn_eq_singleton breaks, lineFinds, lineFinds, List.append_nil]
        cases (ends (.andThen .lineStart pattern) ⟨[], text, []⟩).head? <;> rfl

theorem findIter_lineStart (cut : (Pattern.andThen .lineStart pattern).cutBy '\n' = true) (text : List Char) :
    findIter (.andThen .lineStart pattern) text = lineFinds (.andThen .lineStart pattern) [] (text.splitOn '\n') :=
  search_lineStart cut text rfl (Nat.lt_succ_self _)

end Patterns
