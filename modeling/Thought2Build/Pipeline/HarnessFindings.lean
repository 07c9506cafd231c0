import Thought2Build.Integrations.TaskReaders
import Thought2Build.Pipeline.HarnessFindingsCore

/-! A missing test or requirement that is reported is missing, unless the files section is cut off before the file. -/

namespace Thought2Build.Pipeline

open Patterns Pattern
open Integrations (Texts sampleTexts)

variable {texts : Texts} {pattern : Pattern} {names : List DocText} {name : DocText} {artifactMd : DocText}

theorem findAll_section {heading : String} (plain : '\n' ∉ titleOf heading)
    (cut : ∀ letter, isSpace letter = true → pattern.cutBy letter = true) (empty : findTexts pattern [] = []) :
    findAll pattern (sectionBody artifactMd heading) = (sectionLines artifactMd heading).flatMap (findAll pattern) := by
  have lines := findTexts_linesBehind (cut '\n' (by decide)) (sectionLines artifactMd heading) []
  rw [List.nil_append, List.flatMap_cons, empty, List.nil_append] at lines
  rw [findAll, sectionBody_lines plain, findTexts_strip cut empty, lines, List.map_flatMap]
  rfl

theorem mem_findAll_section {heading : String} (plain : '\n' ∉ titleOf heading)
    (cut : ∀ letter, isSpace letter = true → pattern.cutBy letter = true) (empty : findTexts pattern [] = []) :
    name ∈ findAll pattern (sectionBody artifactMd heading) ↔
      rowsName pattern (sectionLines artifactMd heading) name := by
  rw [findAll_section plain cut empty, List.mem_flatMap, rowsName]

theorem mem_findAll_text (cut : ∀ letter, isSpace letter = true → pattern.cutBy letter = true)
    (empty : findTexts pattern [] = []) (text : DocText) :
    name ∈ findAll pattern text ↔ rowsName pattern (text.splitOn '\n') name := by
  have lines := findTexts_linesBehind (cut '\n' (by decide)) (text.splitOn '\n') []
  have whole := findTexts_cut (cut '\n' (by decide)) [] text
  rw [List.nil_append, linesBehind_splitOn, List.flatMap_cons, empty, List.nil_append] at lines
  rw [List.nil_append, empty, List.nil_append, lines] at whole
  rw [findAll, ← whole, List.map_flatMap]
  exact List.mem_flatMap

theorem sectionBody_filled {heading : String} (plain : '\n' ∉ titleOf heading) :
    sectionBody artifactMd heading ≠ [] ↔ ∃ line ∈ sectionLines artifactMd heading, line.strip ≠ [] := by
  simp only [sectionBody_lines plain, ne_eq, DocText.strip_eq_nil, linesBehind, List.mem_flatMap, List.mem_cons]
  constructor
  · intro ink
    by_contra blank
    refine ink ?_
    rintro letter ⟨line, member, rfl | inside⟩
    · decide
    · by_contra dark
      exact blank ⟨line, member, fun empty => dark (empty letter inside)⟩
  · rintro ⟨line, member, dark⟩ blank
    exact dark fun letter inside => blank letter ⟨line, member, .inr inside⟩

theorem mem_take_iff {ordered : List DocText} (sorted : ordered.Pairwise (· < ·)) (count : Nat) :
    name ∈ ordered.take count ↔ name ∈ ordered ∧ (ordered.filter (· < name)).length < count := by
  induction ordered generalizing count with
  | nil => simp
  | cons first rest ih =>
      obtain ⟨least, later⟩ := List.pairwise_cons.mp sorted
      cases count with
      | zero => simp
      | succ count =>
          rw [List.take_succ_cons, List.mem_cons, List.mem_cons, ih later]
          constructor
          · rintro (rfl | ⟨member, few⟩)
            · have none : rest.filter (· < name) = [] := by
                refine List.filter_eq_nil_iff.mpr fun other member => ?_
                simpa using (least other member).le
              simp [none]
            · refine ⟨.inr member, ?_⟩
              rw [List.filter_cons_of_pos (by simpa using least name member), List.length_cons]
              omega
          · rintro ⟨rfl | member, few⟩
            · exact .inl rfl
            · rw [List.filter_cons_of_pos (by simpa using least name member), List.length_cons] at few
              exact .inr ⟨member, by omega⟩

theorem mem_first_ten : name ∈ (sortedNames names).take 10 ↔ name ∈ names ∧ ¬TenBefore names name := by
  have sorted : (sortedNames names).Pairwise (· < ·) := by
    have ordered : (sortedNames names).Pairwise (· ≤ ·) := List.pairwise_insertionSort _ _
    have nodup : (sortedNames names).Nodup := (List.perm_insertionSort _ _).nodup_iff.mpr (List.nodup_dedup _)
    exact ordered.imp₂ (fun _ _ less other => lt_of_le_of_ne less other) nodup
  have count : ((sortedNames names).filter (· < name)).length = (names.dedup.filter (· < name)).length :=
    ((List.perm_insertionSort _ _).filter _).length_eq
  rw [mem_take_iff sorted, count, TenBefore, Nat.not_le, sortedNames, List.mem_insertionSort, List.mem_dedup]

def Listed (name : DocText) : Prop := ∀ letter ∈ name, letter ≠ ',' ∧ isSpace letter = false

theorem Listed.strip (listed : Listed name) : name.strip = name := by
  rw [DocText.strip]
  have front : name.dropWhile isSpace = name := by
    cases name with
    | nil => rfl
    | cons letter rest => exact List.dropWhile_cons_of_neg (by simp [(listed letter List.mem_cons_self).2])
  rw [front, List.rdropWhile_eq_self_iff]
  intro filled
  simp [(listed _ (List.getLast_mem filled)).2]

theorem splitOn_names (listed : ∀ name ∈ names, Listed name) (filled : names ≠ []) :
    ((", ".toList.intercalate names).splitOn ',').map DocText.strip = names := by
  induction names with
  | nil => exact absurd rfl filled
  | cons name rest ih =>
      obtain ⟨here, later⟩ := List.forall_mem_cons.mp listed
      have plain : ',' ∉ name := fun member => (here _ member).1 rfl
      cases rest with
      | nil => simpa [List.splitOn_eq_singleton plain] using here.strip
      | cons next rest =>
          have behind := ih later (List.cons_ne_nil _ _)
          have text : ", ".toList.intercalate (name :: next :: rest) =
              name ++ ',' :: ' ' :: ", ".toList.intercalate (next :: rest) := by
            rw [List.intercalate_cons_cons, List.append_assoc]
            rfl
          rw [text, List.splitOn_append_cons_self, List.splitOn_eq_singleton plain, List.singleton_append,
            List.map_cons, here.strip, List.splitOn_cons_eq_if_modifyHead]
          cases split : (", ".toList.intercalate (next :: rest)).splitOn ',' with
          | nil => exact absurd split (List.splitOn_ne_nil _ _)
          | cons first parts =>
              rw [split] at behind
              have lead : DocText.strip (' ' :: first) = DocText.strip first :=
                DocText.strip_space_cons (by decide) first
              rw [if_neg (by decide), List.modifyHead_cons, List.map_cons, lead, ← List.map_cons, behind]

theorem mem_names {issue : CompletenessIssue} (listed : ∀ name ∈ names, Listed name) (filled : sortedNames names ≠ [])
    (reference : issue.reference = .some (firstNames (sortedNames names))) :
    name ∈ issue.names ↔ name ∈ names ∧ ¬TenBefore names name := by
  have within : ∀ name ∈ (sortedNames names).take 10, Listed name := fun name member =>
    listed name (mem_first_ten.mp member).1
  have some : (sortedNames names).take 10 ≠ [] := by simpa using filled
  have read : issue.names = (sortedNames names).take 10 := by
    rw [CompletenessIssue.names, reference, firstNames]
    simpa using splitOn_names within some
  rw [read, mem_first_ten]

theorem space_not_identifier {letter : Char} (space : isSpace letter = true) : isIdentifier letter = false :=
  Integrations.sampleTexts_standard.space letter space

theorem literal_fits {left right : Option Char} {text : String} (ink : text.toList.all (!isSpace ·) = true)
    (space : right.all (fun letter => isSpace letter) = true) : (literal text).fits left right = true := by
  refine sequence_fits fun pattern member => ?_
  obtain ⟨letter, within, rfl⟩ := List.mem_map.mp member
  cases right with
  | none => rfl
  | some next =>
      have dark : isSpace letter = false := by simpa using List.all_eq_true.mp ink letter within
      have light : isSpace next = true := space
      have other : next ≠ letter := by
        rintro rfl
        rw [light] at dark
        contradiction
      simpa [Pattern.fits] using other

theorem testName_cut (standard : texts.Standard) {letter : Char} (space : isSpace letter = true) :
    (testName texts).cutBy letter = true := by
  have word := standard.space letter space
  have identifier := space_not_identifier space
  have name := fun left => @literal_fits left letter "test_" (by decide) space
  have free := fun left => @literal_fits left none "test_" (by decide) rfl
  simp only [Pattern.cutBy, Bool.and_eq_true]
  constructor <;> refine sequence_fits ?_ <;> simp [Pattern.fits, Pattern.some, word, identifier, name, free]

theorem space_not_digit (standard : texts.Standard) {letter : Char} (space : isSpace letter = true) :
    texts.isDigit letter = false := by
  by_contra digit
  have word := standard.digit letter (by simpa using digit)
  rw [standard.space letter space] at word
  contradiction

theorem requirementKind_fits {left right : Option Char} (space : right.all (fun letter => isSpace letter) = true) :
    requirementKind.fits left right = true := by
  simp only [requirementKind, Pattern.fits, Bool.and_eq_true]
  exact ⟨literal_fits (by decide) space, literal_fits (by decide) space, literal_fits (by decide) space⟩

theorem requirementId_cut (standard : texts.Standard) {letter : Char} (space : isSpace letter = true) :
    (requirementId texts).cutBy letter = true := by
  have word := standard.space letter space
  have digit := space_not_digit standard space
  have dash : letter ≠ '-' := by
    rintro rfl
    exact absurd space (by decide)
  have name := fun left => @requirementKind_fits left letter space
  have free := fun left => @requirementKind_fits left none rfl
  simp only [Pattern.cutBy, Bool.and_eq_true]
  constructor <;> refine sequence_fits ?_ <;>
    simp [Pattern.fits, Texts.threeDigits, Pattern.sequence, word, digit, dash, name, free]

theorem sequence_readsOnly {kind : Char → Prop} {patterns : List Pattern}
    (each : ∀ pattern ∈ patterns, pattern.readsOnly kind) : (Pattern.sequence patterns).readsOnly kind := by
  induction patterns with
  | nil => trivial
  | cons first rest ih =>
      obtain ⟨here, later⟩ := List.forall_mem_cons.mp each
      exact ⟨here, ih later⟩

theorem literal_readsOnly {kind : Char → Prop} {text : String} (each : text.toList.Forall kind) :
    (literal text).readsOnly kind := by
  refine sequence_readsOnly fun pattern member => ?_
  obtain ⟨letter, within, rfl⟩ := List.mem_map.mp member
  intro other same
  obtain rfl : other = letter := by simpa using same
  exact List.forall_iff_forall_mem.mp each other within

theorem testName_listed {text : DocText} (member : name ∈ findAll (testName texts) text) : Listed name := by
  obtain ⟨found, within, rfl⟩ := List.mem_map.mp member
  refine readsOnly_findTexts ?_ within
  have identifier : ∀ letter, isIdentifier letter = true → letter ≠ ',' ∧ isSpace letter = false := by
    intro letter good
    refine ⟨by rintro rfl; exact absurd good (by decide), ?_⟩
    by_contra space
    rw [space_not_identifier (by simpa using space)] at good
    contradiction
  exact sequence_readsOnly (by
    simp only [List.forall_mem_cons]
    exact ⟨trivial, literal_readsOnly (by decide), ⟨identifier, identifier⟩, nofun⟩)

theorem requirementId_listed (standard : texts.Standard) (comma : texts.isDigit ',' = false) {text : DocText}
    (member : name ∈ findAll (requirementId texts) text) : Listed name := by
  obtain ⟨found, within, rfl⟩ := List.mem_map.mp member
  refine readsOnly_findTexts ?_ within
  have digit : ∀ letter, texts.isDigit letter = true → letter ≠ ',' ∧ isSpace letter = false := by
    intro letter good
    refine ⟨by rintro rfl; rw [comma] at good; contradiction, ?_⟩
    by_contra space
    rw [space_not_digit standard (by simpa using space)] at good
    contradiction
  have dash : ∀ letter, decide (letter = '-') = true → letter ≠ ',' ∧ isSpace letter = false := by
    intro letter same
    obtain rfl : letter = '-' := by simpa using same
    decide
  have digits : texts.threeDigits.readsOnly fun letter => letter ≠ ',' ∧ isSpace letter = false :=
    ⟨digit, digit, digit, trivial⟩
  have kinds : requirementKind.readsOnly fun letter => letter ≠ ',' ∧ isSpace letter = false :=
    ⟨literal_readsOnly (by decide), literal_readsOnly (by decide), literal_readsOnly (by decide)⟩
  exact ⟨trivial, kinds, dash, digits, trivial, trivial⟩

variable {deps : List (String × DocText)}

theorem matrixHeading_plain : '\n' ∉ titleOf matrixHeading := by
  decide

theorem filesHeading_plain : '\n' ∉ titleOf filesHeading := by
  decide

theorem mem_unlistedTests : name ∈ unlistedTests texts artifactMd ↔
    rowsName (testName texts) (sectionLines artifactMd.strip matrixHeading) name ∧
      ¬rowsName (testName texts) (sectionLines artifactMd.strip filesHeading) name := by
  simp [unlistedTests, rowsName]

theorem mem_unlistedRequirements : name ∈ unlistedRequirements texts artifactMd deps ↔
    name ∈ upstreamRequirementIds texts deps ∧
      rowsName (requirementId texts) (artifactMd.strip.splitOn '\n') name ∧
      ¬rowsName (requirementId texts)
        (sectionLines artifactMd.strip matrixHeading ++ sectionLines artifactMd.strip filesHeading) name := by
  rw [unlistedRequirements, List.mem_filter, decide_eq_true_eq]

theorem untested_eq (standard : texts.Standard) : untestedRequirements texts artifactMd.strip
    (sectionBody artifactMd.strip matrixHeading) (sectionBody artifactMd.strip filesHeading) deps =
      unlistedRequirements texts artifactMd deps := by
  have cut := fun letter space => @requirementId_cut texts standard letter space
  rw [untestedRequirements, unlistedRequirements]
  refine List.filter_congr fun name _ => ?_
  have matrix := @mem_findAll_section _ name artifactMd.strip _ matrixHeading_plain cut rfl
  have files := @mem_findAll_section _ name artifactMd.strip _ filesHeading_plain cut rfl
  have text := @mem_findAll_text _ name cut rfl artifactMd.strip
  have both : name ∈ findAll (requirementId texts) (sectionBody artifactMd.strip matrixHeading) ++
      findAll (requirementId texts) (sectionBody artifactMd.strip filesHeading) ↔
        rowsName (requirementId texts)
          (sectionLines artifactMd.strip matrixHeading ++ sectionLines artifactMd.strip filesHeading) name := by
    rw [List.mem_append, matrix, files]
    simp only [rowsName, List.mem_append, or_and_right, exists_or]
  simp only [List.contains_eq_mem, text, both, Bool.decide_and, decide_not]

theorem missing_eq (standard : texts.Standard) : missingTests texts (sectionBody artifactMd.strip matrixHeading)
    (sectionBody artifactMd.strip filesHeading) = unlistedTests texts artifactMd := by
  have cut := fun letter space => @testName_cut texts standard letter space
  rw [missingTests, unlistedTests, findAll_section matrixHeading_plain cut rfl]
  refine List.filter_congr fun name _ => ?_
  have files := @mem_findAll_section _ name artifactMd.strip _ filesHeading_plain cut rfl
  simp only [List.contains_eq_mem, files, decide_not]

theorem mem_findings {issue : CompletenessIssue} (standard : texts.Standard) :
    issue ∈ mappingFindings texts artifactMd deps ↔
      (((∃ line ∈ sectionLines artifactMd.strip matrixHeading, line.strip ≠ []) ∧
        (∃ line ∈ sectionLines artifactMd.strip filesHeading, line.strip ≠ []) ∧
        sortedNames (unlistedRequirements texts artifactMd deps) ≠ []) ∧
        issue = untestedIssue (sortedNames (unlistedRequirements texts artifactMd deps))) ∨
      (sortedNames (unlistedTests texts artifactMd) ≠ [] ∧
        issue = missingTestsIssue (sortedNames (unlistedTests texts artifactMd))) := by
  have matrix := @sectionBody_filled artifactMd.strip _ matrixHeading_plain
  have files := @sectionBody_filled artifactMd.strip _ filesHeading_plain
  have upstream : sortedNames (unlistedRequirements texts artifactMd deps) ≠ [] →
      upstreamRequirementIds texts deps ≠ [] := by
    intro filled empty
    rw [unlistedRequirements, empty] at filled
    exact filled rfl
  have guarded : ∀ (condition : Prop) [Decidable condition] (report : CompletenessIssue),
      issue ∈ (if condition then [report] else []) ↔ condition ∧ issue = report := by
    intro condition _ report
    split <;> simp_all
  rw [mappingFindings, harnessMappingIssues]
  rw [untested_eq standard, missing_eq standard, List.mem_append, guarded, guarded, matrix, files]
  constructor
  · rintro (⟨⟨one, two, _, filled⟩, same⟩ | missing)
    · exact .inl ⟨⟨one, two, filled⟩, same⟩
    · exact .inr missing
  · rintro (⟨⟨one, two, filled⟩, same⟩ | missing)
    · exact .inl ⟨⟨one, two, upstream filled, filled⟩, same⟩
    · exact .inr missing

theorem missing_names (standard : texts.Standard) :
    (∃ issue ∈ mappingFindings texts artifactMd deps, issue.code = "harness_matrix_missing_test" ∧ name ∈ issue.names) ↔
      name ∈ unlistedTests texts artifactMd ∧ ¬TenBefore (unlistedTests texts artifactMd) name := by
  have listed : ∀ name ∈ unlistedTests texts artifactMd, Listed name := by
    intro name member
    obtain ⟨⟨line, _, within⟩, _⟩ := mem_unlistedTests.mp member
    exact testName_listed within
  constructor
  · rintro ⟨issue, member, code, within⟩
    rcases (mem_findings standard).mp member with ⟨_, rfl⟩ | ⟨filled, rfl⟩
    · have other : "harness_requirement_not_test_mapped" = "harness_matrix_missing_test" := code
      exact absurd other (by decide)
    · exact (mem_names listed filled rfl).mp within
  · rintro ⟨member, early⟩
    have filled : sortedNames (unlistedTests texts artifactMd) ≠ [] := by
      intro empty
      have kept := (mem_first_ten.mpr ⟨member, early⟩)
      rw [empty] at kept
      exact absurd kept List.not_mem_nil
    refine ⟨_, (mem_findings standard).mpr (.inr ⟨filled, rfl⟩), rfl, ?_⟩
    exact (mem_names listed filled rfl).mpr ⟨member, early⟩

theorem untested_names (standard : texts.Standard) (comma : texts.isDigit ',' = false) :
    (∃ issue ∈ mappingFindings texts artifactMd deps,
        issue.code = "harness_requirement_not_test_mapped" ∧ name ∈ issue.names) ↔
      ((∃ line ∈ sectionLines artifactMd.strip matrixHeading, line.strip ≠ []) ∧
        (∃ line ∈ sectionLines artifactMd.strip filesHeading, line.strip ≠ [])) ∧
      name ∈ unlistedRequirements texts artifactMd deps ∧
        ¬TenBefore (unlistedRequirements texts artifactMd deps) name := by
  have listed : ∀ name ∈ unlistedRequirements texts artifactMd deps, Listed name := by
    intro name member
    obtain ⟨line, _, within⟩ := List.mem_flatMap.mp (mem_unlistedRequirements.mp member).1
    exact requirementId_listed standard comma within
  constructor
  · rintro ⟨issue, member, code, within⟩
    rcases (mem_findings standard).mp member with ⟨⟨matrix, files, filled⟩, rfl⟩ | ⟨_, rfl⟩
    · exact ⟨⟨matrix, files⟩, (mem_names listed filled rfl).mp within⟩
    · have other : "harness_matrix_missing_test" = "harness_requirement_not_test_mapped" := code
      exact absurd other (by decide)
  · rintro ⟨⟨matrix, files⟩, member, early⟩
    have filled : sortedNames (unlistedRequirements texts artifactMd deps) ≠ [] := by
      intro empty
      have kept := (mem_first_ten.mpr ⟨member, early⟩)
      rw [empty] at kept
      exact absurd kept List.not_mem_nil
    refine ⟨_, (mem_findings standard).mpr (.inl ⟨⟨matrix, files, filled⟩, rfl⟩), rfl, ?_⟩
    exact (mem_names listed filled rfl).mpr ⟨member, early⟩

/-- What is reported is absent from the bodies if and only if the files section goes far enough. -/
theorem only_absent_iff (standard : texts.Standard) (comma : texts.isDigit ',' = false) (artifactMd : DocText)
    (deps : List (String × DocText)) :
    OnlyAbsent texts artifactMd deps ↔ FilesSectionWhole texts artifactMd deps := by
  have tests := fun name => @missing_names texts name artifactMd deps standard
  have requirements := fun name => @untested_names texts name artifactMd deps standard comma
  constructor
  · intro absent
    refine ⟨fun name listed ⟨line, body, found⟩ => ?_, fun matrix files name upstream present ⟨line, body, tag⟩ => ?_⟩
    · by_contra cut
      obtain ⟨out, early⟩ := not_or.mp cut
      obtain ⟨issue, reported, code, named⟩ := (tests name).mpr ⟨mem_unlistedTests.mpr ⟨listed, out⟩, early⟩
      obtain ⟨place, emitted, rfl⟩ := List.mem_map.mp body
      exact absent.tests issue reported code name named place emitted found
    · by_contra cut
      obtain ⟨out, early⟩ := not_or.mp cut
      obtain ⟨issue, reported, code, named⟩ := (requirements name).mpr
        ⟨⟨matrix, files⟩, mem_unlistedRequirements.mpr ⟨upstream, present, out⟩, early⟩
      exact absent.tags issue reported code name named line body tag
  · intro whole
    refine ⟨fun issue reported code name named line body found => ?_,
      fun issue reported code name named line body tag => ?_,
      fun issue reported code name named row member within => ?_⟩
    · obtain ⟨unlisted, early⟩ := (tests name).mp ⟨issue, reported, code, named⟩
      obtain ⟨listed, out⟩ := mem_unlistedTests.mp unlisted
      rcases whole.tests name listed ⟨line.2, List.mem_map_of_mem body, found⟩ with files | late
      · exact out files
      · exact early late
    · obtain ⟨⟨matrix, files⟩, unlisted, early⟩ := (requirements name).mp ⟨issue, reported, code, named⟩
      obtain ⟨upstream, present, out⟩ := mem_unlistedRequirements.mp unlisted
      rcases whole.requirements matrix files name upstream present ⟨line, body, tag⟩ with listed | late
      · exact out listed
      · exact early late
    · -- the matrix does not name a requirement that is reported
      obtain ⟨_, unlisted, _⟩ := (requirements name).mp ⟨issue, reported, code, named⟩
      obtain ⟨_, _, out⟩ := mem_unlistedRequirements.mp unlisted
      exact absurd ⟨row, List.mem_append_left _ member, within⟩ out

theorem only_absent_iff_sample : (sampleTexts.Standard ∧ sampleTexts.isDigit ',' = false) ∧
    (OnlyAbsent sampleTexts "## Files".toList [] ↔ FilesSectionWhole sampleTexts "## Files".toList []) :=
  ⟨⟨Integrations.sampleTexts_standard, by decide⟩,
    only_absent_iff Integrations.sampleTexts_standard (by decide) "## Files".toList []⟩

def cutByReadme : DocText := DocText.ofParts [
  "## Requirement-to-Test Matrix\n| FR-001 | test_login |\n## Files\n### File: README.md\n",
  "```\n## Use\n```\n### File: a.py\n```\n# Tests: FR-002\ndef test_login():\n```"]

def cutByReadmeDeps : List (String × DocText) := [("spec", "FR-001 FR-002".toList)]

set_option maxRecDepth 4000 in
theorem cutByReadme_unlisted : "test_login".toList ∈ unlistedTests sampleTexts cutByReadme ∧
    ¬TenBefore (unlistedTests sampleTexts cutByReadme) "test_login".toList ∧
    ("a.py".toList, "def test_login():".toList) ∈ emittedLines sampleTexts cutByReadme := by
  have letters : cutByReadme = List.flatten _ := DocText.ofParts_letters [_, _]
  rw [letters]
  decide

set_option maxRecDepth 4000 in
theorem cutByReadme_untested : "FR-002".toList ∈ unlistedRequirements sampleTexts cutByReadme cutByReadmeDeps ∧
    ¬TenBefore (unlistedRequirements sampleTexts cutByReadme cutByReadmeDeps) "FR-002".toList := by
  have letters : cutByReadme = List.flatten _ := DocText.ofParts_letters [_, _]
  rw [letters]
  decide

set_option maxRecDepth 4000 in
theorem cutByReadme_sections :
    (∃ line ∈ sectionLines cutByReadme.strip matrixHeading, line.strip ≠ []) ∧
    ∃ line ∈ sectionLines cutByReadme.strip filesHeading, line.strip ≠ [] := by
  have letters : cutByReadme = List.flatten _ := DocText.ofParts_letters [_, _]
  rw [letters]
  decide

theorem cutByReadme_reported :
    (∃ issue ∈ mappingFindings sampleTexts cutByReadme cutByReadmeDeps,
      issue.code = "harness_matrix_missing_test" ∧ "test_login".toList ∈ issue.names) ∧
    (∃ issue ∈ mappingFindings sampleTexts cutByReadme cutByReadmeDeps,
      issue.code = "harness_requirement_not_test_mapped" ∧ "FR-002".toList ∈ issue.names) ∧
    ¬OnlyAbsent sampleTexts cutByReadme cutByReadmeDeps := by
  obtain ⟨unlisted, early, body⟩ := cutByReadme_unlisted
  obtain ⟨untested, first⟩ := cutByReadme_untested
  have missing : ∃ issue ∈ mappingFindings sampleTexts cutByReadme cutByReadmeDeps,
      issue.code = "harness_matrix_missing_test" ∧ "test_login".toList ∈ issue.names :=
    (missing_names Integrations.sampleTexts_standard).mpr ⟨unlisted, early⟩
  refine ⟨missing, (untested_names Integrations.sampleTexts_standard (by decide)).mpr ⟨?_, untested, first⟩,
    fun absent => ?_⟩
  · exact cutByReadme_sections
  · obtain ⟨issue, member, code, named⟩ := missing
    exact absent.tests issue member code _ named _ body (by decide)

end Thought2Build.Pipeline
