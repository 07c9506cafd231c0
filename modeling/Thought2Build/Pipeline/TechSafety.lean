import Thought2Build.Integrations.TaskReaders
import Thought2Build.Library.Readings
import Thought2Build.Pipeline.TechSafetyCore

/-!
What the technology gate drops. Of the findings with one key the first is kept, whatever its severity, and the answer to
the advisories is paired with the packages by position; the evidence that blocks survives if and only if neither
matters.
-/

namespace Thought2Build.Pipeline

open FirstWins Readings DocText
open Integrations (Texts sampleTexts)

/-- A call of `analyze_technology_safety` -/
structure TechCheck where
  runtime : TechRuntime
  policy : TechPolicy
  today : Int
  lookups : Option TechLookups
  stageType : StageType
  artifactMd : DocText

namespace TechCheck

variable (check : TechCheck)

def findings : Option (List TechSafetyFinding) :=
  analyzeTechnologySafety check.runtime check.policy check.today check.lookups check.stageType check.artifactMd

def own : List TechSafetyFinding :=
  analyzeLocalTechnologySafety check.runtime check.policy check.today check.stageType check.artifactMd

def choices : List TechnologyChoice := selectedChoices check.runtime check.policy check.artifactMd check.stageType

def pinned : List TechnologyChoice := pinnedChoices check.runtime check.policy check.stageType check.artifactMd

def packages : List TechnologyChoice := (packageRequests check.runtime check.policy check.pinned).map (·.1)

def answer : Option LookupObject :=
  check.lookups.bind fun lookups =>
    if check.packages = [] then none else advisoryAnswer check.runtime check.policy lookups check.pinned

def answering (other : LookupObject) : TechCheck :=
  { check with lookups := check.lookups.map fun lookups => { lookups with cachedAdvisories := fun _ => some other } }

def early : List TechSafetyFinding :=
  check.own ++ check.lookups.toList.flatMap fun lookups =>
    lifecycleFindings check.runtime check.policy check.today lookups check.choices

def blocks (finding : TechSafetyFinding) : Bool := isBlockingFinding check.runtime check.policy finding

def about (choice : TechnologyChoice) (finding : TechSafetyFinding) : Bool :=
  check.runtime.lower finding.technology = check.runtime.lower choice.choice && finding.version = choice.version

def blocked (findings : List TechSafetyFinding) (choice : TechnologyChoice) : Bool :=
  findings.any fun finding => check.blocks finding && check.about choice finding

def samePackage (choice other : TechnologyChoice) : Bool :=
  check.runtime.lower other.choice = check.runtime.lower choice.choice && other.version = choice.version

def isUnverified (finding : TechSafetyFinding) : Bool :=
  finding.code = "technology_safety_unverified".toList && finding.source = "osv".toList

def severity (vuln : LookupValue) : Option DocText := vuln.object.bind (osvSeverity check.runtime)

def ListsCritical (answer : LookupObject) (choice : TechnologyChoice) : Prop :=
  ∃ results, resultsOf answer = some results ∧ ∃ asked ∈ check.packages.zip results,
    check.samePackage choice asked.1 = true ∧
      ∃ vulns, vulnsOf asked.2 = some vulns ∧ ∃ vuln ∈ vulns, check.severity vuln = some "critical".toList

def Reordered (answer other : LookupObject) : Prop :=
  ∃ results others, resultsOf answer = some results ∧ resultsOf other = some others ∧
    List.Forall₂ (fun result other => Option.Rel List.Perm (vulnsOf result) (vulnsOf other)) results others

structure Kept (findings : List TechSafetyFinding) : Prop where
  own : ∀ finding ∈ check.own, check.blocks finding = true → finding ∈ findings
  critical : ∀ answer ∈ check.answer, ∀ choice, check.ListsCritical answer choice → check.blocked findings choice = true
  uncovered : ∀ answer ∈ check.answer, ∀ results ∈ resultsOf answer, ∀ choice ∈ check.packages.drop results.length,
    ∃ finding ∈ findings, isUnverified finding = true
  unanswered : check.answer = none → check.packages ≠ [] → ∃ finding ∈ findings, isUnverified finding = true
  order : ∀ answer ∈ check.answer, ∀ other, Reordered answer other →
    ∃ others, (check.answering other).findings = some others ∧
      ∀ choice, check.blocked others choice = check.blocked findings choice

def firstOf (choice : TechnologyChoice) (asked : List (TechnologyChoice × LookupValue)) : Option (List LookupValue) :=
  asked.findSome? fun asked =>
    if check.samePackage choice asked.1 then (vulnsOf asked.2).filter (· ≠ []) else none

def firstListed (answer : LookupObject) (choice : TechnologyChoice) : Option (List LookupValue) :=
  (resultsOf answer).bind fun results => check.firstOf choice (check.packages.zip results)

/-- The findings with one key agree as far as they block, and the answer can be read and reaches to the last package. -/
structure Careful : Prop where
  own : ∀ finding ∈ check.own, check.blocks finding = true →
    check.own.find? (fun other => findingKey check.runtime other = findingKey check.runtime finding) = some finding
  readable : ∀ answer ∈ check.answer, (answerFindings check.runtime check.packages answer).isSome = true
  covered : ∀ answer ∈ check.answer, ∀ results ∈ resultsOf answer, check.packages.length ≤ results.length
  critical : ∀ answer ∈ check.answer, ∀ choice, check.ListsCritical answer choice →
    check.blocked check.early choice = true ∨
      "vulnerable_dependency".toList ∈ check.policy.hardDenylists.map DenylistEntry.findingCode ∨
      ∀ vulns ∈ check.firstListed answer choice, ∀ vuln ∈ vulns, check.severity vuln = some "critical".toList

/-! The findings that do not come from the advisories -/

variable {check} {finding : TechSafetyFinding} {choice : TechnologyChoice}

def denied (check : TechCheck) : List DocText := check.policy.hardDenylists.map DenylistEntry.findingCode

def Apart (check : TechCheck) (finding : TechSafetyFinding) : Prop :=
  finding.source ≠ "osv".toList ∧ (finding.code ∈ check.denied ∨ finding.code ≠ "vulnerable_dependency".toList)

section

attribute [local simp] findings own early answer blocks about blocked samePackage firstOf firstListed
  packageFindings answerFindings isBlockingFinding hardDenylistFindings advisoryFindings

end

theorem apart_denylist {text source : DocText} (elsewhere : source ≠ "osv".toList)
    (member : finding ∈ hardDenylistFindings check.runtime check.policy text source) : check.Apart finding := by
  obtain ⟨entry, listed, found⟩ := List.mem_flatMap.mp member
  split at found
  · simp at found
  · obtain ⟨place, _, rfl⟩ := List.mem_map.mp found
    exact ⟨elsewhere, .inl (List.mem_map_of_mem listed)⟩

theorem apart_choiceFinding {code severity remediation : String} {source evidence : DocText}
    (elsewhere : source ≠ "osv".toList) (other : code.toList ≠ "vulnerable_dependency".toList) :
    check.Apart (choiceFinding choice code severity source evidence remediation) :=
  ⟨elsewhere, .inr other⟩

theorem apart_freshness (member : finding ∈ freshnessFindings check.runtime check.policy check.today) :
    check.Apart finding := by
  have elsewhere : "local_policy".toList ≠ "osv".toList := by simp
  have unverified : "technology_policy_unverified".toList ≠ "vulnerable_dependency".toList := by simp
  have stale : "technology_policy_stale".toList ≠ "vulnerable_dependency".toList := by simp
  rw [freshnessFindings] at member
  split at member
  · obtain rfl := List.mem_singleton.mp member
    exact ⟨elsewhere, .inr unverified⟩
  · split at member
    · obtain rfl := List.mem_singleton.mp member
      exact ⟨elsewhere, .inr stale⟩
    · simp at member

theorem colon_row {runtime : TechRuntime} {heading row : DocText} {headers : List DocText}
    (read : rowChoice runtime heading headers row = some choice) : ':' ∈ choice.source := by
  rw [rowChoice] at read
  dsimp only at read
  split at read
  · simp at read
  · split at read
    · simp at read
    · obtain rfl := Option.some.inj read
      exact List.mem_append_right _ List.mem_cons_self

theorem colon_stack {runtime : TechRuntime} {text : DocText} (member : choice ∈ parseTechnologyStack runtime text) :
    ':' ∈ choice.source := by
  rw [parseTechnologyStack] at member
  dsimp only at member
  split at member
  · simp at member
  · split at member
    · simp at member
    · obtain ⟨row, _, read⟩ := List.mem_filterMap.mp member
      exact colon_row read

theorem colon_package {runtime : TechRuntime} {policy : TechPolicy} {text : DocText}
    (member : choice ∈ packageCandidates runtime policy text) : ':' ∈ choice.source := by
  obtain ⟨place, _, read⟩ := List.mem_filterMap.mp member
  split at read
  · obtain ⟨ecosystem, _, rfl⟩ := Option.map_eq_some_iff.mp read
    exact List.mem_append_right _ List.mem_cons_self
  · simp at read

theorem colon_source (member : choice ∈ check.choices) : ':' ∈ choice.source := by
  cases stage : check.stageType with
  | spec =>
      rw [choices, stage] at member
      exact absurd member List.not_mem_nil
  | plan =>
      rw [choices, stage] at member
      exact colon_stack member
  | harness | tasks =>
      rw [choices, stage] at member
      exact colon_package member

theorem apart_choice (selected : choice ∈ check.choices)
    (member : finding ∈ findingsOfChoice check.runtime check.policy check.today choice) : check.Apart finding := by
  have elsewhere : choice.source ≠ "osv".toList := by
    intro same
    have colon := colon_source selected
    rw [same] at colon
    revert colon
    simp
  rw [findingsOfChoice] at member
  rcases List.mem_append.mp member with member | dated
  · rcases List.mem_append.mp member with listed | status
    · exact apart_denylist elsewhere listed
    · split at status
      · obtain rfl := List.mem_singleton.mp status
        exact apart_choiceFinding elsewhere (by simp)
      · simp at status
  · split at dated
    · simp at dated
    · split at dated
      · obtain rfl := List.mem_singleton.mp dated
        exact apart_choiceFinding elsewhere (by simp)
      · split at dated
        · obtain rfl := List.mem_singleton.mp dated
          exact apart_choiceFinding elsewhere (by simp)
        · simp at dated

theorem apart_release {release : LookupObject}
    (member : finding ∈ findingsFromEolRelease check.runtime check.policy check.today choice release) :
    check.Apart finding := by
  have elsewhere : "endoflife.date".toList ≠ "osv".toList := by simp
  rw [findingsFromEolRelease] at member
  dsimp only at member
  split at member
  · obtain rfl := List.mem_singleton.mp member
    exact apart_choiceFinding elsewhere (by simp)
  · split at member
    · obtain rfl := List.mem_singleton.mp member
      exact apart_choiceFinding elsewhere (by simp)
    · split at member
      · split at member
        · obtain rfl := List.mem_singleton.mp member
          exact apart_choiceFinding elsewhere (by simp)
        · simp at member
      · split at member
        · obtain rfl := List.mem_singleton.mp member
          exact apart_choiceFinding elsewhere (by simp)
        · simp at member

theorem apart_lifecycle {lookups : TechLookups}
    (member : finding ∈ lifecycleFindingsOf check.runtime check.policy check.today lookups choice) :
    check.Apart finding := by
  rw [lifecycleFindingsOf] at member
  split at member
  · dsimp only at member
    split at member
    · obtain rfl := List.mem_singleton.mp member
      exact apart_choiceFinding (by simp) (by simp)
    · exact apart_release member
  · simp at member

theorem apart_early (member : finding ∈ check.early) : check.Apart finding := by
  rcases List.mem_append.mp member with own | released
  · rcases List.mem_append.mp own with own | selected
    · rcases List.mem_append.mp own with fresh | listed
      · exact apart_freshness fresh
      · refine apart_denylist ?_ listed
        cases check.stageType <;> decide
    · obtain ⟨choice, selected, found⟩ := List.mem_flatMap.mp selected
      exact apart_choice selected found
  · obtain ⟨lookups, _, released⟩ := List.mem_flatMap.mp released
    obtain ⟨choice, _, found⟩ := List.mem_flatMap.mp released
    exact apart_lifecycle found

theorem blocks_of_code {other : TechSafetyFinding} (apart : check.Apart finding) (blocks : check.blocks finding = true)
    (same : other.code = finding.code) : check.blocks other = true := by
  rw [TechCheck.blocks, isBlockingFinding, Bool.or_eq_true, Bool.or_eq_true] at blocks ⊢
  rw [same]
  rcases blocks with early | advisory
  · exact .inl early
  · rw [Bool.and_eq_true, decide_eq_true_eq] at advisory
    rcases apart.2 with denied | other
    · exact .inl (.inl (decide_eq_true denied))
    · exact absurd advisory.1 other

def advisoryKey (check : TechCheck) (choice : TechnologyChoice) : DocText × DocText × Option DocText × DocText :=
  ("vulnerable_dependency".toList, check.runtime.lower choice.choice, choice.version, "osv".toList)

def severities : List DocText := ["critical".toList, "high".toList, "medium".toList, "low".toList, "unknown".toList]

theorem scoredSeverity_mem {runtime : TechRuntime} {entries : List LookupValue} {severity : DocText}
    (scored : scoredSeverity runtime entries = some (some severity)) : severity ∈ severities := by
  induction entries with
  | nil => simp [scoredSeverity] at scored
  | cons entry rest ih =>
      rw [scoredSeverity] at scored
      obtain ⟨object, _, scored⟩ := Option.bind_eq_some_iff.mp scored
      dsimp only at scored
      split at scored
      · split at scored
        · rename_i digits _
          obtain rfl := Option.some.inj (Option.some.inj scored)
          rw [cvssSeverity]
          split_ifs <;> simp [severities]
        · exact ih scored
      · exact ih scored

example : cvssSeverity "9.0".toList = "critical".toList := by decide

theorem osvSeverity_mem {runtime : TechRuntime} {vuln : LookupObject} {severity : DocText}
    (read : osvSeverity runtime vuln = some severity) : severity ∈ severities := by
  rw [osvSeverity] at read
  obtain ⟨entries, _, read⟩ := Option.bind_eq_some_iff.mp read
  obtain ⟨scored, first, read⟩ := Option.bind_eq_some_iff.mp read
  split at read
  · obtain rfl := Option.some.inj read
    exact scoredSeverity_mem first
  · obtain ⟨specific, _, read⟩ := Option.bind_eq_some_iff.mp read
    dsimp only at read
    obtain rfl := Option.some.inj read
    split
    · rename_i named
      exact List.mem_append_left ["unknown".toList] named
    · simp [severities]

theorem lower_severity {severity : DocText} (member : severity ∈ severities) :
    check.runtime.lower severity = severity := by
  refine check.runtime.lower_plain severity ?_
  revert severity
  decide

theorem advisoryFinding_spec {vuln : LookupValue} (found : advisoryFinding check.runtime choice vuln = some finding) :
    check.severity vuln = some finding.severity ∧ findingKey check.runtime finding = check.advisoryKey choice ∧
      finding.version = choice.version ∧ finding.technology = choice.choice := by
  obtain ⟨entries, object, found⟩ := Option.bind_eq_some_iff.mp found
  obtain ⟨severity, read, found⟩ := Option.bind_eq_some_iff.mp found
  obtain rfl := Option.some.inj found
  refine ⟨?_, rfl, rfl, rfl⟩
  rw [TechCheck.severity, object]
  exact read

theorem blocks_advisory {vuln : LookupValue} (found : advisoryFinding check.runtime choice vuln = some finding) :
    check.blocks finding = true ↔
      "vulnerable_dependency".toList ∈ check.denied ∨ finding.severity = "critical".toList := by
  obtain ⟨read, key, _, _⟩ := advisoryFinding_spec found
  obtain ⟨entries, _, read⟩ := Option.bind_eq_some_iff.mp read
  have code : finding.code = "vulnerable_dependency".toList := (Prod.mk.inj key).1
  have supported : "vulnerable_dependency".toList ∉ ["technology_eol".toList, "support_status_blocked".toList] := by
    simp
  rw [TechCheck.blocks, isBlockingFinding, code, lower_severity (osvSeverity_mem read)]
  simp only [supported, decide_false, Bool.or_false, decide_true, Bool.true_and, Bool.or_eq_true, decide_eq_true_eq]
  rfl

def advisories (check : TechCheck) : Option (List TechSafetyFinding) :=
  match check.lookups with
  | none => some (if check.pinned = [] then [] else [unverifiedFinding "advisory lookup"
      "No Redis cache was available for bounded advisory lookup"
      "Run validation with Redis-backed advisory caching."])
  | some lookups => advisoryFindings check.runtime check.policy lookups check.pinned

theorem findings_eq : check.findings =
    check.advisories.map fun advisories => dedupeFindings check.runtime (check.early ++ advisories) := by
  rw [findings, analyzeTechnologySafety, advisories, early]
  cases check.lookups with
  | none =>
      rw [Option.toList_none, List.flatMap_nil, List.append_nil]
      rfl
  | some lookups =>
      rw [Option.toList_some, List.flatMap_singleton, lookedUpFindings]
      dsimp only [pinned]
      cases advisoryFindings check.runtime check.policy lookups
          (pinnedChoices check.runtime check.policy check.stageType check.artifactMd) with
      | none => rfl
      | some added =>
          exact congrArg (some <| dedupeFindings check.runtime ·) (List.append_assoc ..).symm

theorem mem_dedupe {findings : List TechSafetyFinding} : finding ∈ dedupeFindings check.runtime findings ↔
    findings.find? (fun other => findingKey check.runtime other = findingKey check.runtime finding) = some finding := by
  have first := @mem_firstWins _ _ _ (fun other => some (findingKey check.runtime other)) findings finding _ rfl
  simp only [Option.some.injEq] at first
  exact first

theorem advisories_answered {answer : LookupObject} (answered : check.answer = some answer) :
    check.advisories = answerFindings check.runtime check.packages answer := by
  obtain ⟨lookups, there, answered⟩ := Option.bind_eq_some_iff.mp answered
  split at answered
  · simp at answered
  · rename_i filled
    rw [advisories, there]
    dsimp only
    rw [advisoryFindings, answered, if_neg (by simpa [packages] using filled), packages]

theorem advisories_unanswered (unanswered : check.answer = none) : ∃ added, check.advisories = some added ∧
    (check.packages ≠ [] → ∃ finding ∈ added, isUnverified finding = true) := by
  have marked : ∀ technology evidence remediation,
      isUnverified (unverifiedFinding technology evidence remediation) = true := by
    exact fun _ _ _ => Bool.and_eq_true_iff.mpr ⟨decide_eq_true rfl, decide_eq_true rfl⟩
  rw [advisories]
  cases there : check.lookups with
  | none =>
      refine ⟨_, rfl, fun filled => ?_⟩
      rw [if_neg fun empty => filled (by rw [packages, empty]; rfl)]
      exact ⟨_, List.mem_singleton_self _, marked ..⟩
  | some lookups =>
      rw [answer, there, Option.bind_some] at unanswered
      dsimp only
      rw [advisoryFindings]
      split
      · rename_i empty
        exact ⟨[], rfl, fun filled => absurd (by rw [packages, empty]; rfl) filled⟩
      · rename_i filled
        rw [if_neg (by simpa [packages] using filled)] at unanswered
        rw [unanswered]
        exact ⟨_, rfl, fun _ => ⟨_, List.mem_singleton_self _, marked ..⟩⟩

section

variable {answer : LookupObject} {results : List LookupValue} {asked : List (TechnologyChoice × LookupValue)}
  {parts : List (List TechSafetyFinding)} {added : List TechSafetyFinding}

theorem mem_packageFindings {pair : TechnologyChoice × LookupValue} {part : List TechSafetyFinding}
    (read : packageFindings check.runtime pair = some part) (member : finding ∈ part) :
    ∃ vuln, advisoryFinding check.runtime pair.1 vuln = some finding := by
  obtain ⟨vulns, _, read⟩ := Option.bind_eq_some_iff.mp read
  obtain ⟨vuln, _, found⟩ := mem_results read finding member
  exact ⟨vuln, found⟩

theorem answerFindings_eq_some : answerFindings check.runtime check.packages answer = some added ↔
    ∃ results, resultsOf answer = some results ∧ ∃ parts,
      (check.packages.zip results).mapM (packageFindings check.runtime) = some parts ∧ parts.flatten = added := by
  rw [answerFindings]
  constructor
  · intro read
    obtain ⟨results, there, read⟩ := Option.bind_eq_some_iff.mp read
    obtain ⟨parts, mapped, read⟩ := Option.bind_eq_some_iff.mp read
    exact ⟨results, there, parts, mapped, Option.some.inj read⟩
  · rintro ⟨results, there, parts, mapped, rfl⟩
    exact Option.bind_eq_some_iff.mpr ⟨results, there, Option.bind_eq_some_iff.mpr ⟨parts, mapped, rfl⟩⟩

theorem mem_answerFindings (read : answerFindings check.runtime check.packages answer = some added)
    (member : finding ∈ added) :
    ∃ choice vuln, advisoryFinding check.runtime choice vuln = some finding := by
  obtain ⟨results, _, parts, mapped, rfl⟩ := answerFindings_eq_some.mp read
  obtain ⟨part, within, member⟩ := List.mem_flatten.mp member
  obtain ⟨pair, _, read⟩ := mem_results mapped part within
  obtain ⟨vuln, found⟩ := mem_packageFindings read member
  exact ⟨pair.1, vuln, found⟩

def firstSeverity (check : TechCheck) (choice : TechnologyChoice) (asked : List (TechnologyChoice × LookupValue)) :
    Option DocText :=
  (check.firstOf choice asked).bind fun vulns => vulns.head?.bind check.severity

theorem samePackage_iff {other : TechnologyChoice} : check.samePackage choice other = true ↔
    check.runtime.lower other.choice = check.runtime.lower choice.choice ∧ other.version = choice.version := by
  rw [samePackage, Bool.and_eq_true, decide_eq_true_eq, decide_eq_true_eq]

theorem advisoryKey_eq_iff {other : TechnologyChoice} :
    check.advisoryKey other = check.advisoryKey choice ↔ check.samePackage choice other = true := by
  rw [samePackage_iff]
  constructor
  · intro same
    obtain ⟨_, same⟩ := Prod.mk.inj same
    obtain ⟨lowered, same⟩ := Prod.mk.inj same
    exact ⟨lowered, (Prod.mk.inj same).1⟩
  · exact fun same => Prod.ext rfl (Prod.ext same.1 (Prod.ext same.2 rfl))

theorem find_advisory
    (read : List.Forall₂ (fun pair part => packageFindings check.runtime pair = some part) asked parts) :
    (parts.flatten.find? fun finding => findingKey check.runtime finding = check.advisoryKey choice).map (·.severity) =
      check.firstSeverity choice asked := by
  induction read with
  | nil => rfl
  | @cons pair part asked parts here _ ih =>
      obtain ⟨vulns, listed, mapped⟩ := Option.bind_eq_some_iff.mp here
      rw [List.flatten_cons, List.find?_append, firstSeverity, firstOf, List.findSome?_cons, listed]
      by_cases same : check.samePackage choice pair.1 = true
      · rw [if_pos same]
        cases vulns with
        | nil =>
            obtain rfl : [] = part := Option.some.inj mapped
            exact ih
        | cons vuln rest =>
            rw [List.mapM_cons] at mapped
            obtain ⟨first, found, mapped⟩ := Option.bind_eq_some_iff.mp mapped
            obtain ⟨others, _, mapped⟩ := Option.bind_eq_some_iff.mp mapped
            obtain rfl := Option.some.inj mapped
            obtain ⟨read, key, _, _⟩ := advisoryFinding_spec found
            have matches' : decide (findingKey check.runtime first = check.advisoryKey choice) = true :=
              decide_eq_true (key.trans (advisoryKey_eq_iff.mpr same))
            rw [List.find?_cons, matches']
            exact read.symm
      · have none : part.find? (fun finding => findingKey check.runtime finding = check.advisoryKey choice) = none := by
          refine List.find?_eq_none.mpr fun finding member equal => same (advisoryKey_eq_iff.mp ?_)
          obtain ⟨vuln, found⟩ := mem_packageFindings here member
          exact (advisoryFinding_spec found).2.1.symm.trans (of_decide_eq_true equal)
        rw [if_neg same, none, Option.none_or]
        exact ih

theorem blocked_eq_true {findings : List TechSafetyFinding} : check.blocked findings choice = true ↔
    ∃ finding ∈ findings, check.blocks finding = true ∧ check.about choice finding = true := by
  simp only [blocked, List.any_eq_true, Bool.and_eq_true]

theorem about_iff : check.about choice finding = true ↔
    check.runtime.lower finding.technology = check.runtime.lower choice.choice ∧ finding.version = choice.version := by
  rw [about, Bool.and_eq_true, decide_eq_true_eq, decide_eq_true_eq]

theorem find_early : (check.early.find? fun finding => findingKey check.runtime finding = check.advisoryKey choice) =
    none := by
  refine List.find?_eq_none.mpr fun finding member equal => (apart_early member).1 ?_
  exact congrArg (·.2.2.2) (of_decide_eq_true equal)

theorem key_stays {findings : List TechSafetyFinding} (member : finding ∈ findings) :
    ∃ kept ∈ dedupeFindings check.runtime findings,
      findingKey check.runtime kept = findingKey check.runtime finding := by
  have some : (findings.find? fun other =>
      findingKey check.runtime other = findingKey check.runtime finding).isSome = true :=
    List.find?_isSome.mpr ⟨finding, member, decide_eq_true rfl⟩
  obtain ⟨first, found⟩ := Option.isSome_iff_exists.mp some
  have hit := List.find?_some found
  have same : findingKey check.runtime first = findingKey check.runtime finding := of_decide_eq_true hit
  exact ⟨first, mem_dedupe.mpr (same ▸ found), same⟩

theorem early_stays (member : finding ∈ check.early) (blocks : check.blocks finding = true)
    (about : check.about choice finding = true) (added : List TechSafetyFinding) :
    check.blocked (dedupeFindings check.runtime (check.early ++ added)) choice = true := by
  obtain ⟨first, kept, same⟩ := @key_stays check _ _ (List.mem_append_left added member)
  obtain ⟨code, same⟩ := Prod.mk.inj same
  obtain ⟨lowered, same⟩ := Prod.mk.inj same
  obtain ⟨technology, version⟩ := about_iff.mp about
  refine blocked_eq_true.mpr ⟨first, kept, blocks_of_code (apart_early member) blocks code, ?_⟩
  exact about_iff.mpr ⟨lowered.trans technology, (Prod.mk.inj same).1.trans version⟩

theorem blocked_iff (mapped : (check.packages.zip results).mapM (packageFindings check.runtime) = some parts) :
    check.blocked (dedupeFindings check.runtime (check.early ++ parts.flatten)) choice = true ↔
      check.blocked check.early choice = true ∨
        ∃ severity, check.firstSeverity choice (check.packages.zip results) = some severity ∧
          ("vulnerable_dependency".toList ∈ check.denied ∨ severity = "critical".toList) := by
  have severities := @find_advisory check choice _ _ (mapM_eq_some_iff.mp mapped)
  have first : ((check.early ++ parts.flatten).find? fun finding =>
      findingKey check.runtime finding = check.advisoryKey choice) =
        parts.flatten.find? fun finding => findingKey check.runtime finding = check.advisoryKey choice := by
    rw [List.find?_append, find_early, Option.none_or]
  have read : ∀ finding ∈ parts.flatten, ∃ other vuln, advisoryFinding check.runtime other vuln = some finding := by
    intro finding member
    obtain ⟨part, within, member⟩ := List.mem_flatten.mp member
    obtain ⟨pair, _, listed⟩ := mem_results mapped part within
    obtain ⟨vuln, found⟩ := mem_packageFindings listed member
    exact ⟨pair.1, vuln, found⟩
  constructor
  · intro blocked
    obtain ⟨finding, kept, blocks, about⟩ := blocked_eq_true.mp blocked
    have found := mem_dedupe.mp kept
    rcases List.mem_append.mp (List.mem_of_find?_eq_some found) with early | member
    · exact .inl (blocked_eq_true.mpr ⟨finding, early, blocks, about⟩)
    · right
      obtain ⟨other, vuln, advisory⟩ := read finding member
      obtain ⟨_, key, version, technology⟩ := advisoryFinding_spec advisory
      have package := about_iff.mp about
      rw [technology, version] at package
      have same := key.trans (advisoryKey_eq_iff.mpr (samePackage_iff.mpr package))
      rw [same, first] at found
      rw [found] at severities
      exact ⟨finding.severity, severities.symm, (blocks_advisory advisory).mp blocks⟩
  · rintro (early | ⟨severity, listed, critical⟩)
    · obtain ⟨finding, member, blocks, about⟩ := blocked_eq_true.mp early
      exact early_stays member blocks about _
    · rw [listed] at severities
      obtain ⟨finding, found, rfl⟩ := Option.map_eq_some_iff.mp severities
      have hit := List.find?_some found
      have same : findingKey check.runtime finding = check.advisoryKey choice := of_decide_eq_true hit
      obtain ⟨other, vuln, advisory⟩ := read finding (List.mem_of_find?_eq_some found)
      obtain ⟨_, key, version, technology⟩ := advisoryFinding_spec advisory
      have package := samePackage_iff.mp (advisoryKey_eq_iff.mp (key.symm.trans same))
      refine blocked_eq_true.mpr ⟨finding, mem_dedupe.mpr (by rw [same, first]; exact found), ?_, ?_⟩
      · exact (blocks_advisory advisory).mpr critical
      · exact about_iff.mpr ⟨technology ▸ package.1, version.trans package.2⟩

end

section

variable {answer other : LookupObject} {results others : List LookupValue} {vulns : List LookupValue}
  {packages : List TechnologyChoice} {asked : List (TechnologyChoice × LookupValue)}

theorem firstOf_cons (pair : TechnologyChoice × LookupValue) (asked : List (TechnologyChoice × LookupValue)) :
    check.firstOf choice (pair :: asked) =
      ((if check.samePackage choice pair.1 then (vulnsOf pair.2).filter (· ≠ []) else none).or
        (check.firstOf choice asked)) := by
  rw [firstOf, List.findSome?_cons]
  cases if check.samePackage choice pair.1 then (vulnsOf pair.2).filter (· ≠ []) else none <;> rfl

theorem firstOf_reordered
    (same : List.Forall₂ (fun result other => Option.Rel List.Perm (vulnsOf result) (vulnsOf other)) results others) :
    Option.Rel List.Perm (check.firstOf choice (packages.zip results))
      (check.firstOf choice (packages.zip others)) := by
  induction same generalizing packages with
  | nil =>
      rw [List.zip_nil_right]
      exact .none
  | @cons result other results others here _ ih =>
      cases packages with
      | nil => exact .none
      | cons package packages =>
          rw [List.zip_cons_cons, List.zip_cons_cons, firstOf_cons, firstOf_cons]
          by_cases package' : check.samePackage choice package = true
          · rw [if_pos package', if_pos package']
            rcases rel_cases here with ⟨first, second⟩ | ⟨vulns, reordered, first, second, same⟩
            · rw [first, second]
              exact ih
            · rw [first, second]
              by_cases empty : vulns = []
              · subst empty
                obtain rfl := same.symm.eq_nil
                exact ih
              · have filled : reordered ≠ [] := fun empty' => empty (empty' ▸ same).eq_nil
                rw [Option.filter_some_pos (by simpa using empty), Option.filter_some_pos (by simpa using filled)]
                exact .some same
          · rw [if_neg package', if_neg package']
            exact ih

theorem packageFindings_reordered {result other : LookupValue}
    (same : Option.Rel List.Perm (vulnsOf result) (vulnsOf other)) :
    (packageFindings check.runtime (choice, result)).isSome =
      (packageFindings check.runtime (choice, other)).isSome := by
  rw [packageFindings, packageFindings]
  dsimp only
  rcases rel_cases same with ⟨first, second⟩ | ⟨vulns, reordered, first, second, same⟩
  · rw [first, second]
  · rw [first, second]
    exact isSome_of_perm same

theorem reads_reordered
    (same : List.Forall₂ (fun result other => Option.Rel List.Perm (vulnsOf result) (vulnsOf other)) results others)
    (read : ((packages.zip results).mapM (packageFindings check.runtime)).isSome = true) :
    ((packages.zip others).mapM (packageFindings check.runtime)).isSome = true := by
  rw [isSome_mapM] at read ⊢
  induction same generalizing packages with
  | nil =>
      rw [List.zip_nil_right]
      exact fun _ member => absurd member List.not_mem_nil
  | cons here _ ih =>
      cases packages with
      | nil => exact fun _ member => absurd member List.not_mem_nil
      | cons package packages =>
          rw [List.zip_cons_cons, List.forall_mem_cons] at read ⊢
          exact ⟨(packageFindings_reordered here).symm.trans read.1, ih read.2⟩

theorem mem_firstOf (first : check.firstOf choice asked = some vulns) :
    ∃ pair ∈ asked, check.samePackage choice pair.1 = true ∧ vulnsOf pair.2 = some vulns ∧ vulns ≠ [] := by
  obtain ⟨pair, member, found⟩ := List.exists_of_findSome?_eq_some first
  split at found
  · rename_i same
    obtain ⟨listed, filled⟩ := Option.filter_eq_some_iff.mp found
    exact ⟨pair, member, same, listed, of_decide_eq_true filled⟩
  · simp at found

theorem severity_of_read {vuln : LookupValue}
    (read : (asked.mapM (packageFindings check.runtime)).isSome = true)
    (first : check.firstOf choice asked = some vulns) (member : vuln ∈ vulns) :
    ∃ severity, check.severity vuln = some severity := by
  obtain ⟨pair, within, _, listed, _⟩ := mem_firstOf first
  have here := isSome_mapM.mp read pair within
  rw [packageFindings, listed] at here
  have found := isSome_mapM.mp here vuln member
  obtain ⟨finding, found⟩ := Option.isSome_iff_exists.mp found
  exact ⟨finding.severity, (advisoryFinding_spec found).1⟩

theorem answering_answer (answered : check.answer = some answer) : (check.answering other).answer = some other := by
  obtain ⟨lookups, there, answered⟩ := Option.bind_eq_some_iff.mp answered
  split at answered
  · simp at answered
  · rename_i filled
    have same : (check.answering other).lookups =
        some { lookups with cachedAdvisories := fun _ => some other } := by
      rw [answering, there, Option.map_some]
    rw [TechCheck.answer, same, Option.bind_some]
    exact if_neg filled

theorem answering_early : (check.answering other).early = check.early := by
  rw [early, early, answering]
  cases check.lookups <;> rfl

theorem findings_answered (answered : check.answer = some answer) {findings : List TechSafetyFinding} :
    check.findings = some findings ↔ ∃ results, resultsOf answer = some results ∧ ∃ parts,
      (check.packages.zip results).mapM (packageFindings check.runtime) = some parts ∧
        dedupeFindings check.runtime (check.early ++ parts.flatten) = findings := by
  rw [findings_eq, advisories_answered answered, Option.map_eq_some_iff]
  simp only [answerFindings_eq_some]
  constructor
  · rintro ⟨added, ⟨results, there, parts, mapped, rfl⟩, whole⟩
    exact ⟨results, there, parts, mapped, whole⟩
  · rintro ⟨results, there, parts, mapped, whole⟩
    exact ⟨parts.flatten, ⟨results, there, parts, mapped, rfl⟩, whole⟩

theorem firstSeverity_listed {asked others : List (TechnologyChoice × LookupValue)}
    (read' : (others.mapM (packageFindings check.runtime)).isSome = true)
    (read : (asked.mapM (packageFindings check.runtime)).isSome = true)
    (order : Option.Rel List.Perm (check.firstOf choice asked) (check.firstOf choice others)) :
    (∃ severity, check.firstSeverity choice others = some severity) ↔
      ∃ severity, check.firstSeverity choice asked = some severity := by
  have listed : ∀ {asked : List (TechnologyChoice × LookupValue)},
      (asked.mapM (packageFindings check.runtime)).isSome = true →
        ((∃ severity, check.firstSeverity choice asked = some severity) ↔
          (check.firstOf choice asked).isSome = true) := by
    intro asked read
    rw [firstSeverity]
    cases first : check.firstOf choice asked with
    | none => simp
    | some vulns =>
        obtain ⟨_, _, _, _, filled⟩ := mem_firstOf first
        obtain ⟨vuln, rest, rfl⟩ := List.exists_cons_of_ne_nil filled
        exact iff_of_true (severity_of_read read first List.mem_cons_self) rfl
  rw [listed read', listed read]
  rcases rel_cases order with ⟨first, second⟩ | ⟨vulns, reordered, first, second, _⟩
  · rw [first, second]
  · rw [first, second]
    exact iff_of_true rfl rfl

theorem firstSeverity_reordered
    (same : List.Forall₂ (fun result other => Option.Rel List.Perm (vulnsOf result) (vulnsOf other)) results others)
    (alike : ∀ vulns, check.firstOf choice (packages.zip results) = some vulns →
      (∃ vuln ∈ vulns, check.severity vuln = some "critical".toList) →
        ∀ vuln ∈ vulns, check.severity vuln = some "critical".toList) :
    check.firstSeverity choice (packages.zip others) = some "critical".toList ↔
      check.firstSeverity choice (packages.zip results) = some "critical".toList := by
  have order := @firstOf_reordered check choice _ _ packages same
  rw [firstSeverity, firstSeverity]
  rcases rel_cases order with ⟨first, second⟩ | ⟨vulns, reordered, first, second, order⟩
  · rw [first, second]
  · rw [first, second]
    obtain ⟨_, _, _, _, filled⟩ := mem_firstOf first
    have filled' : reordered ≠ [] := fun empty => filled (empty ▸ order).eq_nil
    obtain ⟨vuln, rest, rfl⟩ := List.exists_cons_of_ne_nil filled
    obtain ⟨head, tail, rfl⟩ := List.exists_cons_of_ne_nil filled'
    constructor
    · intro critical
      exact alike _ first ⟨head, order.mem_iff.mpr List.mem_cons_self, critical⟩ vuln List.mem_cons_self
    · intro critical
      exact alike _ first ⟨vuln, List.mem_cons_self, critical⟩ head (order.mem_iff.mpr List.mem_cons_self)

end

section

variable {answer : LookupObject} {results : List LookupValue} {vulns : List LookupValue}
  {findings : List TechSafetyFinding}

theorem listsCritical_of_first (there : resultsOf answer = some results)
    (first : check.firstOf choice (check.packages.zip results) = some vulns)
    (critical : ∃ vuln ∈ vulns, check.severity vuln = some "critical".toList) : check.ListsCritical answer choice := by
  obtain ⟨pair, member, same, listed, _⟩ := mem_firstOf first
  exact ⟨results, there, pair, member, same, vulns, listed, critical⟩

theorem first_of_listsCritical (there : resultsOf answer = some results) (lists : check.ListsCritical answer choice) :
    ∃ vulns, check.firstOf choice (check.packages.zip results) = some vulns := by
  obtain ⟨_, there', pair, member, same, vulns, listed, vuln, within, _⟩ := lists
  obtain rfl := Option.some.inj (there.symm.trans there')
  refine Option.isSome_iff_exists.mp (List.findSome?_isSome_iff.mpr ⟨pair, member, ?_⟩)
  rw [if_pos same, listed, Option.filter_some_pos (by simpa using List.ne_nil_of_mem within)]
  rfl

theorem firstListed_eq (there : resultsOf answer = some results) :
    check.firstListed answer choice = check.firstOf choice (check.packages.zip results) := by
  rw [firstListed, there, Option.bind_some]

theorem blocked_answered (answered : check.answer = some answer) (found : check.findings = some findings)
    (there : resultsOf answer = some results) : check.blocked findings choice = true ↔
      check.blocked check.early choice = true ∨
        ∃ severity, check.firstSeverity choice (check.packages.zip results) = some severity ∧
          ("vulnerable_dependency".toList ∈ check.denied ∨ severity = "critical".toList) := by
  obtain ⟨_, there', parts, mapped, rfl⟩ := (findings_answered answered).mp found
  obtain rfl := Option.some.inj (there.symm.trans there')
  exact blocked_iff mapped

theorem mapped_of_found (answered : check.answer = some answer) (found : check.findings = some findings)
    (there : resultsOf answer = some results) :
    ((check.packages.zip results).mapM (packageFindings check.runtime)).isSome = true := by
  obtain ⟨_, there', parts, mapped, _⟩ := (findings_answered answered).mp found
  obtain rfl := Option.some.inj (there.symm.trans there')
  rw [mapped]
  rfl

theorem isUnverified_iff : isUnverified finding = true ↔
    finding.code = "technology_safety_unverified".toList ∧ finding.source = "osv".toList := by
  rw [isUnverified, Bool.and_eq_true, decide_eq_true_eq, decide_eq_true_eq]

theorem unverified_stays (member : finding ∈ findings) (unverified : isUnverified finding = true) :
    ∃ kept ∈ dedupeFindings check.runtime findings, isUnverified kept = true := by
  obtain ⟨kept, within, same⟩ := @key_stays check _ _ member
  obtain ⟨code, source⟩ := isUnverified_iff.mp unverified
  obtain ⟨code', same⟩ := Prod.mk.inj same
  exact ⟨kept, within, isUnverified_iff.mpr ⟨code'.trans code, (congrArg (·.2.2) same).trans source⟩⟩

theorem Careful.alike (careful : check.Careful) (answered : check.answer = some answer)
    (there : resultsOf answer = some results) (quiet : check.blocked check.early choice = false)
    (free : "vulnerable_dependency".toList ∉ check.denied)
    (lists : check.ListsCritical answer choice)
    (first : check.firstOf choice (check.packages.zip results) = some vulns) :
    ∀ vuln ∈ vulns, check.severity vuln = some "critical".toList := by
  rcases careful.critical answer answered choice lists with early | denied | all
  · rw [quiet] at early
    exact absurd early Bool.false_ne_true
  · exact absurd denied free
  · exact all vulns ((firstListed_eq there).trans first)

theorem Careful.found (careful : check.Careful) : ∃ findings, check.findings = some findings := by
  cases answered : check.answer with
  | none =>
      obtain ⟨added, there, _⟩ := advisories_unanswered answered
      exact ⟨_, by rw [findings_eq, there, Option.map_some]⟩
  | some answer =>
      obtain ⟨added, there⟩ := Option.isSome_iff_exists.mp (careful.readable answer answered)
      exact ⟨_, by rw [findings_eq, advisories_answered answered, there, Option.map_some]⟩

theorem Careful.critical_blocks (careful : check.Careful) (answered : check.answer = some answer)
    (found : check.findings = some findings) (lists : check.ListsCritical answer choice) :
    check.blocked findings choice = true := by
  obtain ⟨results, there, _⟩ := id lists
  rw [blocked_answered answered found there]
  obtain ⟨vulns, first⟩ := first_of_listsCritical there lists
  obtain ⟨_, _, _, _, filled⟩ := mem_firstOf first
  obtain ⟨vuln, rest, rfl⟩ := List.exists_cons_of_ne_nil filled
  obtain ⟨severity, read⟩ :=
    severity_of_read (mapped_of_found answered found there) first (List.mem_cons_self (a := vuln) (l := rest))
  have listed : check.firstSeverity choice (check.packages.zip results) = some severity := by
    rw [firstSeverity, first]
    exact read
  cases quiet : check.blocked check.early choice with
  | true => exact .inl rfl
  | false =>
      right
      by_cases free : "vulnerable_dependency".toList ∈ check.denied
      · exact ⟨severity, listed, .inl free⟩
      · have critical := careful.alike answered there quiet free lists first vuln List.mem_cons_self
        exact ⟨severity, listed, .inr (Option.some.inj (read.symm.trans critical))⟩

theorem Careful.order (careful : check.Careful) (answered : check.answer = some answer)
    (found : check.findings = some findings) {other : LookupObject} (reordered : Reordered answer other) :
    ∃ others, (check.answering other).findings = some others ∧
      ∀ choice, check.blocked others choice = check.blocked findings choice := by
  obtain ⟨results, results', there, there', same⟩ := reordered
  have mapped := mapped_of_found answered found there
  obtain ⟨parts, mapped'⟩ := Option.isSome_iff_exists.mp (reads_reordered same mapped)
  have answered' := @answering_answer check answer other answered
  have found' : (check.answering other).findings =
      some (dedupeFindings check.runtime (check.early ++ parts.flatten)) := by
    rw [findings_answered answered']
    exact ⟨results', there', parts, mapped', by rw [answering_early]; rfl⟩
  refine ⟨_, found', fun choice => Bool.eq_iff_iff.mpr ?_⟩
  rw [blocked_answered answered found there, blocked_iff mapped']
  have order := @firstOf_reordered check choice _ _ check.packages same
  cases quiet : check.blocked check.early choice with
  | true => simp only [true_or]
  | false =>
      refine or_congr_right ?_
      by_cases free : "vulnerable_dependency".toList ∈ check.denied
      · simp only [free, true_or, and_true]
        exact firstSeverity_listed (mapped'.symm ▸ rfl) mapped order
      · simp only [free, false_or, exists_eq_right]
        refine firstSeverity_reordered same fun vulns first critical => ?_
        exact careful.alike answered there quiet free (listsCritical_of_first there first critical) first

theorem Careful.kept (careful : check.Careful) (found : check.findings = some findings) : check.Kept findings where
  own := by
    intro finding member blocks
    rw [findings_eq] at found
    obtain ⟨added, _, rfl⟩ := Option.map_eq_some_iff.mp found
    refine mem_dedupe.mpr ?_
    rw [early, List.append_assoc, List.find?_append, careful.own finding member blocks, Option.some_or]
  critical answer answered choice lists := careful.critical_blocks answered found lists
  uncovered := by
    intro answer answered results there choice member
    rw [List.drop_eq_nil_of_le (careful.covered answer answered results there)] at member
    exact absurd member List.not_mem_nil
  unanswered := by
    intro unanswered filled
    obtain ⟨added, there, marked⟩ := advisories_unanswered unanswered
    obtain ⟨finding, member, unverified⟩ := marked filled
    rw [findings_eq, there, Option.map_some] at found
    obtain rfl := Option.some.inj found
    exact unverified_stays (List.mem_append_right _ member) unverified
  order answer answered other reordered := careful.order answered found reordered

theorem mem_found (answered : check.answer = some answer) (found : check.findings = some findings)
    (member : finding ∈ findings) : finding ∈ check.early ∨
      ∃ choice vuln, advisoryFinding check.runtime choice vuln = some finding := by
  obtain ⟨results, there, parts, mapped, rfl⟩ := (findings_answered answered).mp found
  rcases List.mem_append.mp (List.mem_of_find?_eq_some (mem_dedupe.mp member)) with early | added
  · exact .inl early
  · exact .inr (mem_answerFindings (answerFindings_eq_some.mpr ⟨results, there, parts, mapped, rfl⟩) added)

theorem rel_same (result : LookupValue) : Option.Rel List.Perm (vulnsOf result) (vulnsOf result) := by
  cases vulnsOf result with
  | none => exact .none
  | some vulns => exact .some (List.Perm.refl vulns)

theorem exists_moved {shown rest before after : List LookupValue} {result vuln : LookupValue}
    (there : resultsOf answer = some (shown ++ result :: rest))
    (listed : vulnsOf result = some (before ++ vuln :: after)) : ∃ other moved, Reordered answer other ∧
      resultsOf other = some (shown ++ moved :: rest) ∧ vulnsOf moved = some (vuln :: (before ++ after)) := by
  let moved : LookupValue := .dict [("vulns".toList, .list (vuln :: (before ++ after)))]
  let other : LookupObject := [("results".toList, .list (shown ++ moved :: rest))]
  have moved' : vulnsOf moved = some (vuln :: (before ++ after)) := rfl
  have there' : resultsOf other = some (shown ++ moved :: rest) := rfl
  have here : Option.Rel List.Perm (vulnsOf result) (vulnsOf moved) := by
    rw [listed, moved']
    exact .some List.perm_middle
  have rel : List.Forall₂ (fun result other => Option.Rel List.Perm (vulnsOf result) (vulnsOf other))
      (shown ++ result :: rest) (shown ++ moved :: rest) :=
    List.rel_append (List.forall₂_same.mpr fun _ _ => rel_same _)
      (.cons here (List.forall₂_same.mpr fun _ _ => rel_same _))
  exact ⟨other, moved, ⟨_, _, there, there', rel⟩, there', moved'⟩

theorem firstOf_append {front back : List (TechnologyChoice × LookupValue)} {pair : TechnologyChoice × LookupValue}
    (passed : check.firstOf choice front = none) (same : check.samePackage choice pair.1 = true)
    (listed : vulnsOf pair.2 = some vulns) (filled : vulns ≠ []) :
    check.firstOf choice (front ++ pair :: back) = some vulns := by
  rw [firstOf, List.findSome?_append]
  have here := @firstOf_cons check choice pair back
  rw [if_pos same, listed, Option.filter_some_pos (by simpa using filled), Option.some_or] at here
  rw [firstOf] at passed here
  rw [passed, Option.none_or, here]

theorem Kept.first_critical (kept : check.Kept findings) (answered : check.answer = some answer)
    (there : resultsOf answer = some results)
    (lists : check.ListsCritical answer choice) (quiet : check.blocked check.early choice = false)
    (free : "vulnerable_dependency".toList ∉ check.denied)
    (first : check.firstOf choice (check.packages.zip results) = some vulns) {vuln : LookupValue}
    (member : vuln ∈ vulns) : check.severity vuln = some "critical".toList := by
  obtain ⟨front, ⟨package, result⟩, back, split', meets, passed⟩ := List.findSome?_eq_some_iff.mp first
  obtain ⟨packages, packages', shown, shown', even, whole, rfl, rfl, tail⟩ := List.zip_eq_append_iff.mp split'
  obtain ⟨later, rest, rfl, rfl, _⟩ := List.zip_eq_cons_iff.mp tail.symm
  split at meets
  · rename_i same
    obtain ⟨listed, _⟩ := Option.filter_eq_some_iff.mp meets
    obtain ⟨before, after, rfl⟩ := List.append_of_mem member
    obtain ⟨other, moved, reordered, there', listed'⟩ := exists_moved there listed
    obtain ⟨others, found', agree⟩ := kept.order answer answered other reordered
    have blocked := (agree choice).trans (kept.critical answer answered choice lists)
    have answered' := @answering_answer check answer other answered
    rcases (blocked_answered answered' found' there').mp blocked with early | ⟨severity, shows, critical⟩
    · rw [answering_early] at early
      exact absurd (quiet.symm.trans early) Bool.false_ne_true
    · have passed' : check.firstOf choice (packages.zip shown) = none := List.findSome?_eq_none_iff.mpr passed
      have first' : check.firstOf choice (check.packages.zip (shown ++ moved :: rest)) =
          some (vuln :: (before ++ after)) := by
        rw [whole, List.zip_append even, List.zip_cons_cons]
        exact firstOf_append passed' same listed' (List.cons_ne_nil _ _)
      have shows' : check.firstSeverity choice (check.packages.zip (shown ++ moved :: rest)) = some severity := shows
      rw [firstSeverity, first', Option.bind_some, List.head?_cons, Option.bind_some] at shows'
      rcases critical with denied | rfl
      · exact absurd denied free
      · exact shows'
  · simp at meets

theorem Kept.careful (kept : check.Kept findings) (found : check.findings = some findings) : check.Careful where
  own := by
    intro finding member blocks
    have stays := kept.own finding member blocks
    rw [findings_eq] at found
    obtain ⟨added, _, rfl⟩ := Option.map_eq_some_iff.mp found
    have first := mem_dedupe.mp stays
    have some : (check.own.find? fun other =>
        findingKey check.runtime other = findingKey check.runtime finding).isSome = true :=
      List.find?_isSome.mpr ⟨finding, member, decide_eq_true rfl⟩
    obtain ⟨other, there⟩ := Option.isSome_iff_exists.mp some
    rw [early, List.append_assoc, List.find?_append, there, Option.some_or] at first
    exact there.trans first
  readable := by
    intro answer answered
    obtain ⟨results, there, parts, mapped, _⟩ := (findings_answered answered).mp found
    exact Option.isSome_iff_exists.mpr ⟨_, answerFindings_eq_some.mpr ⟨results, there, parts, mapped, rfl⟩⟩
  covered := by
    intro answer answered results there
    by_contra short
    have filled : check.packages.drop results.length ≠ [] := by
      rw [Ne, List.drop_eq_nil_iff]
      exact short
    obtain ⟨choice, rest, tail⟩ := List.exists_cons_of_ne_nil filled
    obtain ⟨finding, member, unverified⟩ :=
      kept.uncovered answer answered results there choice (tail ▸ List.mem_cons_self)
    obtain ⟨code, source⟩ := isUnverified_iff.mp unverified
    rcases mem_found answered found member with early | ⟨other, vuln, advisory⟩
    · exact (apart_early early).1 source
    · have key := (Prod.mk.inj (advisoryFinding_spec advisory).2.1).1
      have differ : "technology_safety_unverified".toList ≠ "vulnerable_dependency".toList := by simp
      exact differ (code.symm.trans key)
  critical := by
    intro answer answered choice lists
    by_cases quiet : check.blocked check.early choice = true
    · exact .inl quiet
    · by_cases free : "vulnerable_dependency".toList ∈ check.denied
      · exact .inr (.inl free)
      · right
        right
        intro vulns first vuln member
        obtain ⟨results, there, _⟩ := id lists
        rw [firstListed_eq there] at first
        exact kept.first_critical answered there lists (Bool.eq_false_iff.mpr quiet) free first member

end

/-- The gate drops no evidence that blocks if and only if, of the findings with one key, those that are dropped do not
matter, and the answer can be read and reaches to the last package. -/
theorem evidence_kept_iff (check : TechCheck) :
    (∃ findings, check.findings = some findings ∧ check.Kept findings) ↔ check.Careful := by
  constructor
  · rintro ⟨findings, found, kept⟩
    exact kept.careful found
  · intro careful
    obtain ⟨findings, found⟩ := careful.found
    exact ⟨findings, found, careful.kept found⟩

theorem dispatch_own (member : finding ∈ check.own) :
    let dispatched := dispatchTechnologyCheck check.runtime check.policy check.today check.lookups check.stageType
      check.artifactMd
    finding ∈ dispatched.1 ∧ (check.blocks finding = true → dispatched.2 = true) := by
  intro dispatched
  have kept : finding ∈ dispatched.1 := List.mem_append_left _ member
  exact ⟨kept, fun blocks => List.any_eq_true.mpr ⟨finding, kept, blocks⟩⟩

end TechCheck

theorem lower_of_plain (text : DocText) (plain : text.all (fun letter => 'a' ≤ letter && letter ≤ 'z') = true) :
    lower text = text := by
  have same : ∀ letter ∈ text, letter.toLower = letter := by
    intro letter member
    have small := List.all_eq_true.mp plain letter member
    rw [Bool.and_eq_true, decide_eq_true_eq, decide_eq_true_eq] at small
    exact dif_neg fun upper => absurd (small.1.trans upper.2) (by decide)
  rw [lower]
  exact (List.map_congr_left same).trans (List.map_id _)

def sampleRuntime : TechRuntime where
  texts := sampleTexts
  lower := lower
  lower_plain := lower_of_plain
  printed _ := []
  fromIsoFormat text := if text = "2026-09-06".toList then some 20702 else none
  isoFormat day := if day = 20702 then "2026-09-06".toList else []
  findPattern _ _ := []

def rated (id severity : String) : LookupValue := .dict [
  ("id".toList, .text id.toList),
  ("database_specific".toList, .dict [("severity".toList, .text severity.toList)])]

def highThenCritical : LookupValue :=
  .dict [("vulns".toList, .list [rated "GHSA-1" "HIGH", rated "GHSA-2" "CRITICAL"])]

def hidingAnswer : LookupObject := [("results".toList, .list [highThenCritical])]

def hiddenCheck : TechCheck where
  runtime := sampleRuntime
  policy := {
    lastReviewed := "2026-09-06".toList
    maxAgeDays := 30
    packageEcosystems := [("react".toList, "npm".toList)] }
  today := 20702
  lookups := some {
    cachedRelease := fun _ _ => none
    queryRelease := fun _ _ => none
    cachedAdvisories := fun _ => some hidingAnswer
    queryAdvisories := fun _ => none }
  stageType := .harness
  artifactMd := "react@17.0.1".toList

def reactPackage : TechnologyChoice where
  layer := "dependency".toList
  choice := "react".toList
  version := some "17.0.1".toList
  supportStatus := none
  eolDate := none
  source := "npm:react".toList

theorem hiddenCheck_packages : hiddenCheck.packages = [reactPackage] := by decide

theorem hiddenCheck_answer : hiddenCheck.answer = some hidingAnswer := by
  have filled : hiddenCheck.packages ≠ [] := by
    rw [hiddenCheck_packages]
    exact List.cons_ne_nil _ _
  exact (if_neg filled : (if hiddenCheck.packages = [] then none else some hidingAnswer) = some hidingAnswer)

theorem hiddenCheck_lists : hiddenCheck.ListsCritical hidingAnswer reactPackage := by
  refine ⟨[highThenCritical], rfl, (reactPackage, highThenCritical), ?_, by decide, _, rfl,
    rated "GHSA-2" "CRITICAL", ?_, by decide⟩
  · rw [hiddenCheck_packages]
    exact List.mem_singleton_self _
  · exact List.mem_cons_of_mem _ (List.mem_singleton_self _)

theorem critical_advisory_dropped : ¬∃ findings, hiddenCheck.findings = some findings ∧ hiddenCheck.Kept findings := by
  rintro ⟨findings, found, kept⟩
  have blocked := kept.critical _ hiddenCheck_answer reactPackage hiddenCheck_lists
  have free : hiddenCheck.findings.any (hiddenCheck.blocked · reactPackage) = false := by decide
  rw [found, Option.any_some, blocked] at free
  exact absurd free.symm Bool.false_ne_true

end Thought2Build.Pipeline
