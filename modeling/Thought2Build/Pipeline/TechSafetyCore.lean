import Thought2Build.Library.FirstWins
import Thought2Build.Pipeline.UpstreamSectionsCore

/-!
The technology gate: what of an artifact's technologies the policy forbids, what is out of support, and what the
advisories of its pinned packages say. The answers of the two services are JSON of any shape.
-/

namespace Thought2Build.Pipeline

open Patterns Pattern FirstWins DocText
open Integrations (Texts)
open Integrations.Texts (splitlines collapseSpaces)

/-! JSON -/

inductive LookupValue where
  | null
  | bool (value : Bool)
  | number (value : Rat)
  | text (value : DocText)
  | list (items : List LookupValue)
  | dict (entries : List (DocText × LookupValue))

abbrev LookupObject := List (DocText × LookupValue)

namespace LookupValue

def truthy : LookupValue → Bool
  | null => false
  | bool value => value
  | number value => value ≠ 0
  | text value => value ≠ []
  | list items => !items.isEmpty
  | dict entries => !entries.isEmpty

def items : LookupValue → Option (List LookupValue)
  | text value => .some (value.map fun letter => text [letter])
  | list items => .some items
  | dict entries => .some (entries.map fun entry => text entry.1)
  | _ => none

def object : LookupValue → Option LookupObject
  | dict entries => .some entries
  | _ => none

end LookupValue

def LookupObject.getOr (entries : LookupObject) (key : String) (default : LookupValue) : LookupValue :=
  ((entries.lookup key.toList).filter LookupValue.truthy).getD default

def LookupObject.isFlag (entries : LookupObject) (key : String) (flag : Bool) : Bool :=
  match entries.lookup key.toList with
  | .some (.bool value) => value = flag
  | _ => false

/-! Texts -/

structure TechRuntime where
  texts : Texts
  lower : DocText → DocText
  lower_plain : ∀ text, text.all (fun letter => 'a' ≤ letter && letter ≤ 'z') = true → lower text = text
  /-- `str` of what is no text -/
  printed : LookupValue → DocText
  fromIsoFormat : DocText → Option Int
  isoFormat : Int → DocText
  /-- `re.finditer` of an expression of the policy: the start and the text of each match -/
  findPattern : DocText → DocText → List (Nat × DocText)

def TechRuntime.str (runtime : TechRuntime) : LookupValue → DocText
  | .text value => value
  | value => runtime.printed value

def TechRuntime.textOf (runtime : TechRuntime) (entries : LookupObject) (key : String) : DocText :=
  runtime.str (entries.getOr key (.text []))

/-! Records -/

structure TechnologyChoice where
  layer : DocText
  choice : DocText
  version : Option DocText
  supportStatus : Option DocText
  eolDate : Option DocText
  source : DocText
  deriving DecidableEq

structure TechSafetyFinding where
  code : DocText
  severity : DocText
  technology : DocText
  version : Option DocText
  source : DocText
  evidence : DocText
  remediation : DocText

structure DenylistEntry where
  code : DocText := []
  severity : DocText := []
  technology : DocText := []
  pattern : DocText := []
  remediation : DocText := []

structure TechPolicy where
  lastReviewed : DocText
  /-- `policy.get("max_age_days") or settings.tech_safety_policy_max_age_days` -/
  maxAgeDays : Int
  nearEolBlockDays : Option Int := none
  hardDenylists : List DenylistEntry := []
  packageEcosystems : List (DocText × DocText) := []
  lifecycleProducts : List (DocText × DocText) := []

def orText (text : DocText) (default : String) : DocText := if text = [] then default.toList else text

def DenylistEntry.findingCode (entry : DenylistEntry) : DocText := orText entry.code "hard_denylist_match"

def TechPolicy.nearEolDays (policy : TechPolicy) : Int := (policy.nearEolBlockDays.filter (· ≠ 0)).getD 730

def intText (value : Int) : DocText := (toString value).toList

section

variable (runtime : TechRuntime) (policy : TechPolicy) (today : Int)

/-! The policy's own age -/

def freshnessFindings : List TechSafetyFinding :=
  match runtime.fromIsoFormat policy.lastReviewed with
  | none => [{
      code := "technology_policy_unverified".toList
      severity := "critical".toList
      technology := "technology safety policy".toList
      version := none
      source := "local_policy".toList
      evidence := "Policy last_reviewed is missing or invalid".toList
      remediation := "Review and republish the technology safety policy.".toList }]
  | .some reviewed =>
      if policy.maxAgeDays < today - reviewed then [{
        code := "technology_policy_stale".toList
        severity := "critical".toList
        technology := "technology safety policy".toList
        version := .some (runtime.isoFormat reviewed)
        source := "local_policy".toList
        evidence := "Policy is older than ".toList ++ intText policy.maxAgeDays ++ " days".toList
        remediation := "Re-review the policy before accepting generated stacks.".toList }]
      else []

/-! The technology stack -/

def techStackHeadings : List String := ["## Technology Stack and Rationale", "## Technology Stack"]

def nextH2 : Pattern := sequence [lineStart, literal "##", some isSpace]

def techSectionBody (artifactMd : DocText) (heading : String) : DocText :=
  match afterFirst heading.toList artifactMd with
  | none => []
  | .some rest =>
      match (findIter nextH2 rest).head? with
      | .some found => rest.take found.1.before.length
      | none => rest

def firstMatchingSectionBody (artifactMd : DocText) (headings : List String) : DocText × DocText :=
  ((headings.map fun heading => (heading.toList, techSectionBody artifactMd heading)).find? (·.2 ≠ [])).getD ([], [])

def stripBars (text : DocText) : DocText := (text.dropWhile (· = '|')).rdropWhile (· = '|')

def splitTableRow (row : DocText) : List DocText := ((stripBars row.strip).splitOn '|').map DocText.strip

def normalizeHeader (header : DocText) : DocText :=
  let lowered := collapseSpaces false (runtime.lower header.strip)
  if "version".toList.isPrefixOf lowered then "version".toList
  else if "support status".toList.isPrefixOf lowered then "support_status".toList
  else if "eol".toList.isPrefixOf lowered then "eol_date".toList
  else if "layer".toList.isPrefixOf lowered then "layer".toList
  else if "choice".toList.isPrefixOf lowered then "choice".toList
  else lowered.map fun letter => if letter = ' ' then '_' else letter

def dotDigits (texts : Texts) : Pattern := andThen (one (· = '.')) (some texts.isDigit)

def versionPattern (texts : Texts) : Pattern := sequence [
  boundary texts.isWord,
  group (sequence [some texts.isDigit, optional (andThen (dotDigits texts) (optional (dotDigits texts)))]),
  boundary texts.isWord]

def extractVersion (text : DocText) : Option DocText :=
  (findIter (versionPattern runtime.texts) text).head?.bind fun found => found.2.groups.head?

/-- `values.get(key, "").strip()`: of two cells under one header the later one counts. -/
def cellOf (values : List (DocText × DocText)) (key : String) : DocText :=
  DocText.strip ((values.reverse.lookup key.toList).getD [])

def noneIfEmpty (text : DocText) : Option DocText := if text = [] then none else .some text

def rowChoice (heading : DocText) (headers : List DocText) (row : DocText) : Option TechnologyChoice :=
  let cells := splitTableRow row
  if cells.length ≠ headers.length then none
  else
    let values := headers.zip cells
    let layer := cellOf values "layer"
    let choice := cellOf values "choice"
    if layer = [] ∨ choice = [] ∨ choice.all (fun letter => letter = '-' || letter = ':') then none
    else .some {
      layer, choice
      version := extractVersion runtime ((values.reverse.lookup "version".toList).getD [])
      supportStatus := noneIfEmpty (cellOf values "support_status")
      eolDate := noneIfEmpty (cellOf values "eol_date")
      source := heading ++ ':' :: layer }

def parseTechnologyStack (artifactMd : DocText) : List TechnologyChoice :=
  let (heading, body) := firstMatchingSectionBody artifactMd techStackHeadings
  let rows := ((splitlines [] body).map DocText.strip).filter fun row => "|".toList.isPrefixOf row
  if rows.length < 2 then []
  else
    match rows.dropWhile fun row => !(has "Layer" row && has "Choice" row) with
    | [] => []
    | header :: rest =>
        rest.filterMap (rowChoice runtime heading ((splitTableRow header).map (normalizeHeader runtime)))

/-! The denylists -/

def rejectedContext (texts : Texts) : Pattern := sequence [
  boundary texts.isWord,
  either (texts.keyword "rejected") (either (texts.keyword "avoid") (either (texts.keyword "do not use")
    (either (texts.keyword "not chosen") (either (texts.keyword "why not") (either (texts.keyword "alternative")
      (either (texts.keyword "deprecated (do not use)") (texts.keyword "eol (do not use)"))))))),
  boundary texts.isWord]

def isRejectedContext (text : DocText) (start : Nat) : Bool :=
  !(findIter (rejectedContext runtime.texts) (slice text (start - 80) (start + 80))).isEmpty

def denylistFinding (source : DocText) (entry : DenylistEntry) (found : DocText) : TechSafetyFinding where
  code := entry.findingCode
  severity := orText entry.severity "high"
  technology := if entry.technology = [] then found else entry.technology
  version := extractVersion runtime found
  source
  evidence := "Selected output contains \x60".toList ++ found ++ "\x60".toList
  remediation := orText entry.remediation "Choose a maintained, supported alternative."

def hardDenylistFindings (text source : DocText) : List TechSafetyFinding :=
  policy.hardDenylists.flatMap fun entry =>
    if entry.pattern = [] then []
    else ((runtime.findPattern entry.pattern text).filter fun found => !isRejectedContext runtime text found.1).map
      fun found => denylistFinding runtime source entry found.2

/-! Support -/

def isoDate (texts : Texts) : Pattern :=
  let digit := one texts.isDigit
  sequence [digit, digit, digit, digit, one (· = '-'), digit, digit, one (· = '-'), digit, digit]

def parseEolDate (value : DocText) : Option Int :=
  (findIter (isoDate runtime.texts) value).head?.bind fun found => runtime.fromIsoFormat (found.1.read found.2)

def layerLifecycleWords : List String :=
  ["language", "runtime", "framework", "database", "cache", "queue", "orm", "llm provider"]

def requiresNearEolBlock (layer : DocText) : Bool := layerLifecycleWords.any fun word => has word (runtime.lower layer)

def choiceFinding (choice : TechnologyChoice) (code severity : String) (source evidence : DocText)
    (remediation : String) : TechSafetyFinding where
  code := code.toList
  severity := severity.toList
  technology := choice.choice
  version := choice.version
  source
  evidence
  remediation := remediation.toList

def nearEolFinding (choice : TechnologyChoice) (source : DocText) (eol : Int) : TechSafetyFinding :=
  choiceFinding choice "technology_near_eol" "high" source
    ("EOL date ".toList ++ runtime.isoFormat eol ++ " is within ".toList ++ intText policy.nearEolDays ++
      " days".toList)
    "Choose a release with a longer support window."

def findingsOfChoice (choice : TechnologyChoice) : List TechSafetyFinding :=
  let haystack := choice.layer ++ ' ' :: (choice.choice ++ ' ' :: choice.version.getD [])
  let status := runtime.lower (choice.supportStatus.getD [])
  let eol := choice.eolDate.bind (parseEolDate runtime)
  hardDenylistFindings runtime policy haystack choice.source ++
  (if has "deprecated" status || has "eol" status then
    [choiceFinding choice "support_status_blocked" "high" choice.source
      ("Support status is \x60".toList ++ choice.supportStatus.getD [] ++ "\x60".toList)
      "Replace with an Active supported technology."]
  else []) ++
  match eol with
  | none => []
  | .some eol =>
      if eol - today < 0 then
        [choiceFinding choice "technology_eol" "critical" choice.source
          ("EOL date ".toList ++ runtime.isoFormat eol ++ " is in the past".toList)
          "Choose an actively supported release."]
      else if requiresNearEolBlock runtime choice.layer ∧ eol - today ≤ policy.nearEolDays then
        [nearEolFinding runtime policy choice choice.source eol]
      else []

def choiceFindings (choices : List TechnologyChoice) : List TechSafetyFinding :=
  choices.flatMap (findingsOfChoice runtime policy today)

/-! Packages -/

def isPackageLetter (letter : Char) : Bool := letter.isAlphanum || letter = '_' || letter = '.' || letter = '-'

def packagePin (texts : Texts) : Pattern := sequence [
  group (sequence [
    optional (one (· = '@')), some isPackageLetter, optional (andThen (one (· = '/')) (some isPackageLetter))]),
  many isSpace, either (literal "==") (either (literal "=") (literal "@")), many isSpace,
  group (sequence [
    some texts.isDigit, dotDigits texts, optional (andThen (dotDigits texts) (optional (dotDigits texts))),
    many isPackageLetter])]

def packageCandidates (text : DocText) : List TechnologyChoice :=
  (findIter (packagePin runtime.texts) text).filterMap fun found =>
    match found.2.groups with
    | version :: name :: _ =>
        (policy.packageEcosystems.lookup (runtime.lower name)).map fun ecosystem => {
          layer := "dependency".toList
          choice := name
          version := .some version
          supportStatus := none
          eolDate := none
          source := ecosystem ++ ':' :: name }
    | _ => none

/-! What can be said without the services -/

def selectedTechnologyText (artifactMd : DocText) : StageType → DocText
  | .plan | .harness | .tasks => artifactMd
  | .spec => "\n\n".toList.intercalate
      (["## Constraints", "## Risks", "## Assumptions and Open Questions"].map (techSectionBody artifactMd)
        |>.filter (· ≠ []))

def selectedChoices (artifactMd : DocText) : StageType → List TechnologyChoice
  | .plan => parseTechnologyStack runtime artifactMd
  | .harness | .tasks => packageCandidates runtime policy artifactMd
  | .spec => []

def analyzeLocalTechnologySafety (stageType : StageType) (artifactMd : DocText) : List TechSafetyFinding :=
  freshnessFindings runtime policy today ++
    hardDenylistFindings runtime policy (selectedTechnologyText artifactMd stageType)
      (stageTypeName stageType).toList ++
    choiceFindings runtime policy today (selectedChoices runtime policy artifactMd stageType)

/-! Lifecycles -/

structure TechPackage where
  ecosystem : DocText
  name : DocText
  version : DocText

structure TechLookups where
  cachedRelease : DocText → DocText → Option LookupObject
  queryRelease : DocText → DocText → Option LookupValue
  cachedAdvisories : List TechPackage → Option LookupObject
  queryAdvisories : List TechPackage → Option LookupObject

def lifecycleProductFor (choice : TechnologyChoice) : Option DocText :=
  let products := policy.lifecycleProducts
  let normalizedChoice := DocText.strip (runtime.lower choice.choice)
  ((products.lookup normalizedChoice).or (products.lookup (normalizedChoice.takeWhile (!isSpace ·)))).or
    (products.lookup (DocText.strip (runtime.lower choice.layer)))

def lifecycleReleaseCycle (product version : DocText) : DocText :=
  let parts := version.splitOn '.'
  if product ∈ ["java".toList, "nodejs".toList, "postgresql".toList] then parts.headD []
  else if product ∈ ["python".toList, "redis".toList] ∧ 2 ≤ parts.length then ".".toList.intercalate (parts.take 2)
  else version

def releaseOf : LookupValue → LookupObject
  | .dict payload =>
      match payload.lookup "result".toList with
      | .some (.dict result) => result
      | _ => payload
  | _ => []

def lifecycleFinding (choice : TechnologyChoice) (code severity : String) (evidence : DocText) (remediation : String) :
    TechSafetyFinding :=
  choiceFinding choice code severity "endoflife.date".toList evidence remediation

def findingsFromEolRelease (choice : TechnologyChoice) (release : LookupObject) : List TechSafetyFinding :=
  if ["isEol", "isMaintained", "eolFrom"].all fun key => (release.lookup key.toList).isNone then
    [lifecycleFinding choice "technology_safety_unverified" "unknown"
      "Lifecycle source returned no verifiable support fields".toList
      "Refresh lifecycle policy data before accepting this choice."]
  else
    let eol := parseEolDate runtime (runtime.textOf release "eolFrom")
    if release.isFlag "isEol" true || eol.any (· < today) then
      [lifecycleFinding choice "technology_eol" "critical" "Lifecycle source marks this release as end-of-life".toList
        "Choose an actively supported release."]
    else
      match eol with
      | none =>
          if release.isFlag "isMaintained" false then
            [lifecycleFinding choice "technology_unmaintained" "high"
              "Lifecycle source reports this release is not maintained".toList "Choose a maintained release."]
          else []
      | .some eol =>
          if requiresNearEolBlock runtime choice.layer ∧ eol - today ≤ policy.nearEolDays then
            [nearEolFinding runtime policy choice "endoflife.date".toList eol]
          else []

def lifecycleFindingsOf (lookups : TechLookups) (choice : TechnologyChoice) : List TechSafetyFinding :=
  match choice.eolDate.bind (parseEolDate runtime), choice.version, lifecycleProductFor runtime policy choice with
  | none, .some version, .some product =>
      let release := lifecycleReleaseCycle product version
      match (lookups.cachedRelease product release).or ((lookups.queryRelease product release).map releaseOf) with
      | none =>
          [lifecycleFinding choice "technology_safety_unverified" "unknown"
            ("Lifecycle lookup failed and no fresh cache exists for ".toList ++ product ++ ' ' :: release)
            "Retry after lifecycle data is available."]
      | .some found => findingsFromEolRelease runtime policy today choice found
  | _, _, _ => []

def lifecycleFindings (lookups : TechLookups) (choices : List TechnologyChoice) : List TechSafetyFinding :=
  choices.flatMap (lifecycleFindingsOf runtime policy today lookups)

/-! Advisories -/

def asciiDigit (letter : Char) : Bool := '0' ≤ letter && letter ≤ '9'

def cvssScore : Pattern := sequence [
  one (· = '/'), either (literal "BS") (literal "S"), optional (one (· = ':')),
  group (andThen (some asciiDigit) (optional (andThen (one (· = '.')) (some asciiDigit))))]

/-- `float(digits) >= bound`: what is less than 2 ^ -bits below the bound is rounded to it. -/
def scoreReaches (digits : DocText) (bound bits : Nat) : Bool :=
  let parts := digits.splitOn '.'
  let mantissa := parts.flatten.foldl (fun value letter => 10 * value + (letter.toNat - '0'.toNat)) 0
  (bound * 2 ^ bits - 1) * 10 ^ (parts.getD 1 []).length ≤ mantissa * 2 ^ bits

def cvssSeverity (digits : DocText) : DocText :=
  if scoreReaches digits 9 50 then "critical".toList
  else if scoreReaches digits 7 51 then "high".toList
  else if scoreReaches digits 4 52 then "medium".toList
  else "low".toList

def scoredSeverity : List LookupValue → Option (Option DocText)
  | [] => .some none
  | entry :: rest => do
      let score := runtime.textOf (← entry.object) "score"
      if "CVSS:".toList.isPrefixOf score then
        match (findIter cvssScore score).head?.bind fun found => found.2.groups.head? with
        | .some digits => return .some (cvssSeverity digits)
        | none => scoredSeverity rest
      else scoredSeverity rest

def osvSeverity (vuln : LookupObject) : Option DocText := do
  match ← scoredSeverity runtime (← (vuln.getOr "severity" (.list [])).items) with
  | .some severity => return severity
  | none =>
      let severity := runtime.lower (runtime.textOf (← (vuln.getOr "database_specific" (.dict [])).object) "severity")
      return if severity ∈ ["critical".toList, "high".toList, "medium".toList, "low".toList] then severity
        else "unknown".toList

def advisoryFinding (choice : TechnologyChoice) (vuln : LookupValue) : Option TechSafetyFinding := do
  let entries ← vuln.object
  let severity ← osvSeverity runtime entries
  return {
    code := "vulnerable_dependency".toList
    severity
    technology := choice.choice
    version := choice.version
    source := "osv".toList
    evidence := runtime.str ((entries.lookup "id".toList).getD (.text "OSV advisory".toList)) ++
      " affects this version".toList
    remediation := "Choose a non-vulnerable supported version.".toList }

def vulnsOf (result : LookupValue) : Option (List LookupValue) := do
  (LookupObject.getOr (← result.object) "vulns" (.list [])).items

def resultsOf (answer : LookupObject) : Option (List LookupValue) :=
  ((answer.lookup "results".toList).getD (.list [])).items

def packageFindings (asked : TechnologyChoice × LookupValue) : Option (List TechSafetyFinding) := do
  (← vulnsOf asked.2).mapM (advisoryFinding runtime asked.1)

def answerFindings (choices : List TechnologyChoice) (answer : LookupObject) : Option (List TechSafetyFinding) := do
  return (← (choices.zip (← resultsOf answer)).mapM (packageFindings runtime)).flatten

def unverifiedFinding (technology evidence remediation : String) : TechSafetyFinding where
  code := "technology_safety_unverified".toList
  severity := "unknown".toList
  technology := technology.toList
  version := none
  source := "osv".toList
  evidence := evidence.toList
  remediation := remediation.toList

def packageRequests (choices : List TechnologyChoice) : List (TechnologyChoice × TechPackage) :=
  choices.filterMap fun choice => do
    let ecosystem ← policy.packageEcosystems.lookup (runtime.lower choice.choice)
    let version ← choice.version
    return (choice, { ecosystem, name := choice.choice, version })

def advisoryAnswer (lookups : TechLookups) (choices : List TechnologyChoice) : Option LookupObject :=
  let packages := (packageRequests runtime policy choices).map (·.2)
  (lookups.cachedAdvisories packages).or (lookups.queryAdvisories packages)

def advisoryFindings (lookups : TechLookups) (choices : List TechnologyChoice) : Option (List TechSafetyFinding) :=
  let requests := packageRequests runtime policy choices
  if requests = [] then .some []
  else
    match advisoryAnswer runtime policy lookups choices with
    | none => .some [unverifiedFinding "OSV advisory lookup" "Advisory lookup failed and no fresh cache exists"
        "Retry after advisory service recovery or refresh cache."]
    | .some answer => answerFindings runtime (requests.map (·.1)) answer

/-! The gate -/

def findingKey (finding : TechSafetyFinding) : DocText × DocText × Option DocText × DocText :=
  (finding.code, runtime.lower finding.technology, finding.version, finding.source)

def dedupeFindings (findings : List TechSafetyFinding) : List TechSafetyFinding :=
  firstWins (fun finding => .some (findingKey runtime finding)) [] findings

def pinnedChoices (stageType : StageType) (artifactMd : DocText) : List TechnologyChoice :=
  (selectedChoices runtime policy artifactMd stageType).filter fun choice => choice.version.any (· ≠ [])

def lookedUpFindings (lookups : Option TechLookups) (stageType : StageType) (artifactMd : DocText) :
    Option (List TechSafetyFinding) :=
  let pinned := pinnedChoices runtime policy stageType artifactMd
  match lookups with
  | none =>
      .some (if pinned = [] then [] else [unverifiedFinding "advisory lookup"
        "No Redis cache was available for bounded advisory lookup"
        "Run validation with Redis-backed advisory caching."])
  | .some lookups => do
      let advisories ← advisoryFindings runtime policy lookups pinned
      return lifecycleFindings runtime policy today lookups (selectedChoices runtime policy artifactMd stageType) ++
        advisories

def analyzeTechnologySafety (lookups : Option TechLookups) (stageType : StageType) (artifactMd : DocText) :
    Option (List TechSafetyFinding) := do
  let lookedUp ← lookedUpFindings runtime policy today lookups stageType artifactMd
  return dedupeFindings runtime (analyzeLocalTechnologySafety runtime policy today stageType artifactMd ++ lookedUp)

def isBlockingFinding (finding : TechSafetyFinding) : Bool :=
  finding.code ∈ policy.hardDenylists.map DenylistEntry.findingCode ||
  finding.code ∈ ["technology_eol".toList, "support_status_blocked".toList] ||
  (finding.code = "vulnerable_dependency".toList && runtime.lower finding.severity = "critical".toList)

/-- What `_dispatch_technology_check` makes of the analysis: the findings besides `unverified`, and whether they
block -/
def dispatchTechnologyCheck (lookups : Option TechLookups) (stageType : StageType) (artifactMd : DocText) :
    List TechSafetyFinding × Bool :=
  let own := analyzeLocalTechnologySafety runtime policy today stageType artifactMd
  let findings := own ++ (analyzeTechnologySafety runtime policy today lookups stageType artifactMd).getD []
  (findings, findings.any (isBlockingFinding runtime policy))

end

end Thought2Build.Pipeline
