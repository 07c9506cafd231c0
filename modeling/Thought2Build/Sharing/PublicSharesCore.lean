import Mathlib.Logic.Function.Basic
import Thought2Build.Library.Histories
import Thought2Build.Pipeline.StageCore

/-!
The public link of one workspace: its owner's calls, the reads with their cache, and the edits of what it shows.
A step is one transaction of the database, one command of the cache, or time passing.
-/

namespace Thought2Build.Sharing

open Pipeline

def alphabet : List Char := "abcdefghjkmnpqrstuvwxyz23456789".toList

def maxSlugLen : Nat := 64

def maxGenerateAttempts : Nat := 3

def isValidSlug (slug : String) : Bool :=
  let characters := slug.toList
  !characters.isEmpty && characters.length ≤ maxSlugLen && characters.all (alphabet.contains ·)

/-! The public view -/

structure CoverageSummary where
  tests : Int
  covered : Int
  total : Int
  percent : Int
  deriving DecidableEq

/-- `derive_coverage_summary` of the percentages of the harness, the newest first. -/
def deriveCoverageSummary (percentages : List (Option Int)) : Option CoverageSummary :=
  percentages.reduceOption.head?.map fun percentage =>
    let percent := max 0 (min 100 percentage)
    { tests := 0, covered := percent, total := 100, percent }

structure PublicStage where
  status : StageStatus
  content : Option String := none

structure PublicContent where
  name : String
  stages : List (StageType × String)
  coverageSummary : Option CoverageSummary
  deriving DecidableEq

structure PublicView extends PublicContent where
  sharedAt : Nat
  deriving DecidableEq

structure Rows where
  slug : Option String := none
  enabled : Bool := false
  sharedAt : Option Nat := none
  updatedAt : Nat := 0
  name : String
  stages : StageType → Option PublicStage
  coverage : List (Option Int) := []

namespace Rows

variable (rows : Rows)

def allFinalised : Bool :=
  stageOrder.all fun type => ((rows.stages type).map (·.status)) == some .finalised

def publicStages : List (StageType × String) :=
  stageOrder.map fun type => (type, ((rows.stages type).bind (·.content)).getD "")

def publicContent : PublicContent where
  name := rows.name
  stages := rows.publicStages
  coverageSummary := deriveCoverageSummary rows.coverage

def IsOpen (slug : String) : Prop := rows.slug = some slug ∧ rows.enabled = true

instance (slug : String) : Decidable (rows.IsOpen slug) := inferInstanceAs (Decidable (_ ∧ _))

def buildPublicView (slug : String) : Option PublicView :=
  if isValidSlug slug = true ∧ rows.IsOpen slug ∧ rows.allFinalised = true then
    some { rows.publicContent with sharedAt := rows.sharedAt.getD rows.updatedAt }
  else none

def share (now : Nat) (slug : String) : Rows :=
  { rows with slug := some slug, enabled := true, sharedAt := some now, updatedAt := now }

end Rows

/-! Requests under way -/

structure Payload where
  etag : String
  body : PublicView
  built : Nat
  edits : Nat
  deriving DecidableEq

structure CacheEntry where
  slug : String
  payload : Payload
  expires : Nat

/-- A read past its cache lookup; `shut` while its link is shut and was when it began. -/
structure Reader where
  id : Nat
  slug : String
  ifNoneMatch : Option String
  shut : Bool
  payload : Option Payload := none
  deriving DecidableEq

/-- A call of the owner whose commit met a conflict; `retire` is the slug that a rotation found. -/
structure OwnerRetry where
  id : Nat
  rotates : Bool
  retire : Option String
  attempts : Nat

structure OwnerCall where
  id : Nat
  evicts : Option String
  shuts : Option String

structure Answer where
  slug : String
  payload : Payload
  ifNoneMatch : Option String
  notModified : Bool
  shut : Bool
  since : Nat
  isCurrent : Bool
  deriving DecidableEq

structure PublicShare where
  rows : Rows
  cache : List CacheEntry := []
  readers : List Reader := []
  retries : List OwnerRetry := []
  calls : List OwnerCall := []
  shut : List String := []
  answers : List Answer := []
  clock : Nat := 0
  edits : Nat := 0
  nextId : Nat := 0

inductive ShareEvent where
  /-- A transaction of `enable` or `rotate`, with the slugs it draws and whether its commit meets no conflict. -/
  | enable (draws : List String) (commits : Bool)
  | rotate (draws : List String) (commits : Bool)
  | retry (id : Nat) (draws : List String) (commits : Bool)
  | disable
  | evict (id : Nat) (failed : Bool)
  | lookUp (slug : String) (ifNoneMatch : Option String) (failed : Bool)
  | build (id : Nat)
  | store (id : Nat) (failed : Bool)
  | abort (id : Nat)
  | rename (name : String)
  | writeStage (type : StageType) (stage : Option PublicStage)
  | writeCoverage (percentages : List (Option Int))
  | wait (seconds : Nat)

namespace PublicShare

variable (digest : Nat → String) (ttl : Nat) (publicShare : PublicShare)

def etagFor (view : PublicView) : String := digest view.sharedAt

def notModified (ifNoneMatch : Option String) (etag : String) : Bool := ifNoneMatch == some etag

def cached (slug : String) : Option CacheEntry :=
  publicShare.cache.find? fun entry => entry.slug = slug ∧ publicShare.clock < entry.expires

def answer (slug : String) (ifNoneMatch : Option String) (shut : Bool) (payload : Payload) : PublicShare :=
  { publicShare with
    answers := publicShare.answers ++ [{
      slug, payload, ifNoneMatch, shut
      notModified := notModified ifNoneMatch payload.etag
      since := publicShare.clock - payload.built
      isCurrent := publicShare.rows.buildPublicView slug = some payload.body }] }

def reader (id : Nat) : Option Reader := publicShare.readers.find? (·.id = id)

def dropReader (id : Nat) : PublicShare :=
  { publicShare with readers := publicShare.readers.filter (·.id ≠ id) }

/-- `get_cached_public_payload`, and what `get_public_workspace` does with a hit. -/
def lookUp (slug : String) (ifNoneMatch : Option String) (failed : Bool) : PublicShare :=
  let shut := decide (slug ∈ publicShare.shut)
  if isValidSlug slug then
    match if ttl = 0 ∨ failed = true then none else publicShare.cached slug with
    | some entry => publicShare.answer slug ifNoneMatch shut entry.payload
    | none =>
        { publicShare with
          readers := publicShare.readers ++ [{ id := publicShare.nextId, slug, ifNoneMatch, shut }]
          nextId := publicShare.nextId + 1 }
  else publicShare

def build (id : Nat) : PublicShare :=
  match publicShare.reader id with
  | none => publicShare
  | some reader =>
      match reader.payload, publicShare.rows.buildPublicView reader.slug with
      | some _, _ => publicShare
      | none, none => publicShare.dropReader id
      | none, some view =>
          let payload : Payload :=
            { etag := etagFor digest view, body := view, built := publicShare.clock, edits := publicShare.edits }
          { publicShare with
            readers := publicShare.readers.map fun other =>
              if other = reader then { reader with payload := some payload } else other }

def setCached (slug : String) (payload : Payload) (failed : Bool) : PublicShare :=
  if ttl = 0 ∨ failed = true then publicShare
  else
    let entry : CacheEntry := { slug, payload, expires := publicShare.clock + ttl }
    { publicShare with cache := entry :: publicShare.cache.filter (·.slug ≠ slug) }

def store (id : Nat) (failed : Bool) : PublicShare :=
  match publicShare.reader id with
  | none => publicShare
  | some reader =>
      match reader.payload with
      | none => publicShare
      | some payload =>
          ((publicShare.setCached ttl reader.slug payload failed).answer reader.slug reader.ifNoneMatch
            reader.shut payload).dropReader id

/-! The owner's calls -/

def publish (slug : String) (evicts shuts : Option String) : PublicShare :=
  { publicShare with
    rows := publicShare.rows.share publicShare.clock slug
    calls := publicShare.calls ++ [{ id := publicShare.nextId, evicts, shuts }]
    shut := publicShare.shut.filter (· ≠ slug)
    readers := publicShare.readers.map fun reader =>
      if reader.slug = slug then { reader with shut := false } else reader
    nextId := publicShare.nextId + 1 }

/-- An attempt at a fresh slug; a rotation passes over draws of the slug in use, which count as attempts. -/
def attempt (rotates : Bool) (retire : Option String) (attempts : Nat) (draws : List String) (commits : Bool) :
    PublicShare :=
  let inUse := fun draw : String => rotates && some draw == publicShare.rows.slug
  match (draws.take attempts).dropWhile inUse with
  | [] => publicShare
  | candidate :: _ =>
      if commits then
        if rotates then publicShare.publish candidate retire publicShare.rows.slug
        else publicShare.publish candidate (some candidate) none
      else
        let attempts := attempts - (draws.takeWhile inUse).length - 1
        { publicShare with
          retries := publicShare.retries ++ [{ id := publicShare.nextId, rotates, retire, attempts }]
          nextId := publicShare.nextId + 1 }

def enable (draws : List String) (commits : Bool) : PublicShare :=
  if publicShare.rows.allFinalised = true then
    match publicShare.rows.slug with
    | some slug => if commits then publicShare.publish slug (some slug) none else publicShare
    | none => publicShare.attempt false none maxGenerateAttempts draws commits
  else publicShare

def rotate (draws : List String) (commits : Bool) : PublicShare :=
  if publicShare.rows.allFinalised = true then
    publicShare.attempt true publicShare.rows.slug maxGenerateAttempts draws commits
  else publicShare

def retry (id : Nat) (draws : List String) (commits : Bool) : PublicShare :=
  match publicShare.retries.find? (·.id = id) with
  | none => publicShare
  | some call =>
      { publicShare with retries := publicShare.retries.filter (·.id ≠ id) }.attempt call.rotates call.retire
        call.attempts draws commits

def disable : PublicShare :=
  { publicShare with
    rows :=
      if publicShare.rows.enabled then { publicShare.rows with enabled := false, updatedAt := publicShare.clock }
      else publicShare.rows
    calls := publicShare.calls ++
      [{ id := publicShare.nextId, evicts := publicShare.rows.slug, shuts := publicShare.rows.slug }]
    nextId := publicShare.nextId + 1 }

def call (id : Nat) : Option OwnerCall := publicShare.calls.find? (·.id = id)

def evictCached (cache : List CacheEntry) (slug : Option String) (failed : Bool) : List CacheEntry :=
  if failed then cache else cache.filter fun entry => some entry.slug ≠ slug

def evict (id : Nat) (failed : Bool) : PublicShare :=
  match publicShare.call id with
  | none => publicShare
  | some call =>
      { publicShare with
        calls := publicShare.calls.filter (·.id ≠ id)
        cache := evictCached publicShare.cache call.evicts failed
        shut := call.shuts.toList.filter (fun slug => ¬publicShare.rows.IsOpen slug) ++ publicShare.shut }

def edit (rows : Rows) : PublicShare :=
  let changes := decide (rows.publicContent ≠ publicShare.rows.publicContent)
  { publicShare with rows, edits := publicShare.edits + changes.toNat }

def step : ShareEvent → PublicShare
  | .enable draws commits => publicShare.enable draws commits
  | .rotate draws commits => publicShare.rotate draws commits
  | .retry id draws commits => publicShare.retry id draws commits
  | .disable => publicShare.disable
  | .evict id failed => publicShare.evict id failed
  | .lookUp slug ifNoneMatch failed => publicShare.lookUp ttl slug ifNoneMatch failed
  | .build id => publicShare.build digest id
  | .store id failed => publicShare.store ttl id failed
  | .abort id => publicShare.dropReader id
  | .rename name => publicShare.edit { publicShare.rows with name, updatedAt := publicShare.clock }
  | .writeStage type stage =>
      publicShare.edit { publicShare.rows with stages := Function.update publicShare.rows.stages type stage }
  | .writeCoverage coverage => publicShare.edit { publicShare.rows with coverage }
  | .wait seconds => { publicShare with clock := publicShare.clock + seconds }

end PublicShare

end Thought2Build.Sharing
