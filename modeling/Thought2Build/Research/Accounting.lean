import Thought2Build.Research.ResearchCore

/-!
Which steps of the jobs charge a run once and for a block in its prompt, keep the provider's calls within the day's
quota, and hand no block out that is too long or cites anything but web addresses.
-/

namespace Thought2Build.Research

open Histories

structure ResearchContext.Fits (context : ResearchContext) (settings : ResearchSettings) : Prop where
  bounded : context.block.length ≤ settings.braveMaxContextChars
  cites : ∀ source ∈ context.sources, IsHttp source.url

variable {web : WebTexts} {settings : ResearchSettings}

@[simp] theorem empty_block : ResearchContext.empty.block = "" := rfl

theorem empty_fits : ResearchContext.empty.Fits settings := ⟨Nat.zero_le _, by simp [ResearchContext.empty]⟩

namespace WebTexts

theorem safeHttpUrl_http {raw : String} (safe : web.safeHttpUrl raw ≠ "") : IsHttp (web.safeHttpUrl raw) := by
  unfold safeHttpUrl at safe ⊢
  dsimp only at safe ⊢
  split at safe
  · contradiction
  · rename_i formed
    split at safe
    · rename_i http
      rwa [if_neg formed, if_pos http]
    · contradiction

theorem entries_cite (maxChars used : Nat) (items : List BraveSnippet) :
    ∀ source ∈ (web.entries maxChars used items).2, IsHttp source.url := by
  induction items generalizing used with
  | nil => simp [entries]
  | cons item items ih =>
      rw [entries]
      dsimp only
      split
      · exact ih used
      · split
        · simp
        · split
          · exact ih _
          · rename_i safe
            rw [List.forall_mem_cons]
            dsimp only
            exact ⟨safeHttpUrl_http safe, ih _⟩

theorem entries_fit {maxChars used : Nat} (items : List BraveSnippet)
    (filled : (web.entries maxChars used items).1 ≠ []) :
    used + (String.join (web.entries maxChars used items).1).length ≤ maxChars := by
  induction items generalizing used with
  | nil => simp [entries] at filled
  | cons item items ih =>
      rw [entries] at filled ⊢
      dsimp only at filled ⊢
      split
      · rename_i none
        rw [if_pos none] at filled
        exact ih filled
      · rename_i some
        rw [if_neg some] at filled
        split
        · rename_i long
          simp [long] at filled
        · rename_i short
          by_cases last : (web.entries maxChars (used + (entry (web.cleanTitle item) (web.safeSnippets item)).length)
              items).1 = []
          · simp [last, String.join]
            omega
          · have behind := ih last
            simp only [String.join_cons, String.length_append]
            omega

theorem assembleBlock_fits (results : List BraveSnippet) :
    (web.assembleBlock settings.braveMaxContextChars results).Fits settings := by
  unfold assembleBlock
  dsimp only
  split
  · exact empty_fits
  · rename_i filled
    refine ⟨?_, entries_cite _ _ results⟩
    rw [String.join_cons, String.length_append]
    exact entries_fit results filled

theorem sourcesFromDicts_cite (items : List (Json String)) :
    ∀ source ∈ web.sourcesFromDicts items, IsHttp source.url := by
  intro source member
  obtain ⟨item, _, read⟩ := List.mem_filterMap.mp member
  cases item with
  | object members =>
      dsimp only at read
      rw [Option.ite_none_left_eq_some] at read
      obtain ⟨safe, same⟩ := read
      rw [← Option.some.inj same]
      dsimp only
      split at safe
      · exact safeHttpUrl_http safe
      · contradiction
  | _ => contradiction

theorem deserialize_cites (cached : Cached) : ∀ source ∈ (web.deserialize cached).sources, IsHttp source.url := by
  unfold deserialize
  split
  · simp
  · split
    · split
      · simp [ResearchContext.empty]
      · dsimp only
        split
        · exact sourcesFromDicts_cite _
        · simp
    · simp [ResearchContext.empty]
  · simp [ResearchContext.empty]

theorem deserialize_serialize (context : ResearchContext) :
    (web.deserialize (serialize context)).block = context.block := by
  have found (block sources : Json String) : get [("block", block), ("sources", sources)] "block" = some block := by
    rfl
  simp only [serialize, deserialize, found]
  split
  · rename_i none
    rw [none]
    rfl
  · rfl

end WebTexts

structure PreparedPrompt.Carries (prompt : PreparedPrompt) : Prop where
  filled : prompt.research.block ≠ ""
  inside : (renderResearchBlock prompt.research.block).toList <:+: prompt.user.toList

namespace ResearchPoint

def context : ResearchPoint → Option ResearchContext
  | charging context | storing context | assembling context _ => some context
  | saving prompt _ => some prompt.research
  | _ => none

def Paid : ResearchPoint → Prop
  | storing context => context.block ≠ ""
  | assembling _ paid | saving _ paid => paid = true
  | _ => False

def requests : ResearchPoint → Bool
  | requesting retried => !retried
  | _ => false

def Formed : ResearchPoint → Prop
  | charging context => context.block ≠ ""
  | assembling context paid => paid = true → context.block ≠ ""
  | saving prompt paid => (paid = true → prompt.research.block ≠ "") ∧ (prompt.research.block ≠ "" → prompt.Carries)
  | _ => True

@[simp] theorem requests_requesting (retried : Bool) : (requesting retried).requests = !retried := rfl

instance (point : ResearchPoint) : Decidable point.Paid := by
  unfold Paid
  split <;> infer_instance

end ResearchPoint

namespace Workspace

variable {workspace : Workspace} {key : Nat} {attempt : Attempt} {point : ResearchPoint} {context : ResearchContext}

def Saved (workspace : Workspace) (place : Nat) (prompt : PreparedPrompt) : Prop :=
  ∃ run ∈ workspace.runs[place]?, run.preparedPrompt = some prompt

def Carries (workspace : Workspace) (place : Nat) : Prop :=
  ∃ key attempt, workspace.attempts.lookup key = some attempt ∧ attempt.run = place ∧ attempt.point.Paid

structure Accounted (settings : ResearchSettings) (workspace : Workspace) : Prop where
  once : ∀ place, workspace.charges.count place ≤ 1
  delivered : ∀ place ∈ workspace.charges,
    (∃ prompt, workspace.Saved place prompt ∧ prompt.Carries) ∨ workspace.Carries place
  capped : ∀ day, workspace.calls.count day ≤ settings.braveMaxCallsPerWorkspacePerDay
  handed : ∀ context ∈ workspace.handed, context.Fits settings

def Ungrounded (workspace : Workspace) (place : Nat) : Prop :=
  ∀ run ∈ workspace.runs[place]?, ∀ prompt ∈ run.preparedPrompt, prompt.research.block = ""

def Unpaid (workspace : Workspace) (place : Nat) : Prop :=
  workspace.attempts.All fun _ attempt => attempt.run = place → ¬attempt.point.Paid

/-- A slot is taken while the quota is not exceeded, and serves one request; a run is charged if no block is in its
prompt or on the way into it; and such a block is not lost or replaced by none. -/
def Minds (settings : ResearchSettings) (workspace : Workspace) (attempt : Attempt) (outcome : Outcome) : Prop :=
  match attempt.point, outcome with
  | .consumingQuota, .counted _ => workspace.quotaExceeded settings = false
  | .requesting true, .response _ => False
  | .charging _, .done true => settings.billingCreditsBraveResearch ≤ workspace.balance →
      workspace.Ungrounded attempt.run ∧ workspace.Unpaid attempt.run
  | .saving prompt paid, .done true =>
      (paid = true → ∃ run ∈ workspace.runs[attempt.run]?, run.running = true) ∧
        (prompt.research.block = "" → attempt.run ∈ workspace.charges → workspace.Ungrounded attempt.run)
  | _, _ => True

def Careful (web : WebTexts) (settings : ResearchSettings) (workspace : Workspace) : ResearchEvent → Prop
  | .work key outcome => ∀ attempt ∈ workspace.attempts.lookup key, workspace.Minds settings attempt outcome
  | .fail key => ∀ attempt ∈ workspace.attempts.lookup key, ¬attempt.point.Paid
  | .midnight => workspace.attempts.All fun _ attempt => attempt.point.requests = false
  | .setCache _ value => ∀ cached ∈ value,
      (web.deserialize cached).block.length ≤ settings.braveMaxContextChars
  | _ => True

structure Capped (settings : ResearchSettings) (workspace : Workspace) : Prop where
  slots : ∀ day, workspace.calls.count day +
    (if day = workspace.today then workspace.attempts.count (·.point.requests) else 0) ≤ workspace.quota day
  within : ∀ day, workspace.quota day ≤ settings.braveMaxCallsPerWorkspacePerDay

theorem Capped.fewer (capped : workspace.Capped settings) {attempts : Workers Attempt}
    (fewer : attempts.count (·.point.requests) ≤ workspace.attempts.count (·.point.requests)) :
    ({ workspace with attempts } : Workspace).Capped settings := by
  refine ⟨fun day => (Nat.add_le_add_left ?_ _).trans (capped.slots day), capped.within⟩
  dsimp only
  split
  · exact fewer
  · exact le_rfl

theorem Capped.move (capped : workspace.Capped settings) (key : Nat) (attempt : Attempt)
    (quiet : point.requests = false) : (workspace.move key attempt point).Capped settings := by
  refine capped.fewer ?_
  rw [Workers.count_insert]
  simpa [quiet] using Workers.count_erase_le

theorem Capped.hand (capped : workspace.Capped settings) (key : Nat) (attempt : Attempt) (context : ResearchContext)
    (paid : Bool) : (workspace.hand key attempt context paid).Capped settings :=
  have moved : (workspace.move key attempt (.assembling context paid)).Capped settings := capped.move key attempt rfl
  { moved with }

theorem Capped.leave (capped : workspace.Capped settings) (key : Nat) : (workspace.leave key).Capped settings :=
  capped.fewer Workers.count_erase_le

theorem Capped.slot (capped : workspace.Capped settings) (room : workspace.quotaExceeded settings = false)
    {attempts : Workers Attempt}
    (more : attempts.count (·.point.requests) ≤ workspace.attempts.count (·.point.requests) + 1) :
    ({ workspace with
      quota := Function.update workspace.quota workspace.today (workspace.quota workspace.today + 1)
      attempts } : Workspace).Capped settings := by
  have below : workspace.quota workspace.today < settings.braveMaxCallsPerWorkspacePerDay := by
    simpa [quotaExceeded] using room
  constructor
  · intro day
    have before := capped.slots day
    dsimp only
    rw [Function.update_apply]
    split
    · rename_i same
      subst same
      rw [if_pos rfl] at before
      omega
    · rename_i differs
      rwa [if_neg differs] at before
  · intro day
    dsimp only
    rw [Function.update_apply]
    split
    · exact below
    · exact capped.within day

theorem Capped.consumeQuota (capped : workspace.Capped settings) (key : Nat) (attempt : Attempt) (expires : Bool)
    (room : workspace.quotaExceeded settings = false) :
    (workspace.consumeQuota key attempt expires).Capped settings := by
  have stands (point : ResearchPoint) : Workers.count (workspace.attempts.insert key { attempt with point })
      (·.point.requests) ≤ workspace.attempts.count (·.point.requests) + 1 := by
    rw [Workers.count_insert]
    exact Nat.add_le_add Workers.count_erase_le (Bool.toNat_le _)
  unfold Workspace.consumeQuota
  dsimp only
  split
  · exact { capped.slot room (stands (.assembling .empty false)) with }
  · exact capped.slot room (stands (.requesting false))

theorem Capped.called (capped : workspace.Capped settings) (found : workspace.attempts.lookup key = some attempt)
    (stands : attempt.point = .requesting false) (quiet : point.requests = false) :
    ({ workspace.move key attempt point with calls := workspace.calls ++ [workspace.today] } : Workspace).Capped
      settings := by
  refine ⟨fun day => ?_, capped.within⟩
  have before := capped.slots day
  rw [Workers.count_of_lookup found, stands] at before
  simp only [Workspace.move, Workers.count_insert, quiet, List.count_append, List.count_singleton,
    ResearchPoint.requests_requesting, Bool.not_false, Bool.toNat_true, Bool.toNat_false, beq_iff_eq] at before ⊢
  split at before
  · rename_i same
    rw [if_pos same, if_pos same.symm]
    omega
  · rename_i differs
    rw [if_neg differs, if_neg (Ne.symm differs)]
    omega

theorem Capped.request (capped : workspace.Capped settings) (response : Response)
    (found : workspace.attempts.lookup key = some attempt) (stands : attempt.point = .requesting false) :
    (workspace.request web settings key attempt false response).Capped settings := by
  have goes (point : ResearchPoint) (quiet : point.requests = false) := capped.called found stands quiet
  unfold Workspace.request
  dsimp only
  split
  · exact { goes (.assembling .empty false) rfl with }
  · exact goes _ rfl
  · split
    · exact goes _ rfl
    · exact goes _ rfl

theorem Capped.deliver (capped : workspace.Capped settings) (key place : Nat) :
    (workspace.deliver web settings key place).Capped settings := by
  unfold Workspace.deliver
  split
  · exact capped
  · split
    · split
      · exact { capped with }
      · dsimp only
        split
        · exact capped.move key _ rfl
        · exact capped.hand key _ _ _
    · exact capped

theorem Capped.advance (capped : workspace.Capped settings) {outcome : Outcome}
    (found : workspace.attempts.lookup key = some attempt) (minds : workspace.Minds settings attempt outcome) :
    (workspace.advance web settings key attempt outcome).Capped settings := by
  unfold Workspace.advance
  split
  · unfold Workspace.readCache
    split
    · split
      · exact capped.hand key attempt _ _
      · exact capped.move key attempt rfl
    · exact capped.hand key attempt _ _
  · unfold Workspace.checkQuota
    split
    · exact capped.move key attempt rfl
    · exact capped.hand key attempt _ _
  · unfold Workspace.checkBalance
    split
    · exact capped.move key attempt rfl
    · exact capped.hand key attempt _ _
  · rename_i expires stands
    simp only [Minds, stands] at minds
    exact capped.consumeQuota key attempt expires minds
  · exact capped.hand key attempt _ _
  · rename_i retried response stands
    cases retried with
    | true => simp [Minds, stands] at minds
    | false => exact capped.request response found stands
  · rename_i context _ _
    unfold Workspace.charge
    dsimp only
    split
    · have stored : (workspace.move key attempt (.storing context)).Capped settings := capped.move key attempt rfl
      exact { stored with }
    · exact capped.hand key attempt _ _
  · unfold Workspace.storeCache
    dsimp only
    split
    · exact { capped.hand key attempt _ _ with }
    · exact capped.hand key attempt _ _
  · exact capped.move key attempt rfl
  · unfold Workspace.savePrompt
    split
    · exact capped.leave key
    · split
      · exact { capped.leave key with }
      · exact capped.leave key
  · exact capped

theorem Capped.step (capped : workspace.Capped settings) (event : ResearchEvent)
    (careful : workspace.Careful web settings event) : (workspace.step web settings event).Capped settings := by
  cases event with
  | deliver key place => exact capped.deliver key place
  | work key outcome =>
      simp only [Workspace.step]
      split
      · exact capped
      · rename_i attempt found
        exact capped.advance found (careful attempt found)
  | fail key => exact capped.leave key
  | midnight =>
      refine ⟨fun day => ?_, capped.within⟩
      have before := capped.slots day
      simp only [Workspace.step, Workers.count_eq_zero careful, ite_self]
      omega
  | create | stop | setCache | setBalance => exact { capped with }

theorem saved_set {place other : Nat} {run : StageGenerationRun} {prompt saved : PreparedPrompt}
    {attempts : Workers Attempt} (present : workspace.runs[place]? = some run) :
    Saved { workspace with attempts, runs := workspace.runs.set place { run with preparedPrompt := some prompt } }
      other saved ↔ if other = place then prompt = saved else workspace.Saved other saved := by
  have inside := (List.getElem?_eq_some_iff.mp present).1
  by_cases same : other = place
  · subst same
    simp [Saved, inside]
  · simp [Saved, List.getElem?_set_ne (Ne.symm same), same]

theorem saved_stop {place other : Nat} {saved : PreparedPrompt} :
    (workspace.stop place).Saved other saved ↔ workspace.Saved other saved := by
  have looked : (workspace.stop place).runs[other]? = workspace.runs[other]?.map fun run =>
      if place = other then { run with running := false } else run := List.getElem?_modify ..
  unfold Saved
  rw [looked]
  constructor
  · rintro ⟨_, stopped, prepared⟩
    obtain ⟨run, present, rfl⟩ := Option.map_eq_some_iff.mp stopped
    refine ⟨run, present, ?_⟩
    split at prepared <;> exact prepared
  · rintro ⟨run, present, prepared⟩
    refine ⟨_, Option.map_eq_some_iff.mpr ⟨run, present, rfl⟩, ?_⟩
    split <;> exact prepared

theorem saved_create {place : Nat} {run : StageGenerationRun} {saved : PreparedPrompt} :
    Saved { workspace with runs := workspace.runs ++ [{ run with preparedPrompt := none }] } place saved ↔
      workspace.Saved place saved := by
  unfold Saved
  dsimp only
  constructor
  · rintro ⟨row, present, prepared⟩
    rw [List.getElem?_append] at present
    split at present
    · exact ⟨row, present, prepared⟩
    · have fresh := List.mem_singleton.mp (List.mem_of_getElem? present)
      rw [fresh] at prepared
      contradiction
  · rintro ⟨row, present, prepared⟩
    exact ⟨row, List.getElem?_append_left (List.getElem?_eq_some_iff.mp present).1 ▸ present, prepared⟩

structure Bounded (web : WebTexts) (settings : ResearchSettings) (workspace : Workspace) : Prop where
  cached : ∀ cacheKey, ∀ cached ∈ workspace.cache cacheKey,
    (web.deserialize cached).block.length ≤ settings.braveMaxContextChars
  carried : workspace.attempts.All fun _ attempt => ∀ context ∈ attempt.point.context, context.Fits settings
  saved : ∀ place prompt, workspace.Saved place prompt → prompt.research.Fits settings
  handed : ∀ context ∈ workspace.handed, context.Fits settings

theorem Bounded.move (bounded : workspace.Bounded web settings) (key : Nat) (attempt : Attempt)
    (fits : ∀ context ∈ point.context, context.Fits settings) :
    (workspace.move key attempt point).Bounded web settings :=
  { bounded with carried := bounded.carried.insert fits }

theorem Bounded.hand (bounded : workspace.Bounded web settings) (key : Nat) (attempt : Attempt)
    (fits : context.Fits settings) (paid : Bool) :
    (workspace.hand key attempt context paid).Bounded web settings :=
  have moved : (workspace.move key attempt (.assembling context paid)).Bounded web settings :=
    bounded.move key attempt (by rintro _ ⟨⟩; exact fits)
  { moved with handed := List.forall_mem_append.mpr ⟨bounded.handed, List.forall_mem_singleton.mpr fits⟩ }

theorem Bounded.leave (bounded : workspace.Bounded web settings) (key : Nat) :
    (workspace.leave key).Bounded web settings :=
  { bounded with carried := bounded.carried.erase key }

theorem Bounded.write (bounded : workspace.Bounded web settings) (cacheKey : String) {value : Option Cached}
    (fits : ∀ cached ∈ value, (web.deserialize cached).block.length ≤ settings.braveMaxContextChars) :
    ({ workspace with cache := Function.update workspace.cache cacheKey value } : Workspace).Bounded web settings := by
  refine { bounded with cached := fun other cached held => ?_ }
  dsimp only at held
  rw [Function.update_apply] at held
  split at held
  · exact fits cached held
  · exact bounded.cached other cached held

theorem Bounded.deliver (bounded : workspace.Bounded web settings) (key place : Nat) :
    (workspace.deliver web settings key place).Bounded web settings := by
  unfold Workspace.deliver
  split
  · exact bounded
  · rename_i run present
    split
    · split
      · rename_i prompt prepared
        have fits := bounded.saved place prompt ⟨run, present, prepared⟩
        exact { bounded with
          handed := List.forall_mem_append.mpr ⟨bounded.handed, List.forall_mem_singleton.mpr fits⟩ }
      · dsimp only
        split
        · exact bounded.move key _ nofun
        · exact bounded.hand key _ empty_fits _
    · exact bounded

theorem Bounded.savePrompt (bounded : workspace.Bounded web settings) (key : Nat) {prompt : PreparedPrompt}
    (fits : prompt.research.Fits settings) : (workspace.savePrompt key attempt prompt).Bounded web settings := by
  unfold Workspace.savePrompt
  split
  · exact bounded.leave key
  · rename_i run present
    split
    · refine { bounded.leave key with saved := fun place other holds => ?_ }
      have either := (saved_set present).mp holds
      split at either
      · rwa [← either]
      · exact bounded.saved place other either
    · exact bounded.leave key

theorem Bounded.advance (bounded : workspace.Bounded web settings) (outcome : Outcome)
    (found : workspace.attempts.lookup key = some attempt) :
    (workspace.advance web settings key attempt outcome).Bounded web settings := by
  have carried := bounded.carried.at found
  unfold Workspace.advance
  split
  · unfold Workspace.readCache
    split
    · split
      · rename_i cached held
        exact bounded.hand key attempt ⟨bounded.cached _ cached held, WebTexts.deserialize_cites cached⟩ _
      · exact bounded.move key attempt nofun
    · exact bounded.hand key attempt empty_fits _
  · unfold Workspace.checkQuota
    split
    · exact bounded.move key attempt nofun
    · exact bounded.hand key attempt empty_fits _
  · unfold Workspace.checkBalance
    split
    · exact bounded.move key attempt nofun
    · exact bounded.hand key attempt empty_fits _
  · unfold Workspace.consumeQuota
    dsimp only
    split
    · exact { bounded.hand key attempt empty_fits false with }
    · have moved : (workspace.move key attempt (.requesting false)).Bounded web settings :=
        bounded.move key attempt nofun
      exact { moved with }
  · exact bounded.hand key attempt empty_fits _
  · unfold Workspace.request
    dsimp only
    have fits := @WebTexts.assembleBlock_fits web settings
    have called : ({ workspace with calls := workspace.calls ++ [workspace.today] } : Workspace).Bounded web settings :=
      { bounded with }
    split
    · exact called.hand key attempt empty_fits _
    · split
      · exact called.hand key attempt empty_fits _
      · exact called.move key attempt nofun
    · split
      · exact called.move key attempt (by rintro _ ⟨⟩; exact empty_fits)
      · exact called.move key attempt (by rintro _ ⟨⟩; exact fits _)
  · rename_i context _ stands
    have fits : context.Fits settings := carried context (by rw [stands]; rfl)
    unfold Workspace.charge
    dsimp only
    split
    · have stored : (workspace.move key attempt (.storing context)).Bounded web settings :=
        bounded.move key attempt (by rintro _ ⟨⟩; exact fits)
      exact { stored with }
    · exact bounded.hand key attempt empty_fits _
  · rename_i context _ stands
    have fits : context.Fits settings := carried context (by rw [stands]; rfl)
    have handed := bounded.hand key attempt fits (context.block ≠ "")
    unfold Workspace.storeCache
    dsimp only
    split
    · refine handed.write _ ?_
      rintro _ ⟨⟩
      rw [WebTexts.deserialize_serialize]
      exact fits.bounded
    · exact handed
  · rename_i context _ _ _ stands
    have fits : context.Fits settings := carried context (by rw [stands]; rfl)
    exact bounded.move key attempt (by rintro _ ⟨⟩; exact fits)
  · rename_i prompt _ stands
    exact bounded.savePrompt key (carried prompt.research (by rw [stands]; rfl))
  · exact bounded

theorem Bounded.step (bounded : workspace.Bounded web settings) (event : ResearchEvent)
    (careful : workspace.Careful web settings event) : (workspace.step web settings event).Bounded web settings := by
  cases event with
  | create run =>
      exact { bounded with saved := fun place prompt holds => bounded.saved place prompt (saved_create.mp holds) }
  | deliver key place => exact bounded.deliver key place
  | work key outcome =>
      simp only [Workspace.step]
      split
      · exact bounded
      · rename_i attempt found
        exact bounded.advance outcome found
  | fail key => exact bounded.leave key
  | stop place =>
      exact { bounded with saved := fun other prompt holds => bounded.saved other prompt (saved_stop.mp holds) }
  | setCache cacheKey value => exact bounded.write cacheKey careful
  | midnight | setBalance => exact { bounded with }

structure Charged (workspace : Workspace) : Prop where
  once : ∀ place, workspace.charges.count place ≤ 1
  delivered : ∀ place ∈ workspace.charges,
    (∃ prompt, workspace.Saved place prompt ∧ prompt.Carries) ∨ workspace.Carries place
  formed : workspace.attempts.All fun _ attempt => attempt.point.Formed
  saved : ∀ place prompt, workspace.Saved place prompt → prompt.research.block ≠ "" → prompt.Carries

theorem Charged.move (charged : workspace.Charged) (key : Nat) (attempt : Attempt) (formed : point.Formed)
    (keeps : ∀ former ∈ workspace.attempts.lookup key, former.point.Paid → former.run = attempt.run ∧ point.Paid) :
    (workspace.move key attempt point).Charged := by
  refine { charged with delivered := fun place member => ?_, formed := charged.formed.insert formed }
  refine (charged.delivered place member).imp_right ?_
  rintro ⟨other, former, found, own, paid⟩
  by_cases same : other = key
  · subst same
    obtain ⟨run, still⟩ := keeps former found paid
    exact ⟨other, _, AList.lookup_insert _, run.symm.trans own, still⟩
  · exact ⟨other, former, (AList.lookup_insert_ne same).trans found, own, paid⟩

theorem Charged.hand (charged : workspace.Charged) (key : Nat) (attempt : Attempt) {paid : Bool}
    (formed : paid = true → context.block ≠ "")
    (keeps : ∀ former ∈ workspace.attempts.lookup key, former.point.Paid →
      former.run = attempt.run ∧ paid = true) : (workspace.hand key attempt context paid).Charged :=
  have moved : (workspace.move key attempt (.assembling context paid)).Charged := charged.move key attempt formed keeps
  { moved with }

theorem Charged.leave (charged : workspace.Charged) (key : Nat)
    (unpaid : ∀ former ∈ workspace.attempts.lookup key, ¬former.point.Paid) : (workspace.leave key).Charged := by
  refine { charged with delivered := fun place member => ?_, formed := charged.formed.erase key }
  refine (charged.delivered place member).imp_right ?_
  rintro ⟨other, former, found, own, paid⟩
  have differs : other ≠ key := by
    rintro rfl
    exact unpaid former found paid
  exact ⟨other, former, (AList.lookup_erase_ne differs).trans found, own, paid⟩

theorem uncharged {place : Nat} (delivered : ∀ place ∈ workspace.charges,
    (∃ prompt, workspace.Saved place prompt ∧ prompt.Carries) ∨ workspace.Carries place)
    (ungrounded : workspace.Ungrounded place) (unpaid : workspace.Unpaid place) : place ∉ workspace.charges := by
  intro member
  rcases delivered place member with ⟨prompt, ⟨run, present, prepared⟩, carries⟩ | ⟨key, attempt, found, own, paid⟩
  · exact carries.filled (ungrounded run present prompt prepared)
  · exact unpaid.at found own paid

theorem Charged.charge (charged : workspace.Charged) {committed : Bool}
    (found : workspace.attempts.lookup key = some attempt) (stands : attempt.point = .charging context)
    (minds : workspace.Minds settings attempt (.done committed)) :
    (workspace.charge settings key attempt context committed).Charged := by
  have filled : context.block ≠ "" := by
    have formed := charged.formed.at found
    rwa [stands] at formed
  have unpaid : ∀ former ∈ workspace.attempts.lookup key, ¬former.point.Paid := by
    intro former also
    rw [found] at also
    rw [← Option.some.inj also, stands]
    exact not_false
  unfold Workspace.charge
  dsimp only
  split
  · rename_i affords
    simp only [Minds, stands, affords.1] at minds
    obtain ⟨ungrounded, idle⟩ := minds affords.2
    have fresh := uncharged charged.delivered ungrounded idle
    have stored : (workspace.move key attempt (.storing context)).Charged :=
      charged.move key attempt trivial fun former also paid => absurd paid (unpaid former also)
    refine { stored with once := fun place => ?_, delivered := fun place member => ?_ }
    · rw [List.count_append, List.count_singleton]
      split
      · rename_i same
        rw [← beq_iff_eq.mp same, List.count_eq_zero.mpr fresh]
      · exact charged.once place
    · rcases List.mem_append.mp member with before | now
      · exact stored.delivered place before
      · refine Or.inr ⟨key, _, AList.lookup_insert _, ?_, filled⟩
        exact (List.mem_singleton.mp now).symm
  · exact charged.hand key attempt nofun fun former also paid => absurd paid (unpaid former also)

theorem Charged.savePrompt (charged : workspace.Charged) {prompt : PreparedPrompt} {paid : Bool}
    (found : workspace.attempts.lookup key = some attempt) (stands : attempt.point = .saving prompt paid)
    (minds : workspace.Minds settings attempt (.done true)) : (workspace.savePrompt key attempt prompt).Charged := by
  obtain ⟨filled, built⟩ : (paid = true → prompt.research.block ≠ "") ∧
      (prompt.research.block ≠ "" → prompt.Carries) := by
    have formed := charged.formed.at found
    rwa [stands] at formed
  simp only [Minds, stands] at minds
  obtain ⟨runs, replaces⟩ := minds
  have unpaid (free : paid = false) : ∀ former ∈ workspace.attempts.lookup key, ¬former.point.Paid := by
    intro former also
    rw [found] at also
    rw [← Option.some.inj also, stands, free]
    exact Bool.false_ne_true
  unfold Workspace.savePrompt
  split
  · rename_i none
    refine charged.leave key (unpaid ?_)
    by_contra pays
    obtain ⟨run, present, _⟩ := runs (Bool.eq_true_of_not_eq_false pays)
    rw [none] at present
    contradiction
  · rename_i run present
    split
    · refine {
        once := charged.once
        delivered := fun place member => ?_
        formed := charged.formed.erase key
        saved := fun place other holds full => ?_ }
      · by_cases full : place = attempt.run ∧ prompt.research.block ≠ ""
        · exact Or.inl ⟨prompt, (saved_set present).mpr (if_pos full.1 ▸ rfl), built full.2⟩
        · -- the job carries nothing for this run, so what is delivered to it is so by another one
          have other : place = attempt.run → paid = false ∧ workspace.Ungrounded place := by
            rintro rfl
            have empty : prompt.research.block = "" := by
              by_contra block
              exact full ⟨rfl, block⟩
            refine ⟨?_, replaces empty member⟩
            by_contra pays
            exact filled (Bool.eq_true_of_not_eq_false pays) empty
          rcases charged.delivered place member with ⟨saved, holds, carries⟩ | ⟨holder, former, held, own, pays⟩
          · refine Or.inl ⟨saved, (saved_set present).mpr ?_, carries⟩
            split
            · rename_i same
              obtain ⟨row, before, prepared⟩ := holds
              exact absurd ((other same).2 row before saved prepared) carries.filled
            · exact holds
          · refine Or.inr ⟨holder, former, (AList.lookup_erase_ne ?_).trans held, own, pays⟩
            rintro rfl
            obtain rfl : attempt = former := Option.some.inj (found.symm.trans held)
            exact unpaid (other own.symm).1 attempt found pays
      · have either := (saved_set present).mp holds
        split at either
        · rw [← either] at full ⊢
          exact built full
        · exact charged.saved place other either full
    · rename_i stopped
      refine charged.leave key (unpaid ?_)
      by_contra pays
      obtain ⟨row, also, going⟩ := runs (Bool.eq_true_of_not_eq_false pays)
      obtain rfl : run = row := Option.some.inj (present.symm.trans also)
      exact stopped going

theorem Charged.deliver (charged : workspace.Charged) (key place : Nat) :
    (workspace.deliver web settings key place).Charged := by
  unfold Workspace.deliver
  split
  · exact charged
  · split
    · rename_i free
      have none : ∀ former ∈ workspace.attempts.lookup key, False := by
        intro former found
        rw [AList.lookup_eq_none.mpr free.2] at found
        contradiction
      split
      · exact { charged with }
      · dsimp only
        split
        · exact charged.move key _ trivial fun former found => (none former found).elim
        · exact charged.hand key _ nofun fun former found => (none former found).elim
    · exact charged

theorem Charged.advance (charged : workspace.Charged) {outcome : Outcome}
    (found : workspace.attempts.lookup key = some attempt) (minds : workspace.Minds settings attempt outcome) :
    (workspace.advance web settings key attempt outcome).Charged := by
  have own {goes : Attempt → Prop} (kept : goes attempt) : ∀ former ∈ workspace.attempts.lookup key, goes former := by
    intro former also
    rw [found] at also
    rwa [← Option.some.inj also]
  have free {goes : Prop} (unpaid : ¬attempt.point.Paid) :
      ∀ former ∈ workspace.attempts.lookup key, former.point.Paid → former.run = attempt.run ∧ goes :=
    own fun paid => absurd paid unpaid
  have formed := charged.formed.at found
  unfold Workspace.advance
  split
  · rename_i stands
    have unpaid : ¬attempt.point.Paid := by rw [stands]; exact not_false
    unfold Workspace.readCache
    split
    · split
      · exact charged.hand key attempt nofun (free unpaid)
      · exact charged.move key attempt trivial (free unpaid)
    · exact charged.hand key attempt nofun (free unpaid)
  · rename_i stands
    have unpaid : ¬attempt.point.Paid := by rw [stands]; exact not_false
    unfold Workspace.checkQuota
    split
    · exact charged.move key attempt trivial (free unpaid)
    · exact charged.hand key attempt nofun (free unpaid)
  · rename_i stands
    have unpaid : ¬attempt.point.Paid := by rw [stands]; exact not_false
    unfold Workspace.checkBalance
    split
    · exact charged.move key attempt trivial (free unpaid)
    · exact charged.hand key attempt nofun (free unpaid)
  · rename_i stands
    have unpaid : ¬attempt.point.Paid := by rw [stands]; exact not_false
    unfold Workspace.consumeQuota
    dsimp only
    split
    · have handed : (workspace.hand key attempt .empty false).Charged := charged.hand key attempt nofun (free unpaid)
      exact { handed with }
    · have moved : (workspace.move key attempt (.requesting false)).Charged :=
        charged.move key attempt trivial (free unpaid)
      exact { moved with }
  · rename_i stands
    have unpaid : ¬attempt.point.Paid := by rw [stands]; exact not_false
    exact charged.hand key attempt nofun (free unpaid)
  · rename_i stands
    have unpaid : ¬attempt.point.Paid := by rw [stands]; exact not_false
    have called : ({ workspace with calls := workspace.calls ++ [workspace.today] } : Workspace).Charged :=
      { charged with }
    unfold Workspace.request
    dsimp only
    split
    · exact called.hand key attempt nofun (free unpaid)
    · split
      · exact called.hand key attempt nofun (free unpaid)
      · exact called.move key attempt trivial (free unpaid)
    · split
      · exact called.move key attempt trivial (free unpaid)
      · rename_i filled
        exact called.move key attempt filled (free unpaid)
  · rename_i stands
    exact charged.charge found stands minds
  · rename_i context _ stands
    have handed : (workspace.hand key attempt context (context.block ≠ "")).Charged :=
      charged.hand key attempt of_decide_eq_true (own fun paid => ⟨rfl, by rw [stands] at paid; exact decide_eq_true paid⟩)
    unfold Workspace.storeCache
    dsimp only
    split
    · exact { handed with }
    · exact handed
  · rename_i context paid front back stands
    refine charged.move key attempt ⟨?_, fun filled => ⟨filled, ?_⟩⟩ (own fun pays => ⟨rfl, ?_⟩)
    · rwa [stands] at formed
    · exact ⟨front.toList, back.toList, by simp⟩
    · rwa [stands] at pays
  · rename_i stands
    exact charged.savePrompt found stands minds
  · exact charged

theorem Charged.step (charged : workspace.Charged) (event : ResearchEvent)
    (careful : workspace.Careful web settings event) : (workspace.step web settings event).Charged := by
  cases event with
  | create run =>
      refine { charged with delivered := fun place member => ?_, saved := fun place prompt holds => ?_ }
      · exact (charged.delivered place member).imp_left fun ⟨prompt, holds, carries⟩ =>
          ⟨prompt, saved_create.mpr holds, carries⟩
      · exact charged.saved place prompt (saved_create.mp holds)
  | deliver key place => exact charged.deliver key place
  | work key outcome =>
      simp only [Workspace.step]
      split
      · exact charged
      · rename_i attempt found
        exact charged.advance found (careful attempt found)
  | fail key => exact charged.leave key careful
  | stop place =>
      refine { charged with delivered := fun other member => ?_, saved := fun other prompt holds => ?_ }
      · exact (charged.delivered other member).imp_left fun ⟨prompt, holds, carries⟩ =>
          ⟨prompt, saved_stop.mpr holds, carries⟩
      · exact charged.saved other prompt (saved_stop.mp holds)
  | midnight | setCache | setBalance => exact { charged with }

instance (place : Nat) : Decidable (workspace.Ungrounded place) := by
  unfold Ungrounded; infer_instance

instance (place : Nat) : Decidable (workspace.Unpaid place) := by
  unfold Unpaid; infer_instance

instance (outcome : Outcome) : Decidable (workspace.Minds settings attempt outcome) := by
  unfold Minds
  split <;> infer_instance

instance (event : ResearchEvent) : Decidable (workspace.Careful web settings event) := by
  unfold Careful
  split <;> infer_instance

theorem research_accounted (web : WebTexts) (settings : ResearchSettings) (events : List ResearchEvent)
    (careful : Along (step web settings) (Careful web settings) {} events) :
    (play (step web settings) {} events).Accounted settings := by
  have capped := careful.invariant (fun _ event capped careful => Capped.step capped event careful)
    ⟨by simp [Workers.count], by simp⟩
  have bounded := careful.invariant (fun _ event bounded careful => Bounded.step bounded event careful) {
    cached := by simp
    carried := Workers.all_empty
    saved := by simp [Saved]
    handed := by simp }
  have charged := careful.invariant (fun _ event charged careful => Charged.step charged event careful) {
    once := by simp
    delivered := by simp
    formed := Workers.all_empty
    saved := by simp [Saved] }
  exact {
    once := charged.once
    delivered := charged.delivered
    capped := fun day => (Nat.le_add_right _ _).trans ((capped.slots day).trans (capped.within day))
    handed := bounded.handed }

end Workspace

def sampleWeb : WebTexts where
  sanitizeText text := text
  isSafe _ := true
  sha256 text := text
  malformed _ := false

def sampleRun : StageGenerationRun := { stageType := "spec", name := "A", problemStatement := "B" }

def sampleResults : List BraveSnippet := [{ url := "https://a.b", title := "T", snippets := ["text"] }]

def sampleContext : ResearchContext where
  block := String.join [WebTexts.blockHeader, "\n- T\n  text\n"]
  sources := [{ url := "https://a.b", title := "T" }]

theorem length_join (parts : List (List Char)) :
    (String.join (parts.map String.ofList)).length = (parts.map List.length).sum := by
  simp [String.length_join, Function.comp_def]

set_option maxRecDepth 2000 in
theorem blockHeader_length : WebTexts.blockHeader.length = 382 := length_join [_, _, _, _]

theorem sampleContext_eq : sampleWeb.assembleBlock 12000 sampleResults = sampleContext := by
  have snippets : sampleWeb.safeSnippets { url := "https://a.b", title := "T", snippets := ["text"] } = ["text"] := by
    decide +kernel
  have title : sampleWeb.cleanTitle { url := "https://a.b", title := "T", snippets := ["text"] } = "T" := by
    decide +kernel
  have url : sampleWeb.safeHttpUrl "https://a.b" = "https://a.b" := by decide +kernel
  have entry : WebTexts.entry "T" ["text"] = "\n- T\n  text\n" := by decide +kernel
  have short : ¬12000 < 382 + "\n- T\n  text\n".length := by decide +kernel
  simp [WebTexts.assembleBlock, WebTexts.entries, sampleResults, snippets, title, url, entry, blockHeader_length, short,
    sampleContext]

namespace Workspace

variable {workspace : Workspace} {key : Nat} {attempt : Attempt}

def answered (workspace : Workspace) (key : Nat) (attempt : Attempt) : Workspace :=
  { workspace.move key attempt (.charging sampleContext) with calls := workspace.calls ++ [workspace.today] }

theorem step_answered (found : workspace.attempts.lookup key = some attempt)
    (stands : attempt.point = .requesting false) :
    workspace.step sampleWeb {} (.work key (.response (.answered sampleResults))) = workspace.answered key attempt := by
  have filled : sampleContext.block ≠ "" := by decide +kernel
  simp only [step, found, advance, stands, request, sampleContext_eq, if_neg filled]
  rfl

def asking (key run : Nat) : List ResearchEvent :=
  [.deliver key run, .work key (.done true), .work key (.done true), .work key (.done true), .work key (.counted true)]

def opening : List ResearchEvent := [.setBalance 5, .create sampleRun, .create sampleRun] ++ asking 0 0

def sampleAttempt : Attempt := { run := 0, cacheKey := "brave:ctx:spec:A. B", point := .requesting false }

theorem play_answered (rest : List ResearchEvent) :
    play (step sampleWeb {}) {} (opening ++ .work 0 (.response (.answered sampleResults)) :: rest) =
      play (step sampleWeb {}) ((play (step sampleWeb {}) {} opening).answered 0 sampleAttempt) rest := by
  have found : (play (step sampleWeb {}) {} opening).attempts.lookup 0 = some sampleAttempt := by decide +kernel
  rw [play_append, play_cons, step_answered found rfl]

def finishing : List ResearchEvent :=
  [.work 0 (.done true), .work 0 (.done true), .work 0 (.built "Before " " after"), .work 0 (.done true), .deliver 1 1,
    .work 1 (.done true)]

theorem research_accounted_sample : (play (step sampleWeb {}) {}
    (opening ++ .work 0 (.response (.answered sampleResults)) :: finishing)).Accounted {} := by
  refine research_accounted sampleWeb {} _ (along_append.mpr ⟨by decide +kernel, by decide +kernel, ?_⟩)
  have found : (play (step sampleWeb {}) {} opening).attempts.lookup 0 = some sampleAttempt := by decide +kernel
  rw [step_answered found rfl]
  decide +kernel

def raced : List ResearchEvent :=
  [.setBalance 5, .create sampleRun, .create sampleRun, .deliver 0 0, .deliver 1 1] ++
    [0, 1].flatMap (fun key => [.work key (.done true), .work key (.done true), .work key (.done true)]) ++
    [0, 1].flatMap fun key => [.work key (.counted true), .work key (.response .failed)]

def retried : List ResearchEvent :=
  opening ++ [.work 0 (.response .retryable), .work 0 (.response .failed)]

def recharged : List ResearchEvent := [.work 0 (.done true), .fail 0] ++ asking 1 0

def forsaken : List ResearchEvent := [.work 0 (.done true), .fail 0, .stop 0]

def outgrown : List ResearchEvent :=
  [.setCache "brave:ctx:spec:A. B" (some (.text "longer")), .create sampleRun, .deliver 0 0, .work 0 (.done true)]

theorem research_unaccounted :
    ¬(play (step sampleWeb { braveMaxCallsPerWorkspacePerDay := 1 }) {} raced).Accounted
        { braveMaxCallsPerWorkspacePerDay := 1 } ∧
      ¬(play (step sampleWeb { braveMaxCallsPerWorkspacePerDay := 1 }) {} retried).Accounted
        { braveMaxCallsPerWorkspacePerDay := 1 } ∧
      ¬(play (step sampleWeb {}) {} (opening ++ .work 0 (.response (.answered sampleResults)) ::
        (recharged ++ [.work 1 (.response (.answered sampleResults)), .work 1 (.done true)]))).Accounted {} ∧
      ¬(play (step sampleWeb {}) {} (opening ++ .work 0 (.response (.answered sampleResults)) :: forsaken)).Accounted
        {} ∧
      ¬(play (step sampleWeb { braveMaxContextChars := 5 }) {} outgrown).Accounted { braveMaxContextChars := 5 } := by
  refine ⟨fun accounted => ?_, fun accounted => ?_, fun accounted => ?_, fun accounted => ?_, fun accounted => ?_⟩
  · have capped := accounted.capped 0
    revert capped
    decide +kernel
  · have capped := accounted.capped 0
    revert capped
    decide +kernel
  · have once := accounted.once 0
    have found : (play (step sampleWeb {}) ((play (step sampleWeb {}) {} opening).answered 0 sampleAttempt)
        recharged).attempts.lookup 1 = some sampleAttempt := by decide +kernel
    rw [play_answered, play_append, play_cons, step_answered found rfl] at once
    revert once
    decide +kernel
  · rw [play_answered] at accounted
    have free := @uncharged _ 0 accounted.delivered (by decide +kernel) (by decide +kernel)
    revert free
    decide +kernel
  · have fits := accounted.handed { block := "longer" } (by decide +kernel)
    have bounded := fits.bounded
    revert bounded
    decide +kernel

end Workspace

end Thought2Build.Research
