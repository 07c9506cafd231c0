import Thought2Build.Integrations.InstallCallbackCore
import Thought2Build.Library.Rows

/-! When install links stay in the browsers that asked for them and no two callbacks meet between reading
and deleting a state, every state is accepted once and every binding is of the person who authorised it. -/

namespace Thought2Build.Integrations

open Histories

namespace CallbackPhase

def deletes : CallbackPhase → Bool
  | .deleteIdentity .. | .deleteInstall _ => true
  | _ => false

def user? : CallbackPhase → Option Nat
  | .deleteIdentity user _ | .deleteInstall user | .mint user _ | .verify user _ => some user
  | _ => none

end CallbackPhase

namespace InstallWorld

variable {world later : InstallWorld}

def hits (world : InstallWorld) (state : Nat) : CallbackPhase → Bool
  | .readIdentity => (world.identityKeys state).isSome
  | .readInstall => (world.installKeys state).isSome
  | _ => false

def flowOf (world : InstallWorld) (state : Nat) : Option InstallFlow := world.flows[state]?

def issued (world : InstallWorld) (code : Nat) : Option IdentityCode := world.codes[code]?

def callback (world : InstallWorld) (position : Nat) : Option SetupCallback := world.callbacks[position]?

/-- A link is followed in the browser whose user asked for it; a code arrives with the state that GitHub has
redirected it with, or from the flow's own browser; a deletion goes through, and no state is read while
another callback is to delete it. -/
def Careful (world : InstallWorld) : InstallEvent → Prop
  | .start .. | .expire _ => True
  | .authorize browser link => ∀ state ∈ link, ∀ flow ∈ world.flowOf state, flow.browser = browser
  | .call given _ _ shown =>
      ∀ state ∈ given, ∀ flow ∈ world.flowOf state, ∀ code ∈ shown, ∀ issued ∈ world.issued code,
        issued.state = some state ∨ issued.browser = flow.browser
  | .advance position succeeds =>
      ∀ callback ∈ world.callback position, ∀ state ∈ callback.query.state,
        (callback.phase.deletes → succeeds) ∧
        (world.hits state callback.phase →
          ∀ other ∈ world.callbacks, other.query.state = some state → other.phase.deletes = false)

instance (world : InstallWorld) : DecidablePred world.Careful
  | .start .. | .expire _ => by unfold Careful; infer_instance
  | .authorize .. => by unfold Careful; infer_instance
  | .call .. => by unfold Careful; infer_instance
  | .advance .. => by unfold Careful; infer_instance

structure Grown (world later : InstallWorld) : Prop where
  flows : ∀ state flow, world.flowOf state = some flow → later.flowOf state = some flow
  codes : ∀ code issued, world.issued code = some issued →
    ∃ kept, later.issued code = some kept ∧ kept.browser = issued.browser

def StartedBy (world : InstallWorld) (state user : Nat) : Prop :=
  ∃ flow, world.flowOf state = some flow ∧ flow.user = user

def SameBrowser (world : InstallWorld) (state code : Nat) : Prop :=
  ∃ flow issued, world.flowOf state = some flow ∧ world.issued code = some issued ∧
    issued.browser = flow.browser

theorem StartedBy.grown {state user : Nat} (started : world.StartedBy state user)
    (grown : Grown world later) : later.StartedBy state user := by
  obtain ⟨flow, found, same⟩ := started
  exact ⟨flow, grown.flows state flow found, same⟩

theorem SameBrowser.grown {state code : Nat} (same : world.SameBrowser state code)
    (grown : Grown world later) : later.SameBrowser state code := by
  obtain ⟨flow, issued, found, given, equal⟩ := same
  obtain ⟨kept, still, browser⟩ := grown.codes code issued given
  exact ⟨flow, kept, grown.flows state flow found, still, browser.trans equal⟩

theorem Grown.append {world later : InstallWorld} (added : List InstallFlow)
    (flows : later.flows = world.flows ++ added) (codes : later.codes = world.codes) : Grown world later := by
  constructor
  · intro state flow found
    have bound := (List.getElem?_eq_some_iff.mp found).1
    rw [flowOf, flows, List.getElem?_append_left bound]
    exact found
  · intro code issued found
    exact ⟨issued, by rw [InstallWorld.issued, codes]; exact found, rfl⟩

theorem Grown.same (flows : later.flows = world.flows) (codes : later.codes = world.codes) :
    Grown world later := Grown.append [] (by simp [flows]) codes

/-! Whose flows the keys, callbacks and bindings belong to -/

structure Backed (world : InstallWorld) (callback : SetupCallback) : Prop where
  acting : ∀ user, callback.phase.user? = some user →
    ∃ state, callback.query.state = some state ∧ world.StartedBy state user
  presented : ∀ state code, callback.query.state = some state → callback.query.code = some code →
    world.SameBrowser state code

structure Honest (world : InstallWorld) : Prop where
  installKey : ∀ state user, world.installKeys state = some user → world.StartedBy state user
  identityKey : ∀ state user installationId, world.identityKeys state = some (user, installationId) →
    world.StartedBy state user
  redirected : ∀ code issued state, world.issued code = some issued → issued.state = some state →
    ∃ flow, world.flowOf state = some flow ∧ flow.browser = issued.browser
  backed : ∀ callback ∈ world.callbacks, world.Backed callback
  bound : ∀ binding ∈ world.bindings,
    world.StartedBy binding.state binding.user ∧ world.SameBrowser binding.state binding.code

theorem Backed.grown {callback : SetupCallback} (backed : world.Backed callback) (grown : Grown world later) :
    later.Backed callback := by
  constructor
  · intro user acts
    obtain ⟨state, given, started⟩ := backed.acting user acts
    exact ⟨state, given, started.grown grown⟩
  · intro state code given shown
    exact (backed.presented state code given shown).grown grown

theorem Honest.grown (honest : Honest world) (grown : Grown world later)
    (installKey : ∀ state user, later.installKeys state = some user →
      world.installKeys state = some user ∨ later.StartedBy state user)
    (identityKey : ∀ state user installationId, later.identityKeys state = some (user, installationId) →
      world.identityKeys state = some (user, installationId) ∨ later.StartedBy state user)
    (redirected : ∀ code issued state, later.issued code = some issued → issued.state = some state →
      ∃ flow, later.flowOf state = some flow ∧ flow.browser = issued.browser)
    (backed : ∀ callback ∈ later.callbacks, callback ∈ world.callbacks ∨ later.Backed callback)
    (bound : ∀ binding ∈ later.bindings, binding ∈ world.bindings ∨
      later.StartedBy binding.state binding.user ∧ later.SameBrowser binding.state binding.code) :
    Honest later where
  installKey state user key := by
    rcases installKey state user key with old | started
    · exact (honest.installKey state user old).grown grown
    · exact started
  identityKey state user installationId key := by
    rcases identityKey state user installationId key with old | started
    · exact (honest.identityKey state user installationId old).grown grown
    · exact started
  redirected := redirected
  backed callback member := by
    rcases backed callback member with old | new
    · exact (honest.backed callback old).grown grown
    · exact new
  bound binding member := by
    rcases bound binding member with old | new
    · obtain ⟨started, same⟩ := honest.bound binding old
      exact ⟨started.grown grown, same.grown grown⟩
    · exact new

theorem Honest.redirected_grown (honest : Honest world) (grown : Grown world later)
    (codes : later.codes = world.codes) (code : Nat) (issued : IdentityCode) (state : Nat)
    (found : later.issued code = some issued) (given : issued.state = some state) :
    ∃ flow, later.flowOf state = some flow ∧ flow.browser = issued.browser := by
  rw [InstallWorld.issued, codes] at found
  obtain ⟨flow, known, same⟩ := honest.redirected code issued state found given
  exact ⟨flow, grown.flows state flow known, same⟩

variable {position state user installationId : Nat} {callback : SetupCallback} {next : CallbackPhase}

theorem Honest.goTo (honest : Honest world) (found : world.callback position = some callback)
    (acting : ∀ user, next.user? = some user →
      ∃ state, callback.query.state = some state ∧ world.StartedBy state user) :
    Honest (world.goTo position next) where
  installKey := honest.installKey
  identityKey := honest.identityKey
  redirected := honest.redirected
  backed changed member := by
    rcases Rows.mem_modify member with old | ⟨former, held, rfl⟩
    · exact (honest.backed changed old).grown (Grown.same rfl rfl)
    · obtain rfl : former = callback := Option.some.inj (held.symm.trans found)
      exact ⟨acting, (honest.backed former (List.mem_of_getElem? found)).presented⟩
  bound := honest.bound

theorem Honest.forget (honest : Honest world) {installKeys : Nat → Option Nat}
    {identityKeys : Nat → Option (Nat × Nat)} (accepted : List Nat)
    (fewerInstall : ∀ state user, installKeys state = some user → world.installKeys state = some user)
    (fewerIdentity : ∀ state key, identityKeys state = some key → world.identityKeys state = some key) :
    Honest { world with installKeys, identityKeys, accepted } where
  installKey state user key := honest.installKey state user (fewerInstall state user key)
  identityKey state user installationId key :=
    honest.identityKey state user installationId (fewerIdentity state _ key)
  redirected := honest.redirected
  backed callback member := (honest.backed callback member).grown (Grown.same rfl rfl)
  bound := honest.bound

theorem afterInstallState_user {identityEnabled : Bool} {query : SetupQuery} {user other : Nat}
    (acts : (afterInstallState identityEnabled query user).user? = some other) : user = other := by
  unfold afterInstallState at acts
  split at acts
  · simp [CallbackPhase.user?] at acts
  · split at acts
    · simp [CallbackPhase.user?] at acts
    · split at acts <;> simpa [CallbackPhase.user?] using acts

theorem callbacks_completeVerifiedInstall (world : InstallWorld) (query : SetupQuery)
    (state user installationId : Nat) (shown : Bool) :
    (world.completeVerifiedInstall query state user installationId shown).callbacks = world.callbacks := by
  unfold completeVerifiedInstall
  split
  · rfl
  · split
    · split <;> rfl
    · rfl

theorem row_of_filter {α : Type} {rows : List α} {given : Option Nat} {id : Nat}
    (kept : given.filter (· < rows.length) = some id) : given = some id ∧ ∃ row, rows[id]? = some row := by
  obtain ⟨same, bound⟩ := Option.filter_eq_some_iff.mp kept
  have bound : id < rows.length := by simpa using bound
  exact ⟨same, rows[id], List.getElem?_eq_getElem bound⟩

theorem update_none {α : Type} {keys : Nat → Option α} {erased state : Nat} {key : α}
    (left : Function.update keys erased none state = some key) : keys state = some key := by
  by_cases same : state = erased
  · simp [same] at left
  · simpa [Function.update_of_ne same] using left

theorem Honest.buildInstallUrl (honest : Honest world) (user browser : Nat) :
    Honest (world.buildInstallUrl user browser) := by
  have grown : Grown world (world.buildInstallUrl user browser) := Grown.append [⟨user, browser⟩] rfl rfl
  refine honest.grown grown ?_ (fun _ _ _ => Or.inl) (honest.redirected_grown grown rfl)
    (fun _ => Or.inl) (fun _ => Or.inl)
  intro state owner key
  by_cases new : state = world.flows.length
  · subst new
    have same : user = owner := by simpa [InstallWorld.buildInstallUrl] using key
    exact Or.inr ⟨⟨user, browser⟩, by simp [flowOf, InstallWorld.buildInstallUrl], same⟩
  · exact Or.inl (by simpa [InstallWorld.buildInstallUrl, Function.update_of_ne new] using key)

theorem Honest.authorize (honest : Honest world) {browser : Nat} {link : Option Nat}
    (careful : world.Careful (.authorize browser link)) (identityEnabled : Bool) :
    Honest (world.step identityEnabled (.authorize browser link)) := by
  have grown : Grown world (world.step identityEnabled (.authorize browser link)) := by
    refine ⟨fun _ _ found => found, ?_⟩
    intro code issued found
    have bound := (List.getElem?_eq_some_iff.mp found).1
    exact ⟨issued, by rw [InstallWorld.issued, step, List.getElem?_append_left bound]; exact found, rfl⟩
  refine honest.grown grown (fun _ _ => Or.inl) (fun _ _ _ => Or.inl) ?_ (fun _ => Or.inl) (fun _ => Or.inl)
  intro code issued state found given
  rcases Rows.getElem?_concat found with old | ⟨_, rfl⟩
  · exact honest.redirected code issued state old given
  · obtain ⟨named, flow, known⟩ := row_of_filter given
    exact ⟨flow, known, careful state named flow known⟩

theorem Honest.call (honest : Honest world) {given installationId shown : Option Nat} {requested : Bool}
    (careful : world.Careful (.call given installationId requested shown)) :
    Honest (world.call given installationId requested shown) := by
  refine honest.grown (Grown.same rfl rfl) (fun _ _ => Or.inl) (fun _ _ _ => Or.inl) honest.redirected ?_
    (fun _ => Or.inl)
  intro callback member
  rcases List.mem_append.mp member with old | new
  · exact Or.inl old
  · obtain rfl := List.mem_singleton.mp new
    refine Or.inr ⟨by simp [CallbackPhase.user?], ?_⟩
    intro state code named coded
    obtain ⟨named, flow, known⟩ := row_of_filter named
    obtain ⟨coded, issued, sent⟩ := row_of_filter coded
    rcases careful state named flow known code coded issued sent with redirected | same
    · obtain ⟨flow, found, same⟩ := honest.redirected code issued state sent redirected
      exact ⟨flow, issued, found, sent, same.symm⟩
    · exact ⟨flow, issued, known, sent, same⟩

theorem Honest.expire (honest : Honest world) (state : Nat) (identityEnabled : Bool) :
    Honest (world.step identityEnabled (.expire state)) :=
  honest.forget world.accepted (fun _ _ => update_none) (fun _ _ => update_none)

theorem Honest.buildIdentityVerifyUrl (honest : Honest world) (owned : world.StartedBy state user) :
    Honest (world.buildIdentityVerifyUrl state user installationId) := by
  have grown : Grown world (world.buildIdentityVerifyUrl state user installationId) :=
    Grown.append world.flows[state]?.toList rfl rfl
  refine honest.grown grown (fun _ _ => Or.inl) ?_ (honest.redirected_grown grown rfl)
    (fun _ => Or.inl) (fun _ => Or.inl)
  intro fresh owner installation key
  by_cases new : fresh = world.flows.length
  · subst new
    obtain ⟨flow, known, started⟩ := owned
    obtain ⟨same, _⟩ : user = owner ∧ installationId = installation := by
      simpa [InstallWorld.buildIdentityVerifyUrl] using key
    refine Or.inr ⟨flow, ?_, started.trans same⟩
    simp [flowOf, InstallWorld.buildIdentityVerifyUrl, show world.flows[state]? = some flow from known]
  · exact Or.inl (by simpa [InstallWorld.buildIdentityVerifyUrl, Function.update_of_ne new] using key)

theorem Grown.exchange (world : InstallWorld) (code : Nat) :
    Grown world { world with codes := world.codes.modify code ({ · with used := true }) } := by
  refine ⟨fun _ _ found => found, ?_⟩
  intro other issued found
  simp only [InstallWorld.issued, List.getElem?_modify]
  rw [show world.codes[other]? = some issued from found]
  split
  · exact ⟨_, rfl, rfl⟩
  · exact ⟨_, rfl, rfl⟩

theorem Honest.exchange (honest : Honest world) (code : Nat) :
    Honest { world with codes := world.codes.modify code ({ · with used := true }) } := by
  refine honest.grown (Grown.exchange world code) (fun _ _ => Or.inl) (fun _ _ _ => Or.inl) ?_
    (fun _ => Or.inl) (fun _ => Or.inl)
  intro other issued state found given
  rw [InstallWorld.issued, List.getElem?_modify] at found
  split at found
  · obtain ⟨former, held, rfl⟩ := Option.map_eq_some_iff.mp found
    exact honest.redirected other former state held given
  · exact honest.redirected other issued state (by simpa [InstallWorld.issued] using found) given

theorem Honest.completeVerifiedInstall (honest : Honest world) (backed : world.Backed callback)
    (given : callback.query.state = some state) (owned : world.StartedBy state user) (shown : Bool) :
    Honest (world.completeVerifiedInstall callback.query state user installationId shown) := by
  unfold InstallWorld.completeVerifiedInstall
  split
  · exact honest
  · rename_i code coded
    have grown := Grown.exchange world code
    have exchanged := honest.exchange code
    split
    · split
      · refine exchanged.grown (Grown.same rfl rfl) (fun _ _ => Or.inl) (fun _ _ _ => Or.inl)
          exchanged.redirected (fun _ => Or.inl) ?_
        intro binding member
        rcases List.mem_append.mp member with old | new
        · exact Or.inl old
        · obtain rfl := List.mem_singleton.mp new
          have started := owned.grown grown
          have same := (backed.presented state code given coded).grown grown
          exact Or.inr ⟨started, same⟩
      · exact exchanged
    · exact honest

theorem Honest.command (honest : Honest world) (found : world.callback position = some callback)
    (given : callback.query.state = some state) (identityEnabled succeeds : Bool) :
    Honest (world.command identityEnabled position callback.query state succeeds callback.phase) := by
  have backed := honest.backed callback (List.mem_of_getElem? found)
  have owned : ∀ user, callback.phase.user? = some user → world.StartedBy state user := by
    intro user acts
    obtain ⟨other, same, started⟩ := backed.acting user acts
    exact Option.some.inj (same.symm.trans given) ▸ started
  cases phase : callback.phase with
  | readIdentity =>
      simp only [InstallWorld.command]
      split
      · exact honest.goTo found (by simp [CallbackPhase.user?])
      · rename_i user installationId key
        refine (honest.forget _ (fun _ _ => id) (fun _ _ => id)).goTo found ?_
        intro other same
        obtain rfl : user = other := by simpa [CallbackPhase.user?] using same
        exact ⟨state, given, honest.identityKey state user installationId key⟩
  | deleteIdentity user installationId =>
      have fewer : ∀ other key, (if succeeds then Function.update world.identityKeys state none
          else world.identityKeys) other = some key → world.identityKeys other = some key := by
        intro other key
        split
        · exact update_none
        · exact id
      refine (honest.forget world.accepted (fun _ _ => id) fewer).goTo found ?_
      intro other same
      obtain rfl : user = other := by simpa [CallbackPhase.user?] using same
      exact ⟨state, given, owned user (by rw [phase, CallbackPhase.user?])⟩
  | readInstall =>
      simp only [InstallWorld.command]
      split
      · exact honest.goTo found (by simp [CallbackPhase.user?])
      · rename_i user key
        refine (honest.forget _ (fun _ _ => id) (fun _ _ => id)).goTo found ?_
        intro other same
        obtain rfl : user = other := by simpa [CallbackPhase.user?] using same
        exact ⟨state, given, honest.installKey state user key⟩
  | deleteInstall user =>
      have fewer : ∀ other key, (if succeeds then Function.update world.installKeys state none
          else world.installKeys) other = some key → world.installKeys other = some key := by
        intro other key
        split
        · exact update_none
        · exact id
      refine (honest.forget world.accepted fewer (fun _ _ => id)).goTo found ?_
      intro other same
      have same := afterInstallState_user same
      exact ⟨state, given, owned other (by rw [phase, CallbackPhase.user?, same])⟩
  | mint user installationId =>
      have owned := owned user (by rw [phase, CallbackPhase.user?])
      exact (honest.buildIdentityVerifyUrl owned).goTo found (by simp [CallbackPhase.user?])
  | verify user installationId =>
      have owned := owned user (by rw [phase, CallbackPhase.user?])
      have still : (world.completeVerifiedInstall callback.query state user installationId succeeds).callback
          position = some callback := by
        rw [← found, InstallWorld.callback, callbacks_completeVerifiedInstall]
        rfl
      exact (honest.completeVerifiedInstall backed given owned succeeds).goTo still
        (by simp [CallbackPhase.user?])
  | finished => exact honest

theorem Honest.step (honest : Honest world) {event : InstallEvent} (careful : world.Careful event)
    (identityEnabled : Bool) : Honest (world.step identityEnabled event) := by
  cases event with
  | start user browser => exact honest.buildInstallUrl user browser
  | authorize browser link => exact honest.authorize careful identityEnabled
  | call given installationId requested shown => exact honest.call careful
  | expire state => exact honest.expire state identityEnabled
  | advance position succeeds =>
      simp only [InstallWorld.step, advance]
      split
      · exact honest
      · rename_i callback found
        split
        · exact honest.goTo found (by simp [CallbackPhase.user?])
        · rename_i state given
          exact honest.command found given identityEnabled succeeds

def HasRead (world : InstallWorld) (state : Nat) : CallbackPhase → Prop
  | .deleteIdentity .. => world.installKeys state = none
  | .deleteInstall _ => world.identityKeys state = none
  | _ => True

def Spent (world : InstallWorld) (state : Nat) : Prop :=
  (world.installKeys state = none ∧ world.identityKeys state = none) ∨
    ∃ callback ∈ world.callbacks, callback.query.state = some state ∧ callback.phase.deletes = true

structure SingleUse (world : InstallWorld) : Prop where
  once : world.accepted.Nodup
  spent : ∀ state ∈ world.accepted, world.Spent state
  minted : ∀ state ∈ world.accepted, state < world.flows.length
  oneKey : ∀ state, world.installKeys state = none ∨ world.identityKeys state = none
  unissued : ∀ state, world.flows.length ≤ state →
    world.installKeys state = none ∧ world.identityKeys state = none
  named : ∀ callback ∈ world.callbacks, ∀ state, callback.query.state = some state →
    state < world.flows.length ∧ world.HasRead state callback.phase

theorem HasRead.fewer {phase : CallbackPhase} (hasRead : world.HasRead state phase)
    (install : world.installKeys state = none → later.installKeys state = none)
    (identity : world.identityKeys state = none → later.identityKeys state = none) :
    later.HasRead state phase := by
  cases phase with
  | deleteIdentity => exact install hasRead
  | deleteInstall => exact identity hasRead
  | _ => trivial

theorem Spent.fewer (spent : world.Spent state) (callbacks : later.callbacks = world.callbacks)
    (install : world.installKeys state = none → later.installKeys state = none)
    (identity : world.identityKeys state = none → later.identityKeys state = none) :
    later.Spent state := by
  rcases spent with ⟨noInstall, noIdentity⟩ | ⟨callback, member, given, deletes⟩
  · exact Or.inl ⟨install noInstall, identity noIdentity⟩
  · exact Or.inr ⟨callback, callbacks ▸ member, given, deletes⟩

theorem SingleUse.grown (single : SingleUse world) (accepted : later.accepted = world.accepted)
    (callbacks : later.callbacks = world.callbacks) (longer : world.flows.length ≤ later.flows.length)
    (install : ∀ state, state < world.flows.length → world.installKeys state = none →
      later.installKeys state = none)
    (identity : ∀ state, state < world.flows.length → world.identityKeys state = none →
      later.identityKeys state = none)
    (oneKey : ∀ state, world.flows.length ≤ state →
      later.installKeys state = none ∨ later.identityKeys state = none)
    (unissued : ∀ state, later.flows.length ≤ state →
      later.installKeys state = none ∧ later.identityKeys state = none) : SingleUse later where
  once := accepted ▸ single.once
  spent state member := by
    rw [accepted] at member
    have bound := single.minted state member
    exact (single.spent state member).fewer callbacks (install state bound) (identity state bound)
  minted state member := by
    have bound := single.minted state (accepted ▸ member)
    omega
  oneKey state := by
    rcases Nat.lt_or_ge state world.flows.length with old | new
    · exact (single.oneKey state).imp (install state old) (identity state old)
    · exact oneKey state new
  unissued := unissued
  named callback member state given := by
    obtain ⟨bound, hasRead⟩ := single.named callback (callbacks ▸ member) state given
    exact ⟨by omega, hasRead.fewer (install state bound) (identity state bound)⟩

theorem SingleUse.forget (single : SingleUse world) {installKeys : Nat → Option Nat}
    {identityKeys : Nat → Option (Nat × Nat)}
    (install : ∀ state, world.installKeys state = none → installKeys state = none)
    (identity : ∀ state, world.identityKeys state = none → identityKeys state = none) :
    SingleUse { world with installKeys, identityKeys } := by
  refine single.grown rfl rfl (Nat.le_refl _) (fun state _ => install state) (fun state _ => identity state)
    (fun state _ => (single.oneKey state).imp (install state) (identity state)) ?_
  intro state new
  exact (single.unissued state new).imp (install state) (identity state)

theorem Spent.goTo {other : Nat} (spent : world.Spent other)
    (found : world.callback position = some callback)
    (apart : callback.query.state = some other → callback.phase.deletes = false) :
    (world.goTo position next).Spent other := by
  rcases spent with gone | ⟨deleter, member, given, deletes⟩
  · exact Or.inl gone
  · refine Or.inr ⟨deleter, Rows.mem_modify_of_ne member found ?_, given, deletes⟩
    rintro rfl
    simp [apart given] at deletes

theorem named_goTo {flows : Nat}
    (named : ∀ callback ∈ world.callbacks, ∀ state, callback.query.state = some state →
      state < flows ∧ world.HasRead state callback.phase)
    (found : world.callback position = some callback)
    (hasRead : ∀ state, callback.query.state = some state → world.HasRead state next) :
    ∀ changed ∈ (world.goTo position next).callbacks, ∀ state, changed.query.state = some state →
      state < flows ∧ (world.goTo position next).HasRead state changed.phase := by
  intro changed member state given
  rcases Rows.mem_modify member with old | ⟨former, held, rfl⟩
  · obtain ⟨bound, read⟩ := named changed old state given
    exact ⟨bound, read.fewer id id⟩
  · obtain rfl : former = callback := Option.some.inj (held.symm.trans found)
    obtain ⟨bound, _⟩ := named former (List.mem_of_getElem? found) state given
    exact ⟨bound, (hasRead state given).fewer id id⟩

theorem SingleUse.goTo (single : SingleUse world) (found : world.callback position = some callback)
    (quiet : ∀ state, callback.query.state = some state → callback.phase.deletes = false)
    (hasRead : ∀ state, callback.query.state = some state → world.HasRead state next) :
    SingleUse (world.goTo position next) where
  once := single.once
  spent state member := (single.spent state member).goTo found (quiet state)
  minted := single.minted
  oneKey := single.oneKey
  unissued := single.unissued
  named := named_goTo single.named found hasRead

theorem SingleUse.accept (single : SingleUse world) (found : world.callback position = some callback)
    (quiet : callback.phase.deletes = false) (given : callback.query.state = some state)
    (fresh : state ∉ world.accepted) (deletes : next.deletes = true) (hasRead : world.HasRead state next) :
    SingleUse ({ world with accepted := world.accepted ++ [state] }.goTo position next) where
  once := List.nodup_append.mpr ⟨single.once, by simp, by
    intro old member new same
    rw [List.mem_singleton.mp same]
    exact ne_of_mem_of_not_mem member fresh⟩
  spent other member := by
    rcases List.mem_append.mp member with old | new
    · exact (single.spent other old).goTo found fun _ => quiet
    · obtain rfl := List.mem_singleton.mp new
      refine Or.inr ⟨{ callback with phase := next }, ?_, given, deletes⟩
      refine List.mem_of_getElem? (i := position) ?_
      simp [InstallWorld.goTo, show world.callbacks[position]? = some callback from found]
  minted other member := by
    rcases List.mem_append.mp member with old | new
    · exact single.minted other old
    · obtain rfl := List.mem_singleton.mp new
      exact (single.named callback (List.mem_of_getElem? found) other given).1
  oneKey := single.oneKey
  unissued := single.unissued
  named := named_goTo single.named found fun other also => by
    obtain rfl := Option.some.inj (also.symm.trans given)
    exact hasRead

theorem SingleUse.delete (single : SingleUse world) (found : world.callback position = some callback)
    (given : callback.query.state = some state) (quiet : next.deletes = false)
    (gone : world.installKeys state = none ∧ world.identityKeys state = none) :
    SingleUse (world.goTo position next) where
  once := single.once
  spent other member := by
    by_cases same : other = state
    · subst same
      exact Or.inl gone
    · refine (single.spent other member).goTo found fun also => ?_
      exact absurd (Option.some.inj (also.symm.trans given)) same
  minted := single.minted
  oneKey := single.oneKey
  unissued := single.unissued
  named := named_goTo single.named found fun other _ => by
    cases next with
    | deleteIdentity | deleteInstall => simp [CallbackPhase.deletes] at quiet
    | _ => trivial

theorem update_some {α : Type} {keys : Nat → Option α} {fresh state : Nat} {key : α}
    (old : state ≠ fresh) (none : keys state = none) :
    Function.update keys fresh (some key) state = .none := by
  rw [Function.update_of_ne old]
  exact none

theorem keeps_none {α : Type} {keys : Nat → Option α} {erased state : Nat} (gone : keys state = none) :
    Function.update keys erased none state = none := by
  by_cases same : state = erased
  · simp [same]
  · rwa [Function.update_of_ne same]

theorem SingleUse.buildInstallUrl (single : SingleUse world) (user browser : Nat) :
    SingleUse (world.buildInstallUrl user browser) := by
  have length : (world.buildInstallUrl user browser).flows.length = world.flows.length + 1 := by
    simp [InstallWorld.buildInstallUrl]
  refine single.grown rfl rfl (by omega) ?_ (fun _ _ => id) ?_ ?_
  · intro state old gone
    exact update_some (by omega) gone
  · intro state new
    exact Or.inr (single.unissued state new).2
  · intro state new
    obtain ⟨install, identity⟩ := single.unissued state (by omega)
    exact ⟨update_some (by omega) install, identity⟩

theorem SingleUse.buildIdentityVerifyUrl (single : SingleUse world) (minted : state < world.flows.length) :
    SingleUse (world.buildIdentityVerifyUrl state user installationId) := by
  have length : (world.buildIdentityVerifyUrl state user installationId).flows.length =
      world.flows.length + 1 := by
    simp [InstallWorld.buildIdentityVerifyUrl, List.getElem?_eq_getElem minted]
  refine single.grown rfl rfl (by omega) (fun _ _ => id) ?_ ?_ ?_
  · intro state old gone
    exact update_some (by omega) gone
  · intro state new
    exact Or.inl (single.unissued state new).1
  · intro state new
    obtain ⟨install, identity⟩ := single.unissued state (by omega)
    exact ⟨install, update_some (by omega) identity⟩

theorem SingleUse.call (single : SingleUse world) (given installationId shown : Option Nat) (requested : Bool) :
    SingleUse (world.call given installationId requested shown) where
  once := single.once
  spent state member := by
    rcases single.spent state member with gone | ⟨deleter, inside, named, deletes⟩
    · exact Or.inl gone
    · exact Or.inr ⟨deleter, List.mem_append_left _ inside, named, deletes⟩
  minted := single.minted
  oneKey := single.oneKey
  unissued := single.unissued
  named callback member state given := by
    rcases List.mem_append.mp member with old | new
    · obtain ⟨bound, hasRead⟩ := single.named callback old state given
      exact ⟨bound, hasRead.fewer id id⟩
    · obtain rfl := List.mem_singleton.mp new
      obtain ⟨_, flow, known⟩ := row_of_filter given
      exact ⟨(List.getElem?_eq_some_iff.mp known).1, trivial⟩

theorem SingleUse.completeVerifiedInstall (single : SingleUse world) (query : SetupQuery) (shown : Bool) :
    SingleUse (world.completeVerifiedInstall query state user installationId shown) := by
  have kept : ∀ {later : InstallWorld}, later.accepted = world.accepted → later.callbacks = world.callbacks →
      later.flows = world.flows → later.installKeys = world.installKeys →
      later.identityKeys = world.identityKeys → SingleUse later := by
    intro later accepted callbacks flows installKeys identityKeys
    refine single.grown accepted callbacks (by rw [flows]) ?_ ?_ ?_ ?_
    · simp [installKeys]
    · simp [identityKeys]
    · simpa [installKeys, identityKeys] using fun state _ => single.oneKey state
    · simpa [installKeys, identityKeys, flows] using single.unissued
  unfold InstallWorld.completeVerifiedInstall
  split
  · exact single
  · split
    · split <;> exact kept rfl rfl rfl rfl rfl
    · exact single

theorem afterInstallState_quiet (identityEnabled : Bool) (query : SetupQuery) (user : Nat) :
    (afterInstallState identityEnabled query user).deletes = false := by
  unfold afterInstallState
  split
  · rfl
  · split
    · rfl
    · split <;> rfl

theorem SingleUse.fresh (single : SingleUse world) {phase : CallbackPhase} (hit : world.hits state phase = true)
    (apart : ∀ other ∈ world.callbacks, other.query.state = some state → other.phase.deletes = false) :
    state ∉ world.accepted := by
  intro member
  rcases single.spent state member with ⟨install, identity⟩ | ⟨deleter, inside, given, deletes⟩
  · cases phase <;> simp [hits, install, identity] at hit
  · simp [apart deleter inside given] at deletes

theorem SingleUse.command (single : SingleUse world) (found : world.callback position = some callback)
    (given : callback.query.state = some state) (identityEnabled : Bool) {succeeds : Bool}
    (careful : world.Careful (.advance position succeeds)) :
    SingleUse (world.command identityEnabled position callback.query state succeeds callback.phase) := by
  obtain ⟨deletion, apart⟩ := careful callback found state given
  obtain ⟨minted, hasRead⟩ := single.named callback (List.mem_of_getElem? found) state given
  cases phase : callback.phase with
  | readIdentity =>
      have quiet : callback.phase.deletes = false := by rw [phase]; rfl
      simp only [InstallWorld.command]
      split
      · exact single.goTo found (fun _ _ => quiet) fun _ _ => trivial
      · rename_i user installationId key
        have hit : world.hits state callback.phase = true := by simp [phase, hits, key]
        have gone : world.installKeys state = none := by simpa [key] using single.oneKey state
        exact single.accept found quiet given (single.fresh hit (apart hit)) rfl gone
  | readInstall =>
      have quiet : callback.phase.deletes = false := by rw [phase]; rfl
      simp only [InstallWorld.command]
      split
      · exact single.goTo found (fun _ _ => quiet) fun _ _ => trivial
      · rename_i user key
        have hit : world.hits state callback.phase = true := by simp [phase, hits, key]
        have gone : world.identityKeys state = none := by simpa [key] using single.oneKey state
        exact single.accept found quiet given (single.fresh hit (apart hit)) rfl gone
  | deleteIdentity user installationId =>
      have succeeds : succeeds = true := deletion (by rw [phase]; rfl)
      have install : world.installKeys state = none := by simpa [phase, HasRead] using hasRead
      simp only [InstallWorld.command, succeeds, if_true]
      exact (single.forget (fun _ => id) (fun _ => keeps_none)).delete found given rfl
        ⟨install, by simp⟩
  | deleteInstall user =>
      have succeeds : succeeds = true := deletion (by rw [phase]; rfl)
      have identity : world.identityKeys state = none := by simpa [phase, HasRead] using hasRead
      simp only [InstallWorld.command, succeeds, if_true]
      exact (single.forget (fun _ => keeps_none) (fun _ => id)).delete found given
        (afterInstallState_quiet ..) ⟨by simp, identity⟩
  | mint user installationId =>
      have quiet : callback.phase.deletes = false := by rw [phase]; rfl
      exact (single.buildIdentityVerifyUrl minted).goTo found (fun _ _ => quiet) fun _ _ => trivial
  | verify user installationId =>
      have quiet : callback.phase.deletes = false := by rw [phase]; rfl
      have still : (world.completeVerifiedInstall callback.query state user installationId succeeds).callback
          position = some callback := by
        rw [← found, InstallWorld.callback, callbacks_completeVerifiedInstall]
        rfl
      exact (single.completeVerifiedInstall callback.query succeeds).goTo still (fun _ _ => quiet) fun _ _ => trivial
  | finished => exact single

theorem SingleUse.step (single : SingleUse world) {event : InstallEvent} (careful : world.Careful event)
    (identityEnabled : Bool) : SingleUse (world.step identityEnabled event) := by
  cases event with
  | start user browser => exact single.buildInstallUrl user browser
  | authorize browser link =>
      exact single.grown rfl rfl (Nat.le_refl _) (fun _ _ => id) (fun _ _ => id)
        (fun state _ => single.oneKey state) single.unissued
  | call given installationId requested shown => exact single.call given installationId shown requested
  | expire state => exact single.forget (fun _ => keeps_none) (fun _ => keeps_none)
  | advance position succeeds =>
      simp only [InstallWorld.step, advance]
      split
      · exact single
      · rename_i callback found
        split
        · rename_i absent
          exact single.goTo found (by simp [absent]) (by simp [absent])
        · rename_i state given
          exact single.command found given identityEnabled careful

/-- In every run whose steps are careful each state is accepted at most once, and who is bound an installation
on a code has started the flow in the browser that the code was issued in. -/
theorem bound_to_who_authorised (identityEnabled : Bool) {events : List InstallEvent}
    (careful : Along (step identityEnabled) Careful {} events) :
    let after := play (step identityEnabled) {} events
    after.accepted.Nodup ∧ ∀ binding ∈ after.bindings, ∃ flow issued,
      after.flows[binding.state]? = some flow ∧ after.codes[binding.code]? = some issued ∧
        flow.user = binding.user ∧ flow.browser = issued.browser := by
  have start : Honest {} ∧ SingleUse {} := by
    constructor
    · constructor <;> simp [issued]
    · constructor <;> simp
  have kept : ∀ world event, Honest world ∧ SingleUse world → Careful world event →
      Honest (world.step identityEnabled event) ∧ SingleUse (world.step identityEnabled event) := by
    intro world event ⟨honest, single⟩ meets
    exact ⟨honest.step meets identityEnabled, single.step meets identityEnabled⟩
  obtain ⟨honest, single⟩ := careful.invariant kept start
  refine ⟨single.once, ?_⟩
  intro binding member
  obtain ⟨⟨flow, known, started⟩, ⟨same, issued, also, sent, equal⟩⟩ := honest.bound binding member
  obtain rfl := Option.some.inj (also.symm.trans known)
  exact ⟨same, issued, known, sent, started, equal.symm⟩

def twoHops : List InstallEvent :=
  [.start 3 1, .call (some 0) (some 7) false none, .advance 0 true, .advance 0 true, .advance 0 true,
    .advance 0 true, .authorize 1 (some 1), .call (some 1) none false (some 0), .advance 1 true,
    .advance 1 true, .advance 1 true]

theorem bound_to_who_authorised_sample :
    (play (step true) {} twoHops).bindings = [⟨3, 7, 1, 0⟩] ∧
      (play (step true) {} twoHops).accepted.Nodup ∧
      ∀ binding ∈ (play (step true) {} twoHops).bindings, ∃ flow issued,
        (play (step true) {} twoHops).flows[binding.state]? = some flow ∧
        (play (step true) {} twoHops).codes[binding.code]? = some issued ∧
        flow.user = binding.user ∧ flow.browser = issued.browser :=
  ⟨by decide, bound_to_who_authorised true (by decide)⟩

def ledAstray : List InstallEvent :=
  [.start 1 1, .authorize 2 (some 0), .call (some 0) (some 7) false (some 0), .advance 0 true, .advance 0 true,
    .advance 0 true, .advance 0 true]

def bothRead : List InstallEvent :=
  [.start 1 1, .call (some 0) none false none, .call (some 0) none false none, .advance 0 true, .advance 1 true,
    .advance 0 true, .advance 1 true, .advance 0 true, .advance 1 true]

theorem foreign_browser_binds :
    (∃ binding ∈ (play (step true) {} ledAstray).bindings, ∃ flow issued,
      (play (step true) {} ledAstray).flows[binding.state]? = some flow ∧
      (play (step true) {} ledAstray).codes[binding.code]? = some issued ∧
      flow.user = binding.user ∧ flow.browser ≠ issued.browser) ∧
    (play (step true) {} bothRead).accepted = [0, 0] := by
  refine ⟨⟨⟨1, 7, 0, 0⟩, by decide, ⟨1, 1⟩, ⟨2, some 0, true⟩, ?_⟩, by decide⟩
  decide

end InstallWorld

end Thought2Build.Integrations
