import Mathlib.Logic.Function.Basic
import Thought2Build.Library.Histories

/-!
The GitHub App install flow: links with one-time states, browsers that follow them, codes that GitHub
issues, and setup callbacks that run one Redis command or one check at a time.
-/

namespace Thought2Build.Integrations

structure InstallFlow where
  user : Nat
  browser : Nat
  deriving DecidableEq

structure IdentityCode where
  browser : Nat
  state : Option Nat
  used : Bool := false
  deriving DecidableEq

inductive CallbackPhase where
  /-- `consume_identity_state` is to read its key. -/
  | readIdentity
  | deleteIdentity (user installationId : Nat)
  /-- `consume_install_state` is to read its key. -/
  | readInstall
  | deleteInstall (user : Nat)
  /-- `build_identity_verify_url` is to store a state. -/
  | mint (user installationId : Nat)
  | verify (user installationId : Nat)
  | finished

/-- The query of a callback. States and codes are named in the order of their issue; one that was never
issued is no state and no code. -/
structure SetupQuery where
  state : Option Nat
  installationId : Option Nat
  requested : Bool := false
  hasCode : Bool
  code : Option Nat

structure SetupCallback where
  query : SetupQuery
  phase : CallbackPhase := .readIdentity

structure Binding where
  user : Nat
  installationId : Nat
  state : Nat
  code : Nat
  deriving DecidableEq

/-- Redis, GitHub and the callbacks. `flows` names for each state the flow it belongs to; `accepted` and
`bindings` record what callbacks have done. -/
structure InstallWorld where
  flows : List InstallFlow := []
  installKeys : Nat → Option Nat := fun _ => none
  identityKeys : Nat → Option (Nat × Nat) := fun _ => none
  codes : List IdentityCode := []
  callbacks : List SetupCallback := []
  accepted : List Nat := []
  bindings : List Binding := []

inductive InstallEvent where
  /-- `github_app_install_url` of a signed-in user. -/
  | start (user browser : Nat)
  /-- A browser follows a link of GitHub, with a state or without; GitHub issues a code to it. -/
  | authorize (browser : Nat) (state : Option Nat)
  | call (state installationId : Option Nat) (requested : Bool) (code : Option Nat)
  /-- A callback goes on by one command; `succeeds` is whether a deletion goes through, or whether GitHub
  shows the installation to the person of the code. -/
  | advance (callback : Nat) (succeeds : Bool)
  | expire (state : Nat)

namespace InstallWorld

variable (world : InstallWorld)

def buildInstallUrl (user browser : Nat) : InstallWorld :=
  { world with
    flows := world.flows ++ [⟨user, browser⟩]
    installKeys := Function.update world.installKeys world.flows.length (some user) }

def call (state installationId : Option Nat) (requested : Bool) (code : Option Nat) : InstallWorld :=
  { world with callbacks := world.callbacks ++ [{ query := {
      state := state.filter (· < world.flows.length), installationId, requested
      hasCode := code.isSome, code := code.filter (· < world.codes.length) } }] }

def goTo (position : Nat) (phase : CallbackPhase) : InstallWorld :=
  { world with callbacks := world.callbacks.modify position ({ · with phase }) }

def afterInstallState (identityEnabled : Bool) (query : SetupQuery) (user : Nat) : CallbackPhase :=
  match query.installationId with
  | none => .finished
  | some installationId =>
      if query.requested ∨ identityEnabled = false then .finished
      else if query.hasCode then .verify user installationId
      else .mint user installationId

/-- `build_identity_verify_url`: the state belongs to the flow of the callback's own state. -/
def buildIdentityVerifyUrl (state user installationId : Nat) : InstallWorld :=
  { world with
    flows := world.flows ++ world.flows[state]?.toList
    identityKeys := Function.update world.identityKeys world.flows.length (some (user, installationId)) }

/-- `_complete_verified_install`: the code is exchanged once, and the installation has to be among those that
GitHub shows to its person. -/
def completeVerifiedInstall (query : SetupQuery) (state user installationId : Nat) (shown : Bool) :
    InstallWorld :=
  match query.code with
  | none => world
  | some code =>
      if world.codes[code]?.any (!·.used) then
        let exchanged := { world with codes := world.codes.modify code ({ · with used := true }) }
        if shown then
          { exchanged with bindings := world.bindings ++ [{ user, installationId, state, code }] }
        else exchanged
      else world

def command (identityEnabled : Bool) (position : Nat) (query : SetupQuery) (state : Nat) (succeeds : Bool) :
    CallbackPhase → InstallWorld
  | .readIdentity =>
      match world.identityKeys state with
      | none => world.goTo position .readInstall
      | some (user, installationId) =>
          { world with accepted := world.accepted ++ [state] }.goTo position
            (.deleteIdentity user installationId)
  | .deleteIdentity user installationId =>
      let identityKeys := if succeeds then Function.update world.identityKeys state none else world.identityKeys
      { world with identityKeys }.goTo position (.verify user installationId)
  | .readInstall =>
      match world.installKeys state with
      | none => world.goTo position .finished
      | some user =>
          { world with accepted := world.accepted ++ [state] }.goTo position (.deleteInstall user)
  | .deleteInstall user =>
      let installKeys := if succeeds then Function.update world.installKeys state none else world.installKeys
      { world with installKeys }.goTo position (afterInstallState identityEnabled query user)
  | .mint user installationId =>
      (world.buildIdentityVerifyUrl state user installationId).goTo position .finished
  | .verify user installationId =>
      (world.completeVerifiedInstall query state user installationId succeeds).goTo position .finished
  | .finished => world

def advance (identityEnabled : Bool) (position : Nat) (succeeds : Bool) : InstallWorld :=
  match world.callbacks[position]? with
  | none => world
  | some callback =>
      match callback.query.state with
      | none => world.goTo position .finished
      | some state => world.command identityEnabled position callback.query state succeeds callback.phase

def step (identityEnabled : Bool) (world : InstallWorld) : InstallEvent → InstallWorld
  | .start user browser => world.buildInstallUrl user browser
  | .authorize browser state => { world with
      codes := world.codes ++ [{ browser, state := state.filter (· < world.flows.length) }] }
  | .call state installationId requested code => world.call state installationId requested code
  | .advance callback succeeds => world.advance identityEnabled callback succeeds
  | .expire state => { world with
      installKeys := Function.update world.installKeys state none
      identityKeys := Function.update world.identityKeys state none }

end InstallWorld

end Thought2Build.Integrations
