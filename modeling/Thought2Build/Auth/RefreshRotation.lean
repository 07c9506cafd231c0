import Thought2Build.Auth.SessionsCore
import Thought2Build.Library.Histories

/-!
Refresh rotation. A refresh reads the session and deletes it in two commands, and a revocation lists the sessions
before it deletes them; what keeps every interleaving safe is what these commands find when they arrive.
-/

namespace Thought2Build.Auth

open Histories

def Command.Pending (jti : Nat) : Command → Prop
  | removeMember old => old = jti
  | storeSession origin => origin = some jti
  | _ => False

def Command.Revoking : Command → Prop
  | deleteListed _ | deleteList => True
  | _ => False

instance (jti : Nat) : DecidablePred (Command.Pending jti) := fun command => by
  cases command <;> unfold Command.Pending <;> infer_instance

instance : DecidablePred Command.Revoking := fun command => by
  cases command <;> unfold Command.Revoking <;> infer_instance

namespace SessionStore

variable {store before after : SessionStore} {command next : Command} {request : Nat}

def Recent (store : SessionStore) (jti : Nat) : Prop :=
  ∃ rotated ∈ store.rotatedAt jti, store.clock < rotated + refreshReplayGraceSeconds

def LeavesNothing (store : SessionStore) (origin : Nat) : Prop :=
  ∀ jti < store.tokens.length, store.Descends jti origin →
    (jti ≠ origin → ¬store.Live jti) ∧ ∀ command ∈ store.requests, ¬command.Pending jti

instance (jti : Nat) : Decidable (store.Recent jti) := inferInstanceAs (Decidable (∃ rotated ∈ store.rotatedAt jti, _))

instance (origin : Nat) : Decidable (store.LeavesNothing origin) :=
  inferInstanceAs (Decidable (∀ jti < store.tokens.length, _ → (_ → ¬_) ∧ ∀ command ∈ store.requests, ¬_))

def Allows (store : SessionStore) : Command → Prop
  | .deleteSession jti => store.Live jti
  | .getConsumed jti => store.Recent jti → (store.marker jti).isSome = true
  | .getSuccessor jti successor => store.Recent jti → store.Live successor
  | .listSessions _ _ => ∀ jti < store.tokens.length, store.Live jti → jti ∈ store.listed
  | .storeSession _ => ∀ command ∈ store.requests, ¬command.Revoking
  | .logoutSession jti => store.LeavesNothing jti
  | _ => True

instance : DecidablePred store.Allows := fun command => by
  cases command <;> unfold Allows <;> infer_instance

def Careful (store : SessionStore) : SessionEvent → Prop
  | .act request => ∀ command ∈ store.requests[request]?, store.Allows command
  | _ => True

instance (store : SessionStore) : DecidablePred store.Careful := fun event => by
  cases event <;> unfold Careful <;> infer_instance

def Gone (store : SessionStore) (origin : Nat) : Prop :=
  ∀ jti, store.Descends jti origin → ¬store.Live jti ∧ ∀ command ∈ store.requests, ¬command.Pending jti

def Fits (store : SessionStore) : Command → Prop
  | .getSession jti | .logoutSession jti => jti < store.tokens.length
  | .getConsumed jti | .getSuccessor jti _ => jti < store.tokens.length ∧ ¬store.Live jti
  | .listSessions jti since => jti < store.tokens.length ∧ ¬store.Live jti ∧
      ∀ rotated ∈ store.rotatedAt jti, rotated ≤ since → rotated + refreshReplayGraceSeconds ≤ since
  | .removeMember jti | .storeSession (some jti) =>
      (store.rotatedAt jti).isSome = true ∧ ∀ child, (store.lineageOf child).head? ≠ some jti
  | .deleteListed jtis => ∀ jti, store.Live jti → jti ∈ jtis
  | .deleteList => ∀ jti, ¬store.Live jti
  | .logoutMember jti => jti < store.tokens.length ∧ store.Gone jti
  | _ => True

structure Sound (store : SessionStore) : Prop where
  rotated : ∀ jti, (store.rotatedAt jti).isSome = true → ¬store.Live jti
  parents : ∀ jti origin, (store.lineageOf jti).head? = some origin → (store.rotatedAt origin).isSome = true
  single : ∀ first second origin, (store.lineageOf first).head? = some origin →
    (store.lineageOf second).head? = some origin → first = second
  alone : ∀ (first second : Nat) (former latter : Command) (jti : Nat), store.requests[first]? = some former →
    store.requests[second]? = some latter → former.Pending jti → latter.Pending jti → first = second
  fits : ∀ (request : Nat) (command : Command), store.requests[request]? = some command → store.Fits command
  bounded : store.revoked ≤ store.tokens.length
  revokes : ∀ jti < store.revoked, ¬store.Live jti
  out : ∀ origin ∈ store.loggedOut, origin < store.tokens.length ∧ store.Gone origin

structure Wanes (before after : SessionStore) : Prop where
  length : after.tokens.length = before.tokens.length
  live : ∀ jti, after.Live jti → before.Live jti
  lineage : ∀ jti, after.lineageOf jti = before.lineageOf jti
  rotated : ∀ jti, after.rotatedAt jti = before.rotatedAt jti ∨
    (before.Live jti ∧ (after.rotatedAt jti).isSome = true ∧ ¬after.Live jti)

theorem Live.inside {jti : Nat} (live : store.Live jti) : jti < store.tokens.length := by
  obtain ⟨token, held, _⟩ := live
  exact (List.getElem?_eq_some_iff.mp held).1

theorem Valid.inside {jti : Nat} (valid : store.Valid jti) : jti < store.tokens.length := by
  obtain ⟨token, held, _⟩ := valid
  exact (List.getElem?_eq_some_iff.mp held).1

theorem wanes_of_tokens {change : Nat → RefreshToken → RefreshToken}
    (length : after.tokens.length = before.tokens.length)
    (tokens : ∀ jti, after.tokens[jti]? = before.tokens[jti]?.map (change jti))
    (clock : before.clock ≤ after.clock) (lineage : ∀ jti token, (change jti token).lineage = token.lineage)
    (rotated : ∀ jti token, (change jti token).rotatedAt = token.rotatedAt)
    (session : ∀ jti token deadline, (change jti token).session = some deadline → token.session = some deadline) :
    Wanes before after where
  length := length
  live := by
    rintro jti ⟨token, held, deadline, kept, early⟩
    rw [tokens] at held
    obtain ⟨former, earlier, rfl⟩ := Option.map_eq_some_iff.mp held
    exact ⟨former, earlier, deadline, session jti former deadline kept, Nat.lt_of_le_of_lt clock early⟩
  lineage jti := by
    unfold lineageOf
    rw [tokens]
    cases before.tokens[jti]? with
    | none => rfl
    | some token => simp [lineage]
  rotated jti := by
    refine Or.inl ?_
    unfold rotatedAt
    rw [tokens]
    cases before.tokens[jti]? with
    | none => rfl
    | some token => simp [rotated]

theorem wanes_of_same (tokens : after.tokens = before.tokens) (clock : before.clock ≤ after.clock) :
    Wanes before after :=
  @wanes_of_tokens before after (fun _ token => token) (by rw [tokens]) (by simp [tokens]) clock (fun _ _ => rfl)
    (fun _ _ => rfl) (fun _ _ _ kept => kept)

theorem wanes_dropSessions (jtis : List Nat) (request : Nat) (next : Command) :
    Wanes store ((store.dropSessions jtis).proceed request next) := by
  refine wanes_of_tokens (by simp [dropSessions, proceed])
    (fun jti => by simp only [dropSessions, proceed, List.getElem?_mapIdx]; rfl) (Nat.le_refl _) ?_ ?_ ?_
  · intro jti token
    split <;> rfl
  · intro jti token
    split <;> rfl
  · intro jti token deadline kept
    split at kept
    · contradiction
    · exact kept

theorem not_mem_of_live_dropSessions {jtis : List Nat} {jti : Nat}
    (live : ((store.dropSessions jtis).proceed request next).Live jti) : jti ∉ jtis := by
  obtain ⟨token, found, deadline, kept, _⟩ := live
  simp only [dropSessions, proceed, List.getElem?_mapIdx, Option.mem_def, Option.map_eq_some_iff] at found
  obtain ⟨former, _, rfl⟩ := found
  intro dropped
  simp [dropped] at kept

theorem wanes_storeMarker (old new request : Nat) (next : Command) :
    Wanes store ((store.storeMarker old new).proceed request next) := by
  refine @wanes_of_tokens _ _ (fun jti token => if old = jti then
      { token with consumed := some (new, store.clock + refreshReplayGraceSeconds) } else token)
    (by simp [storeMarker, proceed]) ?_ (Nat.le_refl _) ?_ ?_ ?_
  · intro jti
    simp only [storeMarker, proceed, List.getElem?_modify]
    split <;> simp
  · intro jti token
    split <;> rfl
  · intro jti token
    split <;> rfl
  · intro jti token deadline kept
    split at kept <;> exact kept

theorem wanes_rotate {jti : Nat} (live : store.Live jti) (request : Nat) (next : Command) :
    Wanes store ((store.rotate jti).proceed request next) := by
  have tokens (other : Nat) : ((store.rotate jti).proceed request next).tokens[other]? =
      store.tokens[other]?.map fun token =>
        if jti = other then { token with session := none, rotatedAt := some store.clock } else token := by
    simp only [rotate, proceed, List.getElem?_modify]
    split <;> simp
  have elsewhere {other : Nat} (differs : jti ≠ other) :
      ((store.rotate jti).proceed request next).tokens[other]? = store.tokens[other]? := by
    simp [tokens, differs]
  refine ⟨by simp [rotate, proceed], ?_, ?_, ?_⟩
  · intro other
    by_cases own : jti = other
    · exact fun _ => own ▸ live
    · simp only [Live, elsewhere own]
      exact id
  · intro other
    unfold lineageOf
    rw [tokens]
    cases store.tokens[other]? with
    | none => rfl
    | some token =>
        simp only [Option.map_some, Option.getD_some]
        split <;> rfl
  · intro other
    by_cases own : jti = other
    · subst own
      obtain ⟨token, held, _⟩ := id live
      rw [Option.mem_def] at held
      refine Or.inr ⟨live, by simp [rotatedAt, tokens, held], ?_⟩
      rintro ⟨later, found, deadline, kept, _⟩
      simp [tokens, held] at found
      simp [← found] at kept
    · exact Or.inl (by simp [rotatedAt, elsewhere own])

structure Goes (before after : SessionStore) (place : Nat) : Prop where
  requests : ∀ (request : Nat) (command : Command), after.requests[request]? = some command →
    before.requests[request]? = some command ∨ (request = place ∧ ∀ jti, command.Pending jti → before.Live jti ∨
      ∃ former, before.requests[place]? = some former ∧ former.Pending jti)

theorem Sound.not_live (sound : store.Sound) {former : Command} {place jti : Nat}
    (held : store.requests[place]? = some former) (pending : former.Pending jti) : ¬store.Live jti := by
  refine sound.rotated jti ?_
  have fits := sound.fits place former held
  cases former with
  | removeMember old => exact pending ▸ fits.1
  | storeSession origin =>
      obtain rfl : origin = some jti := pending
      exact fits.1
  | _ => exact absurd pending id

theorem Gone.wanes {origin place : Nat} (gone : before.Gone origin) (wanes : Wanes before after)
    (goes : Goes before after place) : after.Gone origin := by
  intro jti descends
  simp only [Descends, wanes.lineage] at descends
  obtain ⟨dead, idle⟩ := gone jti descends
  refine ⟨fun live => dead (wanes.live jti live), ?_⟩
  intro command member pending
  obtain ⟨request, held⟩ := List.getElem?_of_mem member
  rcases goes.requests request command held with old | ⟨_, new⟩
  · exact idle command (List.mem_of_getElem? old) pending
  · rcases new jti pending with live | ⟨former, earlier, waits⟩
    · exact dead live
    · exact idle former (List.mem_of_getElem? earlier) waits

theorem Wanes.still_rotated (wanes : Wanes before after) {jti : Nat} (rotated : (before.rotatedAt jti).isSome = true) :
    (after.rotatedAt jti).isSome = true := by
  rcases wanes.rotated jti with same | ⟨_, new, _⟩
  · rw [same]
    exact rotated
  · exact new

theorem Fits.wanes {place : Nat} (fits : before.Fits command) (wanes : Wanes before after)
    (goes : Goes before after place) : after.Fits command := by
  have dead {jti : Nat} (gone : ¬before.Live jti) : ¬after.Live jti := fun live => gone (wanes.live jti live)
  have inside {jti : Nat} (bound : jti < before.tokens.length) : jti < after.tokens.length := by
    rw [wanes.length]
    exact bound
  cases command with
  | getSession | logoutSession => exact inside fits
  | getConsumed | getSuccessor => exact ⟨inside fits.1, dead fits.2⟩
  | listSessions jti since =>
      refine ⟨inside fits.1, dead fits.2.1, ?_⟩
      rcases wanes.rotated jti with same | ⟨live, _⟩
      · rw [same]
        exact fits.2.2
      · exact absurd live fits.2.1
  | removeMember jti => exact ⟨wanes.still_rotated fits.1, fun child => by rw [wanes.lineage]; exact fits.2 child⟩
  | storeSession origin =>
      cases origin with
      | none => trivial
      | some jti => exact ⟨wanes.still_rotated fits.1, fun child => by rw [wanes.lineage]; exact fits.2 child⟩
  | deleteListed jtis => exact fun jti live => fits jti (wanes.live jti live)
  | deleteList => exact fun jti => dead (fits jti)
  | logoutMember jti => exact ⟨inside fits.1, Gone.wanes fits.2 wanes goes⟩
  | deleteSession | addMember | expireMembers | storeConsumed | done => trivial

theorem Sound.wanes {place : Nat} (sound : before.Sound) (wanes : Wanes before after) (goes : Goes before after place)
    (fits : ∀ command, after.requests[place]? = some command → after.Fits command)
    (revoked : after.revoked = before.revoked ∨ (after.revoked = after.tokens.length ∧ ∀ jti, ¬after.Live jti))
    (out : ∀ origin ∈ after.loggedOut, origin ∈ before.loggedOut ∨
      before.requests[place]? = some (.logoutMember origin)) : after.Sound where
  rotated jti rotated := by
    rcases wanes.rotated jti with same | ⟨_, _, dead⟩
    · exact fun live => sound.rotated jti (same ▸ rotated) (wanes.live jti live)
    · exact dead
  parents jti origin parent := by
    rw [wanes.lineage] at parent
    exact wanes.still_rotated (sound.parents jti origin parent)
  single first second origin := by
    rw [wanes.lineage, wanes.lineage]
    exact sound.single first second origin
  alone first second former latter jti held found pending waits := by
    -- A request that has just taken the session is alone, since nothing pends on a live token.
    have taken {request : Nat} {command : Command} (held : after.requests[request]? = some command)
        (pending : command.Pending jti) : (∃ former, before.requests[request]? = some former ∧ former.Pending jti) ∨
          (request = place ∧ before.Live jti) := by
      rcases goes.requests request command held with old | ⟨rfl, new⟩
      · exact Or.inl ⟨command, old, pending⟩
      · rcases new jti pending with live | earlier
        · exact Or.inr ⟨rfl, live⟩
        · exact Or.inl earlier
    rcases taken held pending with ⟨one, earlier, waited⟩ | ⟨rfl, live⟩
    · rcases taken found waits with ⟨other, also, also'⟩ | ⟨_, live⟩
      · exact sound.alone first second one other jti earlier also waited also'
      · exact absurd live (sound.not_live earlier waited)
    · rcases taken found waits with ⟨other, also, also'⟩ | ⟨rfl, _⟩
      · exact absurd live (sound.not_live also also')
      · rfl
  fits request command held := by
    rcases goes.requests request command held with old | ⟨rfl, _⟩
    · exact Fits.wanes (sound.fits request command old) wanes goes
    · exact fits command held
  bounded := by
    rcases revoked with same | ⟨all, _⟩
    · rw [same, wanes.length]
      exact sound.bounded
    · exact Nat.le_of_eq all
  revokes jti early := by
    rcases revoked with same | ⟨_, none⟩
    · exact fun live => sound.revokes jti (same ▸ early) (wanes.live jti live)
    · exact none jti
  out origin member := by
    rcases out origin member with old | ends
    · exact ⟨wanes.length ▸ (sound.out origin old).1, (sound.out origin old).2.wanes wanes goes⟩
    · have fits := sound.fits place _ ends
      exact ⟨wanes.length ▸ fits.1, Gone.wanes fits.2 wanes goes⟩

theorem goes_of_set {place : Nat} (held : before.requests[place]? = some command)
    (set : after.requests = before.requests.set place next)
    (pends : ∀ jti, next.Pending jti → before.Live jti ∨ command.Pending jti) : Goes before after place where
  requests request other found := by
    rw [set] at found
    by_cases own : place = request
    · subst own
      rw [List.getElem?_set_self (List.getElem?_eq_some_iff.mp held).1] at found
      obtain rfl := Option.some.inj found
      exact Or.inr ⟨rfl, fun jti pending => (pends jti pending).imp_right fun waits => ⟨command, held, waits⟩⟩
    · rw [List.getElem?_set_ne own] at found
      exact Or.inl found

theorem Sound.proceeds {place : Nat} (sound : before.Sound) (held : before.requests[place]? = some command)
    (wanes : Wanes before after) (set : after.requests = before.requests.set place next)
    (pends : ∀ jti, next.Pending jti → before.Live jti ∨ command.Pending jti) (fits : after.Fits next)
    (revoked : after.revoked = before.revoked) (out : after.loggedOut = before.loggedOut) : after.Sound := by
  refine sound.wanes wanes (goes_of_set held set pends) ?_ (Or.inl revoked) ?_
  · intro other found
    rw [set, List.getElem?_set_self (List.getElem?_eq_some_iff.mp held).1] at found
    obtain rfl := Option.some.inj found
    exact fits
  · intro origin member
    exact Or.inl (out ▸ member)

theorem live_of_same (tokens : after.tokens = before.tokens) (clock : after.clock = before.clock) (jti : Nat) :
    after.Live jti ↔ before.Live jti := by
  simp only [Live, tokens, clock]

theorem lineageOf_mint_new (origin : Option Nat) : (store.mint origin).lineageOf store.tokens.length =
    origin.toList ++ (origin.map store.lineageOf).getD [] := by
  simp [lineageOf, mint]

theorem lineageOf_mint_old {jti : Nat} (origin : Option Nat) (old : jti ≠ store.tokens.length) :
    (store.mint origin).lineageOf jti = store.lineageOf jti := by
  unfold lineageOf
  rcases Nat.lt_or_gt_of_ne old with inside | beyond
  · simp [mint, List.getElem?_append_left inside]
  · rw [List.getElem?_eq_none (by simp [mint]; omega), List.getElem?_eq_none (by omega)]

theorem rotatedAt_mint (origin : Option Nat) (jti : Nat) : (store.mint origin).rotatedAt jti = store.rotatedAt jti := by
  unfold rotatedAt
  rcases Nat.lt_trichotomy jti store.tokens.length with inside | rfl | beyond
  · simp [mint, List.getElem?_append_left inside]
  · simp [mint]
  · rw [List.getElem?_eq_none (by simp [mint]; omega), List.getElem?_eq_none (by omega)]

theorem live_mint {origin : Option Nat} {jti : Nat} (live : (store.mint origin).Live jti) :
    store.Live jti ∨ jti = store.tokens.length := by
  by_cases own : jti = store.tokens.length
  · exact Or.inr own
  · refine Or.inl ?_
    obtain ⟨token, held, rest⟩ := live
    have inside : jti < store.tokens.length := by
      have bound := (List.getElem?_eq_some_iff.mp held).1
      simp only [mint, List.length_append, List.length_singleton] at bound
      omega
    rw [Option.mem_def] at held
    simp only [mint, List.getElem?_append_left inside] at held
    exact ⟨token, held, rest⟩

structure Mints (store after : SessionStore) (place : Nat) (origin : Option Nat) : Prop where
  tokens : after.tokens = (store.mint origin).tokens
  clock : after.clock = store.clock
  requests : after.requests = store.requests.set place (.addMember origin store.tokens.length)
  revoked : after.revoked = store.revoked
  loggedOut : after.loggedOut = store.loggedOut

namespace Mints

variable {place : Nat} {origin : Option Nat}

theorem length (mints : Mints store after place origin) : after.tokens.length = store.tokens.length + 1 := by
  rw [mints.tokens]
  simp [mint]

theorem live (mints : Mints store after place origin) {jti : Nat} (live : after.Live jti) :
    store.Live jti ∨ jti = store.tokens.length :=
  live_mint ((@live_of_same (store.mint origin) after mints.tokens mints.clock jti).mp live)

theorem dead (mints : Mints store after place origin) {jti : Nat} (inside : jti < store.tokens.length)
    (dead : ¬store.Live jti) : ¬after.Live jti := by
  intro live
  rcases mints.live live with old | new
  · exact dead old
  · omega

theorem rotatedAt (mints : Mints store after place origin) (jti : Nat) : after.rotatedAt jti = store.rotatedAt jti := by
  rw [← @rotatedAt_mint store origin jti]
  simp only [SessionStore.rotatedAt, mints.tokens]

theorem lineageOf_new (mints : Mints store after place origin) : after.lineageOf store.tokens.length =
    origin.toList ++ (origin.map store.lineageOf).getD [] := by
  rw [← @lineageOf_mint_new store origin]
  simp only [SessionStore.lineageOf, mints.tokens]

theorem lineageOf_old (mints : Mints store after place origin) {jti : Nat} (old : jti ≠ store.tokens.length) :
    after.lineageOf jti = store.lineageOf jti := by
  rw [← @lineageOf_mint_old store jti origin old]
  simp only [SessionStore.lineageOf, mints.tokens]

theorem parent (mints : Mints store after place origin) {jti old : Nat}
    (parent : (after.lineageOf jti).head? = some old) :
    (store.lineageOf jti).head? = some old ∨ (jti = store.tokens.length ∧ origin = some old) := by
  by_cases own : jti = store.tokens.length
  · subst own
    rw [mints.lineageOf_new] at parent
    cases origin with
    | none => simp at parent
    | some former => exact Or.inr ⟨rfl, by simpa using parent⟩
  · rw [mints.lineageOf_old own] at parent
    exact Or.inl parent

theorem old_request (mints : Mints store after place origin) {request : Nat} {command : Command}
    (held : after.requests[request]? = some command) :
    (request ≠ place ∧ store.requests[request]? = some command) ∨ command = .addMember origin store.tokens.length := by
  rw [mints.requests] at held
  by_cases own : place = request
  · subst own
    rw [List.getElem?_set] at held
    split at held
    · split at held
      · exact Or.inr (Option.some.inj held).symm
      · contradiction
    · contradiction
  · rw [List.getElem?_set_ne own] at held
    exact Or.inl ⟨Ne.symm own, held⟩

theorem gone (mints : Mints store after place origin) {root : Nat} (inside : root < store.tokens.length)
    (held : store.requests[place]? = some (.storeSession origin)) (gone : store.Gone root) : after.Gone root := by
  intro jti descends
  by_cases own : jti = store.tokens.length
  · subst own
    rw [Descends, mints.lineageOf_new] at descends
    rcases descends with same | above
    · omega
    · cases origin with
      | none => simp at above
      | some former =>
          have descends : store.Descends former root := by simpa [Descends, eq_comm] using above
          exact absurd rfl ((gone former descends).2 _ (List.mem_of_getElem? held))
  · simp only [Descends, mints.lineageOf_old own] at descends
    obtain ⟨dead, idle⟩ := gone jti descends
    refine ⟨fun live => (mints.live live).elim dead own, ?_⟩
    intro command member
    obtain ⟨request, found⟩ := List.getElem?_of_mem member
    rcases mints.old_request found with ⟨_, old⟩ | rfl
    · exact idle command (List.mem_of_getElem? old)
    · exact id

end Mints

theorem Sound.mints {place : Nat} {origin : Option Nat} (sound : store.Sound)
    (held : store.requests[place]? = some (.storeSession origin)) (mints : Mints store after place origin)
    (quiet : ∀ command ∈ store.requests, ¬command.Revoking) : after.Sound where
  rotated jti rotated := by
    rw [mints.rotatedAt] at rotated
    have inside : jti < store.tokens.length := by
      by_contra beyond
      have none : store.tokens[jti]? = none := List.getElem?_eq_none (by omega)
      simp [SessionStore.rotatedAt, none] at rotated
    exact mints.dead inside (sound.rotated jti rotated)
  parents jti old parent := by
    rw [mints.rotatedAt]
    rcases mints.parent parent with before | ⟨_, rfl⟩
    · exact sound.parents jti old before
    · exact (sound.fits place _ held).1
  single first second old one other := by
    have childless (jti : Nat) (parent : (store.lineageOf jti).head? = some old) : origin ≠ some old := by
      rintro rfl
      exact (sound.fits place _ held).2 jti parent
    rcases mints.parent one with before | ⟨rfl, new⟩
    · rcases mints.parent other with also | ⟨_, new⟩
      · exact sound.single first second old before also
      · exact absurd new (childless first before)
    · rcases mints.parent other with also | ⟨rfl, _⟩
      · exact absurd new (childless second also)
      · rfl
  alone first second former latter jti found also pending waits := by
    rcases mints.old_request found with ⟨_, one⟩ | rfl
    · rcases mints.old_request also with ⟨_, other⟩ | rfl
      · exact sound.alone first second former latter jti one other pending waits
      · exact absurd waits id
    · exact absurd pending id
  fits request command found := by
    rcases mints.old_request found with ⟨elsewhere, old⟩ | rfl
    · have fits := sound.fits request command old
      have inside {jti : Nat} (bound : jti < store.tokens.length) : jti < after.tokens.length := by
        rw [mints.length]
        omega
      have childless {jti : Nat} (pending : command.Pending jti)
          (none : ∀ child, (store.lineageOf child).head? ≠ some jti) (child : Nat) :
          (after.lineageOf child).head? ≠ some jti := by
        intro parent
        rcases mints.parent parent with before | ⟨_, rfl⟩
        · exact none child before
        · exact elsewhere (sound.alone request place command _ jti old held pending rfl)
      cases command with
      | getSession | logoutSession => exact inside fits
      | getConsumed | getSuccessor => exact ⟨inside fits.1, mints.dead fits.1 fits.2⟩
      | listSessions jti since =>
          refine ⟨inside fits.1, mints.dead fits.1 fits.2.1, ?_⟩
          rw [mints.rotatedAt]
          exact fits.2.2
      | removeMember jti =>
          refine ⟨?_, childless rfl fits.2⟩
          rw [mints.rotatedAt]
          exact fits.1
      | storeSession other =>
          cases other with
          | none => trivial
          | some jti =>
              refine ⟨?_, childless rfl fits.2⟩
              rw [mints.rotatedAt]
              exact fits.1
      | deleteListed | deleteList => exact absurd trivial (quiet _ (List.mem_of_getElem? old))
      | logoutMember jti => exact ⟨inside fits.1, mints.gone fits.1 held fits.2⟩
      | deleteSession | addMember | expireMembers | storeConsumed | done => trivial
    · trivial
  bounded := by
    rw [mints.revoked, mints.length]
    exact Nat.le_succ_of_le sound.bounded
  revokes jti early := by
    rw [mints.revoked] at early
    exact mints.dead (Nat.lt_of_lt_of_le early sound.bounded) (sound.revokes jti early)
  out root member := by
    rw [mints.loggedOut] at member
    obtain ⟨inside, gone⟩ := sound.out root member
    exact ⟨by rw [mints.length]; omega, mints.gone inside held gone⟩

theorem fits_listSessions {jti : Nat} (inside : jti < store.tokens.length) (dead : ¬store.Live jti)
    (old : ¬store.Recent jti) (requests : List Command) :
    Fits { store with requests } (.listSessions jti store.clock) := by
  refine ⟨inside, dead, ?_⟩
  intro rotated member _
  by_contra early
  exact old ⟨rotated, member, by omega⟩

theorem Sound.getSession {place jti : Nat} (sound : store.Sound)
    (held : store.requests[place]? = some (.getSession jti)) : (store.perform place (.getSession jti)).Sound := by
  simp only [perform]
  split
  · exact sound.proceeds held (wanes_of_same rfl (Nat.le_refl _)) rfl (fun _ pending => absurd pending id) trivial rfl
      rfl
  · rename_i dead
    exact sound.proceeds held (wanes_of_same rfl (Nat.le_refl _)) rfl (fun _ pending => absurd pending id)
      ⟨sound.fits place _ held, dead⟩ rfl rfl

theorem Sound.getConsumed {place jti : Nat} (sound : store.Sound)
    (held : store.requests[place]? = some (.getConsumed jti)) (allows : store.Allows (.getConsumed jti)) :
    (store.perform place (.getConsumed jti)).Sound := by
  obtain ⟨inside, dead⟩ := sound.fits place _ held
  have wanes (next : Command) : Wanes store (store.proceed place next) := wanes_of_same rfl (Nat.le_refl _)
  simp only [perform]
  split
  · rename_i absent
    have old : ¬store.Recent jti := by
      intro recent
      simpa [absent] using allows recent
    exact sound.proceeds held (wanes _) rfl (fun _ pending => absurd pending id)
      (fits_listSessions inside dead old _) rfl rfl
  · split
    · exact sound.proceeds held (wanes _) rfl (fun _ pending => absurd pending id) ⟨inside, dead⟩ rfl rfl
    · exact sound.proceeds held (wanes _) rfl (fun _ pending => absurd pending id) trivial rfl rfl

theorem Sound.getSuccessor {place jti successor : Nat} (sound : store.Sound)
    (held : store.requests[place]? = some (.getSuccessor jti successor))
    (allows : store.Allows (.getSuccessor jti successor)) :
    (store.perform place (.getSuccessor jti successor)).Sound := by
  obtain ⟨inside, dead⟩ := sound.fits place _ held
  have wanes (next : Command) : Wanes store (store.proceed place next) := wanes_of_same rfl (Nat.le_refl _)
  simp only [perform]
  split
  · exact sound.proceeds held (wanes _) rfl (fun _ pending => absurd pending id) trivial rfl rfl
  · rename_i gone
    exact sound.proceeds held (wanes _) rfl (fun _ pending => absurd pending id)
      (fits_listSessions inside dead (fun recent => gone (allows recent)) _) rfl rfl

theorem Sound.listSessions {place jti since : Nat} (sound : store.Sound)
    (held : store.requests[place]? = some (.listSessions jti since))
    (allows : store.Allows (.listSessions jti since)) : (store.perform place (.listSessions jti since)).Sound := by
  have wanes (next : Command) : Wanes store (store.proceed place next) := wanes_of_same rfl (Nat.le_refl _)
  have every (jti : Nat) (live : store.Live jti) : jti ∈ store.listed := allows jti live.inside live
  simp only [perform]
  split
  · rename_i none
    refine sound.proceeds held (wanes _) rfl (fun _ pending => absurd pending id) ?_ rfl rfl
    intro other live
    simpa [none] using every other live
  · exact sound.proceeds held (wanes _) rfl (fun _ pending => absurd pending id) every rfl rfl

theorem Sound.deleteListed {place : Nat} {jtis : List Nat} (sound : store.Sound)
    (held : store.requests[place]? = some (.deleteListed jtis)) :
    (store.perform place (.deleteListed jtis)).Sound := by
  have listed := sound.fits place _ held
  refine sound.proceeds held (wanes_dropSessions jtis place .deleteList) rfl (fun _ pending => absurd pending id) ?_
    rfl rfl
  intro jti live
  exact not_mem_of_live_dropSessions live (listed jti ((wanes_dropSessions jtis place .deleteList).live jti live))

theorem Sound.deleteList {place : Nat} (sound : store.Sound) (held : store.requests[place]? = some .deleteList) :
    (store.perform place .deleteList).Sound := by
  have none := sound.fits place _ held
  refine sound.wanes (wanes_of_same rfl (Nat.le_refl _))
    (goes_of_set held rfl (fun _ pending => absurd pending id)) ?_ (Or.inr ⟨rfl, none⟩) fun _ => Or.inl
  intro other found
  simp only [perform, proceed, List.getElem?_set_self (List.getElem?_eq_some_iff.mp held).1] at found
  obtain rfl := Option.some.inj found
  trivial

theorem Sound.logoutSession {place jti : Nat} (sound : store.Sound)
    (held : store.requests[place]? = some (.logoutSession jti)) (allows : store.Allows (.logoutSession jti)) :
    (store.perform place (.logoutSession jti)).Sound := by
  have wanes : Wanes store (store.perform place (.logoutSession jti)) := wanes_dropSessions [jti] place (.logoutMember jti)
  refine sound.proceeds held wanes rfl (fun _ pending => absurd pending id) ⟨?_, ?_⟩ rfl rfl
  · rw [wanes.length]
    exact sound.fits place _ held
  · intro other descends
    simp only [Descends, wanes.lineage] at descends
    by_cases own : other = jti
    · subst own
      have inside : other < store.tokens.length := sound.fits place _ held
      refine ⟨fun live => not_mem_of_live_dropSessions live (List.mem_singleton_self _), ?_⟩
      · intro command member pending
        rcases List.mem_or_eq_of_mem_set member with old | rfl
        · exact (allows other inside descends).2 command old pending
        · exact pending
    · have inside : other < store.tokens.length := by
        by_contra beyond
        have none : store.tokens[other]? = none := List.getElem?_eq_none (by omega)
        simp [lineageOf, none, own] at descends
      obtain ⟨dead, idle⟩ := allows other inside descends
      refine ⟨fun live => dead own (wanes.live other live), ?_⟩
      intro command member pending
      rcases List.mem_or_eq_of_mem_set member with old | rfl
      · exact idle command old pending
      · exact pending

theorem Sound.logoutMember {place jti : Nat} (sound : store.Sound)
    (held : store.requests[place]? = some (.logoutMember jti)) : (store.perform place (.logoutMember jti)).Sound := by
  refine sound.wanes (wanes_of_same rfl (Nat.le_refl _))
    (goes_of_set held rfl (fun _ pending => absurd pending id)) ?_ (Or.inl rfl) ?_
  · intro other found
    simp only [perform, proceed, srem, List.getElem?_set_self (List.getElem?_eq_some_iff.mp held).1] at found
    obtain rfl := Option.some.inj found
    trivial
  · intro origin member
    rcases List.mem_append.mp member with old | new
    · exact Or.inl old
    · rw [List.mem_singleton.mp new]
      exact Or.inr held

theorem Sound.deleteSession {place jti : Nat} (sound : store.Sound)
    (held : store.requests[place]? = some (.deleteSession jti)) (live : store.Live jti) :
    (store.perform place (.deleteSession jti)).Sound := by
  have wanes := wanes_rotate live place (.removeMember jti)
  refine sound.proceeds held wanes rfl ?_ ⟨?_, ?_⟩ rfl rfl
  · rintro other rfl
    exact Or.inl live
  · obtain ⟨token, found, _⟩ := id live
    rw [Option.mem_def] at found
    simp [perform, rotate, proceed, rotatedAt, found]
  · intro child parent
    simp only [perform, wanes.lineage] at parent
    exact sound.rotated jti (sound.parents child jti parent) live

theorem Sound.perform {place : Nat} (sound : store.Sound) (held : store.requests[place]? = some command)
    (allows : store.Allows command) : (store.perform place command).Sound := by
  cases command with
  | getSession => exact sound.getSession held
  | deleteSession => exact sound.deleteSession held allows
  | removeMember jti =>
      refine sound.proceeds held (wanes_of_same rfl (Nat.le_refl _)) rfl ?_ ?_ rfl rfl
      · intro other pending
        exact Or.inr (Option.some.inj pending)
      · exact sound.fits place _ held
  | storeSession => exact sound.mints held ⟨rfl, rfl, rfl, rfl, rfl⟩ allows
  | addMember =>
      exact sound.proceeds held (wanes_of_same rfl (Nat.le_refl _)) rfl (fun _ pending => absurd pending id) trivial
        rfl rfl
  | expireMembers origin =>
      cases origin <;> exact sound.proceeds held (wanes_of_same rfl (Nat.le_refl _)) rfl
        (fun _ pending => absurd pending id) trivial rfl rfl
  | storeConsumed old new =>
      exact sound.proceeds held (wanes_storeMarker old new place .done) rfl (fun _ pending => absurd pending id) trivial
        rfl rfl
  | getConsumed => exact sound.getConsumed held allows
  | getSuccessor => exact sound.getSuccessor held allows
  | listSessions => exact sound.listSessions held allows
  | deleteListed => exact sound.deleteListed held
  | deleteList => exact sound.deleteList held
  | logoutSession => exact sound.logoutSession held allows
  | logoutMember => exact sound.logoutMember held
  | done => exact sound

theorem Sound.starts (sound : store.Sound) {command : Command} (fits : store.Fits command)
    (idle : ∀ jti, ¬command.Pending jti) : Sound { store with requests := store.requests ++ [command] } := by
  have wanes : Wanes store { store with requests := store.requests ++ [command] } :=
    wanes_of_same rfl (Nat.le_refl _)
  have goes : Goes store { store with requests := store.requests ++ [command] } store.requests.length := by
    constructor
    intro request other found
    rcases Nat.lt_or_ge request store.requests.length with inside | beyond
    · rw [List.getElem?_append_left inside] at found
      exact Or.inl found
    · rw [List.getElem?_append_right beyond, List.getElem?_singleton] at found
      split at found
      · obtain rfl := Option.some.inj found
        exact Or.inr ⟨by omega, fun jti pending => absurd pending (idle jti)⟩
      · contradiction
  refine sound.wanes wanes goes ?_ (Or.inl rfl) fun _ => Or.inl
  intro other found
  rw [List.getElem?_concat_length] at found
  obtain rfl := Option.some.inj found
  exact Fits.wanes fits wanes goes

theorem Sound.step (sound : store.Sound) {event : SessionEvent} (careful : store.Careful event) :
    (store.step event).Sound := by
  cases event with
  | tick seconds =>
      refine @Sound.wanes store _ store.requests.length sound (wanes_of_same rfl (Nat.le_add_right ..))
        ⟨fun _ _ => Or.inl⟩ ?_ (Or.inl rfl) fun _ => Or.inl
      intro command found
      simp [SessionStore.step] at found
  | login => exact sound.starts trivial fun _ => by simp [Command.Pending]
  | refresh jti =>
      simp only [SessionStore.step]
      split
      · rename_i valid
        exact sound.starts valid.inside fun _ => id
      · exact sound
  | logout jti =>
      simp only [SessionStore.step]
      split
      · rename_i valid
        exact sound.starts valid.inside fun _ => id
      · exact sound
  | act request =>
      simp only [SessionStore.step]
      split
      · exact sound
      · rename_i command held
        exact sound.perform held (careful command held)
  | stop request =>
      simp only [SessionStore.step]
      cases held : store.requests[request]? with
      | none =>
          have same : store.proceed request .done = store := by
            simp [proceed, List.set_eq_of_length_le (List.getElem?_eq_none_iff.mp held)]
          rw [same]
          exact sound
      | some command =>
          exact sound.proceeds held (wanes_of_same rfl (Nat.le_refl _)) rfl (fun _ pending => absurd pending id) trivial
            rfl rfl

theorem Sound.safe (sound : store.Sound) : store.Safe where
  single := sound.single
  tolerant jti since member := by
    obtain ⟨request, held⟩ := List.getElem?_of_mem member
    exact (sound.fits request _ held).2.2
  revokes := sound.revokes
  signsOut origin member jti descends := ((sound.out origin member).2 jti descends).1

theorem sound_initial : Sound {} := by
  constructor <;> simp [Gone, Live, rotatedAt, lineageOf]

/-- In every state of a run whose commands all find what they have to find, rotation is safe. -/
theorem careful_rotation_safe (events : List SessionEvent) (careful : Along step Careful {} events)
    (front back : List SessionEvent) (split : events = front ++ back) : (play step {} front).Safe := by
  subst split
  have sound : (play step {} front).Sound :=
    (along_append.mp careful).1.invariant (fun _ _ sound careful => sound.step careful) sound_initial
  exact sound.safe

def sampleLogin : List SessionEvent := [.login, .act 0, .act 0, .act 0]

theorem careful_rotation_safe_sample : (play step {} (sampleLogin ++ [.refresh 0] ++ List.replicate 7 (.act 1) ++
      [.tick 5, .refresh 0, .act 2, .act 2, .act 2, .logout 1, .act 3, .act 3])).Safe :=
  careful_rotation_safe _ (by decide +kernel) _ [] (List.append_nil _).symm

def twinRefreshes : List SessionEvent :=
  sampleLogin ++ [.refresh 0, .refresh 0, .act 1, .act 2] ++ List.replicate 3 (.act 1) ++ List.replicate 3 (.act 2)

def earlyDuplicate : List SessionEvent :=
  sampleLogin ++ [.refresh 0, .act 1, .act 1, .refresh 0, .act 2, .act 2]

def loginBesideRevocation : List SessionEvent :=
  sampleLogin ++ [.refresh 0] ++ List.replicate 7 (.act 1) ++
    [.tick 60, .login, .refresh 0, .act 3, .act 3, .act 3, .act 2, .act 3, .act 3]

def logoutBesideRefresh : List SessionEvent :=
  sampleLogin ++ [.refresh 0, .logout 0, .act 1, .act 2, .act 2] ++ List.replicate 3 (.act 1)

theorem interleavings_break_rotation :
    ¬(play step {} twinRefreshes).Safe ∧ ¬(play step {} earlyDuplicate).Safe ∧
      ¬(play step {} loginBesideRevocation).Safe ∧ ¬(play step {} logoutBesideRefresh).Safe := by
  refine ⟨?_, ?_, ?_, ?_⟩
  · intro safe
    have same := safe.single 1 2 0 (by decide +kernel) (by decide +kernel)
    exact absurd same (by decide)
  · intro safe
    have tolerated := safe.tolerant 0 0 (by decide +kernel) 0 (by decide +kernel) (Nat.le_refl _)
    exact absurd tolerated (by decide +kernel)
  · intro safe
    have dead := safe.revokes 2 (by decide +kernel)
    revert dead
    decide +kernel
  · intro safe
    have dead := safe.signsOut 0 (by decide +kernel) 1 (by decide +kernel)
    revert dead
    decide +kernel

end SessionStore

end Thought2Build.Auth
