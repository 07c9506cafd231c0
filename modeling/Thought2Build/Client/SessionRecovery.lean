import Thought2Build.Client.ApiClientCore
import Thought2Build.Library.Histories

/-!
Recovery of a client session. One refresh is shared by everyone who waits, and a request is replayed once; the
generation is compared when a refresh is rejected and not when it succeeds.
-/

namespace Thought2Build.Client

open Histories

namespace Request

def remaining (held : Request) : Nat :=
  match held.phase with
  | .settled _ => 0
  | .sent _ => if held.retry then 0 else 1
  | .refreshing _ _ => 1
  | _ => if held.retry then 1 else 2

end Request

namespace ApiClient

variable {client before after : ApiClient} {skipped : Option Nat}

def Fits (client : ApiClient) (request : Nat) (held : Request) : Prop :=
  match held.phase with
  | .csrf exchange | .csrfAgain exchange => client.exchanges[exchange]? = some { request, prefetch := true }
  | .sent exchange => client.exchanges[exchange]? = some { request, prefetch := false }
  | .refreshing exchange _ => held.retry = true ∧ client.Owns request exchange (.failed (.status 401))
  | .settled result => client.Honest request result
  | _ => True

structure CallsSound (client : ApiClient) : Prop where
  promised : ∀ (place : Nat) (call : RefreshCall), client.calls[place]? = some call → call.phase ≠ .finished →
    client.refreshPromise = some place
  answered : ∀ call ∈ client.calls, call.answer.isSome = true ↔ call.phase ≠ .pending
  counted : client.authGeneration = client.tokensSet + client.logoutsBegun
  started : ∀ call ∈ client.calls, call.generationAtStart = call.tokensBefore + call.logoutsBefore ∧
    call.tokensBefore ≤ client.tokensSet ∧ call.logoutsBefore ≤ client.logoutsBegun
  latched : ∀ call ∈ client.calls, ∀ moment ∈ call.latchedAt,
    call.answer = some (.failed (.status 401)) ∧ moment = (call.tokensBefore, call.logoutsBefore)

structure Sound (skipped : Option Nat) (client : ApiClient) : Prop where
  calls : client.CallsSound
  known : ∀ sent ∈ client.exchanges, sent.request < client.requests.length
  fits : ∀ (request : Nat) (held : Request), skipped ≠ some request → client.requests[request]? = some held →
    client.Fits request held ∧ client.sends request + held.remaining ≤ 2
  justified : ∀ cause ∈ client.clears, client.Justifies cause
  staysOut : client.signedOut = true → client.accessToken = none

theorem countP_modify_same {α : Type} {kept : α → Bool} {change : α → α} (same : ∀ row, kept (change row) = kept row)
    (rows : List α) (place : Nat) : (rows.modify place change).countP kept = rows.countP kept := by
  induction rows generalizing place with
  | nil => simp
  | cons first rest ih =>
      cases place with
      | zero => simp [List.countP_cons, same]
      | succ place => simp [List.countP_cons, ih]

theorem sends_record (exchange other : Nat) (answer : Answer) :
    (client.record exchange answer).sends other = client.sends other := by
  unfold sends ApiClient.record
  apply countP_modify_same
  intro sent
  rfl

theorem Sound.skip (sound : client.Sound none) (request : Nat) : client.Sound (some request) :=
  { sound with fits := fun other held _ => sound.fits other held nofun }

theorem Denied.stays {waiting : Waiting} (denied : before.Denied waiting)
    (calls : ∀ (place : Nat) (call : RefreshCall), before.calls[place]? = some call → call.answer.isSome = true →
      ∃ later, after.calls[place]? = some later ∧ later.answer = call.answer) : after.Denied waiting := by
  cases waiting with
  | latched => trivial
  | call place =>
      obtain ⟨call, held, answered, sound⟩ := denied
      obtain ⟨later, found, same⟩ := calls place call held answered
      exact ⟨later, found, by rw [same]; exact answered, by rw [same]; exact sound⟩

theorem Fits.stays {request : Nat} {held : Request} (fits : before.Fits request held)
    (kept : ∀ (place : Nat) (sent : Exchange), before.exchanges[place]? = some sent →
      sent.request = request ∨ sent.answer.isSome = true → after.exchanges[place]? = some sent)
    (denied : ∀ waiting, before.Denied waiting → after.Denied waiting) : after.Fits request held := by
  unfold Fits at fits ⊢
  cases phase : held.phase with
  | csrf exchange | csrfAgain exchange | sent exchange =>
      simp only [phase] at fits
      exact kept exchange _ fits (Or.inl rfl)
  | refreshing exchange waiting =>
      simp only [phase] at fits
      exact ⟨fits.1, kept exchange _ fits.2 (Or.inl rfl)⟩
  | settled result =>
      simp only [phase] at fits
      cases result with
      | resolved exchange => exact kept exchange _ fits (Or.inl rfl)
      | rejected exchange =>
          obtain ⟨failure, own | ⟨silent, sent, found, answered⟩⟩ := fits
          · exact ⟨failure, Or.inl (kept exchange _ own (Or.inl rfl))⟩
          · exact ⟨failure, Or.inr ⟨silent, sent, kept exchange sent found (Or.inr (by simp [answered])), answered⟩⟩
      | transportError => trivial
      | notAuthenticated waiting => exact denied waiting fits
  | currentUser | interceptor | csrfRefresh => trivial

theorem Justifies.stays {cause : Clear} (justifies : before.Justifies cause)
    (kept : ∀ (place : Nat) (sent : Exchange), before.exchanges[place]? = some sent →
      sent.answer.isSome = true → after.exchanges[place]? = some sent)
    (denied : ∀ waiting, before.Denied waiting → after.Denied waiting) : after.Justifies cause := by
  cases cause with
  | exchange exchange =>
      obtain ⟨sent, found, answered, sound⟩ := justifies
      exact ⟨sent, kept exchange sent found answered, answered, sound⟩
  | refresh waiting => exact denied waiting justifies
  | logout => trivial

theorem Sound.clear (sound : client.Sound skipped) {cause : Clear} (justifies : client.Justifies cause) :
    (client.clear cause).Sound skipped where
  calls := { sound.calls with }
  known := sound.known
  fits := sound.fits
  justified := by
    intro other member
    rcases List.mem_append.mp member with old | new
    · exact sound.justified other old
    · rw [List.mem_singleton.mp new]
      exact justifies
  staysOut _ := rfl

theorem Sound.push {request : Nat} (sound : client.Sound (some request)) (inside : request < client.requests.length)
    (prefetch : Bool) : (client.push { request, prefetch }).Sound (some request) := by
  have kept (place : Nat) (sent : Exchange) (found : client.exchanges[place]? = some sent) :
      (client.push { request, prefetch }).exchanges[place]? = some sent := by
    simp only [ApiClient.push, List.getElem?_append_left (List.getElem?_eq_some_iff.mp found).1]
    exact found
  refine ⟨{ sound.calls with }, ?_, ?_, ?_, sound.staysOut⟩
  · intro sent member
    rcases List.mem_append.mp member with old | new
    · exact sound.known sent old
    · rw [List.mem_singleton.mp new]
      exact inside
  · intro other held elsewhere found
    obtain ⟨fits, budget⟩ := sound.fits other held elsewhere found
    refine ⟨fits.stays (fun place sent found _ => kept place sent found) fun _ => id, ?_⟩
    have differs : request ≠ other := fun same => elsewhere (congrArg some same)
    simpa [sends, ApiClient.push, List.countP_append, differs] using budget
  · intro cause member
    exact (sound.justified cause member).stays (fun place sent found _ => kept place sent found) fun _ => id

theorem Sound.record {request exchange : Nat} {sent : Exchange} (sound : client.Sound (some request))
    (found : client.exchanges[exchange]? = some sent) (own : sent.request = request) (open_ : sent.answer = none)
    (answer : Answer) : (client.record exchange answer).Sound (some request) := by
  have kept (place : Nat) (other : Exchange) (held : client.exchanges[place]? = some other)
      (apart : other.request ≠ request ∨ other.answer.isSome = true) :
      (client.record exchange answer).exchanges[place]? = some other := by
    have differs : exchange ≠ place := by
      rintro rfl
      obtain rfl : other = sent := Option.some.inj (held.symm.trans found)
      rcases apart with away | answered
      · exact away own
      · simp [open_] at answered
    simp only [ApiClient.record, List.getElem?_modify, if_neg differs, held]
    rfl
  refine ⟨{ sound.calls with }, ?_, ?_, ?_, sound.staysOut⟩
  · intro other member
    obtain ⟨place, held⟩ := List.getElem?_of_mem member
    simp only [ApiClient.record, List.getElem?_modify] at held
    obtain ⟨former, earlier, rfl⟩ := Option.map_eq_some_iff.mp held
    have known := sound.known former (List.mem_of_getElem? earlier)
    split <;> exact known
  · intro other held elsewhere stored
    obtain ⟨fits, budget⟩ := sound.fits other held elsewhere stored
    refine ⟨fits.stays ?_ fun _ => id, ?_⟩
    · rintro place later earlier (same | answered)
      · exact kept place later earlier (Or.inl fun own => elsewhere (by rw [← own, same]))
      · exact kept place later earlier (Or.inr answered)
    · rw [sends_record]
      exact budget
  · intro cause member
    exact (sound.justified cause member).stays (fun place later earlier answered => kept place later earlier (Or.inr answered))
      fun _ => id

theorem refreshAccessTokenOutcome_cases (client : ApiClient) :
    client.refreshAccessTokenOutcome.1 = client ∨ (client.refreshPromise = none ∧
      client.refreshAccessTokenOutcome.1 = { client with
        refreshPromise := some client.calls.length
        calls := client.calls ++ [{
          generationAtStart := client.authGeneration
          tokensBefore := client.tokensSet
          logoutsBefore := client.logoutsBegun }] }) := by
  unfold refreshAccessTokenOutcome
  split
  · exact Or.inl rfl
  · split
    · exact Or.inl rfl
    · rename_i idle
      exact Or.inr ⟨idle, rfl⟩

theorem CallsSound.start (sound : client.CallsSound) (idle : client.refreshPromise = none) :
    CallsSound { client with
      refreshPromise := some client.calls.length
      calls := client.calls ++ [{
        generationAtStart := client.authGeneration
        tokensBefore := client.tokensSet
        logoutsBefore := client.logoutsBegun }] } where
  promised place call held unfinished := by
    rcases Nat.lt_or_ge place client.calls.length with inside | beyond
    · rw [List.getElem?_append_left inside] at held
      have promised := sound.promised place call held unfinished
      rw [idle] at promised
      contradiction
    · rw [List.getElem?_append_right beyond, List.getElem?_singleton] at held
      split at held
      · rename_i last
        rw [show place = client.calls.length by omega]
      · contradiction
  answered call member := by
    rcases List.mem_append.mp member with old | new
    · exact sound.answered call old
    · rw [List.mem_singleton.mp new]
      simp
  counted := sound.counted
  started call member := by
    rcases List.mem_append.mp member with old | new
    · exact sound.started call old
    · rw [List.mem_singleton.mp new]
      exact ⟨sound.counted, Nat.le_refl _, Nat.le_refl _⟩
  latched call member := by
    rcases List.mem_append.mp member with old | new
    · exact sound.latched call old
    · rw [List.mem_singleton.mp new]
      simp

theorem Sound.refresh (sound : client.Sound skipped) : (client.refreshAccessTokenOutcome.1).Sound skipped := by
  rcases client.refreshAccessTokenOutcome_cases with same | ⟨idle, started⟩
  · rw [same]
    exact sound
  · rw [started]
    have denied (waiting : Waiting) (denied : client.Denied waiting) : Denied { client with
        refreshPromise := some client.calls.length
        calls := client.calls ++ [{
          generationAtStart := client.authGeneration
          tokensBefore := client.tokensSet
          logoutsBefore := client.logoutsBegun }] } waiting := by
      refine denied.stays fun place call held _ => ⟨call, ?_, rfl⟩
      simp only [List.getElem?_append_left (List.getElem?_eq_some_iff.mp held).1]
      exact held
    refine ⟨sound.calls.start idle, sound.known, ?_, ?_, sound.staysOut⟩
    · intro request held elsewhere found
      obtain ⟨fits, budget⟩ := sound.fits request held elsewhere found
      exact ⟨fits.stays (fun _ _ kept _ => kept) denied, budget⟩
    · intro cause member
      exact (sound.justified cause member).stays (fun _ _ kept _ => kept) denied

theorem Sound.update {request : Nat} {held : Request} (sound : client.Sound (some request))
    (found : client.requests[request]? = some held) (change : Request → Request)
    (fits : client.Fits request (change held)) (budget : client.sends request + (change held).remaining ≤ 2) :
    (client.update request change).Sound none where
  calls := { sound.calls with }
  known sent member := by
    simp only [ApiClient.update, List.length_modify]
    exact sound.known sent member
  fits other later _ stored := by
    simp only [ApiClient.update, List.getElem?_modify] at stored
    by_cases own : request = other
    · subst own
      obtain rfl : change held = later := by simpa [found] using stored
      exact ⟨fits, budget⟩
    · simp only [if_neg own] at stored
      exact sound.fits other later (fun same => own (Option.some.inj same)) (by simpa using stored)
  justified := sound.justified
  staysOut := sound.staysOut

theorem sends_push (request : Nat) (prefetch : Bool) : (client.push { request, prefetch }).sends request =
    client.sends request + if prefetch then 0 else 1 := by
  cases prefetch <;> simp [sends, ApiClient.push, List.countP_append]

theorem push_exchange (exchange : Exchange) :
    (client.push exchange).exchanges[client.exchanges.length]? = some exchange := by
  simp [ApiClient.push]

theorem inside_of_held {request : Nat} {held : Request} (found : client.requests[request]? = some held) :
    request < client.requests.length := (List.getElem?_eq_some_iff.mp found).1

variable {request exchange : Nat} {held : Request} {failure : Failure}

theorem Sound.send (sound : client.Sound (some request)) (found : client.requests[request]? = some held)
    (budget : client.sends request + (if held.retry then 1 else 2) ≤ 2) : (client.send request).Sound none := by
  refine (sound.push (inside_of_held found) false).update found _ (push_exchange _) ?_
  rw [sends_push]
  simp only [Request.remaining]
  cases retry : held.retry <;> simp [retry] at budget ⊢ <;> omega

theorem Sound.prefetch (sound : client.Sound (some request)) (found : client.requests[request]? = some held)
    (budget : client.sends request + (if held.retry then 1 else 2) ≤ 2) {phase : Nat → RequestPhase}
    (prefetches : phase = .csrf ∨ phase = .csrfAgain) : (client.prefetch request phase).Sound none := by
  refine (sound.push (inside_of_held found) true).update found _ ?_ ?_
  · rcases prefetches with rfl | rfl <;> exact push_exchange _
  · rw [sends_push]
    rcases prefetches with rfl | rfl <;> exact budget

theorem refresh_requests (client : ApiClient) : client.refreshAccessTokenOutcome.1.requests = client.requests := by
  rcases client.refreshAccessTokenOutcome_cases with same | ⟨_, started⟩
  · rw [same]
  · rw [started]

theorem refresh_exchanges (client : ApiClient) : client.refreshAccessTokenOutcome.1.exchanges = client.exchanges := by
  rcases client.refreshAccessTokenOutcome_cases with same | ⟨_, started⟩
  · rw [same]
  · rw [started]

theorem Sound.unauthorized (sound : client.Sound (some request)) (found : client.requests[request]? = some held)
    (own : client.Owns request exchange (.failed failure))
    (budget : client.sends request + (if held.retry then 0 else 1) ≤ 2) :
    (client.handleUnauthorizedResponse request held.retry exchange failure).Sound none := by
  unfold handleUnauthorizedResponse
  split
  · rename_i expired
    obtain ⟨rfl, first⟩ := expired
    have owns : client.refreshAccessTokenOutcome.1.Owns request exchange (.failed (.status 401)) := by
      rw [Owns, refresh_exchanges]
      exact own
    refine sound.refresh.update (by rw [refresh_requests]; exact found) _ ⟨rfl, owns⟩ ?_
    simpa [sends, refresh_exchanges, Request.remaining, first] using budget
  · have within : client.sends request + 0 ≤ 2 := by omega
    split
    · exact sound.update found _ ⟨failure, Or.inl own⟩ within
    · rename_i landed
      have justifies : client.Justifies (.exchange exchange) := by
        refine ⟨_, own, rfl, ?_⟩
        intro same
        obtain rfl := Answer.failed.inj (Option.some.inj same)
        exact landed rfl
      exact (sound.clear justifies).update found _ ⟨failure, Or.inl own⟩ within

theorem Sound.unanswered {sent : Exchange} (sound : client.Sound (some request))
    (found : client.requests[request]? = some held) (silent : ∀ code, failure ≠ .status code)
    (stored : client.exchanges[exchange]? = some sent) (answered : sent.answer = some (.failed failure))
    (budget : client.sends request ≤ 2) :
    (client.handleUnauthorizedResponse request false exchange failure).Sound none := by
  have honest : client.Honest request (.rejected exchange) := ⟨failure, Or.inr ⟨silent, sent, stored, answered⟩⟩
  unfold handleUnauthorizedResponse
  rw [if_neg (fun expired => silent 401 expired.1)]
  split
  · exact sound.update found _ honest budget
  · rename_i landed
    have justifies : client.Justifies (.exchange exchange) := by
      refine ⟨sent, stored, by simp [answered], ?_⟩
      intro same
      obtain rfl := Answer.failed.inj (Option.some.inj (answered.symm.trans same))
      exact landed rfl
    exact (sound.clear justifies).update found _ honest budget

theorem record_exchange {sent : Exchange} (stored : client.exchanges[exchange]? = some sent) (answer : Answer) :
    (client.record exchange answer).exchanges[exchange]? = some { sent with answer := some answer } := by
  simp [ApiClient.record, stored]

def LeaksPrefetch (client : ApiClient) (exchange : Nat) (answer : Answer) : Prop :=
  (∃ code, answer = .failed (.status code) ∧ code ≠ 401) ∧
    ∃ sent ∈ client.exchanges[exchange]?, ∃ held ∈ client.requests[sent.request]?, held.phase = .csrf exchange

theorem Sound.receive {sent : Exchange} {answer : Answer} (sound : client.Sound none)
    (stored : client.exchanges[exchange]? = some sent) (found : client.requests[sent.request]? = some held)
    (awaits : held.phase.awaits = some exchange) (contained : ¬client.LeaksPrefetch exchange answer) :
    ((client.record exchange answer).receive sent.request held.retry exchange held.phase answer).Sound none := by
  obtain ⟨fits, budget⟩ := sound.fits sent.request held nofun found
  have open_ : sent.answer = none := by
    cases phase : held.phase <;> simp only [phase, RequestPhase.awaits] at awaits <;> try contradiction
    all_goals
      obtain rfl := Option.some.inj awaits
      simp only [Fits, phase, stored, Option.some.injEq] at fits
      rw [fits]
  have recorded := (sound.skip sent.request).record stored rfl open_ answer
  have again : (client.record exchange answer).requests[sent.request]? = some held := found
  have now := record_exchange stored answer
  cases phase : held.phase with
  | csrf awaited =>
      simp only [Request.remaining, phase] at budget
      rw [← @sends_record client exchange sent.request answer] at budget
      cases answer with
      | ok => exact recorded.send again budget
      | failed failure =>
          simp only [ApiClient.receive]
          split
          · refine recorded.refresh.update (by rw [refresh_requests]; exact again) _ trivial ?_
            simpa [sends, refresh_exchanges, Request.remaining] using budget
          · rename_i other
            refine recorded.unanswered again ?_ now rfl (by omega)
            rintro code rfl
            refine contained ⟨⟨code, rfl, fun same => other (by rw [same])⟩, sent, stored, held, found, ?_⟩
            rw [phase, RequestPhase.awaits] at awaits
            rw [phase, Option.some.inj awaits]
  | csrfAgain awaited =>
      simp only [Request.remaining, phase] at budget
      rw [← @sends_record client exchange sent.request answer] at budget
      exact recorded.send again budget
  | sent awaited =>
      rw [phase, RequestPhase.awaits] at awaits
      obtain rfl := Option.some.inj awaits
      simp only [Fits, phase] at fits
      have same : sent.prefetch = false := by rw [Option.some.inj (stored.symm.trans fits)]
      have owns : (client.record awaited answer).Owns sent.request awaited answer := by simp only [Owns, now, same]
      simp only [Request.remaining, phase] at budget
      rw [← @sends_record client awaited sent.request answer] at budget
      cases answer with
      | ok => exact recorded.update again _ owns (by simp only [Request.remaining]; omega)
      | failed failure => exact recorded.unauthorized again owns budget
  | currentUser | interceptor | csrfRefresh | refreshing | settled =>
      simp [phase, RequestPhase.awaits] at awaits

theorem Sound.answer {answer : Answer} (sound : client.Sound none) (contained : ¬client.LeaksPrefetch exchange answer) :
    (client.answer exchange answer).Sound none := by
  unfold ApiClient.answer
  split
  · exact sound
  · rename_i sent stored
    split
    · exact sound
    · rename_i held found
      split
      · rename_i awaits
        exact sound.receive stored found awaits contained
      · exact sound

theorem CallsSound.denied {waiting : Waiting} {outcome : RefreshOutcome} (ended : client.outcome waiting = some outcome)
    (landed : outcome.transportFailure = false) : client.Denied waiting := by
  cases waiting with
  | latched => trivial
  | call place =>
      simp only [ApiClient.outcome, Option.bind_eq_some_iff] at ended
      obtain ⟨call, held, ended⟩ := ended
      split at ended
      · obtain ⟨answer, answered, rfl⟩ := Option.map_eq_some_iff.mp ended
        refine ⟨call, held, by simp [answered], ?_⟩
        intro same
        obtain rfl := Option.some.inj (answered.symm.trans same)
        contradiction
      · contradiction

theorem Sound.resume (sound : client.Sound none) (request : Nat) : (client.resume request).Sound none := by
  unfold ApiClient.resume
  split
  · exact sound
  · rename_i held found
    obtain ⟨fits, budget⟩ := sound.fits request held nofun found
    have skipped := sound.skip request
    cases phase : held.phase with
    | interceptor =>
        simp only [Request.remaining, phase] at budget
        simp only
        split
        · exact skipped.prefetch found budget (Or.inl rfl)
        · exact skipped.send found budget
    | csrfRefresh waiting =>
        simp only [Request.remaining, phase] at budget
        simp only
        split
        · exact sound
        · split
          · exact skipped.prefetch found budget (Or.inr rfl)
          · exact skipped.send found budget
    | refreshing exchange waiting =>
        simp only [Request.remaining, phase] at budget
        simp only [Fits, phase] at fits
        simp only
        split
        · exact sound
        · rename_i outcome ended
          have honest : client.Honest request (.rejected exchange) := ⟨_, Or.inl fits.2⟩
          have within : client.sends request + 0 ≤ 2 := by omega
          split
          · exact skipped.update found _ trivial (by simpa [Request.remaining, fits.1] using budget)
          · split
            · exact skipped.update found _ honest within
            · rename_i landed
              have justifies : client.Justifies (.refresh waiting) :=
                CallsSound.denied ended (by simpa using landed)
              exact (skipped.clear justifies).update found _ honest within
    | currentUser waiting =>
        simp only [Request.remaining, phase] at budget
        simp only
        split
        · exact sound
        · rename_i outcome ended
          have within : client.sends request + 0 ≤ 2 := by omega
          split
          · exact skipped.update found _ trivial budget
          · refine skipped.update found _ ?_ within
            cases landed : outcome.transportFailure with
            | true => trivial
            | false => exact CallsSound.denied ended landed
    | csrf | csrfAgain | sent | settled => exact sound

variable {place : Nat} {call : RefreshCall}

theorem setCall_cases {change : RefreshCall → RefreshCall} {other : Nat} {later : RefreshCall}
    (held : client.calls[place]? = some call) (found : (client.setCall place change).calls[other]? = some later) :
    (other = place ∧ later = change call) ∨ (other ≠ place ∧ client.calls[other]? = some later) := by
  simp only [setCall, List.getElem?_modify] at found
  by_cases own : place = other
  · subst own
    exact Or.inl ⟨rfl, by simpa [held, eq_comm] using found⟩
  · exact Or.inr ⟨Ne.symm own, by simpa [own] using found⟩

theorem CallsSound.setCall (sound : client.CallsSound) (held : client.calls[place]? = some call)
    (change : RefreshCall → RefreshCall) (open_ : (change call).phase ≠ .finished → call.phase ≠ .finished)
    (answered : (change call).answer.isSome = true ↔ (change call).phase ≠ .pending)
    (start : (change call).generationAtStart = call.generationAtStart ∧
      (change call).tokensBefore = call.tokensBefore ∧ (change call).logoutsBefore = call.logoutsBefore)
    (latched : ∀ moment ∈ (change call).latchedAt, (change call).answer = some (.failed (.status 401)) ∧
      moment = (call.tokensBefore, call.logoutsBefore)) : (client.setCall place change).CallsSound where
  promised other later found unfinished := by
    rcases setCall_cases held found with ⟨rfl, rfl⟩ | ⟨_, before⟩
    · exact sound.promised other call held (open_ unfinished)
    · exact sound.promised other later before unfinished
  answered later member := by
    obtain ⟨other, found⟩ := List.getElem?_of_mem member
    rcases setCall_cases held found with ⟨_, rfl⟩ | ⟨_, before⟩
    · exact answered
    · exact sound.answered later (List.mem_of_getElem? before)
  counted := sound.counted
  started later member := by
    obtain ⟨other, found⟩ := List.getElem?_of_mem member
    rcases setCall_cases held found with ⟨_, rfl⟩ | ⟨_, before⟩
    · rw [start.1, start.2.1, start.2.2]
      exact sound.started call (List.mem_of_getElem? held)
    · exact sound.started later (List.mem_of_getElem? before)
  latched later member := by
    obtain ⟨other, found⟩ := List.getElem?_of_mem member
    rcases setCall_cases held found with ⟨_, rfl⟩ | ⟨_, before⟩
    · rw [start.2.1, start.2.2]
      exact latched
    · exact sound.latched later (List.mem_of_getElem? before)

theorem CallsSound.setAccessToken (sound : client.CallsSound) (token : Nat) :
    (client.setAccessToken token).CallsSound where
  promised := sound.promised
  answered := sound.answered
  counted := by
    have counted := sound.counted
    simp only [ApiClient.setAccessToken]
    omega
  started call member := by
    obtain ⟨sum, tokens, logouts⟩ := sound.started call member
    exact ⟨sum, Nat.le_succ_of_le tokens, logouts⟩
  latched := sound.latched

theorem CallsSound.moment (sound : client.CallsSound) (member : call ∈ client.calls)
    (same : client.authGeneration = call.generationAtStart) :
    (client.tokensSet, client.logoutsBegun) = (call.tokensBefore, call.logoutsBefore) := by
  obtain ⟨sum, tokens, logouts⟩ := sound.started call member
  have counted := sound.counted
  rw [Prod.mk.injEq]
  omega

theorem CallsSound.answerCall (sound : client.CallsSound) (held : client.calls[place]? = some call)
    (pending : call.phase = .pending) (answer : RefreshAnswer) : (client.setCall place fun held =>
      { held with phase := .answered, answer := some answer }).CallsSound := by
  refine sound.setCall held _ (fun _ => by simp [pending]) (by simp) ⟨rfl, rfl, rfl⟩ ?_
  intro moment latched
  have answered := (sound.latched call (List.mem_of_getElem? held) moment latched).1
  exact absurd pending ((sound.answered call (List.mem_of_getElem? held)).mp (by simp [answered]))

theorem Sound.withCalls (sound : before.Sound none) (calls : after.CallsSound)
    (kept : ∀ (place : Nat) (call : RefreshCall), before.calls[place]? = some call → call.answer.isSome = true →
      ∃ later, after.calls[place]? = some later ∧ later.answer = call.answer)
    (exchanges : after.exchanges = before.exchanges) (requests : after.requests = before.requests)
    (clears : after.clears = before.clears) (out : after.signedOut = true → after.accessToken = none) :
    after.Sound none where
  calls := calls
  known := by
    rw [exchanges, requests]
    exact sound.known
  fits request held skipped found := by
    rw [requests] at found
    obtain ⟨fits, budget⟩ := sound.fits request held skipped found
    refine ⟨fits.stays (fun _ _ stored _ => exchanges ▸ stored) (fun _ denied => denied.stays kept), ?_⟩
    rw [show after.sends request = before.sends request by simp only [sends, exchanges]]
    exact budget
  justified cause member := by
    rw [clears] at member
    exact (sound.justified cause member).stays (fun _ _ stored _ => exchanges ▸ stored) (fun _ denied => denied.stays kept)
  staysOut := out

def RevivesToken (client : ApiClient) (call : Nat) (answer : RefreshAnswer) : Prop :=
  client.signedOut = true ∧ (∃ held ∈ client.calls[call]?, held.phase = .pending) ∧ ∃ token, answer = .token token

theorem answers_stay (held : client.calls[place]? = some call) {change : RefreshCall → RefreshCall}
    (same : call.answer.isSome = true → (change call).answer = call.answer) (other : Nat) (former : RefreshCall)
    (found : client.calls[other]? = some former) (answered : former.answer.isSome = true) :
    ∃ later, (client.setCall place change).calls[other]? = some later ∧ later.answer = former.answer := by
  simp only [ApiClient.setCall, List.getElem?_modify]
  by_cases own : place = other
  · subst own
    obtain rfl := Option.some.inj (held.symm.trans found)
    exact ⟨change call, by simp [held], same answered⟩
  · exact ⟨former, by simp [own, found], rfl⟩

theorem Sound.refreshAnswer {answer : RefreshAnswer} (sound : client.Sound none)
    (dead : ¬client.RevivesToken place answer) : (client.refreshAnswer place answer).Sound none := by
  unfold ApiClient.refreshAnswer
  split
  · exact sound
  · rename_i call held
    split
    · rename_i pending
      have member := List.mem_of_getElem? held
      have fresh : call.answer = none := by
        by_contra some
        exact (sound.calls.answered call member).mp (Option.isSome_iff_ne_none.mpr some) pending
      have calls := sound.calls.answerCall held pending answer
      have kept := @answers_stay client place call held
        (fun held => { held with phase := .answered, answer := some answer }) (fun answered => by simp [fresh] at answered)
      cases answer with
      | token token =>
          refine sound.withCalls (calls.setAccessToken token) kept rfl rfl rfl ?_
          intro out
          exact absurd ⟨out, ⟨call, held, pending⟩, token, rfl⟩ dead
      | empty => exact sound.withCalls calls kept rfl rfl rfl sound.staysOut
      | failed failure =>
          simp only
          split
          · rename_i definitive
            obtain ⟨rfl, same⟩ := definitive
            have moment := sound.calls.moment member same
            have found : (client.setCall place fun held => { held with
                phase := .answered, answer := some (.failed (.status 401)) }).calls[place]? = some { call with
                  phase := .answered, answer := some (.failed (.status 401)) } := by
              simp [ApiClient.setCall, held]
            have latched := calls.setCall found (fun held => { held with
              latchedAt := some (client.tokensSet, client.logoutsBegun) }) (fun _ => by simp) (by simp) ⟨rfl, rfl, rfl⟩
                (fun other member => ⟨rfl, (Option.some.inj member).symm.trans moment⟩)
            have still (other : Nat) (former : RefreshCall) (stored : client.calls[other]? = some former)
                (answered : former.answer.isSome = true) : ∃ later, ((client.setCall place fun held => { held with
                  phase := .answered, answer := some (.failed (.status 401)) }).setCall place fun held => { held with
                    latchedAt := some (client.tokensSet, client.logoutsBegun) }).calls[other]? = some later ∧
                      later.answer = former.answer := by
              obtain ⟨later, stored, same⟩ := kept other former stored answered
              obtain ⟨final, stored, again⟩ := @answers_stay _ place _ found (fun held => { held with
                latchedAt := some (client.tokensSet, client.logoutsBegun) }) (fun _ => rfl) other later stored
                  (by rw [same]; exact answered)
              exact ⟨final, stored, again.trans same⟩
            unfold markSessionExpired
            split
            · exact sound.withCalls latched still rfl rfl rfl sound.staysOut
            · exact sound.withCalls { latched with } still rfl rfl rfl sound.staysOut
          · exact sound.withCalls calls kept rfl rfl rfl sound.staysOut
    · exact sound

theorem Sound.runFinally (sound : client.Sound none) (place : Nat) : (client.runFinally place).Sound none := by
  unfold ApiClient.runFinally
  split
  · exact sound
  · rename_i call held
    split
    · rename_i answered
      have member := List.mem_of_getElem? held
      have calls := sound.calls.setCall held (fun held => { held with phase := .finished }) (fun ended => by simp at ended)
        (by simpa [answered] using sound.calls.answered call member) ⟨rfl, rfl, rfl⟩ (sound.calls.latched call member)
      have promised := sound.calls.promised place call held (by simp [answered])
      refine sound.withCalls { calls with promised := ?_ } (answers_stay held fun _ => rfl) rfl rfl rfl sound.staysOut
      intro other later found unfinished
      have same : other = place :=
        (Option.some.inj (promised.symm.trans (calls.promised other later found unfinished))).symm
      rcases setCall_cases held found with ⟨_, rfl⟩ | ⟨differs, _⟩
      · contradiction
      · exact absurd same differs
    · exact sound

theorem Sound.makeRequest (sound : client.Sound none) (held : Request) (fits : client.Fits client.requests.length held)
    (budget : held.remaining ≤ 2) : Sound none { client with requests := client.requests ++ [held] } where
  calls := { sound.calls with }
  known sent member := by
    have known := sound.known sent member
    simp only [List.length_append, List.length_singleton]
    omega
  fits request other skipped found := by
    rcases Nat.lt_or_ge request client.requests.length with inside | beyond
    · rw [List.getElem?_append_left inside] at found
      exact sound.fits request other skipped found
    · rw [List.getElem?_append_right beyond, List.getElem?_singleton] at found
      split at found
      · rename_i last
        obtain rfl := Option.some.inj found
        obtain rfl : request = client.requests.length := by omega
        refine ⟨fits, ?_⟩
        -- No exchange belongs to a request that has not been made before.
        have none : client.sends client.requests.length = 0 := by
          refine List.countP_eq_zero.mpr fun sent member => ?_
          have known := sound.known sent member
          simp only [decide_eq_true_eq, not_and]
          omega
        rw [show ApiClient.sends { client with requests := client.requests ++ [held] } client.requests.length =
          client.sends client.requests.length from rfl, none]
        omega
      · contradiction
  justified := sound.justified
  staysOut := sound.staysOut

/-- No refresh revives a signed-out tab, and no prefetch is refused. -/
def Careful (client : ApiClient) : ClientEvent → Prop
  | .refreshAnswer call answer => ¬client.RevivesToken call answer
  | .answer exchange answer => ¬client.LeaksPrefetch exchange answer
  | _ => True

theorem Sound.step (sound : client.Sound none) {event : ClientEvent} (careful : client.Careful event) :
    (client.step event).Sound none := by
  cases event with
  | tick ms => exact sound.withCalls { sound.calls with } (fun _ call held _ => ⟨call, held, rfl⟩) rfl rfl rfl sound.staysOut
  | login token =>
      exact sound.withCalls { sound.calls.setAccessToken token with } (fun _ call held _ => ⟨call, held, rfl⟩) rfl rfl
        rfl nofun
  | logout =>
      refine sound.withCalls { sound.calls with counted := ?_, started := ?_ } (fun _ call held _ => ⟨call, held, rfl⟩) rfl
        rfl rfl sound.staysOut
      · have counted := sound.calls.counted
        simp only [ApiClient.step]
        omega
      · intro call member
        obtain ⟨sum, tokens, logouts⟩ := sound.calls.started call member
        exact ⟨sum, tokens, Nat.le_succ_of_le logouts⟩
  | logoutAnswer logout =>
      simp only [ApiClient.step]
      split
      · have cleared := @Sound.clear client none sound .logout trivial
        exact { cleared with calls := { cleared.calls with }, staysOut := fun _ => rfl }
      · exact sound
  | request mutating => exact sound.makeRequest { mutating } trivial (Nat.le_refl _)
  | getCurrentUser =>
      simp only [ApiClient.step]
      split
      · exact sound.makeRequest _ trivial (Nat.le_refl _)
      · exact sound.refresh.makeRequest _ trivial (Nat.le_refl _)
  | poll => exact sound.refresh
  | resume request => exact sound.resume request
  | answer exchange answer => exact sound.answer careful
  | refreshAnswer call answer => exact sound.refreshAnswer careful
  | «finally» call => exact sound.runFinally call

theorem sound_initial : Sound none {} where
  calls := by constructor <;> simp
  known := by simp
  fits := by simp
  justified := by simp
  staysOut := by simp

theorem Sound.safe (sound : client.Sound none) : client.Safe where
  singleFlight first second one other found also pending waits := by
    have promised := sound.calls.promised first one found (by simp [pending])
    exact Option.some.inj (promised.symm.trans (sound.calls.promised second other also (by simp [waits])))
  replayedOnce request := by
    cases found : client.requests[request]? with
    | some held =>
        have budget := (sound.fits request held nofun found).2
        omega
    | none =>
        have none : client.sends request = 0 := by
          refine List.countP_eq_zero.mpr fun sent member => ?_
          have known := sound.known sent member
          have beyond := List.getElem?_eq_none_iff.mp found
          simp only [decide_eq_true_eq, not_and]
          omega
        omega
  honest request held result found phase := by
    have fits := (sound.fits request held nofun found).1
    simpa only [Fits, phase] using fits
  justified := sound.justified
  latches := sound.calls.latched
  staysOut := sound.staysOut

theorem Sound.leaks {answer : Answer} (sound : client.Sound none) (leaks : client.LeaksPrefetch exchange answer) :
    ¬(client.answer exchange answer).Safe := by
  obtain ⟨⟨code, rfl, other⟩, sent, stored, held, found, phase⟩ := leaks
  rw [Option.mem_def] at stored found
  have fits := (sound.fits sent.request held nofun found).1
  simp only [Fits, phase, stored, Option.some.injEq] at fits
  have prefetched : sent.prefetch = true := by rw [fits]
  have reached : (client.answer exchange (.failed (.status code))).requests[sent.request]? =
      some { held with phase := .settled (.rejected exchange) } := by
    simp [ApiClient.answer, stored, found, phase, RequestPhase.awaits, ApiClient.receive, other,
      handleUnauthorizedResponse, Failure.isTransportError, setPhase, ApiClient.update, ApiClient.clear,
      ApiClient.record]
  have kept : (client.answer exchange (.failed (.status code))).exchanges[exchange]? =
      some { sent with answer := some (.failed (.status code)) } := by
    simp [ApiClient.answer, stored, found, phase, RequestPhase.awaits, ApiClient.receive, other,
      handleUnauthorizedResponse, Failure.isTransportError, setPhase, ApiClient.update, ApiClient.clear,
      ApiClient.record]
  intro safe
  obtain ⟨failure, own | ⟨silent, last, again, answered⟩⟩ := safe.honest sent.request _ _ reached rfl
  · have same := Option.some.inj (kept.symm.trans own)
    simp [prefetched] at same
  · obtain rfl := Option.some.inj (kept.symm.trans again)
    exact silent code (Answer.failed.inj (Option.some.inj answered)).symm

theorem revives {answer : RefreshAnswer} (revives : client.RevivesToken place answer) :
    ¬(client.refreshAnswer place answer).Safe := by
  obtain ⟨out, ⟨call, held, pending⟩, token, rfl⟩ := revives
  rw [Option.mem_def] at held
  intro safe
  have cleared := safe.staysOut (by simp [ApiClient.refreshAnswer, held, pending, setAccessToken, setCall, out])
  simp [ApiClient.refreshAnswer, held, pending, setAccessToken] at cleared

theorem Sound.careful_of_safe {events : List ClientEvent} (sound : client.Sound none)
    (safe : ∀ front back, events = front ++ back → (play ApiClient.step client front).Safe) :
    Along ApiClient.step Careful client events := by
  induction events generalizing client with
  | nil => trivial
  | cons event rest ih =>
      have next : (client.step event).Safe := safe [event] rest rfl
      have careful : client.Careful event := by
        cases event with
        | answer exchange answer => exact fun leaks => sound.leaks leaks next
        | refreshAnswer call answer => exact fun again => revives again next
        | tick | login | logout | logoutAnswer | request | getCurrentUser | poll | resume | «finally» => trivial
      exact ⟨careful, ih (sound.step careful) fun front back split => safe (event :: front) back (by rw [split]; rfl)⟩

/-- A run stays safe exactly when no refresh brings a token to a tab that has signed out, and the server answers
no prefetch with a status other than success and 401. -/
theorem session_recovery_safe_iff (events : List ClientEvent) :
    (∀ front back, events = front ++ back → (play step {} front).Safe) ↔ Along step Careful {} events := by
  constructor
  · exact sound_initial.careful_of_safe
  · rintro careful front back rfl
    have sound : (play step {} front).Sound none :=
      (along_append.mp careful).1.invariant (fun _ _ sound careful => sound.step careful) sound_initial
    exact sound.safe

theorem late_refresh_revives_token : ¬(play step {}
    [.login 1, .poll, .logout, .logoutAnswer 0, .refreshAnswer 0 (.token 2), .finally 0]).Safe := by
  intro safe
  have cleared := safe.staysOut (by decide)
  revert cleared
  decide

end ApiClient

end Thought2Build.Client
