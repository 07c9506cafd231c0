import Thought2Build.Client.SseCore
import Thought2Build.Library.Histories

/-! The requests of a connection, whatever its caller does: when one is repeated, and that they come to an end. -/

namespace Thought2Build.Client

open Histories

def MayRepeat (post : Option Nat) : Prop := post = none ∨ post = some 401 ∨ post = some 429 ∨ post = some 503

namespace StreamPhase

def sent : StreamPhase → Nat
  | .headers again => if again then 1 else 0
  | .fetching again => if again then 2 else 1
  | .refreshing => 1
  | .reading | .waiting | .finished => 2

def remaining : StreamPhase → Nat
  | .headers again => if again then 3 else 6
  | .fetching again => if again then 2 else 5
  | .refreshing => 4
  | .reading => 1
  | .waiting | .finished => 0

theorem sent_le (phase : StreamPhase) : phase.sent ≤ 2 := by
  cases phase with
  | headers again | fetching again => cases again <;> decide
  | _ => decide

theorem sent_fetching (again : Bool) : 1 ≤ (StreamPhase.fetching again).sent := by
  cases again <;> decide

theorem remaining_pos {phase : StreamPhase} (preparing : phase ≠ .waiting ∧ phase ≠ .finished) :
    0 < phase.remaining := by
  cases phase with
  | headers again | fetching again => cases again <;> decide
  | refreshing | reading => decide
  | waiting => exact absurd rfl preparing.1
  | finished => exact absurd rfl preparing.2

theorem remaining_fetching (again : Bool) : 1 < (StreamPhase.fetching again).remaining := by
  cases again <;> decide

end StreamPhase

structure RequestState where
  attempt : Nat
  phase : StreamPhase
  responseReceived : Bool
  posts : List (Option Nat)

namespace RequestState

variable {state next : RequestState}

def answer (state : RequestState) (phase : StreamPhase) (status : Nat) : RequestState :=
  { state with phase, responseReceived := true, posts := some status :: state.posts.tail }

inductive Moves (state : RequestState) : RequestState → Prop
  | ends (open' : state.phase ≠ .finished) : Moves state { state with phase := .finished }
  | pauses (preparing : state.phase ≠ .waiting ∧ state.phase ≠ .finished) (silent : state.responseReceived = false)
      (room : state.attempt < maxRetries) : Moves state { state with phase := .waiting }
  | sends (again : Bool) (ready : state.phase = .headers again) :
      Moves state { state with phase := .fetching again, posts := none :: state.posts }
  | unauthorised (sent : state.phase = .fetching false) : Moves state (state.answer .refreshing 401)
  | rejected (again : Bool) (sent : state.phase = .fetching again) (status : Nat) (busy : status = 429 ∨ status = 503)
      (room : state.attempt < maxRetries) : Moves state (state.answer .waiting status)
  | opens (again : Bool) (sent : state.phase = .fetching again) (status : Nat) :
      Moves state (state.answer .reading status)
  | refuses (again : Bool) (sent : state.phase = .fetching again) (status : Nat) :
      Moves state (state.answer .finished status)
  | renews (refreshed : state.phase = .refreshing) :
      Moves state { state with phase := .headers true, responseReceived := false }
  | restarts (waited : state.phase = .waiting) :
      Moves state { state with attempt := state.attempt + 1, phase := .headers false, responseReceived := false }

structure Sound (state : RequestState) : Prop where
  attempts : state.attempt ≤ maxRetries
  waits : state.phase = .waiting → state.attempt < maxRetries
  reads : state.phase = .reading → state.responseReceived = true
  count : state.posts.length ≤ 2 * state.attempt + state.phase.sent
  earlier : ∀ post ∈ state.posts.tail, MayRepeat post
  last : state.phase ≠ .reading → state.phase ≠ .finished → ∀ post ∈ state.posts, MayRepeat post

def rank (state : RequestState) : Nat :=
  if state.phase = .finished then 0 else 8 * (maxRetries - state.attempt) + state.phase.remaining

theorem Sound.answer (sound : state.Sound) {again : Bool} (sent : state.phase = .fetching again)
    {phase : StreamPhase} {status : Nat} (waits : phase = .waiting → state.attempt < maxRetries)
    (fits : (StreamPhase.fetching again).sent ≤ phase.sent)
    (repeated : phase ≠ .reading → phase ≠ .finished → MayRepeat (some status)) :
    (state.answer phase status).Sound := by
  have count := sound.count
  rw [sent] at count
  have positive := StreamPhase.sent_fetching again
  refine ⟨sound.attempts, waits, fun _ => rfl, ?_, sound.earlier, ?_⟩
  · simp only [RequestState.answer, List.length_cons, List.length_tail]
    omega
  · intro reading finished post member
    rcases List.mem_cons.mp member with rfl | old
    · exact repeated reading finished
    · exact sound.earlier post old

theorem Sound.moves (sound : state.Sound) (moves : state.Moves next) : next.Sound := by
  have count := sound.count
  cases moves with
  | ends open' =>
      have most := count.trans (Nat.add_le_add_left state.phase.sent_le _)
      exact ⟨sound.attempts, nofun, nofun, most, sound.earlier, fun _ finished => absurd rfl finished⟩
  | pauses preparing silent room =>
      have reading : state.phase ≠ .reading := fun reads => by simp [sound.reads reads] at silent
      have most := count.trans (Nat.add_le_add_left state.phase.sent_le _)
      have repeated := sound.last reading preparing.2
      exact ⟨sound.attempts, fun _ => room, nofun, most, sound.earlier, fun _ _ => repeated⟩
  | sends again ready =>
      have repeated := sound.last (by simp [ready]) (by simp [ready])
      rw [ready] at count
      refine ⟨sound.attempts, nofun, nofun, ?_, repeated, ?_⟩
      · cases again <;> exact Nat.succ_le_succ count
      · intro _ _ post member
        rcases List.mem_cons.mp member with rfl | old
        · exact Or.inl rfl
        · exact repeated post old
  | unauthorised sent => exact sound.answer sent nofun (Nat.le_refl 1) fun _ _ => Or.inr (Or.inl rfl)
  | rejected again sent status busy room =>
      refine sound.answer sent (fun _ => room) (StreamPhase.sent_le _) fun _ _ => ?_
      exact Or.inr (Or.inr (busy.imp (congrArg some) (congrArg some)))
  | opens again sent status =>
      exact sound.answer sent nofun (StreamPhase.sent_le _) fun reading => absurd rfl reading
  | refuses again sent status =>
      exact sound.answer sent nofun (StreamPhase.sent_le _) fun _ finished => absurd rfl finished
  | renews refreshed =>
      have repeated := sound.last (by simp [refreshed]) (by simp [refreshed])
      rw [refreshed] at count
      exact ⟨sound.attempts, nofun, nofun, count, sound.earlier, fun _ _ => repeated⟩
  | restarts waited =>
      have repeated := sound.last (by simp [waited]) (by simp [waited])
      have room : state.attempt + 1 ≤ maxRetries := sound.waits waited
      rw [waited] at count
      have next : state.posts.length ≤ 2 * (state.attempt + 1) := count
      exact ⟨room, nofun, nofun, next, sound.earlier, fun _ _ => repeated⟩

theorem Sound.rank_pos (sound : state.Sound) (open' : state.phase ≠ .finished) : 0 < state.rank := by
  rw [rank, if_neg open']
  by_cases waited : state.phase = .waiting
  · have room := sound.waits waited
    omega
  · have positive := StreamPhase.remaining_pos ⟨waited, open'⟩
    omega

theorem rank_lt (same : next.attempt = state.attempt) (less : next.phase.remaining < state.phase.remaining) :
    next.rank < state.rank := by
  have open' : state.phase ≠ .finished := by
    intro finished
    rw [finished] at less
    exact Nat.not_lt_zero _ less
  rw [rank, rank, if_neg open', same]
  split <;> omega

theorem Sound.rank_moves (sound : state.Sound) (moves : state.Moves next) : next.rank < state.rank := by
  cases moves with
  | ends open' => exact sound.rank_pos open'
  | pauses preparing => exact rank_lt rfl (StreamPhase.remaining_pos preparing)
  | sends again ready =>
      refine rank_lt rfl ?_
      rw [ready]
      cases again <;> exact Nat.lt_succ_self _
  | unauthorised sent =>
      refine rank_lt rfl ?_
      rw [sent]
      exact Nat.lt_succ_self 4
  | rejected again sent =>
      refine rank_lt rfl ?_
      rw [sent]
      exact (StreamPhase.remaining_fetching again).trans' Nat.zero_lt_one
  | opens again sent =>
      refine rank_lt rfl ?_
      rw [sent]
      exact StreamPhase.remaining_fetching again
  | refuses again sent => exact sound.rank_pos (by simp [sent])
  | renews refreshed =>
      refine rank_lt rfl ?_
      rw [refreshed]
      exact Nat.lt_succ_self 3
  | restarts waited =>
      have room := sound.waits waited
      rw [rank, rank, if_neg nofun, if_neg (by simp [waited])]
      change 8 * (maxRetries - (state.attempt + 1)) + 6 < _
      omega

end RequestState

def StreamEvent.answers : StreamEvent → StreamPhase → Bool
  | .headers _, .headers _ => true
  | .response _ _, .fetching _ | .fetchFails _, .fetching _ => true
  | .refreshed _, .refreshing => true
  | .streamEnds, .reading | .readFails _, .reading => true
  | .timer, .waiting => true
  | _, _ => false

namespace StreamClient

variable {runtime : StreamRuntime} {reacts : Reaction} {client : StreamClient}

def requests (client : StreamClient) : RequestState :=
  { client with }

def ended (client : StreamClient) : RequestState :=
  { client.requests with phase := .finished }

section Calls

variable (reacts client) (call : StreamCall) (error : StreamError)

@[simp] theorem call_requests : (client.call reacts call).requests = client.requests := rfl

@[simp] theorem settleError_requests : (client.settleError reacts error).requests = client.requests := rfl

@[simp] theorem close_requests : client.close.requests = client.requests := rfl

@[simp] theorem settleInterrupted_requests : (client.settleInterrupted reacts).requests = client.requests := rfl

@[simp] theorem finish_requests : (client.finish reacts).requests = client.ended := by
  rw [finish]
  split <;> rfl

theorem ended_congr {other : StreamClient} (same : other.requests = client.requests) : other.ended = client.ended := by
  rw [ended, ended, same]

@[simp] theorem afterLoop_requests : (client.afterLoop reacts).requests = client.ended := by
  rw [afterLoop]
  split
  · exact finish_requests reacts client
  · split <;> rw [finish_requests] <;> rfl

theorem retry_requests : (client.retry reacts).requests = client.ended ∨
    client.attempt < maxRetries ∧ (client.retry reacts).requests = { client.requests with phase := .waiting } := by
  rw [retry]
  split
  · exact Or.inl (finish_requests reacts client)
  · split
    · rename_i room
      exact Or.inr ⟨room, rfl⟩
    · exact Or.inl (finish_requests reacts _)

theorem caught_requests : (client.caught reacts error).requests = client.ended ∨
    client.responseReceived = false ∧ client.attempt < maxRetries ∧
      (client.caught reacts error).requests = { client.requests with phase := .waiting } := by
  rw [caught]
  split
  · rw [finish_requests]
    split <;> exact Or.inl rfl
  · split
    · exact Or.inl (finish_requests reacts _)
    · split
      · rename_i silent
        exact (retry_requests reacts { client with lastError := some error }).imp id fun waits => ⟨silent, waits⟩
      · exact Or.inl (finish_requests reacts _)

theorem dispatch_requests (frame : Frame) : (client.dispatch runtime reacts frame).1.requests = client.requests := by
  cases frame with
  | generationTerminal info => cases info <;> rfl
  | _ => rfl

theorem dispatchAll_requests (client : StreamClient) (frames : List Frame) :
    (client.dispatchAll runtime reacts frames).1.requests = client.requests := by
  induction frames generalizing client with
  | nil => rfl
  | cons frame rest ih =>
      have first := @dispatch_requests runtime reacts client frame
      rw [dispatchAll]
      split
      all_goals rename_i next flow; rw [flow] at first
      · exact (ih next).trans first
      · exact first
      · exact first

end Calls

theorem caught_moves (error : StreamError)
    (preparing : client.phase ≠ .waiting ∧ client.phase ≠ .finished) :
    client.requests.Moves (client.caught reacts error).requests := by
  rcases caught_requests reacts client error with ended | ⟨silent, room, waits⟩
  · rw [ended]
    exact .ends preparing.2
  · rw [waits]
    exact .pauses preparing silent room

theorem respond_moves {again : Bool} (sent : client.phase = .fetching again) (status : Nat) (hasBody : Bool) :
    client.requests.Moves
      (respond reacts
        { client with responseReceived := true, posts := some status :: client.posts.tail } status hasBody).requests := by
  rw [respond]
  split
  · rw [finish_requests]
    exact .refuses again sent status
  · split
    · rename_i busy
      rcases retry_requests reacts
        { client with
          responseReceived := true, posts := some status :: client.posts.tail
          lastError := some (knownError "rate_limit_exceeded") } with ended | ⟨room, waits⟩
      · rw [ended]
        exact .refuses again sent status
      · rw [waits]
        exact .rejected again sent status busy room
    · split
      · rw [finish_requests]
        exact .refuses again sent status
      · split
        · rw [afterLoop_requests]
          exact .refuses again sent status
        · exact .opens again sent status

theorem read_requests (text : List Char) (reads : client.phase = .reading) :
    (client.read runtime reacts text).requests = client.requests ∨
      client.requests.Moves (client.read runtime reacts text).requests := by
  have open' : client.requests.phase ≠ .finished := fun finished => nomatch reads.symm.trans finished
  have preparing : client.phase ≠ .waiting ∧ client.phase ≠ .finished := by simp [reads]
  rw [read]
  split
  · rw [afterLoop_requests]
    exact Or.inr (.ends open')
  · split
    · exact Or.inl rfl
    · rename_i complete buffer _
      have kept : _ = client.requests :=
        @dispatchAll_requests runtime reacts { client with buffer } (runtime.frames complete)
      split
      all_goals rename_i next flow; rw [flow] at kept
      · split
        · rw [afterLoop_requests, ended_congr client kept]
          exact Or.inr (.ends open')
        · exact Or.inl kept
      · rw [finish_requests, ended_congr client kept]
        exact Or.inr (.ends open')
      · have phase : next.phase = client.phase := congrArg RequestState.phase kept
        rw [← kept]
        exact Or.inr (caught_moves _ (by rwa [phase]))

theorem step_requests (client : StreamClient) (event : StreamEvent) :
    client.requests.Moves (client.step runtime reacts event).requests ∨
      event.answers client.phase = false ∧ (client.step runtime reacts event).requests = client.requests := by
  cases event with
  | close => exact Or.inr ⟨rfl, rfl⟩
  | headers thrown =>
      cases phase : client.phase with
      | headers again =>
          left
          cases thrown with
          | some error =>
              simp only [step, phase]
              exact caught_moves error (by simp [phase])
          | none =>
              simp only [step, phase]
              split
              · exact caught_moves abortError (by simp [phase])
              · exact .sends again phase
      | _ => exact Or.inr ⟨rfl, by simp [step, phase]⟩
  | response status hasBody =>
      cases phase : client.phase with
      | fetching again =>
          left
          simp only [step, phase]
          split
          · rename_i unauthorised
            obtain ⟨rfl, rfl, _⟩ := unauthorised
            exact .unauthorised phase
          · exact respond_moves phase status hasBody
      | _ => exact Or.inr ⟨rfl, by simp [step, phase]⟩
  | fetchFails error =>
      cases phase : client.phase with
      | fetching again =>
          simp only [step, phase]
          exact Or.inl (caught_moves error (by simp [phase]))
      | _ => exact Or.inr ⟨rfl, by simp [step, phase]⟩
  | refreshed outcome =>
      cases phase : client.phase with
      | refreshing =>
          left
          have open' : client.requests.phase ≠ .finished := fun finished => nomatch phase.symm.trans finished
          cases outcome with
          | token =>
              simp only [step, phase]
              exact .renews phase
          | expired =>
              simp only [step, phase, finish_requests]
              exact .ends open'
          | nothing =>
              simp only [step, phase]
              rw [respond, if_neg (by decide), if_neg (by decide), if_pos (Or.inr (Or.inr rfl)), finish_requests]
              exact .ends open'
          | threw error =>
              simp only [step, phase]
              exact caught_moves error (by simp [phase])
      | _ => exact Or.inr ⟨rfl, by simp [step, phase]⟩
  | chunk text =>
      cases phase : client.phase with
      | reading =>
          simp only [step, phase]
          exact (read_requests text phase).symm.imp id fun same => ⟨rfl, same⟩
      | _ => exact Or.inr ⟨rfl, by simp [step, phase]⟩
  | streamEnds =>
      cases phase : client.phase with
      | reading =>
          simp only [step, phase, afterLoop_requests]
          exact Or.inl (.ends fun finished => nomatch phase.symm.trans finished)
      | _ => exact Or.inr ⟨rfl, by simp [step, phase]⟩
  | readFails error =>
      cases phase : client.phase with
      | reading =>
          simp only [step, phase]
          exact Or.inl (caught_moves error (by simp [phase]))
      | _ => exact Or.inr ⟨rfl, by simp [step, phase]⟩
  | timer =>
      cases phase : client.phase with
      | waiting =>
          left
          simp only [step, phase]
          split
          · rw [finish_requests]
            exact .ends fun finished => nomatch phase.symm.trans finished
          · exact .restarts phase
      | _ => exact Or.inr ⟨rfl, by simp [step, phase]⟩

theorem step_sound {event : StreamEvent} (sound : client.requests.Sound) :
    (client.step runtime reacts event).requests.Sound := by
  rcases @step_requests runtime reacts client event with moves | ⟨_, same⟩
  · exact sound.moves moves
  · rwa [same]

theorem step_rank {event : StreamEvent} (sound : client.requests.Sound) :
    (event.answers client.phase).toNat + (client.step runtime reacts event).requests.rank ≤ client.requests.rank := by
  rcases @step_requests runtime reacts client event with moves | ⟨ignored, same⟩
  · have less := sound.rank_moves moves
    have one := Bool.toNat_le (event.answers client.phase)
    omega
  · rw [ignored, same]
    exact (Nat.zero_add _).le

theorem requests_start : (requests {}).Sound :=
  ⟨Nat.zero_le _, nofun, nofun, Nat.zero_le _, nofun, fun _ _ => nofun⟩

theorem requests_sound (events : List StreamEvent) : (play (step runtime reacts) {} events).requests.Sound :=
  @invariant _ _ _ _ (fun client => (requests client).Sound) (fun _ _ sound => step_sound sound)
    requests_start events

def answers (runtime : StreamRuntime) (reacts : Reaction) (events : List StreamEvent) : Nat :=
  total (step runtime reacts) (fun client event => (event.answers client.phase).toNat) {} events

def patience : Nat := 8 * maxRetries + 6

theorem finishes {events : List StreamEvent} (answered : patience ≤ answers runtime reacts events) :
    (play (step runtime reacts) {} events).phase = .finished := by
  have along : Along (step runtime reacts) (fun _ _ => True) {} events := along_iff.mpr fun _ _ _ _ => trivial
  have spent : answers runtime reacts events + (play (step runtime reacts) {} events).requests.rank ≤ patience :=
    @Along.total_le _ _ _ _ _ _ (fun client => (requests client).Sound) _ (fun client => (requests client).rank)
      (fun _ _ sound _ => step_sound sound) (fun _ _ sound _ => step_rank sound) along requests_start
  by_contra open'
  have left := (requests_sound events).rank_pos open'
  omega

end StreamClient

end Thought2Build.Client
