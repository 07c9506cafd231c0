import Thought2Build.Middleware.BodySizeCore

/-! When an application behind the limit on bodies sees the messages of its server. -/

namespace Thought2Build.Middleware

variable {int : Bytes → Option Int} {limit : Int} {scope : Scope} {receive seen : Receive} {app : ASGIApp}
  {last message : Message} {count reads steps call : Nat}

theorem receivedOf_received (events : List AppEvent) (message : Message) :
    receivedOf (events ++ [.received message]) = receivedOf events ++ [message] :=
  List.filterMap_append

theorem receivedOf_sent (events : List AppEvent) (sent : Sent) :
    receivedOf (events ++ [.sent sent]) = receivedOf events := by
  simp [receivedOf]

theorem received_run (app : ASGIApp) (receive : Receive) (steps : Nat) :
    ∀ call < (receivedOf (app.run receive steps)).length,
      receive call = (receivedOf (app.run receive steps))[call]? := by
  induction steps with
  | zero =>
      intro call few
      exact absurd few (Nat.not_lt_zero call)
  | succ steps ih =>
      rw [ASGIApp.run, ASGIApp.step]
      cases app (app.run receive steps) with
      | receives =>
          cases found : receive (receivedOf (app.run receive steps)).length with
          | none => exact ih
          | some message =>
              intro call few
              dsimp only at few ⊢
              rw [receivedOf_received] at few ⊢
              rw [List.length_append, List.length_singleton] at few
              rcases Nat.lt_succ_iff_lt_or_eq.mp few with earlier | now
              · rw [List.getElem?_append_left earlier]
                exact ih call earlier
              · subst call
                rw [List.getElem?_append_right (Nat.le_refl _), Nat.sub_self]
                exact found
      | sends sent =>
          dsimp only
          rw [receivedOf_sent]
          exact ih
      | returns => exact ih

theorem run_congr {allowed : Nat} (same : ∀ call < allowed, seen call = receive call)
    (silent : ∀ call, allowed ≤ call → receive call = none → seen call = none)
    (few : ∀ steps, (receivedOf (app.run receive steps)).length ≤ allowed) (steps : Nat) :
    app.run seen steps = app.run receive steps := by
  induction steps with
  | zero => rfl
  | succ steps ih =>
      have next := few (steps + 1)
      rw [ASGIApp.run, ASGIApp.step] at next
      rw [ASGIApp.run, ASGIApp.run, ih, ASGIApp.step, ASGIApp.step]
      cases asked : app (app.run receive steps) with
      | receives =>
          rw [asked] at next
          dsimp only at next ⊢
          by_cases early : (receivedOf (app.run receive steps)).length < allowed
          · rw [same _ early]
          · cases found : receive (receivedOf (app.run receive steps)).length with
            | none => rw [silent _ (Nat.le_of_not_lt early) found]
            | some message =>
                rw [found] at next
                dsimp only at next
                rw [receivedOf_received, List.length_append, List.length_singleton] at next
                omega
      | sends sent => rfl
      | returns => rfl

def Message.goesOn (message : Message) : Prop :=
  message.type = "http.request" ∧ message.moreBody.getD false = true

instance : Decidable message.goesOn := inferInstanceAs (Decidable (_ ∧ _))

def bodyBefore (receive : Receive) (count : Nat) : Bytes :=
  (List.range count).flatMap fun call => ((receive call).bind Message.body).getD []

def Opens (receive : Receive) (count : Nat) : Prop :=
  ∀ call < count, ∃ message, receive call = some message ∧ message.goesOn

structure Stops (receive : Receive) (count : Nat) (last : Message) : Prop where
  opens : Opens receive count
  found : receive count = some last
  stops : ¬last.goesOn

def Oversized (limit : Int) (receive : Receive) : Prop :=
  ∃ count part, Opens receive count ∧ receive count = some part ∧ part.type = "http.request" ∧
    limit < (bodyBefore receive (count + 1)).length

def joined (receive : Receive) (count : Nat) (last : Message) : Receive := fun call =>
  if last.type = "http.request" then
    match call with
    | 0 => some { type := "http.request", body := some (bodyBefore receive (count + 1)), moreBody := some false }
    | later + 1 => receive (count + 1 + later)
  else if bodyBefore receive count = [] then receive (count + call)
  else
    match call with
    | 0 => some { type := "http.request", body := some (bodyBefore receive count), moreBody := some true }
    | later + 1 => receive (count + later)

theorem bodyBefore_succ (found : receive count = some message) :
    bodyBefore receive (count + 1) = bodyBefore receive count ++ message.body.getD [] := by
  simp [bodyBefore, List.range_succ, found]

theorem Opens.succ (opens : Opens receive count) (found : receive count = some message) (more : message.goesOn) :
    Opens receive (count + 1) := by
  intro call early
  rcases Nat.lt_succ_iff_lt_or_eq.mp early with before | rfl
  · exact opens call before
  · exact ⟨message, found, more⟩

theorem Stops.unique {other : Nat} {final : Message} (first : Stops receive count last)
    (second : Stops receive other final) : count = other ∧ last = final := by
  have least : ∀ {one two : Nat} {a b : Message}, Stops receive one a → Stops receive two b → two ≤ one := by
    intro one two a b stopped opened
    by_contra later
    obtain ⟨message, found, more⟩ := opened.opens one (Nat.lt_of_not_le later)
    obtain rfl := Option.some.inj (stopped.found.symm.trans found)
    exact stopped.stops more
  obtain rfl := Nat.le_antisymm (least second first) (least first second)
  exact ⟨rfl, Option.some.inj (first.found.symm.trans second.found)⟩

def handedOn (receive : Receive) (count : Nat) (last : Message) : Message :=
  if last.type = "http.request" then
    { type := "http.request", body := some (bodyBefore receive (count + 1)), moreBody := some false }
  else last

theorem drain_opens (opens : Opens receive count) (fits : ¬Oversized limit receive) (reads : Nat) :
    drain limit receive (reads + count) 0 [] = drain limit receive reads count (bodyBefore receive count) := by
  induction count generalizing reads with
  | zero => rfl
  | succ count ih =>
      have before : Opens receive count := fun call early => opens call (Nat.lt_succ_of_lt early)
      obtain ⟨part, found, request, more⟩ := opens count (Nat.lt_succ_self count)
      have small : ¬limit < ((bodyBefore receive count ++ part.body.getD []).length : Int) := by
        intro large
        rw [← bodyBefore_succ found] at large
        exact fits ⟨count, part, before, found, request, large⟩
      have step := ih before (reads + 1)
      rw [Nat.add_right_comm, Nat.add_assoc] at step
      rw [step, drain, found]
      dsimp only
      rw [if_neg (not_not.mpr request), if_neg small, if_pos more, ← bodyBefore_succ found]

theorem drain_stops (stops : Stops receive count last) (fits : ¬Oversized limit receive) (enough : count < reads) :
    drain limit receive reads 0 [] = .replays (handedOn receive count last) := by
  obtain ⟨more, rfl⟩ : ∃ more, reads = more + 1 + count := ⟨reads - count - 1, by omega⟩
  rw [drain_opens stops.opens fits, drain, stops.found, handedOn]
  dsimp only
  by_cases request : last.type = "http.request"
  · have ended : ¬last.moreBody.getD false = true := fun more => stops.stops ⟨request, more⟩
    have small : ¬limit < ((bodyBefore receive count ++ last.body.getD []).length : Int) := by
      intro large
      rw [← bodyBefore_succ stops.found] at large
      exact fits ⟨count, last, stops.opens, stops.found, request, large⟩
    rw [if_neg (not_not.mpr request), if_neg small, if_neg ended, if_pos request, bodyBefore_succ stops.found]
  · rw [if_pos request, if_neg request]

theorem drain_cases (opens : Opens receive call) {body : Bytes} (read : body = bodyBefore receive call)
    (reads : Nat) :
    drain limit receive reads call body = .reading ∨
      drain limit receive reads call body = .tooLarge ∧ Oversized limit receive ∨
      ∃ count last, Stops receive count last ∧
        drain limit receive reads call body = .replays (handedOn receive count last) := by
  induction reads generalizing call body with
  | zero => exact .inl rfl
  | succ reads ih =>
      rw [drain]
      cases found : receive call with
      | none => exact .inl rfl
      | some message =>
          dsimp only
          by_cases request : message.type = "http.request"
          · rw [if_neg (not_not.mpr request), read, ← bodyBefore_succ found]
            by_cases large : limit < ((bodyBefore receive (call + 1)).length : Int)
            · rw [if_pos large]
              exact .inr (.inl ⟨rfl, call, message, opens, found, request, large⟩)
            · rw [if_neg large]
              by_cases more : message.moreBody.getD false = true
              · rw [if_pos more]
                exact ih (opens.succ found ⟨request, more⟩) rfl
              · rw [if_neg more]
                refine .inr (.inr ⟨call, message, ⟨opens, found, fun goes => more goes.2⟩, ?_⟩)
                rw [handedOn, if_pos request]
          · rw [if_pos request]
            refine .inr (.inr ⟨call, message, ⟨opens, found, fun goes => request goes.1⟩, ?_⟩)
            rw [handedOn, if_neg request]

theorem drain_oversized (large : Oversized limit receive) :
    ∃ enough, ∀ reads, enough ≤ reads → drain limit receive reads 0 [] = .tooLarge := by
  obtain ⟨count, part, opens, found, request, large⟩ := large
  -- The loop reads on until some front of the body is too large.
  have go : ∀ rest call, call + rest = count → ∀ reads, rest < reads →
      drain limit receive reads call (bodyBefore receive call) = .tooLarge := by
    intro rest
    induction rest with
    | zero =>
        intro call same reads enough
        obtain rfl : call = count := same
        obtain ⟨reads, rfl⟩ := Nat.exists_eq_add_one_of_ne_zero (Nat.ne_of_gt enough)
        rw [drain, found]
        dsimp only
        rw [if_neg (not_not.mpr request), ← bodyBefore_succ found, if_pos large]
    | succ rest ih =>
        rintro call rfl reads enough
        obtain ⟨reads, rfl⟩ := Nat.exists_eq_add_one_of_ne_zero (Nat.ne_of_gt (Nat.zero_lt_of_lt enough))
        obtain ⟨middle, here, type, more⟩ := opens call (by omega)
        rw [drain, here]
        dsimp only
        rw [if_neg (not_not.mpr type), ← bodyBefore_succ here, if_pos more]
        split
        · rfl
        · exact ih (call + 1) (by omega) reads (by omega)
  exact ⟨count + 1, fun reads enough => go count 0 (Nat.zero_add count) reads enough⟩

def declared (int : Bytes → Option Int) (scope : Scope) : List Int :=
  (scope.headers.filter isContentLength).filterMap fun header => int header.2

def Exceeds (int : Bytes → Option Int) (limit : Int) (scope : Scope) (receive : Receive) : Prop :=
  (∃ length ∈ declared int scope, limit < length) ∨ Oversized limit receive

def responsesStarted (events : List AppEvent) : Nat :=
  events.countP fun
    | .sent (.responseStart _ _) => true
    | _ => false

/-- Within the limit the application is called, and does what it does with the server behind it and the body in one
message; beyond the limit there is one response, which says so. -/
structure Transparent (int : Bytes → Option Int) (limit : Int) (scope : Scope) (receive : Receive) (app : ASGIApp) :
    Prop where
  within : ¬Exceeds int limit scope receive → ∃ count last, Stops receive count last ∧ ∃ enough, ∀ reads, enough ≤ reads →
    ∃ seen, bodySizeLimit int limit scope receive reads = .called seen ∧
      ∀ steps, app.run seen steps = app.run (joined receive count last) steps
  exceeded : Exceeds int limit scope receive → ∃ enough, ∀ reads, enough ≤ reads →
    bodySizeLimit int limit scope receive reads = .refused sendTooLarge
  single : (∀ server steps, responsesStarted (app.run server steps) ≤ 1) → ∀ reads steps,
    responsesStarted ((bodySizeLimit int limit scope receive reads).events app steps) ≤ 1

/-- The application receives nothing behind the body; where the client leaves before its end, nothing behind that, or
nothing at all if a part of the body came. -/
def Unheard (receive : Receive) (app : ASGIApp) : Prop :=
  ∃ count last, Stops receive count last ∧ ∀ steps, (receivedOf (app.run (joined receive count last) steps)).length ≤
    if last.type = "http.request" ∨ bodyBefore receive count = [] then 1 else 0

def Announced (int : Bytes → Option Int) (limit : Int) (scope : Scope) : Prop :=
  ∃ length, contentLength int scope = some length ∧ limit < length

theorem declared_of_announced (announced : Announced int limit scope) :
    ∃ length ∈ declared int scope, limit < length := by
  obtain ⟨length, read, large⟩ := announced
  obtain ⟨header, found, value⟩ := Option.bind_eq_some_iff.mp read
  refine ⟨length, ?_, large⟩
  exact List.mem_filterMap.mpr
    ⟨header, List.mem_filter.mpr ⟨List.mem_of_find?_eq_some found, List.find?_some found⟩, value⟩

theorem announced_iff : (contentLength int scope).any (limit < ·) = true ↔ Announced int limit scope := by
  unfold Announced
  cases contentLength int scope <;> simp

theorem bodySizeLimit_announced (http : scope.type = "http") (announced : Announced int limit scope) :
    bodySizeLimit int limit scope receive reads = .refused sendTooLarge := by
  rw [bodySizeLimit, if_neg (not_not.mpr http), if_pos (announced_iff.mpr announced)]

theorem bodySizeLimit_drains (http : scope.type = "http") (silent : ¬Announced int limit scope) :
    bodySizeLimit int limit scope receive reads = (drain limit receive reads 0 []).handle := by
  rw [bodySizeLimit, if_neg (not_not.mpr http), if_neg (mt announced_iff.mp silent)]

theorem bodySizeLimit_single (proper : ∀ server steps, responsesStarted (app.run server steps) ≤ 1) :
    responsesStarted ((bodySizeLimit int limit scope receive reads).events app steps) ≤ 1 := by
  have refusal : responsesStarted (sendTooLarge.map .sent) ≤ 1 := by decide
  unfold bodySizeLimit
  split
  · exact proper receive steps
  · split
    · exact refusal
    · cases drain limit receive reads 0 [] with
      | reading => exact Nat.zero_le 1
      | tooLarge => exact refusal
      | replays message => exact proper _ steps

theorem joined_zero (stops : Stops receive count last)
    (shown : last.type = "http.request" ∨ bodyBefore receive count = []) :
    joined receive count last 0 = some (handedOn receive count last) := by
  unfold joined handedOn
  split
  · rfl
  · rename_i leaves
    rw [if_pos (shown.resolve_left leaves), Nat.add_zero, stops.found]

theorem run_replay (stops : Stops receive count last)
    (few : ∀ steps, (receivedOf (app.run (joined receive count last) steps)).length ≤
      if last.type = "http.request" ∨ bodyBefore receive count = [] then 1 else 0) (steps : Nat) :
    app.run (replay [handedOn receive count last]) steps = app.run (joined receive count last) steps := by
  by_cases shown : last.type = "http.request" ∨ bodyBefore receive count = []
  · rw [if_pos shown] at few
    refine run_congr (fun call first => ?_) (fun call late _ => ?_) few steps
    · obtain rfl : call = 0 := by omega
      rw [joined_zero stops shown]
      rfl
    · exact List.getElem?_eq_none late
  · rw [if_neg shown] at few
    refine run_congr (fun call first => absurd first (Nat.not_lt_zero call)) (fun call _ none => ?_) few steps
    cases call with
    | zero =>
        obtain ⟨leaves, parts⟩ := not_or.mp shown
        rw [joined, if_neg leaves, if_neg parts] at none
        contradiction
    | succ call => rfl

theorem few_of_run
    (same : ∀ steps, app.run (replay [handedOn receive count last]) steps = app.run (joined receive count last) steps)
    (steps : Nat) :
    (receivedOf (app.run (joined receive count last) steps)).length ≤
      if last.type = "http.request" ∨ bodyBefore receive count = [] then 1 else 0 := by
  have order := received_run app (joined receive count last) steps
  have replayed := received_run app (replay [handedOn receive count last]) steps
  rw [same] at replayed
  split
  · by_contra many
    have second := replayed 1 (Nat.lt_of_not_le many)
    rw [List.getElem?_eq_getElem (Nat.lt_of_not_le many)] at second
    contradiction
  · rename_i hidden
    obtain ⟨leaves, parts⟩ := not_or.mp hidden
    by_contra some
    have ahead : 0 < (receivedOf (app.run (joined receive count last) steps)).length := Nat.lt_of_not_le some
    have first := (replayed 0 ahead).trans (order 0 ahead).symm
    rw [joined, if_neg leaves, if_neg parts] at first
    have type := congrArg (Option.map Message.type) first
    simp only [replay, handedOn, if_neg leaves, List.getElem?_cons_zero, Option.map_some, Option.some_inj] at type
    exact leaves type

/-- An application sees its server through the middleware exactly as long as it does not ask for more than the body. -/
theorem bodySizeLimit_transparent_iff (int : Bytes → Option Int) (limit : Int) (headers : List (Bytes × Bytes))
    (receive : Receive) (app : ASGIApp) :
    Transparent int limit { type := "http", headers } receive app ↔
      (Exceeds int limit { type := "http", headers } receive →
        Announced int limit { type := "http", headers } ∨ Oversized limit receive) ∧
      (¬Exceeds int limit { type := "http", headers } receive → Unheard receive app) := by
  constructor
  · intro transparent
    refine ⟨fun exceeds => ?_, fun fits => ?_⟩
    · obtain ⟨enough, refused⟩ := transparent.exceeded exceeds
      have answer := refused enough (Nat.le_refl enough)
      by_cases announced : Announced int limit { type := "http", headers }
      · exact .inl announced
      · rw [bodySizeLimit_drains rfl announced] at answer
        have start : Opens receive 0 := fun call early => absurd early (Nat.not_lt_zero call)
        rcases drain_cases start (rfl : [] = bodyBefore receive 0) enough with reading | ⟨_, large⟩ | ⟨_, _, _, replays⟩
        · rw [reading] at answer
          contradiction
        · exact .inr large
        · rw [replays] at answer
          contradiction
    · obtain ⟨count, last, stops, enough, called⟩ := transparent.within fits
      have silent : ¬Announced int limit { type := "http", headers } := fun announced =>
        fits (.inl (declared_of_announced announced))
      have small : ¬Oversized limit receive := fun large => fits (.inr large)
      obtain ⟨seen, call, same⟩ := called (enough + (count + 1)) (Nat.le_add_right _ _)
      rw [bodySizeLimit_drains rfl silent, drain_stops stops small (by omega), Drained.handle,
        Handling.called.injEq] at call
      exact ⟨count, last, stops, few_of_run (by rw [call]; exact same)⟩
  · rintro ⟨refuses, unheard⟩
    refine ⟨fun fits => ?_, fun exceeds => ?_, fun proper reads steps => bodySizeLimit_single proper⟩
    · obtain ⟨count, last, stops, few⟩ := unheard fits
      have silent : ¬Announced int limit { type := "http", headers } := fun announced =>
        fits (.inl (declared_of_announced announced))
      have small : ¬Oversized limit receive := fun large => fits (.inr large)
      refine ⟨count, last, stops, count + 1, fun reads enough => ⟨_, ?_, run_replay stops few⟩⟩
      rw [bodySizeLimit_drains rfl silent, drain_stops stops small enough, Drained.handle]
    · by_cases announced : Announced int limit { type := "http", headers }
      · exact ⟨0, fun reads _ => bodySizeLimit_announced rfl announced⟩
      · obtain ⟨enough, tooLarge⟩ := drain_oversized ((refuses exceeds).resolve_left announced)
        refine ⟨enough, fun reads later => ?_⟩
        rw [bodySizeLimit_drains rfl announced, tooLarge reads later, Drained.handle]

def leavingClient : Receive
  | 0 => some { type := "http.request", body := some (bytesOf "a"), moreBody := some true }
  | 1 => some { type := "http.request", body := some (bytesOf "b") }
  | _ => some { type := "http.disconnect" }

def waitingApp : ASGIApp := fun events => if (receivedOf events).length < 2 then .receives else .returns

theorem bodySizeLimit_hides : ¬Transparent (fun _ => none) 10 { type := "http" } leavingClient waitingApp := by
  rw [bodySizeLimit_transparent_iff (fun _ => none) 10 [] leavingClient waitingApp]
  rintro ⟨_, unheard⟩
  have stops : Stops leavingClient 1 { type := "http.request", body := some (bytesOf "b") } := by
    refine ⟨fun call early => ?_, rfl, by decide⟩
    obtain rfl : call = 0 := by omega
    exact ⟨_, rfl, by decide⟩
  have fits : ¬Exceeds (fun _ => none) 10 { type := "http" } leavingClient := by
    rintro (⟨length, member, _⟩ | ⟨count, part, opens, found, request, large⟩)
    · exact absurd member List.not_mem_nil
    · rcases count with _ | _ | count
      · exact absurd large (by decide)
      · exact absurd large (by decide)
      · obtain ⟨message, second, more⟩ := opens 1 (by omega)
        obtain rfl := Option.some.inj second
        exact absurd more (by decide)
  obtain ⟨count, last, found, few⟩ := unheard fits
  obtain ⟨rfl, rfl⟩ := found.unique stops
  have heard := few 2
  rw [if_pos (.inl rfl)] at heard
  exact absurd heard (by decide)

end Thought2Build.Middleware
