import Thought2Build.Client.SseSettlement

/-! The chunks that a stream arrives in make no difference to what its caller hears. -/

namespace Thought2Build.Client

open Histories

/-! Events of a text -/

def dataText (event : List Char) : List Char :=
  ['\n'].intercalate (((event.splitOn '\n').filter ("data:".toList.isPrefixOf ·)).map fun line =>
    (line.drop 5).dropWhile isJsSpace)

theorem parseSSEChunk_eq (text : List Char) :
    parseSSEChunk text = ((splitEvents text).map dataText).filter (· ≠ []) :=
  rfl

theorem dataText_cons (event : List Char) : dataText ('\n' :: event) = dataText event := by
  have lines : ('\n' :: event).splitOn '\n' = [] :: event.splitOn '\n' := List.splitOn_append_cons_self [] event
  rw [dataText, lines]
  rfl

theorem dataText_concat (event : List Char) : dataText (event ++ ['\n']) = dataText event := by
  have last : ([[]] : List (List Char)).filter ("data:".toList.isPrefixOf ·) = [] := rfl
  rw [dataText, List.splitOn_append_cons_self, List.splitOn_nil, List.filter_append, last, List.append_nil, dataText]

theorem splitEvents_ne_nil (text : List Char) : splitEvents text ≠ [] := by
  fun_cases splitEvents text <;> simp

theorem splitEvents_cons {letter : Char} {rest : List Char} (single : letter ≠ '\n' ∨ rest.head? ≠ some '\n') :
    splitEvents (letter :: rest) = (splitEvents rest).modifyHead (letter :: ·) := by
  obtain ⟨event, later, split⟩ := List.exists_cons_of_ne_nil (splitEvents_ne_nil rest)
  rw [splitEvents.eq_def]
  split
  · contradiction
  · simp_all
  · rename_i same
    obtain ⟨rfl, rfl⟩ := List.cons.inj same
    rw [split, List.modifyHead_cons]

theorem parseSSEChunk_cons (text : List Char) : parseSSEChunk ('\n' :: text) = parseSSEChunk text := by
  induction text with
  | nil => decide
  | cons letter rest ih =>
      by_cases breaks : letter = '\n'
      · subst breaks
        rw [ih]
        rfl
      · obtain ⟨event, later, split⟩ := List.exists_cons_of_ne_nil (splitEvents_ne_nil (letter :: rest))
        have events := @splitEvents_cons '\n' (letter :: rest) (.inr (by simpa using breaks))
        rw [parseSSEChunk_eq, parseSSEChunk_eq, events, split, List.modifyHead_cons, List.map_cons, List.map_cons,
          dataText_cons]

theorem splitEvents_append (front back : List Char) :
    ∃ events last, splitEvents front = events ++ [last] ∧
      (splitEvents (front ++ '\n' :: '\n' :: back) = events ++ [last] ++ splitEvents back ∨
        ∃ line, last = line ++ ['\n'] ∧
          splitEvents (front ++ '\n' :: '\n' :: back) = events ++ [line] ++ splitEvents ('\n' :: back)) := by
  fun_induction splitEvents front with
  | case1 => exact ⟨[], [], rfl, .inl rfl⟩
  | case2 rest ih =>
      obtain ⟨events, last, split, whole | ⟨line, same, whole⟩⟩ := ih
      · exact ⟨[] :: events, last, congrArg _ split, .inl (congrArg _ whole)⟩
      · exact ⟨[] :: events, last, congrArg _ split, .inr ⟨line, same, congrArg _ whole⟩⟩
  | case3 letter rest single nothing ih => exact absurd nothing (splitEvents_ne_nil rest)
  | case4 letter rest single event later found ih =>
      cases rest with
      | nil =>
          obtain ⟨rfl, rfl⟩ : event = [] ∧ later = [] := by simpa [splitEvents, eq_comm] using found
          by_cases breaks : letter = '\n'
          · subst breaks
            exact ⟨[], ['\n'], rfl, .inr ⟨[], rfl, rfl⟩⟩
          · exact ⟨[], [letter], rfl, .inl (splitEvents_cons (.inl breaks))⟩
      | cons next rest =>
          have apart : letter ≠ '\n' ∨ (next :: rest ++ '\n' :: '\n' :: back).head? ≠ some '\n' := by
            by_contra both
            simp only [List.cons_append, List.head?_cons, ne_eq, Option.some.injEq, not_or, not_not] at both
            exact single rest both.1 (by rw [both.2])
          obtain ⟨events, last, split, whole⟩ := ih
          rw [List.cons_append, splitEvents_cons apart]
          rw [found] at split
          cases events with
          | nil =>
              obtain ⟨rfl, rfl⟩ := List.cons.inj split
              rcases whole with whole | ⟨line, rfl, whole⟩
              · exact ⟨[], letter :: event, rfl, .inl (by rw [whole]; rfl)⟩
              · exact ⟨[], letter :: (line ++ ['\n']), rfl, .inr ⟨letter :: line, rfl, by rw [whole]; rfl⟩⟩
          | cons first events =>
              obtain ⟨rfl, rfl⟩ := List.cons.inj split
              rcases whole with whole | ⟨line, same, whole⟩
              · exact ⟨(letter :: event) :: events, last, rfl, .inl (by rw [whole]; rfl)⟩
              · exact ⟨(letter :: event) :: events, last, rfl, .inr ⟨line, same, by rw [whole]; rfl⟩⟩

theorem parseSSEChunk_append (front back : List Char) :
    parseSSEChunk (front ++ '\n' :: '\n' :: back) = parseSSEChunk front ++ parseSSEChunk back := by
  obtain ⟨events, last, split, whole | ⟨line, rfl, whole⟩⟩ := splitEvents_append front back
  · simp only [parseSSEChunk_eq, split, whole, List.map_append, List.filter_append]
  · rw [← parseSSEChunk_cons back]
    simp only [parseSSEChunk_eq, split, whole, List.map_append, List.filter_append, List.map_singleton, dataText_concat]

/-! The last boundary -/

/-- The text up to its last boundary -/
def completePart (text : List Char) : List Char := ((splitLast text).map Prod.fst).getD []

theorem splitLast_some {text complete rest : List Char} (found : splitLast text = some (complete, rest)) :
    (∃ front, complete = front ++ ['\n', '\n']) ∧ text = complete ++ rest ∧ splitLast rest = none := by
  fun_induction splitLast text generalizing complete with
  | case1 | case2 => cases found
  | case3 first second rest' later buffer inner ih =>
      cases found
      obtain ⟨⟨front, rfl⟩, whole, none⟩ := ih inner
      exact ⟨⟨first :: front, rfl⟩, congrArg _ whole, none⟩
  | case4 first second rest' inner boundary ih =>
      cases found
      obtain ⟨rfl, rfl⟩ := boundary
      refine ⟨⟨[], rfl⟩, rfl, ?_⟩
      cases rest with
      | nil => rfl
      | cons third rest =>
          rw [splitLast] at inner
          split at inner
          · cases inner
          · assumption
  | case5 => cases found

theorem splitLast_cons {letter : Char} {text complete rest : List Char}
    (found : splitLast text = some (complete, rest)) :
    splitLast (letter :: text) = some (letter :: complete, rest) := by
  cases text with
  | nil => cases found
  | cons second more => simp only [splitLast, found]

theorem splitLast_boundary (back : List Char) :
    (∃ rest, splitLast ('\n' :: '\n' :: back) = some ('\n' :: '\n' :: completePart back, rest)) ∨
      completePart back = [] ∧ ∃ rest, splitLast ('\n' :: '\n' :: back) = some (['\n', '\n', '\n'], rest) := by
  cases found : splitLast back with
  | some parts => exact .inl ⟨parts.2, by rw [splitLast_cons (splitLast_cons found), completePart, found]; rfl⟩
  | none =>
      have nothing : completePart back = [] := by rw [completePart, found]; rfl
      cases back with
      | nil => exact .inl ⟨[], rfl⟩
      | cons third rest =>
          by_cases breaks : third = '\n'
          · subst breaks
            have inner : splitLast ('\n' :: '\n' :: rest) = some (['\n', '\n'], rest) := by simp [splitLast, found]
            exact .inr ⟨nothing, rest, splitLast_cons inner⟩
          · refine .inl ⟨third :: rest, ?_⟩
            rw [nothing]
            simp [splitLast, found, breaks]

theorem completePart_append (front back : List Char) :
    completePart (front ++ '\n' :: '\n' :: back) = front ++ '\n' :: '\n' :: completePart back ∨
      completePart back = [] ∧ completePart (front ++ '\n' :: '\n' :: back) = front ++ ['\n', '\n', '\n'] := by
  have extend : ∀ complete rest, splitLast ('\n' :: '\n' :: back) = some (complete, rest) →
      splitLast (front ++ '\n' :: '\n' :: back) = some (front ++ complete, rest) := by
    intro complete rest found
    induction front with
    | nil => exact found
    | cons letter front ih => exact splitLast_cons ih
  rcases splitLast_boundary back with ⟨rest, found⟩ | ⟨nothing, rest, found⟩
  · exact .inl (by rw [completePart, extend _ _ found]; rfl)
  · exact .inr ⟨nothing, by rw [completePart, extend _ _ found]; rfl⟩

theorem parseSSEChunk_complete {complete : List Char} (ends : ∃ front, complete = front ++ ['\n', '\n'])
    (back : List Char) :
    parseSSEChunk (completePart (complete ++ back)) = parseSSEChunk complete ++ parseSSEChunk (completePart back) := by
  obtain ⟨front, rfl⟩ := ends
  have empty : parseSSEChunk [] = [] := by decide
  have single : parseSSEChunk ['\n'] = [] := by decide
  rw [List.append_assoc, parseSSEChunk_append front [], empty, List.append_nil]
  rcases completePart_append front back with whole | ⟨nothing, whole⟩
  · exact (congrArg _ whole).trans (parseSSEChunk_append front _)
  · rw [nothing, empty]
    exact (congrArg _ whole).trans ((parseSSEChunk_append front ['\n']).trans (by rw [single]))

/-! Reading -/

namespace StreamClient

variable {runtime : StreamRuntime} {reacts : Reaction} {client next : StreamClient} {flow : Flow}

def withoutBuffer (client : StreamClient) : StreamClient := { client with buffer := [] }

/-- What `tryConnect` makes of the end of a loop over frames -/
def concluded (runtime : StreamRuntime) (reacts : Reaction) (client : StreamClient) (frames : List Frame) :
    StreamClient :=
  match client.dispatchAll runtime reacts frames with
  | (next, .goesOn) => next
  | (next, .returned) => next.finish reacts
  | (next, .threw) => next.caught reacts { code := none, message := "Cannot use 'in' operator" }

theorem dispatch_withoutBuffer (client : StreamClient) (frame : Frame) :
    dispatch runtime reacts client.withoutBuffer frame =
      ((client.dispatch runtime reacts frame).1.withoutBuffer, (client.dispatch runtime reacts frame).2) := by
  cases frame with
  | generationTerminal info => cases info <;> rfl
  | _ => rfl

theorem dispatchAll_withoutBuffer (client : StreamClient) (frames : List Frame) :
    dispatchAll runtime reacts client.withoutBuffer frames =
      ((client.dispatchAll runtime reacts frames).1.withoutBuffer, (client.dispatchAll runtime reacts frames).2) := by
  induction frames generalizing client with
  | nil => rfl
  | cons frame rest ih =>
      rw [dispatchAll, dispatch_withoutBuffer, dispatchAll]
      rcases client.dispatch runtime reacts frame with ⟨next, _ | _ | _⟩
      · exact ih next
      · rfl
      · rfl

theorem finish_congr {other : StreamClient} (same : client.withoutBuffer = other.withoutBuffer) :
    (client.finish reacts).withoutBuffer = (other.finish reacts).withoutBuffer := by
  have whole : ∀ one : StreamClient, (one.finish reacts).withoutBuffer =
      if one.withoutBuffer.settled then { one.withoutBuffer with phase := .finished }
      else call reacts { one.withoutBuffer with phase := .finished } .onAbort := by
    intro one
    rw [finish, apply_ite withoutBuffer]
    rfl
  rw [whole, whole, same]

theorem caught_withoutBuffer (client : StreamClient) (error : StreamError) :
    (client.withoutBuffer.caught reacts error).withoutBuffer = (client.caught reacts error).withoutBuffer := by
  simp only [caught, retry, apply_ite withoutBuffer, apply_ite (finish reacts)]
  repeat' refine ite_congr rfl (fun _ => ?_) fun _ => ?_
  all_goals first | rfl | exact finish_congr rfl

theorem concluded_withoutBuffer (client : StreamClient) (frames : List Frame) :
    (concluded runtime reacts client.withoutBuffer frames).withoutBuffer =
      (concluded runtime reacts client frames).withoutBuffer := by
  rw [concluded, dispatchAll_withoutBuffer, concluded]
  rcases client.dispatchAll runtime reacts frames with ⟨next, _ | _ | _⟩
  · rfl
  · exact finish_congr rfl
  · exact caught_withoutBuffer next _

/-- Two clients that differ in the buffer alone hear the same. -/
theorem concluded_congr {other : StreamClient} (same : client.withoutBuffer = other.withoutBuffer)
    (frames : List Frame) : (concluded runtime reacts client frames).withoutBuffer =
      (concluded runtime reacts other frames).withoutBuffer := by
  rw [← concluded_withoutBuffer, same, concluded_withoutBuffer]

theorem concluded_append {frames later : List Frame}
    (ran : client.dispatchAll runtime reacts frames = (next, flow)) :
    concluded runtime reacts client (frames ++ later) =
      match flow with
      | .goesOn => concluded runtime reacts next later
      | .returned => next.finish reacts
      | .threw => next.caught reacts { code := none, message := "Cannot use 'in' operator" } := by
  induction frames generalizing client with
  | nil =>
      cases ran
      rfl
  | cons frame rest ih =>
      rw [dispatchAll] at ran
      rw [List.cons_append, concluded, dispatchAll]
      cases dispatched : client.dispatch runtime reacts frame with
      | mk first outcome =>
          rw [dispatched] at ran
          cases outcome with
          | goesOn => exact (ih ran).trans (by cases flow <;> rfl)
          | returned | threw =>
              cases ran
              rfl

/-- What a frame leaves alone that the loop goes on behind -/
structure GoesOn (client next : StreamClient) : Prop where
  phase : next.phase = client.phase
  closed : next.closed = client.closed
  buffer : next.buffer = client.buffer

theorem dispatchAll_goesOn (quiet : ∀ calls, reacts calls = false) {frames : List Frame}
    (ran : client.dispatchAll runtime reacts frames = (next, .goesOn)) : GoesOn client next := by
  induction frames generalizing client with
  | nil =>
      cases ran
      exact ⟨rfl, rfl, rfl⟩
  | cons frame rest ih =>
      rw [dispatchAll] at ran
      cases dispatched : client.dispatch runtime reacts frame with
      | mk first flow =>
          rw [dispatched] at ran
          cases flow with
          | returned | threw => cases ran
          | goesOn =>
              have later := ih ran
              have here : GoesOn client first := by
                cases frame with
                | generationTerminal info => cases info <;> simp [dispatch] at dispatched
                | eval | qualityGateFailed | error | noObject => simp [dispatch] at dispatched
                | _ =>
                    cases dispatched
                    exact ⟨rfl, by simp [call, settleDone, quiet], rfl⟩
              exact ⟨later.phase.trans here.phase, later.closed.trans here.closed, later.buffer.trans here.buffer⟩

theorem retry_phase (client : StreamClient) : (client.retry reacts).phase ≠ .reading := by
  have phase : (client.retry reacts).phase = (client.retry reacts).requests.phase := rfl
  rcases retry_requests reacts client with finished | ⟨-, waits⟩
  · simp [phase, finished, ended]
  · simp [phase, waits]

theorem caught_phase (error : StreamError) : (client.caught reacts error).phase ≠ .reading := by
  have phase : (client.caught reacts error).phase = (client.caught reacts error).requests.phase := rfl
  rcases caught_requests reacts client error with finished | ⟨-, -, waits⟩
  · simp [phase, finished, ended]
  · simp [phase, waits]

def readChunks (runtime : StreamRuntime) (reacts : Reaction) (client : StreamClient) (chunks : List (List Char)) :
    StreamClient :=
  play (step runtime reacts) client (chunks.map .chunk)

theorem readChunks_over (away : client.phase ≠ .reading) (chunks : List (List Char)) :
    readChunks runtime reacts client chunks = client := by
  induction chunks with
  | nil => rfl
  | cons text rest ih =>
      have same : client.step runtime reacts (.chunk text) = client := by
        cases phase : client.phase <;> simp_all [step]
      rw [readChunks, List.map_cons, play_cons, same]
      exact ih

theorem frames_complete (runtime : StreamRuntime) {complete : List Char}
    (ends : ∃ front, complete = front ++ ['\n', '\n']) (back : List Char) :
    runtime.frames (completePart (complete ++ back)) =
      runtime.frames complete ++ runtime.frames (completePart back) := by
  rw [StreamRuntime.frames, parseSSEChunk_complete ends, List.filterMap_append]
  rfl

theorem readChunks_eq (quiet : ∀ calls, reacts calls = false) (chunks : List (List Char))
    (reading : client.phase = .reading) (opened : client.closed = false) (partial' : splitLast client.buffer = none) :
    (readChunks runtime reacts client chunks).withoutBuffer =
      (concluded runtime reacts client
        (runtime.frames (completePart (client.buffer ++ chunks.flatten)))).withoutBuffer := by
  induction chunks generalizing client with
  | nil =>
      have nothing : completePart client.buffer = [] := by rw [completePart, partial']; rfl
      rw [List.flatten_nil, List.append_nil, nothing]
      rfl
  | cons text rest ih =>
      have step : client.step runtime reacts (.chunk text) = client.read runtime reacts text := by
        simp only [step, reading]
      rw [readChunks, List.map_cons, play_cons, step, ← readChunks, List.flatten_cons, ← List.append_assoc]
      cases found : splitLast (client.buffer ++ text) with
      | none =>
          have reads : client.read runtime reacts text = { client with buffer := client.buffer ++ text } := by
            simp only [read, opened, Bool.false_eq_true, if_false, found]
          have same : withoutBuffer { client with buffer := client.buffer ++ text } = client.withoutBuffer := rfl
          rw [reads, ← concluded_congr same]
          exact @ih { client with buffer := client.buffer ++ text } reading opened found
      | some parts =>
          obtain ⟨complete, buffer⟩ := parts
          obtain ⟨ends, whole, partial'⟩ := splitLast_some found
          have same : client.withoutBuffer = withoutBuffer { client with buffer } := rfl
          rw [concluded_congr same, whole, List.append_assoc, frames_complete runtime ends]
          cases ran : dispatchAll runtime reacts { client with buffer } (runtime.frames complete) with
          | mk next flow =>
              rw [concluded_append ran]
              cases flow with
              | goesOn =>
                  obtain ⟨phase, closed, kept⟩ := dispatchAll_goesOn quiet ran
                  have open' : next.closed = false := closed.trans opened
                  have reads : client.read runtime reacts text = next := by
                    rw [read, if_neg (by simp [opened])]
                    simp only [found, ran, open', Bool.false_eq_true, if_false]
                  have later := @ih next (phase.trans reading) open' (by rw [kept]; exact partial')
                  rw [kept] at later
                  rw [reads]
                  exact later
              | returned =>
                  have reads : client.read runtime reacts text = next.finish reacts := by
                    rw [read, if_neg (by simp [opened])]
                    simp only [found, ran]
                  rw [reads, readChunks_over (by simp)]
              | threw =>
                  have reads : client.read runtime reacts text =
                      next.caught reacts { code := none, message := "Cannot use 'in' operator" } := by
                    rw [read, if_neg (by simp [opened])]
                    simp only [found, ran]
                  rw [reads, readChunks_over (caught_phase _)]

theorem respond_reading {status : Nat} {hasBody : Bool}
    (reading : (client.respond reacts status hasBody).phase = .reading) :
    (client.respond reacts status hasBody).closed = false ∧ (client.respond reacts status hasBody).buffer = [] := by
  have afterLoop_phase : (client.afterLoop reacts).phase = .finished :=
    congrArg RequestState.phase (afterLoop_requests reacts client)
  rw [respond] at reading ⊢
  split_ifs at reading ⊢ with paid busy refused closed
  · simp at reading
  · exact absurd reading (retry_phase _)
  · simp at reading
  · simp [afterLoop_phase] at reading
  · exact ⟨by simpa using closed, rfl⟩

/-- What a caller hears of a response depends on the text of its body, and not on where the network cuts it. -/
theorem chunks_do_not_matter (runtime : StreamRuntime) {reacts : Reaction} (quiet : ∀ calls, reacts calls = false)
    (client : StreamClient) {again : Bool} (sent : client.phase = .fetching again) (status : Nat) (hasBody : Bool)
    {first second : List (List Char)} (same : first.flatten = second.flatten) :
    withoutBuffer (play (step runtime reacts) client (.response status hasBody :: first.map .chunk)) =
      withoutBuffer (play (step runtime reacts) client (.response status hasBody :: second.map .chunk)) := by
  rw [play_cons, play_cons, ← readChunks, ← readChunks]
  generalize answered : client.step runtime reacts (.response status hasBody) = opened
  by_cases reading : opened.phase = .reading
  · obtain ⟨open', empty⟩ : opened.closed = false ∧ opened.buffer = [] := by
      simp only [step, sent] at answered
      split at answered
      · simp [← answered] at reading
      · rw [← answered] at reading ⊢
        exact respond_reading reading
    have partial' : splitLast opened.buffer = none := by rw [empty]; rfl
    rw [readChunks_eq quiet first reading open' partial', readChunks_eq quiet second reading open' partial', same]
  · rw [readChunks_over reading, readChunks_over reading]

theorem chunks_do_not_matter_cut :
    withoutBuffer (play (step sampleRuntime fun _ => false) { phase := .fetching false }
        [.response 200 true, .chunk "data: \x7b\"do".toList, .chunk "ne\":true\x7d\n".toList, .chunk "\n".toList]) =
      withoutBuffer (play (step sampleRuntime fun _ => false) { phase := .fetching false }
        [.response 200 true, .chunk "data: \x7b\"done\":true\x7d\n\n".toList]) :=
  @chunks_do_not_matter sampleRuntime (fun _ => false) (fun _ => rfl) { phase := .fetching false } false rfl 200 true
    ["data: \x7b\"do".toList, "ne\":true\x7d\n".toList, "\n".toList] ["data: \x7b\"done\":true\x7d\n\n".toList]
    (by decide)

end StreamClient

end Thought2Build.Client
