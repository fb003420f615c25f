import Mathlib.Data.List.Forall2
import BeanBridge.Proofs.Dialogue
import BeanBridge.Proofs.Frame.Stream
import BeanBridge.Proofs.Service.Reply

/-! What the service does with a stream of frames.  However the stream is cut into chunks, the handler
is asked the requests in it one after another, every payload is answered by one frame, and nothing
behind the first request to close the session is looked at. -/

namespace BeanBridge.Server

open BeanBridge.Frame

variable {κ : Type}

/-- The payload is a request to close the session. -/
def closes (payload : ByteArray) : Bool :=
  match RequestFrame.decode? payload with
  | some ⟨_, .disconnect⟩ => true
  | _ => false

/-- The payloads up to the first request to close the session, with that one. -/
def consumed : List ByteArray → List ByteArray
  | [] => []
  | payload :: payloads => if closes payload then [payload] else payload :: consumed payloads

/-- The payloads before the shutdown. -/
def admitted : Option Nat → List ByteArray → List ByteArray
  | none, payloads => payloads
  | some n, payloads => payloads.take n

/-- Why the service ends over payloads, if it does. -/
def ending (quota : Option Nat) (payloads : List ByteArray) : Option Stop :=
  if (admitted quota payloads).any closes then some .disconnected
  else if quota.any (· ≤ payloads.length) then some .shutdown
  else none

/-- The requests among payloads. -/
def requests (payloads : List ByteArray) : List Request :=
  (payloads.filterMap RequestFrame.decode?).map (·.request)

/-- The answers to payloads, given the responses to the requests among them. -/
def replyFrames (complaint : ByteArray → String) :
    List ByteArray → List Response → List ResponseFrame
  | [], _ => []
  | payload :: payloads, responses => match RequestFrame.decode? payload, responses with
    | none, _ => ⟨0, .error (.invalidRequest (complaint payload))⟩ ::
      replyFrames complaint payloads responses
    | some _, [] => []
    | some frame, response :: responses =>
      ⟨frame.id, response⟩ :: replyFrames complaint payloads responses

variable {complaint : ByteArray → String} {quota : Option Nat}

section payload

variable {payload : ByteArray}

theorem closes_of_none (h : RequestFrame.decode? payload = none) : closes payload = false := by
  rw [closes, h]

theorem closes_of_some {frame : RequestFrame} (h : RequestFrame.decode? payload = some frame) :
    closes payload = (Handler.flow frame.request == .stop) := by
  rw [closes, h]
  obtain ⟨id, request⟩ := frame
  cases request <;> rfl

theorem answer_of_none (connector : Connector κ) (h : RequestFrame.decode? payload = none) :
    answer complaint connector payload =
      return (replyPayload ⟨0, .error (.invalidRequest (complaint payload))⟩, .carryOn) := by
  rw [answer, h]

theorem answer_of_some (connector : Connector κ) {frame : RequestFrame}
    (h : RequestFrame.decode? payload = some frame) :
    answer complaint connector payload = do
      let response ← Handler.answer connector frame.request
      return (replyPayload ⟨frame.id, response⟩, Handler.flow frame.request) := by
  rw [answer, h]

end payload

/-! ### One payload after another -/

section payloads

variable {payload : ByteArray} {payloads : List ByteArray}

theorem admitted_cons (h : quota ≠ some 0) (payload : ByteArray) (payloads : List ByteArray) :
    admitted quota (payload :: payloads) =
      payload :: admitted (left quota 1) payloads := by
  rcases quota with _ | _ | n
  · rfl
  · exact absurd rfl h
  · rfl

theorem left_zero (quota : Option Nat) : left quota 0 = quota := Option.map_id'

theorem left_left (quota : Option Nat) (taken more : Nat) :
    left (left quota taken) more = left quota (more + taken) := by
  rw [left, left, left, Option.map_map]
  refine congrArg (quota.map ·) (funext fun n => ?_)
  rw [Function.comp_apply, Nat.sub_sub, Nat.add_comm]

theorem ending_zero (payloads : List ByteArray) : ending (some 0) payloads = some .shutdown := by
  simp [ending, admitted]

theorem ending_nil (h : quota ≠ some 0) : ending quota [] = none := by
  rcases quota with _ | _ | n
  · rfl
  · exact absurd rfl h
  · simp [ending, admitted]

theorem ending_cons (h : quota ≠ some 0) (payload : ByteArray) (payloads : List ByteArray) :
    ending quota (payload :: payloads) =
      if closes payload then some .disconnected else ending (left quota 1) payloads := by
  rw [ending, admitted_cons h, List.any_cons]
  cases closes payload with
  | true => rfl
  | false =>
    rw [Bool.false_or, ending]
    rcases quota with _ | _ | n
    · rfl
    · exact absurd rfl h
    · simp [left]

theorem answerAll_cons (connector : Connector κ) (h : quota ≠ some 0) (payload : ByteArray)
    (payloads : List ByteArray) :
    answerAll complaint connector quota (payload :: payloads) = do
      let (reply, flow) ← answer complaint connector payload
      match flow with
      | .stop => return ([reply], some .disconnected)
      | .carryOn =>
        let (replies, stop) ← answerAll complaint connector (left quota 1) payloads
        return (reply :: replies, stop) := by
  rcases quota with _ | _ | n
  · rfl
  · exact absurd rfl h
  · rfl

theorem answerAll_nil (connector : Connector κ) (quota : Option Nat) :
    answerAll complaint connector quota [] = return ([], ending quota []) := by
  rcases quota with _ | _ | n <;> simp [answerAll, ending, admitted]

/-- Answering payloads is asking the handler the requests among those that are looked at. -/
theorem answerAll_eq (complaint : ByteArray → String) (connector : Connector κ) (quota : Option Nat)
    (payloads : List ByteArray) :
    answerAll complaint connector quota payloads = do
      let responses ← (requests (consumed (admitted quota payloads))).mapM
        (Handler.answer connector)
      return ((replyFrames complaint (consumed (admitted quota payloads)) responses).map
        replyPayload, ending quota payloads) := by
  induction payloads generalizing quota with
  | nil =>
    rw [answerAll_nil]
    rcases quota with _ | n <;> simp [admitted, consumed, requests, replyFrames]
  | cons payload payloads ih =>
    by_cases hQuota : quota = some 0
    · subst hQuota
      rw [ending_zero]
      simp [answerAll, admitted, consumed, requests, replyFrames]
    · rw [answerAll_cons connector hQuota, admitted_cons hQuota, ending_cons hQuota]
      rcases hFrame : RequestFrame.decode? payload with _ | frame
      · simp [answer_of_none connector hFrame, ih, consumed, closes_of_none hFrame, requests,
          hFrame, replyFrames]
      · cases hFlow : Handler.flow frame.request with
        | stop =>
          have hCloses : closes payload = true := by
            rw [closes_of_some hFrame, hFlow]
            rfl
          simp [answer_of_some connector hFrame, hFlow, consumed, hCloses, requests, hFrame,
            replyFrames]
        | carryOn =>
          have hCloses : closes payload = false := by
            rw [closes_of_some hFrame, hFlow]
            rfl
          simp [answer_of_some connector hFrame, hFlow, ih, consumed, hCloses, requests, hFrame,
            replyFrames]

theorem ending_append (quota : Option Nat) (payloads more : List ByteArray) :
    ending quota (payloads ++ more) =
      (ending quota payloads).or (ending (left quota payloads.length) more) := by
  induction payloads generalizing quota with
  | nil =>
    rw [List.nil_append, List.length_nil, left_zero]
    by_cases hQuota : quota = some 0
    · rw [hQuota, ending_zero, ending_zero, Option.some_or]
    · rw [ending_nil hQuota, Option.none_or]
  | cons payload payloads ih =>
    by_cases hQuota : quota = some 0
    · rw [hQuota, ending_zero, ending_zero, Option.some_or]
    · rw [List.cons_append, ending_cons hQuota, ending_cons hQuota]
      split
      · rfl
      · rw [ih, left_left, List.length_cons]

/-- Payloads are answered in two goes as in one. -/
theorem answerAll_append (complaint : ByteArray → String) (connector : Connector κ)
    (quota : Option Nat) (payloads more : List ByteArray) :
    answerAll complaint connector quota (payloads ++ more) = do
      let (replies, stop) ← answerAll complaint connector quota payloads
      match stop with
      | some stop => return (replies, some stop)
      | none =>
        let (later, stop) ← answerAll complaint connector (left quota payloads.length) more
        return (replies ++ later, stop) := by
  induction payloads generalizing quota with
  | nil =>
    by_cases hQuota : quota = some 0
    · subst hQuota
      simp [answerAll]
    · simp [answerAll_nil, ending_nil hQuota, left_zero]
  | cons payload payloads ih =>
    by_cases hQuota : quota = some 0
    · subst hQuota
      simp [answerAll]
    · rw [List.cons_append, answerAll_cons connector hQuota, answerAll_cons connector hQuota,
        bind_assoc]
      refine bind_congr fun (reply, flow) => ?_
      cases flow with
      | stop => rfl
      | carryOn =>
        simp only [ih, bind_assoc, left_left]
        refine bind_congr fun (replies, stop) => ?_
        cases stop <;> simp

theorem answerAll_of_ending (complaint : ByteArray → String) (connector : Connector κ)
    {stop : Option Stop} (h : ending quota payloads = stop) :
    answerAll complaint connector quota payloads = do
      let (replies, _) ← answerAll complaint connector quota payloads
      return (replies, stop) := by
  simp [answerAll_eq, h]

/-- What is behind the end of the service is not answered. -/
theorem answerAll_append_of_ending (complaint : ByteArray → String) (connector : Connector κ)
    {stop : Stop} (h : ending quota payloads = some stop) (more : List ByteArray) :
    answerAll complaint connector quota (payloads ++ more) =
      answerAll complaint connector quota payloads := by
  rw [answerAll_append, answerAll_of_ending complaint connector h]
  simp

end payloads

section fromHandler

variable {α β : Type} {decoder : Decoder}

/-- What a service does as it looks from the handler, the rest of the service being this. -/
def fromHandler (act : Timed (Server κ) α) (complaint : ByteArray → String) (quota : Option Nat)
    (decoder : Decoder) : Timed (Handler κ) α :=
  fun handler => (act ⟨handler, decoder, complaint, quota⟩).seen Server.handler
    fun handler server => { server with handler }

theorem fromHandler_get_bind (next : Server κ → Timed (Server κ) α) (decoder : Decoder) :
    fromHandler (Action.get >>= next) complaint quota decoder = fun handler =>
      fromHandler (next ⟨handler, decoder, complaint, quota⟩) complaint quota decoder handler := rfl

theorem fromHandler_modify_bind (decoder after : Decoder) (later : Option Nat)
    (next : Unit → Timed (Server κ) α) :
    fromHandler ((Action.modify fun server => { server with decoder := after, quota := later }) >>=
        next) complaint quota decoder =
      fromHandler (next ()) complaint later after := rfl

theorem fromHandler_onHandler_bind (act : Timed (Handler κ) α) (next : α → Timed (Server κ) β)
    (decoder : Decoder) :
    fromHandler (onHandler act >>= next) complaint quota decoder =
      act >>= fun value => fromHandler (next value) complaint quota decoder :=
  funext fun handler => Dialogue.seen_focus_bind Server.handler
    (fun handler server => { server with handler }) (fun _ _ => rfl) (fun _ _ _ => rfl)
    (act handler) next ⟨handler, decoder, complaint, quota⟩

theorem fromHandler_bind_pure (act : Timed (Server κ) α) (value : α → β) (decoder : Decoder) :
    fromHandler (act >>= fun found => pure (value found)) complaint quota decoder =
      fromHandler act complaint quota decoder >>= fun found => pure (value found) :=
  funext fun handler => Dialogue.seen_bind (act ⟨handler, decoder, complaint, quota⟩) fun _ _ => rfl

end fromHandler

/-- Why the service ends at the end of a stream. -/
def stopAt : Option StreamError → Stop
  | none => .endOfInput
  | some error => .failed error

theorem fromHandler_run_nil (connector : Connector κ) {decoder : Decoder}
    (h : decoder.finish.1 = none) :
    fromHandler (run connector []) complaint quota decoder =
      return ([], (ending quota []).getD .endOfInput) := by
  funext handler
  show Dialogue.done handler ([], endOfInput ⟨handler, decoder, complaint, quota⟩) =
    .done handler ([], (ending quota []).getD .endOfInput)
  rw [endOfInput, h]
  by_cases hQuota : quota = some 0
  · rw [if_pos hQuota, hQuota, ending_zero, Option.getD_some]
  · rw [if_neg hQuota, ending_nil hQuota, Option.getD_none]

/-- The service answers what is there and goes on unless that ended it. -/
theorem fromHandler_run_cons (connector : Connector κ) (chunk : ByteArray)
    (chunks : List ByteArray) {decoder after : Decoder} {payloads : List ByteArray}
    {error : Option StreamError} (h : (decoder.push chunk).takeAll = (payloads, error, after)) :
    fromHandler (run connector (chunk :: chunks)) complaint quota decoder = do
      let (replies, stop) ← answerAll complaint connector quota payloads
      match stop.or (error.map Stop.failed) with
      | some stop => return (replies, stop)
      | none =>
        let (later, stop) ←
          fromHandler (run connector chunks) complaint (left quota payloads.length) after
        return (replies ++ later, stop) := by
  simp only [run, feed, bind_assoc, fromHandler_get_bind, h, fromHandler_modify_bind,
    fromHandler_onHandler_bind, pure_bind]
  show (answerAll complaint connector quota payloads >>= _) = _
  refine bind_congr fun answered => ?_
  cases answered.2.or (error.map Stop.failed) with
  | some stop => rfl
  | none => exact fromHandler_bind_pure _ _ _

/-- A stream that ends well or with a fault: all payloads are answered, unless the service ends over
one of them. -/
theorem fromHandler_run_ending (connector : Connector κ) {tail : ByteArray}
    {error : Option StreamError} (hEnding : Decoder.Ending tail error) {chunks : List ByteArray}
    {decoder : Decoder} {payloads : List ByteArray}
    (hFits : ∀ payload ∈ payloads, payload.size ≤ maxSize) (hSound : decoder.Sound)
    (hSettled : decoder.Settled)
    (hBytes : decoder.unread ++ joined chunks = stream payloads ++ tail) :
    fromHandler (run connector chunks) complaint quota decoder = do
      let (replies, stop) ← answerAll complaint connector quota payloads
      return (replies, stop.getD (stopAt error)) := by
  induction chunks generalizing decoder payloads quota with
  | nil =>
    rw [joined_nil, ByteArray.append_empty] at hBytes
    obtain rfl := Decoder.eq_nil_of_settled hFits hSound hSettled hBytes
    rw [stream_nil, ByteArray.empty_append] at hBytes
    obtain ⟨rfl, hFinish⟩ := Decoder.finish_of_settled hEnding hSound hSettled hBytes
    rw [fromHandler_run_nil connector (congrArg Prod.fst hFinish), answerAll_nil, pure_bind]
    rfl
  | cons chunk chunks ih =>
    rw [joined_cons, ← ByteArray.append_assoc, ← Decoder.unread_push] at hBytes
    obtain ⟨taken, rest, after, rfl, hTaken⟩ :=
      Decoder.takeAll_stream hEnding hFits (hSound.push chunk) hBytes
    rcases hTaken with ⟨hTaken, hSettled, hSound, hBytes⟩ | ⟨hTaken, hError, rfl⟩
    · have hRest : fromHandler (run connector chunks) complaint (left quota taken.length) after = _ :=
        ih (fun payload h => hFits payload (List.mem_append_right taken h)) hSound hSettled hBytes
      rw [fromHandler_run_cons connector chunk chunks hTaken, answerAll_append, hRest, bind_assoc]
      refine bind_congr fun (replies, stop) => ?_
      cases stop <;> simp
    · rw [fromHandler_run_cons connector chunk chunks hTaken, List.append_nil]
      refine bind_congr fun (replies, stop) => ?_
      cases error with
      | none => exact absurd rfl hError
      | some error => cases stop <;> rfl

/-- A stream over which the service ends, whatever follows. -/
theorem fromHandler_run_early (connector : Connector κ) {tail : ByteArray}
    {chunks : List ByteArray} {decoder : Decoder} {payloads : List ByteArray} {stop : Stop}
    (hFits : ∀ payload ∈ payloads, payload.size ≤ maxSize)
    (hStop : ending quota payloads = some stop) (hSound : decoder.Sound)
    (hSettled : decoder.Settled)
    (hBytes : decoder.unread ++ joined chunks = stream payloads ++ tail) :
    fromHandler (run connector chunks) complaint quota decoder = do
      let (replies, _) ← answerAll complaint connector quota payloads
      return (replies, stop) := by
  induction chunks generalizing decoder payloads quota with
  | nil =>
    rw [joined_nil, ByteArray.append_empty] at hBytes
    obtain rfl := Decoder.eq_nil_of_settled hFits hSound hSettled hBytes
    -- Over no payloads the service ends with the shutdown only.
    obtain rfl : quota = some 0 := by
      by_contra hQuota
      exact nomatch (ending_nil hQuota).symm.trans hStop
    obtain rfl := Option.some.inj ((ending_zero []).symm.trans hStop)
    rw [answerAll_nil]
    rfl
  | cons chunk chunks ih =>
    rw [joined_cons, ← ByteArray.append_assoc, ← Decoder.unread_push] at hBytes
    rcases Decoder.takeAll_prefix hFits (hSound.push chunk) hBytes with
      ⟨taken, rest, after, rfl, hTaken, hSettled, hSound, hBytes⟩ |
      ⟨more, error, after, hTaken⟩
    · rw [fromHandler_run_cons connector chunk chunks hTaken]
      rw [ending_append] at hStop
      cases hEarly : ending quota taken with
      | some early =>
        obtain rfl : early = stop := by simpa [hEarly] using hStop
        rw [answerAll_append_of_ending complaint connector hEarly,
          answerAll_of_ending complaint connector hEarly]
        simp
      | none =>
        have hRest := ih (fun payload h => hFits payload (List.mem_append_right taken h))
          (by simpa [hEarly] using hStop) hSound hSettled hBytes
        rw [answerAll_append, hRest, answerAll_of_ending complaint connector hEarly]
        simp
    · rw [fromHandler_run_cons connector chunk chunks hTaken,
        answerAll_append_of_ending complaint connector hStop,
        answerAll_of_ending complaint connector hStop]
      simp

/-- How the service ends over a stream: with a request to close the session or with the shutdown,
whatever follows; at the end of the stream; or with a header that announces too much. -/
inductive Course (quota : Option Nat) (payloads : List ByteArray) : ByteArray → Stop → Prop where
  | disconnected (h : (admitted quota payloads).any closes) (tail : ByteArray) :
    Course quota payloads tail .disconnected
  | shutdown {n : Nat} (hQuota : quota = some n) (hSpent : n ≤ payloads.length)
    (h : (payloads.take n).any closes = false) (tail : ByteArray) :
    Course quota payloads tail .shutdown
  | ended (hQuota : ∀ n, quota = some n → payloads.length < n) (h : payloads.any closes = false) :
    Course quota payloads .empty .endOfInput
  | oversize (hQuota : ∀ n, quota = some n → payloads.length < n)
    (h : payloads.any closes = false) {length : Nat} (hHigh : maxSize < length)
    (hLow : length < 2 ^ 32) (more : ByteArray) :
    Course quota payloads (header length ++ more) (.failed .frameTooBig)

theorem ending_eq_none {payloads : List ByteArray}
    (hQuota : ∀ n, quota = some n → payloads.length < n) (h : payloads.any closes = false) :
    ending quota payloads = none := by
  cases quota with
  | none => simp [ending, admitted, h]
  | some n =>
    have hLong := hQuota n rfl
    rw [ending, admitted, List.take_of_length_le (Nat.le_of_lt hLong), h]
    simpa using hLong

/-- The handler is asked the requests that are looked at, in order, and nothing else is done. -/
theorem fromHandler_run_course (complaint : ByteArray → String) (connector : Connector κ)
    {payloads chunks : List ByteArray} {tail : ByteArray} {stop : Stop}
    (hFits : ∀ payload ∈ payloads, payload.size ≤ maxSize)
    (hCourse : Course quota payloads tail stop) (hChunks : joined chunks = stream payloads ++ tail) :
    fromHandler (run connector chunks) complaint quota {} = do
      let responses ← (requests (consumed (admitted quota payloads))).mapM
        (Handler.answer connector)
      return ((replyFrames complaint (consumed (admitted quota payloads)) responses).map
        replyPayload, stop) := by
  have hSound := Decoder.sound_start
  have hSettled := Decoder.settled_start
  have hBytes : ({} : Decoder).unread ++ joined chunks = stream payloads ++ tail := by
    rw [← hChunks]
    exact ByteArray.empty_append
  cases hCourse with
  | disconnected h =>
    have hStop : ending quota payloads = some .disconnected := by rw [ending, if_pos h]
    rw [fromHandler_run_early connector hFits hStop hSound hSettled hBytes, answerAll_eq]
    simp
  | shutdown hQuota hSpent h =>
    have hStop : ending quota payloads = some .shutdown := by
      simp [hQuota, ending, admitted, h, hSpent]
    rw [fromHandler_run_early connector hFits hStop hSound hSettled hBytes, answerAll_eq]
    simp
  | ended hQuota h =>
    rw [fromHandler_run_ending connector .clean hFits hSound hSettled hBytes, answerAll_eq]
    simp [ending_eq_none hQuota h, stopAt]
  | oversize hQuota h hHigh hLow more =>
    rw [fromHandler_run_ending connector (.oversize hHigh hLow more) hFits hSound hSettled hBytes,
      answerAll_eq]
    simp [ending_eq_none hQuota h, stopAt]

/-- The number under which a payload is answered. -/
def replyId (payload : ByteArray) : UInt64 :=
  match RequestFrame.decode? payload with
  | some frame => frame.id
  | none => 0

/-- What an answer is to a payload: it bears its number, and it complains of what is no request. -/
def Answers (complaint : ByteArray → String) (payload : ByteArray) (reply : ResponseFrame) : Prop :=
  reply.id = replyId payload ∧
    (RequestFrame.decode? payload = none →
      reply.response = .error (.invalidRequest (complaint payload)))

theorem forall₂_answers_replyFrames {payloads : List ByteArray} {responses : List Response}
    (h : responses.length = (requests payloads).length) :
    List.Forall₂ (Answers complaint) payloads (replyFrames complaint payloads responses) := by
  induction payloads generalizing responses with
  | nil => exact .nil
  | cons payload payloads ih =>
    rcases hFrame : RequestFrame.decode? payload with _ | frame
    · have hRest : responses.length = (requests payloads).length := by
        simpa [requests, hFrame] using h
      simp only [replyFrames, hFrame]
      exact .cons ⟨by rw [replyId, hFrame], fun _ => rfl⟩ (ih hRest)
    · cases responses with
      | nil => simp [requests, hFrame] at h
      | cons response responses =>
        have hRest : responses.length = (requests payloads).length := by
          simpa [requests, hFrame] using h
        simp only [replyFrames, hFrame]
        exact .cons ⟨by rw [replyId, hFrame], fun hNone => nomatch hFrame.symm.trans hNone⟩ (ih hRest)

/-- Every request is answered once and in order.  Whatever the chunks in which a stream of frames
arrives, and whatever is said of payloads that are no requests, the handler is asked exactly the
requests up to the first that closes the session, or those before the shutdown; every payload up to
there is answered once, under its own number; and every answer fits a frame and is read as what was to
be told, which is a notice if the answer is too long. -/
theorem answers_every_request (complaint : ByteArray → String) (connector : Connector κ)
    {payloads chunks : List ByteArray} {tail : ByteArray} {stop : Stop}
    (hFits : ∀ payload ∈ payloads, payload.size ≤ maxSize)
    (hCourse : Course quota payloads tail stop) (hChunks : joined chunks = stream payloads ++ tail) :
    let answered := consumed (admitted quota payloads)
    (fromHandler (run connector chunks) complaint quota {} = do
      let responses ← (requests answered).mapM (Handler.answer connector)
      return ((replyFrames complaint answered responses).map replyPayload, stop)) ∧
    (∀ responses : List Response, responses.length = (requests answered).length →
      List.Forall₂ (Answers complaint) answered (replyFrames complaint answered responses)) ∧
    ∀ reply : ResponseFrame, reply.encode.size < 2 ^ 64 →
      (replyPayload reply).size ≤ maxSize ∧
        ResponseFrame.decode? (replyPayload reply) = some ⟨reply.id, told reply⟩ :=
  ⟨fromHandler_run_course complaint connector hFits hCourse hChunks,
    fun _ => forall₂_answers_replyFrames,
    fun _ hSize => ⟨size_replyPayload_le hSize, decode?_replyPayload hSize⟩⟩

/-- Two requests with rubbish between them and behind them, in chunks that cut the first; and the same
with a shutdown before the last of them. -/
theorem answers_ping_rubbish_and_disconnect :
    let payloads :=
      [RequestFrame.encode ⟨7, .ping⟩, ⟨#[0xc1]⟩, RequestFrame.encode ⟨8, .disconnect⟩]
    let whole := stream payloads
    let chunks := [whole.extract 0 9, .empty, whole.extract 9 whole.size ++ ⟨#[1, 2]⟩]
    let complaint := fun payload : ByteArray => "codec error: decode: " ++ toString payload.size
    let connector : Connector Unit := fun _ => pure (.crash none)
    (fromHandler (run connector chunks) complaint none {} = do
      let responses ← [Request.ping, .disconnect].mapM (Handler.answer connector)
      return ((replyFrames complaint payloads responses).map replyPayload, .disconnected)) ∧
    fromHandler (run connector chunks) complaint (some 2) {} = do
      let responses ← [Request.ping].mapM (Handler.answer connector)
      return ((replyFrames complaint (payloads.take 2) responses).map replyPayload, .shutdown) := by
  intro payloads whole chunks complaint connector
  have hFits : ∀ payload ∈ payloads, payload.size ≤ maxSize := by decide +kernel
  have hChunks : joined chunks = stream payloads ++ ⟨#[1, 2]⟩ := by decide +kernel
  have hClosed : Course none payloads ⟨#[1, 2]⟩ .disconnected :=
    .disconnected (by decide +kernel) _
  have hShut : Course (some 2) payloads ⟨#[1, 2]⟩ .shutdown :=
    .shutdown rfl (by decide) (by decide +kernel) _
  have hServed := (answers_every_request complaint connector hFits hClosed hChunks).1
  have hServedTwo := (answers_every_request complaint connector hFits hShut hChunks).1
  have hConsumed : consumed (admitted none payloads) = payloads := by decide +kernel
  have hConsumedTwo : consumed (admitted (some 2) payloads) = payloads.take 2 := by decide +kernel
  have hRequests : requests payloads = [.ping, .disconnect] := by decide +kernel
  have hRequestsTwo : requests (payloads.take 2) = [.ping] := by decide +kernel
  rw [hConsumed, hRequests] at hServed
  rw [hConsumedTwo, hRequestsTwo] at hServedTwo
  exact ⟨hServed, hServedTwo⟩

section complaints

variable {payload : ByteArray}

theorem fromHandler_run_complaint (connector : Connector κ) (hSize : payload.size ≤ maxSize)
    (hNone : RequestFrame.decode? payload = none) :
    fromHandler (run connector [stream [payload]]) complaint none {} =
      pure ([replyPayload ⟨0, .error (.invalidRequest (complaint payload))⟩], .endOfInput) := by
  have hCourse : Course none [payload] .empty .endOfInput :=
    .ended nofun (by rw [List.any_cons, closes_of_none hNone]; rfl)
  refine (fromHandler_run_course complaint connector (List.forall_mem_singleton.mpr hSize) hCourse
    rfl).trans ?_
  simp [consumed, admitted, closes_of_none hNone, requests, hNone, replyFrames]

/-- A complaint that is longer than a frame gives way to the notice. -/
theorem decode?_long_complaint {message : String} (hLong : maxSize < message.utf8ByteSize)
    (hSize : message.utf8ByteSize < 2 ^ 32) :
    let reply : ResponseFrame := ⟨0, .error (.invalidRequest message)⟩
    ResponseFrame.decode? (replyPayload reply) = some ⟨0, oversizeResponse reply.encode.size⟩ := by
  intro reply
  have hLower := utf8ByteSize_le_size_encode_invalidRequest 0 message
  have hUpper := size_encode_error_le 0 (.invalidRequest message)
  have hMessage := size_encode_invalidRequest_le message
  have hTold : told reply = oversizeResponse reply.encode.size :=
    if_neg (Nat.not_le.mpr (hLong.trans_le hLower))
  have hShort : reply.encode.size < 2 ^ 64 :=
    hUpper.trans_lt (Nat.lt_of_le_of_lt (Nat.add_le_add_left hMessage 128) (by omega))
  exact hTold ▸ decode?_replyPayload hShort

end complaints

/-- What is said of a text in the place of a request. -/
def textComplaint (text : String) : String :=
  "codec error: decode: invalid type: string " ++ Text.quoted text ++
    ", expected struct RequestFrame"

/-- So many letters that are not seen in print. -/
def unseen (n : Nat) : String := String.ofList (List.replicate n '\x1f')

theorem length_quoted_unseen (n : Nat) : (Text.quoted (unseen n)).toList.length = 6 * n + 2 := by
  have hEscaped : (Text.escaped '\x1f').length = 6 := by decide +kernel
  rw [Text.quoted, unseen, String.toList_ofList, String.toList_ofList, List.length_cons,
    List.length_append, List.length_flatMap, List.map_replicate, hEscaped, List.sum_replicate_nat,
    List.length_singleton, Nat.mul_comm]

/-- The complaint of these letters is about six times as long as they are. -/
theorem utf8ByteSize_textComplaint_unseen (n : Nat) :
    6 * n ≤ (textComplaint (unseen n)).utf8ByteSize ∧
      (textComplaint (unseen n)).utf8ByteSize ≤ 24 * n + 128 := by
  have hLower := length_le_utf8ByteSize (Text.quoted (unseen n))
  have hUpper := utf8ByteSize_ofList_le (Text.quoted (unseen n)).toList
  rw [length_quoted_unseen] at hLower hUpper
  rw [String.ofList_toList] at hUpper
  have hBefore : "codec error: decode: invalid type: string ".utf8ByteSize = 42 := by
    decide +kernel
  have hBehind : ", expected struct RequestFrame".utf8ByteSize = 30 := by decide +kernel
  have hAll : (textComplaint (unseen n)).utf8ByteSize =
      42 + (Text.quoted (unseen n)).utf8ByteSize + 30 := by
    unfold textComplaint
    rw [String.utf8ByteSize_append, String.utf8ByteSize_append, hBefore, hBehind]
  omega

theorem size_encode_unseen_le (n : Nat) :
    (MessagePack.Item.ofString (unseen n)).encode.size ≤ 5 + 4 * n := by
  have hText := MessagePack.Item.size_encode_ofString_le (unseen n)
  have hLetters := utf8ByteSize_ofList_le (List.replicate n '\x1f')
  rw [List.length_replicate] at hLetters
  exact hText.trans (Nat.add_le_add_left hLetters 5)

/-- A payload that is a text is no request. -/
theorem decode?_encode_ofString {text : String}
    (h : (MessagePack.Item.ofString text).encode.size ≤ maxSize) :
    RequestFrame.decode? (MessagePack.Item.ofString text).encode = none := by
  have hRead := MessagePack.decode?_encode (.ofString text) (h.trans_lt maxSize_lt) .empty
  rw [ByteArray.append_empty] at hRead
  rw [RequestFrame.decode?, hRead]
  rfl

/-- A request is left unanswered because of the shutdown; and the complaint of a payload that is a text
of unseen letters is so long that a notice is told in its place. -/
theorem request_unanswered_and_complaint_not_told :
    let connector : Connector Unit := fun _ => pure (.crash none)
    let complaint := fun _ : ByteArray => textComplaint (unseen 2800000)
    let ping := RequestFrame.encode ⟨1, .ping⟩
    let payload := (MessagePack.Item.ofString (unseen 2800000)).encode
    let reply : ResponseFrame := ⟨0, .error (.invalidRequest (complaint payload))⟩
    (RequestFrame.decode? ping = some ⟨1, .ping⟩ ∧
      fromHandler (run connector [stream [ping]]) complaint (some 0) {} = pure ([], .shutdown)) ∧
    payload.size ≤ maxSize ∧ RequestFrame.decode? payload = none ∧
      fromHandler (run connector [stream [payload]]) complaint none {} =
        pure ([replyPayload reply], .endOfInput) ∧
      ResponseFrame.decode? (replyPayload reply) = some ⟨0, oversizeResponse reply.encode.size⟩ := by
  intro connector complaint ping payload reply
  have hShut : Course (some 0) [ping] .empty .shutdown := .shutdown rfl (Nat.zero_le _) rfl _
  have hUnanswered : fromHandler (run connector [stream [ping]]) complaint (some 0) {} =
      pure ([], .shutdown) :=
    fromHandler_run_course complaint connector (by decide +kernel) hShut rfl
  have hSize : payload.size ≤ maxSize := (size_encode_unseen_le _).trans (by decide)
  have hNone : RequestFrame.decode? payload = none := decode?_encode_ofString hSize
  obtain ⟨hLower, hUpper⟩ := utf8ByteSize_textComplaint_unseen 2800000
  have hTold := decode?_long_complaint (Nat.lt_of_lt_of_le (by decide) hLower)
    (Nat.lt_of_le_of_lt hUpper (by decide))
  exact ⟨⟨by decide +kernel, hUnanswered⟩, hSize, hNone,
    fromHandler_run_complaint connector hSize hNone, hTold⟩

end BeanBridge.Server
