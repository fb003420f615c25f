import BeanBridge.Proofs.Client.Method
import BeanBridge.Proofs.Client.Traffic
import BeanBridge.Proofs.Frame.Offer

/-! One call over a stream on which anything may arrive.  The client keeps its books: what it has
written or still has to write are frames of requests, and what has arrived are frames of payloads it
has taken or has yet to take.  A call adds at most its own request to the one and at most one payload
to the other, wherever it is left. -/

namespace BeanBridge.Client

open BeanBridge.Frame

/-- All that is written or unsent are the frames of these requests, and all that has arrived are the
frames of these payloads and what is unread. -/
structure Balanced (requests : List RequestFrame) (replies : List ByteArray) (client : Client)
    (traffic : Traffic) : Prop where
  written : traffic.written ++ client.unsent = stream (requests.map RequestFrame.encode)
  received : traffic.received = stream replies ++ client.decoder.unread
  sound : client.decoder.Sound
  requestsFit : ∀ frame ∈ requests, frame.encode.size ≤ maxSize
  repliesFit : ∀ payload ∈ replies, payload.size ≤ maxSize

/-- The same while a call is made, and the number of the next one. -/
structure Underway (next : UInt64) (requests : List RequestFrame) (replies : List ByteArray)
    (client : Client) (traffic : Traffic) : Prop extends
    Balanced requests replies client traffic where
  number : client.nextId = next
  usable : client.isBroken = false

/-- If the result is a failure, no call can be made after it. -/
def FatalOnly {α : Type} (result : Except ClientError α) : Prop :=
  ∀ error, result = .error error → error.isFatal = true

theorem fatalOnly_ok {α : Type} (value : α) : FatalOnly (.ok value) := nofun

theorem fatalOnly_error {α : Type} {error : ClientError} (h : error.isFatal = true) :
    FatalOnly (.error error : Except ClientError α) := by
  rintro found ⟨⟩
  exact h

/-- What a call has put into the stream, and what it has taken from it. -/
structure Turn where
  request : Option RequestFrame
  reply : Option ByteArray

section call

variable {next : UInt64} {requests : List RequestFrame} {replies : List ByteArray}
  {client : Client} {traffic : Traffic}

/-- The client waits with its request added, or with earlier ones that it has to write first. -/
def Waiting (next : UInt64) (requests : List RequestFrame) (replies : List ByteArray)
    (frame : RequestFrame) (client : Client) (traffic : Traffic) : Prop :=
  (requests ≠ [] ∧ Underway next requests replies client traffic) ∨
    Underway next (requests ++ [frame]) replies client traffic

/-- The request is added as a whole or, if that fails, not at all. -/
def Sent (next : UInt64) (requests : List RequestFrame) (replies : List ByteArray)
    (frame : RequestFrame) (result : Except ClientError Unit) (client : Client)
    (traffic : Traffic) : Prop :=
  FatalOnly result ∧ ∃ added : Option RequestFrame, (∀ sent ∈ added, sent = frame) ∧
    Underway next (requests ++ added.toList) replies client traffic ∧
      (result = .ok () → added = some frame)

/-- At most one payload is taken, which is the result. -/
def Received (next : UInt64) (requests : List RequestFrame) (replies : List ByteArray)
    (result : Except ClientError ByteArray) (client : Client) (traffic : Traffic) : Prop :=
  FatalOnly result ∧ ∃ taken : Option ByteArray,
    Underway next requests (replies ++ taken.toList) client traffic ∧
      ∀ payload, result = .ok payload → taken = some payload

/-- At most the request is added, and at most one payload is taken, which is the one that the result
was read from. -/
def Exchanged (next : UInt64) (requests : List RequestFrame) (replies : List ByteArray)
    (frame : RequestFrame) (result : Except ClientError ResponseFrame) (client : Client)
    (traffic : Traffic) : Prop :=
  FatalOnly result ∧ ∃ turn : Turn, (∀ sent ∈ turn.request, sent = frame) ∧
    Underway next (requests ++ turn.request.toList) (replies ++ turn.reply.toList) client traffic ∧
      ∀ reply, result = .ok reply → turn.request = some frame ∧
        ∃ payload ∈ turn.reply, ResponseFrame.decode? payload = some reply

theorem secures_flush (h : Underway next requests replies client traffic) (pieces : Nat) :
    (flush pieces client).Secures (Underway next requests replies)
      (fun result client traffic =>
        FatalOnly result ∧ Underway next requests replies client traffic) traffic := by
  induction pieces generalizing client traffic with
  | zero => exact ⟨fatalOnly_ok (), h⟩
  | succ pieces ih =>
    by_cases hNone : client.unsent.size = 0
    · rw [flush, Action.get_bind_apply, if_pos hNone]
      exact ⟨fatalOnly_ok (), h⟩
    · rw [flush, Action.get_bind_apply, if_neg hNone]
      refine ⟨h, fun reply => ?_⟩
      cases reply with
      | error error => exact ⟨fatalOnly_error rfl, h⟩
      | ok taken =>
        -- What the stream takes passes from the unsent to the written bytes.
        refine ih { h with written := ?_ }
        show traffic.written ++ client.unsent.extract 0 (max taken 1) ++
          client.unsent.extract (max taken 1) client.unsent.size = _
        rw [ByteArray.append_assoc, ByteArray.extract_append_extract, Nat.zero_min,
          ByteArray.extract_zero_max_size]
        exact h.written

/-- Only what is left of earlier requests is written before a request is added. -/
theorem secures_makeRoom (h : Underway next requests replies client traffic) :
    (makeRoom client).Secures
      (fun client traffic => requests ≠ [] ∧ Underway next requests replies client traffic)
      (fun result client traffic =>
        FatalOnly result ∧ Underway next requests replies client traffic) traffic := by
  by_cases hMuch : unsentLimit ≤ client.unsent.size
  · rw [makeRoom, Action.get_bind_apply, if_pos hMuch]
    -- Before the first request nothing is unsent, so what is to be written is from earlier ones.
    have hEarlier : requests ≠ [] := by
      rintro rfl
      have hEmpty := (eq_empty_of_append_eq_empty h.written).2
      rw [hEmpty, ByteArray.size_empty] at hMuch
      exact absurd hMuch (by decide)
    exact (secures_flush h _).mono (fun _ _ hLater => ⟨hEarlier, hLater⟩) fun _ _ _ => id
  · rw [makeRoom, Action.get_bind_apply, if_neg hMuch]
    exact ⟨fatalOnly_ok (), h⟩

theorem Underway.add (h : Underway next requests replies client traffic) {frame : RequestFrame}
    (hFits : frame.encode.size ≤ maxSize) :
    Underway next (requests ++ [frame]) replies
      { client with unsent := client.unsent ++ (header frame.encode.size ++ frame.encode) }
        traffic := by
  refine { h with written := ?_, requestsFit := ?_ }
  · rw [← sent_eq hFits, ← ByteArray.append_assoc, h.written, List.map_append, stream_append]
    exact congrArg _ ByteArray.append_empty.symm
  · exact List.forall_mem_append.mpr ⟨h.requestsFit, List.forall_mem_singleton.mpr hFits⟩

theorem Underway.take (h : Underway next requests replies client traffic) {payloads : List ByteArray}
    {decoder : Decoder} (hSound : decoder.Sound)
    (hFits : ∀ payload ∈ payloads, payload.size ≤ maxSize)
    (hTaken : client.decoder.unread = stream payloads ++ decoder.unread) :
    Underway next requests (replies ++ payloads) { client with decoder } traffic := by
  refine { h with received := ?_, sound := hSound, repliesFit := ?_ }
  · rw [h.received, hTaken, stream_append, ByteArray.append_assoc]
  · exact List.forall_mem_append.mpr ⟨h.repliesFit, hFits⟩

theorem Underway.push (h : Underway next requests replies client traffic) (chunk : ByteArray) :
    Underway next requests replies { client with decoder := client.decoder.push chunk }
      { traffic with received := traffic.received ++ chunk } := by
  refine { h with received := ?_ }
  rw [h.received, Decoder.unread_push, ByteArray.append_assoc]

theorem secures_send (h : Underway next requests replies client traffic) (frame : RequestFrame) :
    (send frame.encode client).Secures (Waiting next requests replies frame)
      (Sent next requests replies frame) traffic := by
  refine Dialogue.Secures.bind ((secures_makeRoom h).mono (fun _ _ => .inl) fun _ _ _ => id) ?_
  rintro result client traffic ⟨hFatal, hRoom⟩
  have hNone : Underway next (requests ++ (none : Option RequestFrame).toList) replies client
      traffic := by
    rwa [Option.toList_none, List.append_nil]
  cases result with
  | error error => exact ⟨fatalOnly_error (hFatal error rfl), none, nofun, hNone, nofun⟩
  | ok =>
    by_cases hFits : frame.encode.size ≤ maxSize
    · simp only [encode_eq_ok hFits]
      refine (secures_flush (hRoom.add hFits) _).mono (fun _ _ => .inr) ?_
      rintro result client traffic ⟨hFatal, hLater⟩
      refine ⟨hFatal, some frame, ?_, hLater, fun _ => rfl⟩
      rintro sent ⟨⟩
      rfl
    · have hTooBig : encode frame.encode = .error .frameTooBig := if_neg hFits
      simp only [hTooBig]
      exact ⟨fatalOnly_error rfl, none, nofun, hNone, nofun⟩

theorem secures_receive (h : Underway next requests replies client traffic) (reads : Nat) :
    (receive reads client).Secures (Underway next requests replies)
      (Received next requests replies) traffic := by
  induction reads generalizing client traffic with
  | zero => exact ⟨fatalOnly_error rfl, none, by rwa [Option.toList_none, List.append_nil], nofun⟩
  | succ reads ih =>
    rcases hNext : client.decoder.next with ⟨offer, decoder⟩
    obtain ⟨hSound, hFits, hTaken⟩ := Decoder.next_spec h.sound hNext
    have hLater := h.take hSound hFits hTaken
    rw [receive, Action.get_bind_apply]
    simp only [hNext]
    cases offer with
    | payload payload =>
      refine ⟨fatalOnly_ok payload, some payload, hLater, ?_⟩
      rintro found ⟨⟩
      rfl
    | failed error => exact ⟨fatalOnly_error rfl, none, hLater, nofun⟩
    | incomplete =>
      rw [Next.taken, List.append_nil] at hLater
      simp only [Action.modify_bind_apply, Action.ask_bind_apply]
      refine ⟨hLater, fun reply => ?_⟩
      cases reply with
      | error error =>
        exact ⟨fatalOnly_error rfl, none, by rwa [Option.toList_none, List.append_nil], nofun⟩
      | ok chunk =>
        -- At the end of the stream the decoder is asked once more for what it has.
        by_cases hEnd : chunk.size = 0
        · obtain rfl := ByteArray.size_eq_zero_iff.mp hEnd
          have hSame : (traffic.note .read (.ok .empty)) = traffic :=
            congrArg (Traffic.mk traffic.written) ByteArray.append_empty
          rw [hSame]
          rcases hFinish : decoder.finish with ⟨offer, after⟩
          obtain ⟨hSound, hFits, hTaken⟩ := Decoder.finish_spec hSound hFinish
          have hFinished := hLater.take hSound hFits hTaken
          simp only [if_pos hEnd, Action.get_bind_apply, Action.modify_bind_apply, hFinish]
          rcases offer with _ | payload | _ | error
          · exact ⟨fatalOnly_error rfl, none, hFinished, nofun⟩
          · refine ⟨fatalOnly_ok payload, some payload, hFinished, ?_⟩
            rintro found ⟨⟩
            rfl
          · exact ⟨fatalOnly_error rfl, none, hFinished, nofun⟩
          · exact ⟨fatalOnly_error rfl, none, hFinished, nofun⟩
        · simp only [if_neg hEnd]
          exact ih (hLater.push chunk)

theorem secures_exchange (h : Underway next requests replies client traffic) (frame : RequestFrame) :
    (exchange frame client).Secures (Waiting next requests replies frame)
      (Exchanged next requests replies frame) traffic := by
  refine Dialogue.Secures.bind (secures_send h frame) ?_
  rintro result client traffic ⟨hFatal, added, hFrame, hSent, hAdded⟩
  cases result with
  | error error =>
    refine ⟨fatalOnly_error (hFatal error rfl), ⟨added, none⟩, hFrame, ?_, nofun⟩
    rwa [Option.toList_none, List.append_nil]
  | ok =>
    obtain rfl := hAdded rfl
    refine Dialogue.Secures.bind ((secures_receive hSent _).mono (fun _ _ => .inr)
      fun _ _ _ => id) ?_
    rintro result client traffic ⟨hFatal, taken, hReceived, hTaken⟩
    cases result with
    | error error =>
      exact ⟨fatalOnly_error (hFatal error rfl), ⟨some frame, taken⟩, hFrame, hReceived, nofun⟩
    | ok payload =>
      obtain rfl := hTaken payload rfl
      rcases hDecode : ResponseFrame.decode? payload with _ | reply
      · simp only [hDecode]
        exact ⟨fatalOnly_error rfl, ⟨some frame, some payload⟩, hFrame, hReceived, nofun⟩
      · simp only [hDecode]
        refine ⟨fatalOnly_ok reply, ⟨some frame, some payload⟩, hFrame, hReceived, ?_⟩
        rintro found ⟨⟩
        exact ⟨rfl, payload, rfl, hDecode⟩

variable {π : Type} (peer : Peer π)

/-- Giving up is a failure like any other: the request may be on its way, and nothing was taken. -/
theorem Waiting.exchanged {frame : RequestFrame} {error : ClientError}
    (h : Waiting next requests replies frame client traffic) (hFatal : error.isFatal = true) :
    Exchanged next requests replies frame (.error error) client traffic := by
  refine ⟨fatalOnly_error hFatal, ?_⟩
  rcases h with ⟨-, h⟩ | h
  · refine ⟨⟨none, none⟩, nofun, ?_, nofun⟩
    rwa [Option.toList_none, Option.toList_none, List.append_nil, List.append_nil]
  · refine ⟨⟨some frame, none⟩, ?_, ?_, nofun⟩
    · rintro sent ⟨⟩
      rfl
    · rwa [Option.toList_none, List.append_nil]

theorem assures_exchangeInTime (h : Underway next requests replies client traffic)
    (limit : Option Nat) (frame : RequestFrame) (inner : π) :
    (exchangeInTime peer.recorded limit frame (client, traffic, inner)).Assures
      (Waiting next requests replies frame) (Exchanged next requests replies frame) := by
  have hExchange := (secures_exchange h frame).servedBy peer inner
  cases limit with
  | none => exact hExchange
  | some limit =>
    refine (hExchange.within limit).bind ?_
    rintro (_ | result) whole hEnding
    · exact hEnding.exchanged rfl
    · exact hEnding

/-- The result is a failure after which no call can be made. -/
def Fatal {α : Type} (result : Except ClientError α) : Prop :=
  ∃ error, result = .error error ∧ error.isFatal = true

/-- The payload that a call took holds this response, under the number of the request that it sent. -/
def Turn.Bears (turn : Turn) (response : Response) : Prop :=
  ∃ frame payload, turn.request = some frame ∧ turn.reply = some payload ∧
    ResponseFrame.decode? payload = some ⟨frame.id, response⟩

/-- A call adds at most its request and takes at most one payload; then it has failed for good, or it
comes to the response that it took. -/
def Called (next : UInt64) (requests : List RequestFrame) (replies : List ByteArray)
    (frame : RequestFrame) (result : Except ClientError Response) (client : Client)
    (traffic : Traffic) : Prop :=
  ∃ turn : Turn, (∀ sent ∈ turn.request, sent = frame) ∧
    Balanced (requests ++ turn.request.toList) (replies ++ turn.reply.toList) client traffic ∧
      client.nextId = next ∧
        (client.isBroken = true ∧ Fatal result ∨
          client.isBroken = false ∧ ∃ response, turn.Bears response ∧ result = outcome response)

/-- The same of a method, which may not accept the response; after the session was closed no call can
be made either. -/
def Performed (next : UInt64) (requests : List RequestFrame) (replies : List ByteArray)
    (frame : RequestFrame) (method : Method) (result : Except ClientError Response)
    (client : Client) (traffic : Traffic) : Prop :=
  ∃ turn : Turn, (∀ sent ∈ turn.request, sent = frame) ∧
    Balanced (requests ++ turn.request.toList) (replies ++ turn.reply.toList) client traffic ∧
      client.nextId = next ∧
        (Fatal result ∨ ∃ response, turn.Bears response ∧
          result = (outcome response).bind method.accept) ∧
        (client.isBroken = true ↔ Fatal result ∨ method = .disconnect)

theorem not_fatal_outcome (response : Response) (method : Method) :
    ¬Fatal ((outcome response).bind method.accept) := by
  rintro ⟨error, hError, hFatal⟩
  have hAccept (response : Response) (h : method.accept response = .error error) : False := by
    cases method with
    | call request => cases h
    | _ =>
      simp only [Method.accept, fitting] at h
      split at h
      · cases h
      · obtain rfl := Except.error.inj h
        exact Bool.false_ne_true hFatal
  cases response with
  | error reported =>
    obtain rfl := Except.error.inj hError
    cases reported <;> exact Bool.false_ne_true hFatal
  | _ => exact hAccept _ hError

/-- What the exchange came to decides how the call ends. -/
theorem Exchanged.called {request : Request} {id : UInt64}
    {result : Except ClientError ResponseFrame}
    (h : Exchanged next requests replies ⟨id, request⟩ result client traffic) :
    Called next requests replies ⟨id, request⟩ (client.conclude id result).1
      (client.conclude id result).2 traffic := by
  obtain ⟨hFatal, turn, hFrame, hUnderway, hReply⟩ := h
  have hFails {error : ClientError} (h : error.isFatal = true) :
      Called next requests replies ⟨id, request⟩ (.error error) { client with isBroken := true }
        traffic :=
    ⟨turn, hFrame, { hUnderway with }, hUnderway.number, .inl ⟨rfl, error, rfl, h⟩⟩
  cases result with
  | error error => exact hFails (hFatal error rfl)
  | ok reply =>
    by_cases hId : reply.id = id
    · obtain ⟨number, response⟩ := reply
      obtain rfl : number = id := hId
      obtain ⟨hSent, payload, hPayload, hDecode⟩ := hReply _ rfl
      rw [conclude_answer]
      exact ⟨turn, hFrame, hUnderway.toBalanced, hUnderway.number, .inr ⟨hUnderway.usable, response,
        ⟨_, payload, hSent, hPayload, hDecode⟩, rfl⟩⟩
    · rw [conclude, if_pos hId]
      exact hFails rfl

theorem assures_call (h : Balanced requests replies client traffic)
    (hUsable : client.isBroken = false) (request : Request) (inner : π) :
    (call peer.recorded request (client, traffic, inner)).Assures
      (Waiting client.begin.nextId requests replies ⟨client.nextId, request⟩)
      (Called client.begin.nextId requests replies ⟨client.nextId, request⟩) := by
  have hBegun : Underway client.begin.nextId requests replies client.begin traffic :=
    { h with number := rfl, usable := hUsable }
  rw [call, Action.get_bind_apply]
  simp only [hUsable, Bool.false_eq_true, if_false, onClient_bind_apply]
  exact (assures_exchangeInTime peer hBegun client.responseTimeout ⟨client.nextId, request⟩
    inner).bind fun result whole hExchanged => hExchanged.called

theorem isBroken_leave (method : Method) (client : Client) :
    (method.leave client).isBroken = true ↔ client.isBroken = true ∨ method = .disconnect := by
  cases method <;> simp [Method.leave]

theorem Balanced.leave (h : Balanced requests replies client traffic) (method : Method) :
    Balanced requests replies (method.leave client) traffic := by
  cases method <;> exact { h with }

theorem nextId_leave (method : Method) (client : Client) :
    (method.leave client).nextId = client.nextId := by
  cases method <;> rfl

/-- A method of a usable client comes to what it makes of a response under the number of its own
request, or it fails for good. -/
theorem assures_perform (h : Balanced requests replies client traffic)
    (hUsable : client.isBroken = false) (method : Method) (inner : π) :
    (method.perform peer.recorded (client, traffic, inner)).Assures
      (Waiting client.begin.nextId requests replies
        ⟨client.nextId, method.request client.callTimeout⟩)
      (Performed client.begin.nextId requests replies
        ⟨client.nextId, method.request client.callTimeout⟩ method) := by
  rw [Method.perform_eq]
  refine (assures_call peer h hUsable (method.request client.callTimeout) inner).bind ?_
  rintro result ⟨client, traffic, inner⟩ ⟨turn, hFrame, hBalanced, hNumber, hResult⟩
  refine ⟨turn, hFrame, hBalanced.leave method, (nextId_leave method client).trans hNumber, ?_⟩
  rw [isBroken_leave]
  rcases hResult with ⟨hBroken, error, rfl, hFatal⟩ | ⟨hUsable, response, hBears, rfl⟩
  · have hFails : Fatal ((.error error : Except ClientError Response).bind method.accept) :=
      ⟨error, rfl, hFatal⟩
    exact ⟨.inl hFails, iff_of_true (.inl hBroken) (.inl hFails)⟩
  · refine ⟨.inr ⟨response, hBears, rfl⟩, or_congr_left (iff_of_false ?_ ?_)⟩
    · exact ne_true_of_eq_false hUsable
    · exact not_fatal_outcome response method

end call

end BeanBridge.Client
