import BeanBridge.Proofs.Client.Correlation

/-! A client in use, whatever the other end does.  Calls are made one after another, and each may be
abandoned or time out; what arrives later may then be meant for an earlier call.  It is never taken
for the answer to another one, and after a failure for good nothing is written any more. -/

namespace BeanBridge.Client

open BeanBridge.Frame

/-- A call that was made, with the client and the traffic before and after it.  It has no result if it
was abandoned. -/
structure Attempt where
  method : Method
  client : Client
  before : Traffic
  later : Client
  after : Traffic
  result : Option (Except ClientError Response)

/-- No call can be made any more: this one has failed for good, or it has closed the session. -/
def Attempt.Ends (attempt : Attempt) : Prop :=
  ∃ result, attempt.result = some result ∧ (Fatal result ∨ attempt.method = .disconnect)

/-- The call has added this request, which is its own, to what is to be written, and has taken this
payload from what has arrived.  Unless it has failed for good, its result is what the method makes of
the response that the payload holds under the number of the request. -/
structure Attempt.Matches (attempt : Attempt) (turn : Turn) : Prop where
  request : ∀ frame ∈ turn.request,
    frame.request = attempt.method.request attempt.client.callTimeout
  added : attempt.after.written ++ attempt.later.unsent = attempt.before.written ++
    attempt.client.unsent ++ stream (turn.request.toList.map RequestFrame.encode)
  taken : ∃ earlier, attempt.before.received = earlier ++ attempt.client.decoder.unread ∧
    attempt.after.received = earlier ++ stream turn.reply.toList ++ attempt.later.decoder.unread
  result : ∀ result, attempt.result = some result → Fatal result ∨
    ∃ response, turn.Bears response ∧ result = (outcome response).bind attempt.method.accept

section Use

variable {π : Type}

/-- The use of a client: the calls so far, and what the client, the traffic and the other end have
become.  Between the calls timeouts can be set, and the other end does what it likes. -/
inductive Use (peer : Peer π) : List Attempt → Client × Traffic × π → Prop
  | start (inner : π) : Use peer [] ({}, {}, inner)
  | pause {attempts : List Attempt} {whole : Client × Traffic × π} (callTimeout : Option Int64)
      (responseTimeout : Option Nat) (inner : π) : Use peer attempts whole →
      Use peer attempts ({ whole.1 with callTimeout, responseTimeout }, whole.2.1, inner)
  | call {attempts : List Attempt} {whole after : Client × Traffic × π} (method : Method)
      {result : Option (Except ClientError Response)} : Use peer attempts whole →
      (method.perform peer.recorded whole).Leads result after →
      Use peer (attempts ++ [⟨method, whole.1, whole.2.1, after.1, after.2.1, result⟩]) after

end Use

/-- The requests that calls have sent. -/
def requestsIn (history : List (Attempt × Turn)) : List RequestFrame :=
  history.filterMap fun entry => entry.2.request

/-- The payloads that calls have taken. -/
def repliesIn (history : List (Attempt × Turn)) : List ByteArray :=
  history.filterMap fun entry => entry.2.reply

theorem requestsIn_append (history : List (Attempt × Turn)) (entry : Attempt × Turn) :
    requestsIn (history ++ [entry]) = requestsIn history ++ entry.2.request.toList := by
  rw [requestsIn, requestsIn, List.filterMap_append]
  cases hRequest : entry.2.request <;> simp [hRequest]

theorem repliesIn_append (history : List (Attempt × Turn)) (entry : Attempt × Turn) :
    repliesIn (history ++ [entry]) = repliesIn history ++ entry.2.reply.toList := by
  rw [repliesIn, repliesIn, List.filterMap_append]
  cases hReply : entry.2.reply <;> simp [hReply]

/-- The books of a client in use.  While it can be used, no call has ended its use and its next number
is one more than the calls that were made. -/
structure Books (history : List (Attempt × Turn)) (client : Client) (traffic : Traffic) : Prop where
  balanced : Balanced (requestsIn history) (repliesIn history) client traffic
  matched : ∀ entry ∈ history, entry.1.Matches entry.2
  increasing : (requestsIn history).Pairwise fun earlier later => earlier.id < later.id
  bounded : ∀ frame ∈ requestsIn history, frame.id.toNat ≤ history.length
  first : ∀ frame ∈ (requestsIn history).head?, frame.id = 1
  started : requestsIn history = [] → client.isBroken = false → history = []
  number : client.isBroken = false → client.nextId = .ofNat (history.length + 1)
  usable : client.isBroken = false → ∀ entry ∈ history, ¬entry.1.Ends
  ended : (history.map Prod.fst).Pairwise fun earlier later => earlier.Ends →
    later.result = some (.error .closed) ∧ later.after = later.before

section Books

variable {history : List (Attempt × Turn)} {client : Client} {traffic : Traffic}

theorem Books.toNat_nextId (h : Books history client traffic) (hUsable : client.isBroken = false)
    (hFew : history.length + 1 < 2 ^ 64) : client.nextId.toNat = history.length + 1 := by
  rw [h.number hUsable]
  exact UInt64.toNat_ofNat_of_lt' hFew

theorem Books.start : Books [] {} {} where
  balanced := ⟨rfl, rfl, Decoder.sound_start, List.forall_mem_nil _, List.forall_mem_nil _⟩
  matched := List.forall_mem_nil _
  increasing := .nil
  bounded := List.forall_mem_nil _
  first := nofun
  started := fun _ _ => rfl
  number := fun _ => rfl
  usable := fun _ => List.forall_mem_nil _
  ended := .nil

/-- A call of a usable client adds its request, under the next number, and what it took. -/
theorem Books.add (h : Books history client traffic) (hUsable : client.isBroken = false)
    (hFew : history.length + 1 < 2 ^ 64) {method : Method} {later : Client} {after : Traffic}
    {result : Option (Except ClientError Response)} {turn : Turn}
    (hFrame : ∀ sent ∈ turn.request, sent = ⟨client.nextId, method.request client.callTimeout⟩)
    (hResult : ∀ found, result = some found → Fatal found ∨
      ∃ response, turn.Bears response ∧ found = (outcome response).bind method.accept)
    (hBalanced : Balanced (requestsIn history ++ turn.request.toList)
      (repliesIn history ++ turn.reply.toList) later after)
    (hNumber : later.nextId = client.begin.nextId)
    (hEnds : Attempt.Ends ⟨method, client, traffic, later, after, result⟩ → later.isBroken = true)
    (hStarted : turn.request = none → requestsIn history = [] → later.isBroken = true) :
    Books (history ++ [(⟨method, client, traffic, later, after, result⟩, turn)]) later after := by
  have hMatches : Attempt.Matches ⟨method, client, traffic, later, after, result⟩ turn := by
    refine ⟨fun sent hSent => congrArg RequestFrame.request (hFrame sent hSent), ?_,
      ⟨stream (repliesIn history), h.balanced.received, ?_⟩, hResult⟩
    · rw [hBalanced.written, h.balanced.written, List.map_append, stream_append]
    · rw [hBalanced.received, stream_append]
  have hId : ∀ sent ∈ turn.request, sent.id = client.nextId :=
    fun sent hSent => congrArg RequestFrame.id (hFrame sent hSent)
  have hNext := h.toNat_nextId hUsable hFew
  have hHigh {sent frame : RequestFrame} (hSent : sent ∈ turn.request)
      (hFrame : frame ∈ requestsIn history) : frame.id < sent.id := by
    have hLow := h.bounded frame hFrame
    rw [hId sent hSent, UInt64.lt_iff_toNat_lt]
    omega
  constructor
  case balanced => rwa [requestsIn_append, repliesIn_append]
  case matched =>
    exact List.forall_mem_append.mpr ⟨h.matched, List.forall_mem_singleton.mpr hMatches⟩
  case increasing =>
    rw [requestsIn_append]
    refine List.pairwise_append.mpr ⟨h.increasing, ?_, ?_⟩
    · cases turn.request <;> simp
    · intro frame hFrame sent hSent
      exact hHigh (Option.mem_toList.mp hSent) hFrame
  case bounded =>
    rw [requestsIn_append, List.length_append]
    refine List.forall_mem_append.mpr ⟨fun frame hFrame => ?_, fun sent hSent => ?_⟩
    · exact (h.bounded frame hFrame).trans (Nat.le_add_right _ _)
    · rw [hId sent (Option.mem_toList.mp hSent), hNext]
      rfl
  case first =>
    rw [requestsIn_append]
    cases hEarlier : requestsIn history with
    | nil =>
      -- A usable client without requests has made no calls, so this number is the first.
      obtain rfl := h.started hEarlier hUsable
      intro sent hSent
      rw [List.nil_append, Option.head?_toList] at hSent
      exact (hId sent hSent).trans (h.number hUsable)
    | cons frame frames =>
      have hFirst := h.first
      rwa [hEarlier] at hFirst
  case started =>
    intro hNone hLater
    rw [requestsIn_append] at hNone
    obtain ⟨hEarlier, hTurn⟩ := List.append_eq_nil_iff.mp hNone
    have hBroken := hStarted (Option.toList_eq_nil_iff.mp hTurn) hEarlier
    rw [hBroken] at hLater
    nomatch hLater
  case number =>
    intro _
    rw [hNumber, List.length_append, UInt64.ofNat_add]
    exact congrArg (· + 1) (h.number hUsable)
  case usable =>
    intro hLater
    refine List.forall_mem_append.mpr ⟨h.usable hUsable, List.forall_mem_singleton.mpr fun hEnd => ?_⟩
    rw [hEnds hEnd] at hLater
    nomatch hLater
  case ended =>
    rw [List.map_append]
    refine List.pairwise_append.mpr ⟨h.ended, List.pairwise_singleton _ _, ?_⟩
    intro earlier hEarlier
    obtain ⟨entry, hEntry, rfl⟩ := List.mem_map.mp hEarlier
    exact fun _ _ hEnd => absurd hEnd (h.usable hUsable entry hEntry)

/-- A call of a client that cannot be used adds nothing. -/
theorem Books.refuse (h : Books history client traffic) (hBroken : client.isBroken = true)
    (method : Method) :
    Books (history ++ [(⟨method, client, traffic, method.leave client, traffic,
      some (.error .closed)⟩, ⟨none, none⟩)]) (method.leave client) traffic := by
  have hLater : (method.leave client).isBroken = true :=
    (isBroken_leave method client).mpr (.inl hBroken)
  have hNever {P : Prop} (hUsable : (method.leave client).isBroken = false) : P := by
    rw [hLater] at hUsable
    nomatch hUsable
  let entry : Attempt × Turn :=
    (⟨method, client, traffic, method.leave client, traffic, some (.error .closed)⟩, ⟨none, none⟩)
  have hRequests : requestsIn (history ++ [entry]) = requestsIn history :=
    (requestsIn_append history entry).trans (List.append_nil _)
  have hReplies : repliesIn (history ++ [entry]) = repliesIn history :=
    (repliesIn_append history entry).trans (List.append_nil _)
  constructor
  case balanced =>
    rw [hRequests, hReplies]
    exact h.balanced.leave method
  case matched =>
    have hSame := h.balanced.leave method
    refine List.forall_mem_append.mpr ⟨h.matched, List.forall_mem_singleton.mpr ⟨?_, ?_, ?_, ?_⟩⟩
    · rintro frame ⟨⟩
    · show traffic.written ++ (method.leave client).unsent =
        traffic.written ++ client.unsent ++ .empty
      rw [hSame.written, h.balanced.written, ByteArray.append_empty]
    · refine ⟨stream (repliesIn history), h.balanced.received, ?_⟩
      show traffic.received =
        stream (repliesIn history) ++ .empty ++ (method.leave client).decoder.unread
      rw [hSame.received, ByteArray.append_empty]
    · rintro result ⟨⟩
      exact .inl ⟨.closed, rfl, rfl⟩
  case increasing =>
    rw [hRequests]
    exact h.increasing
  case bounded =>
    rw [hRequests, List.length_append]
    exact fun frame hFrame => (h.bounded frame hFrame).trans (Nat.le_add_right _ _)
  case first =>
    rw [hRequests]
    exact h.first
  case started => exact fun _ hUsable => hNever hUsable
  case number => exact fun hUsable => hNever hUsable
  case usable => exact fun hUsable => hNever hUsable
  case ended =>
    rw [List.map_append]
    refine List.pairwise_append.mpr ⟨h.ended, List.pairwise_singleton _ _, ?_⟩
    intro earlier _ later hLater _
    obtain rfl := List.mem_singleton.mp hLater
    exact ⟨rfl, rfl⟩

/-- A call that is abandoned has sent its request or nothing, and has taken nothing. -/
theorem Books.abandon (h : Books history client traffic) (hUsable : client.isBroken = false)
    (hFew : history.length + 1 < 2 ^ 64) {method : Method} {later : Client} {after : Traffic}
    (hWaiting : Waiting client.begin.nextId (requestsIn history) (repliesIn history)
      ⟨client.nextId, method.request client.callTimeout⟩ later after) :
    ∃ turn, Books (history ++ [(⟨method, client, traffic, later, after, none⟩, turn)]) later
      after := by
  rcases hWaiting with ⟨hEarlier, hUnderway⟩ | hUnderway
  · refine ⟨⟨none, none⟩, h.add hUsable hFew nofun nofun ?_ hUnderway.number ?_ ?_⟩
    · rw [Option.toList_none, Option.toList_none, List.append_nil, List.append_nil]
      exact hUnderway.toBalanced
    · nofun
    · exact fun _ hNone => absurd hNone hEarlier
  · have hFrame : ∀ sent ∈ some (⟨client.nextId, method.request client.callTimeout⟩ : RequestFrame),
        sent = ⟨client.nextId, method.request client.callTimeout⟩ := by
      rintro sent ⟨⟩
      rfl
    refine ⟨⟨some _, none⟩, h.add hUsable hFew hFrame nofun ?_ hUnderway.number ?_ ?_⟩
    · rw [Option.toList_none, List.append_nil]
      exact hUnderway.toBalanced
    · nofun
    · nofun

/-- A call that returns has failed for good, or it is answered. -/
theorem Books.return (h : Books history client traffic) (hUsable : client.isBroken = false)
    (hFew : history.length + 1 < 2 ^ 64) {method : Method} {result : Except ClientError Response}
    {later : Client} {after : Traffic}
    (hPerformed : Performed client.begin.nextId (requestsIn history) (repliesIn history)
      ⟨client.nextId, method.request client.callTimeout⟩ method result later after) :
    ∃ turn, Books (history ++ [(⟨method, client, traffic, later, after, some result⟩, turn)]) later
      after := by
  obtain ⟨turn, hFrame, hBalanced, hNumber, hResult, hBroken⟩ := hPerformed
  refine ⟨turn, h.add hUsable hFew hFrame ?_ hBalanced hNumber ?_ ?_⟩
  · rintro found ⟨⟩
    exact hResult
  · rintro ⟨found, ⟨⟩, hEnds⟩
    exact hBroken.mpr hEnds
  · intro hNone _
    rcases hResult with hFatal | ⟨response, ⟨frame, payload, hSome, -⟩, -⟩
    · exact hBroken.mpr (.inl hFatal)
    · rw [hNone] at hSome
      nomatch hSome

end Books

/-- The use of a client keeps its books. -/
theorem exists_books {π : Type} {peer : Peer π} {attempts : List Attempt}
    {whole : Client × Traffic × π} (h : Use peer attempts whole) (hFew : attempts.length < 2 ^ 64) :
    ∃ history, history.map Prod.fst = attempts ∧ Books history whole.1 whole.2.1 := by
  induction h with
  | start inner => exact ⟨[], rfl, Books.start⟩
  | pause callTimeout responseTimeout inner h ih =>
    obtain ⟨history, hAttempts, hBooks⟩ := ih hFew
    exact ⟨history, hAttempts, { hBooks with balanced := { hBooks.balanced with } }⟩
  | @call attempts whole after method result h hLeads ih =>
    rw [List.length_append] at hFew
    obtain ⟨history, rfl, hBooks⟩ := ih (Nat.lt_of_succ_lt hFew)
    rw [List.length_map] at hFew
    obtain ⟨client, traffic, inner⟩ := whole
    have hSnoc (attempt : Attempt) (turn : Turn) :
        (history ++ [(attempt, turn)]).map Prod.fst = history.map Prod.fst ++ [attempt] :=
      List.map_append
    by_cases hUsable : client.isBroken = false
    · have hAssured := (assures_perform peer hBooks.balanced hUsable method inner).of_leads hLeads
      cases result with
      | none =>
        obtain ⟨turn, hLater⟩ := hBooks.abandon hUsable hFew hAssured
        exact ⟨_, hSnoc _ turn, hLater⟩
      | some result =>
        obtain ⟨turn, hLater⟩ := hBooks.return hUsable hFew hAssured
        exact ⟨_, hSnoc _ turn, hLater⟩
    · have hBroken : client.isBroken = true := eq_true_of_ne_false hUsable
      rw [Method.perform_of_isBroken peer.recorded hBroken] at hLeads
      cases hLeads
      exact ⟨_, hSnoc _ _, hBooks.refuse hBroken method⟩

/-- No reply is taken for the answer to another call.  Whatever the other end does, and whichever
calls time out or are abandoned, the requests that are written bear numbers that increase from 1; a
call that returns has failed for good, or its result comes from a payload that bears the number of
its own request; every payload is taken by one call at most, in the order in which they arrive; and
after a failure for good, or when the session was closed, calls are refused and nothing passes over
the stream. -/
theorem replies_attributed {π : Type} {peer : Peer π} {attempts : List Attempt}
    {whole : Client × Traffic × π} (hUse : Use peer attempts whole)
    (hFew : attempts.length < 2 ^ 64) :
    ∃ history : List (Attempt × Turn), history.map Prod.fst = attempts ∧
      Balanced (requestsIn history) (repliesIn history) whole.1 whole.2.1 ∧
      ((requestsIn history).Pairwise fun earlier later => earlier.id < later.id) ∧
      (∀ frame ∈ (requestsIn history).head?, frame.id = 1) ∧
      (∀ entry ∈ history, entry.1.Matches entry.2) ∧
      attempts.Pairwise fun earlier later => earlier.Ends →
        later.result = some (.error .closed) ∧ later.after = later.before := by
  obtain ⟨history, rfl, hBooks⟩ := exists_books hUse hFew
  exact ⟨history, rfl, hBooks.balanced, hBooks.increasing, hBooks.first, hBooks.matched, hBooks.ended⟩

/-- A peer that takes everything and sends these pieces, each a while after it is asked for one. -/
def latePeer : Peer (List ByteArray)
  | .write bytes => return .ok bytes.size
  | .read => do
    Timed.pause 5
    let pieces ← Action.get
    Action.modify List.tail
    return .ok (pieces.headD .empty)

/-- A call is abandoned, and its answer comes when the next one waits for another. -/
theorem replies_attributed_late_answer :
    ∃ attempts whole, Use latePeer attempts whole ∧
      attempts.map Attempt.result =
        [none, some (.error (.idMismatch 2 1)), some (.error .closed)] ∧
      ∃ history : List (Attempt × Turn), history.map Prod.fst = attempts ∧
        Balanced (requestsIn history) (repliesIn history) whole.1 whole.2.1 ∧
        ((requestsIn history).Pairwise fun earlier later => earlier.id < later.id) ∧
        (∀ frame ∈ (requestsIn history).head?, frame.id = 1) ∧
        (∀ entry ∈ history, entry.1.Matches entry.2) ∧
        attempts.Pairwise fun earlier later => earlier.Ends →
          later.result = some (.error .closed) ∧ later.after = later.before := by
  let first := Method.ping.perform latePeer.recorded
    ({}, {}, [sent (ResponseFrame.encode ⟨1, .pong⟩)])
  let second := Method.ping.perform latePeer.recorded first.state
  let still (_ : Nat) (whole : Client × Traffic × List ByteArray) := (whole.1, whole.2.1, whole.2.2)
  let third := Method.version.perform latePeer.recorded (second.run still).2
  have hWaits : first.waits = true := by decide +kernel
  have hSecond : (second.run still).1 = .error (.idMismatch 2 1) := by decide +kernel
  have hThird : (third.run still).1 = .error .closed := by decide +kernel
  have hUse := (((Use.start _).call .ping (Dialogue.leads_state hWaits)).call .ping
    (Dialogue.leads_run (fun _ => id) second)).call .version
      (Dialogue.leads_run (fun _ => id) third)
  refine ⟨_, _, hUse, ?_, replies_attributed hUse (by decide)⟩
  show [none, some (second.run still).1, some (third.run still).1] = _
  rw [hSecond, hThird]

end BeanBridge.Client
