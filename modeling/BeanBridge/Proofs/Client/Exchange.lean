import BeanBridge.Proofs.Client.ServerPeer

/-! One exchange of a client with the service.  The request is written piece by piece, the service
takes it as a whole, and the answer is read piece by piece; nothing is left over on either side. -/

namespace BeanBridge.Client

open BeanBridge.Frame

variable {κ : Type} (connector : Connector κ)

/-- Everything unsent is written, whatever the pieces in which the stream takes it. -/
theorem held_flush {pieces : Nat} {client : Client} {peer : ServerPeer κ} (hStop : peer.stop = none)
    (hPieces : client.unsent.size ≤ pieces) :
    ∃ cuts, (flush pieces client).held (ServerPeer.peer connector) ServerPeer.tick peer =
      (.ok (), { client with unsent := .empty },
        { peer with inbox := peer.inbox ++ client.unsent, cuts }) := by
  induction pieces generalizing client peer with
  | zero =>
    have hEmpty : client.unsent = .empty := ByteArray.size_eq_zero_iff.mp (by omega)
    refine ⟨peer.cuts, ?_⟩
    rw [flush, Action.held_pure, hEmpty, ByteArray.append_empty, ← hEmpty]
  | succ pieces ih =>
    by_cases hNone : client.unsent.size = 0
    · have hEmpty : client.unsent = .empty := ByteArray.size_eq_zero_iff.mp hNone
      refine ⟨peer.cuts, ?_⟩
      rw [flush, Action.get_bind_apply, if_pos hNone, Action.held_pure, hEmpty,
        ByteArray.append_empty, ← hEmpty]
    · have hSize := peer.portion_le client.unsent.size
      have hPortion := peer.portion_pos (Nat.pos_of_ne_zero hNone)
      have hMax : max (peer.portion client.unsent.size) 1 = peer.portion client.unsent.size := by
        omega
      rw [flush, Action.get_bind_apply, if_neg hNone,
        Action.held_ask_bind (ServerPeer.run_write connector client.unsent hStop)]
      simp only [Action.modify_bind_apply, hMax]
      let later : Client := { client with
        unsent := client.unsent.extract (peer.portion client.unsent.size) client.unsent.size }
      have hFewer : later.unsent.size ≤ pieces := by
        show (client.unsent.extract _ _).size ≤ pieces
        rw [ByteArray.size_extract]
        omega
      obtain ⟨cuts, hLater⟩ := @ih later { peer with
        inbox := peer.inbox ++ client.unsent.extract 0 (peer.portion client.unsent.size)
        cuts := peer.cuts.tail } hStop hFewer
      refine ⟨cuts, hLater.trans ?_⟩
      rw [ByteArray.append_assoc, extract_append_extract hSize]

/-- An answer that is on its way is read as a whole, whatever the pieces in which it arrives. -/
theorem held_receive {reply : ByteArray} (hFits : reply.size ≤ maxSize) {reads : Nat}
    {client : Client} {peer : ServerPeer κ} (hSound : client.decoder.Sound)
    (hBytes : client.decoder.unread ++ peer.outbox = sent reply)
    (hReads : peer.outbox.size < reads) :
    ∃ cuts, (receive reads client).held (ServerPeer.peer connector) ServerPeer.tick peer =
      (.ok reply, { client with decoder := {} }, { peer with outbox := .empty, cuts }) := by
  induction reads generalizing client peer with
  | zero => omega
  | succ reads ih =>
    rw [← ByteArray.append_empty (b := sent reply)] at hBytes
    by_cases hWhole : (sent reply).size ≤ client.decoder.unread.size
    · obtain ⟨more, hMore, hRest⟩ := exists_append_of_append_eq hBytes hWhole
      obtain ⟨rfl, hOutbox⟩ := eq_empty_of_append_eq_empty hRest
      have hNext := Decoder.next_frame hSound hFits hMore
      refine ⟨peer.cuts, ?_⟩
      rw [receive, Action.get_bind_apply]
      simp only [hNext, Action.modify_bind_apply, Action.held_pure]
      rw [← hOutbox]
    · obtain ⟨decoder, hNext, hDecoder, hSame⟩ :=
        Decoder.next_partial hSound hFits hBytes (Nat.not_le.mp hWhole)
      have hLeft : 0 < peer.outbox.size := by
        have hSize := congrArg ByteArray.size hBytes
        rw [ByteArray.size_append, ByteArray.append_empty] at hSize
        omega
      have hSize := peer.portion_le peer.outbox.size
      have hPortion := peer.portion_pos hLeft
      have hRead := ServerPeer.run_read
        ((ServerPeer.run_next_of_outbox connector hLeft).trans (ServerPeer.run_handOver peer))
      have hChunk : (peer.outbox.extract 0 (peer.portion peer.outbox.size)).size ≠ 0 := by
        rw [ByteArray.size_extract]
        omega
      let later : Client := { client with
        decoder := decoder.push (peer.outbox.extract 0 (peer.portion peer.outbox.size)) }
      let rest : ServerPeer κ := { peer with
        outbox := peer.outbox.extract (peer.portion peer.outbox.size) peer.outbox.size
        cuts := peer.cuts.tail }
      have hLater : later.decoder.unread ++ rest.outbox = sent reply := by
        show (decoder.push _).unread ++ peer.outbox.extract _ _ = sent reply
        rw [Decoder.unread_push, hSame, ByteArray.append_assoc, extract_append_extract hSize, hBytes,
          ByteArray.append_empty]
      have hFewer : rest.outbox.size < reads := by
        show (peer.outbox.extract _ _).size < reads
        rw [ByteArray.size_extract]
        omega
      obtain ⟨cuts, hReceived⟩ := @ih later rest (hDecoder.push _) hLater hFewer
      refine ⟨cuts, ?_⟩
      rw [receive, Action.get_bind_apply]
      simp only [hNext, Action.modify_bind_apply]
      rw [Action.held_ask_bind hRead]
      simp only [if_neg hChunk, Action.modify_bind_apply]
      exact hReceived

/-- Who reads does not learn when an answer was made, only what it is. -/
theorem held_receive_congr {reads : Nat} {client : Client} {peer later : ServerPeer κ}
    (hSettled : client.decoder.Settled)
    (h : (ServerPeer.next connector peer).run ServerPeer.tick =
      (ServerPeer.next connector later).run ServerPeer.tick) :
    (receive (reads + 1) client).held (ServerPeer.peer connector) ServerPeer.tick peer =
      (receive (reads + 1) client).held (ServerPeer.peer connector) ServerPeer.tick later := by
  rcases hLater : (ServerPeer.next connector later).run ServerPeer.tick with ⟨chunk, after⟩
  rw [hLater] at h
  rw [Decoder.Settled] at hSettled
  rw [receive, Action.get_bind_apply]
  simp only [hSettled, Action.modify_bind_apply]
  rw [Action.held_ask_bind (ServerPeer.run_read h), Action.held_ask_bind (ServerPeer.run_read hLater)]

/-- The service, with nothing on its way in either direction. -/
def atRest (handler : Handler κ) (cuts : List Nat) : ServerPeer κ := { server := { handler }, cuts }

/-- The same after it has answered a request: it may have ended. -/
def answered (request : Request) (handler : Handler κ) (cuts : List Nat) : ServerPeer κ :=
  { server := { handler }, cuts
    stop := if Handler.flow request == .stop then some .disconnected else none }

section exchange

variable {frame : RequestFrame} {response : Response} {handler after : Handler κ}
  (hRequest : frame.encode.size ≤ maxSize)
  (hResponse : (ResponseFrame.encode ⟨frame.id, response⟩).size ≤ maxSize)
  (hAnswer : (Handler.answer connector frame.request handler).run Handler.tick = (response, after))
include hRequest hResponse hAnswer

/-- What the service answers is what the handler answers. -/
theorem run_answer_encode (complaint : ByteArray → String) :
    (Server.answer complaint connector frame.encode handler).run Handler.tick =
      ((ResponseFrame.encode ⟨frame.id, response⟩, Handler.flow frame.request), after) := by
  have hDecode : RequestFrame.decode? frame.encode = some frame := by
    have h := RequestFrame.decode?_encode hRequest .empty
    rwa [ByteArray.append_empty] at h
  have hReply : Server.replyPayload ⟨frame.id, response⟩ =
      ResponseFrame.encode ⟨frame.id, response⟩ := by
    rw [Server.replyPayload_eq, Server.told, if_pos hResponse]
  rw [Server.answer_of_some connector hDecode, Action.run_bind hAnswer, Action.run_pure, hReply]

theorem held_receive_atRest {client : Client} (hDecoder : client.decoder = {}) (cuts : List Nat) :
    ∃ rest, (receive enoughReads client).held (ServerPeer.peer connector) ServerPeer.tick
        { atRest handler cuts with inbox := sent frame.encode } =
      (.ok (ResponseFrame.encode ⟨frame.id, response⟩), client,
        answered frame.request after rest) := by
  have hSettled : client.decoder.Settled := hDecoder ▸ Decoder.settled_start
  have hSound : client.decoder.Sound := hDecoder ▸ Decoder.sound_start
  let asked : ServerPeer κ := { atRest handler cuts with inbox := sent frame.encode }
  have hAsked : asked.server.decoder.unread ++ asked.inbox = sent frame.encode :=
    ByteArray.empty_append
  obtain ⟨middle, hNext⟩ := ServerPeer.run_next_of_settled hRequest rfl rfl Decoder.sound_start
    Decoder.settled_start hAsked rfl rfl (run_answer_encode connector hRequest hResponse hAnswer _)
  let ready : ServerPeer κ := { answered frame.request after middle with
    outbox := sent (ResponseFrame.encode ⟨frame.id, response⟩) }
  have hSize := size_sent hResponse
  have hOutbox : 0 < ready.outbox.size := by
    show 0 < (sent _).size
    omega
  have hBytes : client.decoder.unread ++ ready.outbox =
      sent (ResponseFrame.encode ⟨frame.id, response⟩) := by
    rw [hDecoder]
    exact ByteArray.empty_append
  have hReads : ready.outbox.size < enoughReads := by
    show (sent _).size < maxSize + 5
    omega
  obtain ⟨rest, hReceived⟩ := held_receive connector hResponse hSound hBytes hReads
  refine ⟨rest, ?_⟩
  rw [enoughReads, held_receive_congr connector hSettled
    (hNext.trans (ServerPeer.run_next_of_outbox connector hOutbox).symm)]
  refine hReceived.trans ?_
  rw [← hDecoder]
  rfl

/-- A request is answered as the handler answers it, and nothing is left on its way. -/
theorem held_exchange {client : Client} (hDecoder : client.decoder = {})
    (hUnsent : client.unsent = .empty) (cuts : List Nat) :
    ∃ rest, (exchange frame client).held (ServerPeer.peer connector) ServerPeer.tick
        (atRest handler cuts) =
      (.ok ⟨frame.id, response⟩, client, answered frame.request after rest) := by
  have hRoom : (makeRoom client).held (ServerPeer.peer connector) ServerPeer.tick
      (atRest handler cuts) = (.ok (), client, atRest handler cuts) := by
    have hLittle : ¬unsentLimit ≤ client.unsent.size := by
      rw [hUnsent, ByteArray.size_empty]
      decide
    rw [makeRoom, Action.get_bind_apply, if_neg hLittle, Action.held_pure]
  let loaded : Client := { client with unsent := sent frame.encode }
  have hLoaded : client.unsent ++ (header frame.encode.size ++ frame.encode) = loaded.unsent := by
    rw [hUnsent, ByteArray.empty_append, ← sent_eq hRequest]
  obtain ⟨middle, hWritten⟩ : ∃ middle, (flush loaded.unsent.size loaded).held
      (ServerPeer.peer connector) ServerPeer.tick (atRest handler cuts) =
        (.ok (), { loaded with unsent := .empty },
          { atRest handler cuts with inbox := .empty ++ loaded.unsent, cuts := middle }) :=
    held_flush connector rfl (Nat.le_refl _)
  have hSend : (send frame.encode client).held (ServerPeer.peer connector) ServerPeer.tick
      (atRest handler cuts) =
        (.ok (), client, { atRest handler middle with inbox := sent frame.encode }) := by
    rw [send, Action.held_bind hRoom]
    simp only [encode_eq_ok hRequest, Action.modify_bind_apply, Action.get_bind_apply, hLoaded]
    refine hWritten.trans ?_
    rw [ByteArray.empty_append, ← hUnsent]
    rfl
  obtain ⟨rest, hReceived⟩ :=
    held_receive_atRest connector hRequest hResponse hAnswer hDecoder middle
  have hDecode : ResponseFrame.decode? (ResponseFrame.encode ⟨frame.id, response⟩) =
      some ⟨frame.id, response⟩ := by
    have h := ResponseFrame.decode?_encode hResponse .empty
    rwa [ByteArray.append_empty] at h
  refine ⟨rest, ?_⟩
  rw [exchange, Action.held_bind hSend]
  simp only
  rw [Action.held_bind hReceived]
  simp only [hDecode, Action.held_pure]

end exchange

end BeanBridge.Client
