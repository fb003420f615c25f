import BeanBridge.Client.ServerPeer
import BeanBridge.Proofs.Service.Serving

/-! What becomes of one frame at the service.  However the stream carries it, the service takes it as
a whole, has the handler answer it, and writes the answer. -/

namespace BeanBridge

open BeanBridge.Frame

namespace Server

variable {κ α : Type}

theorem run_onHandler (act : Timed (Handler κ) α) (server : Server κ) :
    (onHandler act server).run Server.tick =
      (((act server.handler).run Handler.tick).1,
        { server with handler := ((act server.handler).run Handler.tick).2 }) :=
  Dialogue.run_focus Handler.tick (fun _ _ _ => rfl) (fun _ _ _ _ => rfl) (act server.handler) server

/-- Feeding a chunk to a service that is not shut down is answering what it completes. -/
theorem run_feed (connector : Connector κ) {chunk : ByteArray} {server : Server κ}
    {payloads : List ByteArray} {error : Option StreamError} {decoder : Decoder}
    {replies : List ByteArray} {stop : Option Stop} {handler : Handler κ}
    (hQuota : server.quota = none)
    (hTaken : (server.decoder.push chunk).takeAll = (payloads, error, decoder))
    (hAnswers : (answerAll server.complaint connector none payloads server.handler).run
      Handler.tick = ((replies, stop), handler)) :
    (feed connector chunk server).run Server.tick =
      ((replies, stop.or (error.map .failed)), { server with handler, decoder }) := by
  obtain ⟨current, arrived, complaint, quota⟩ := server
  obtain rfl : quota = none := hQuota
  have hHandler := run_onHandler (answerAll complaint connector none payloads)
    { handler := current, decoder, complaint }
  rw [hAnswers] at hHandler
  simp only [feed, Action.get_bind_apply, hTaken, Action.modify_bind_apply]
  exact (Action.run_bind hHandler).trans (Action.run_pure _ _)

end Server

namespace ServerPeer

variable {κ : Type}

theorem portion_le (size : Nat) (peer : ServerPeer κ) : peer.portion size ≤ size := by
  rw [portion]
  split
  · exact Nat.le_refl size
  · exact Nat.min_le_right _ size

theorem portion_pos {size : Nat} (peer : ServerPeer κ) (h : 0 < size) : 0 < peer.portion size := by
  rw [portion]
  split
  · exact h
  · omega

/-- Work is done as it would be done at once, and none is left. -/
theorem run_work (dialogue : Dialogue (Server κ) Wait.Reply Served) (peer : ServerPeer κ) :
    (work dialogue peer).run tick =
      ((dialogue.run Server.tick).1,
        { peer with server := (dialogue.run Server.tick).2, working := none }) := by
  induction dialogue generalizing peer with
  | done server served => rfl
  | ask server wait resume ih => exact ih () _ _

theorem run_proceed (connector : Connector κ) {peer : ServerPeer κ} {served : Served}
    {server : Server κ} (hIdle : peer.working = none)
    (hFeed : (Server.feed connector (peer.inbox.extract 0 (peer.portion peer.inbox.size))
      peer.server).run Server.tick = (served, server)) :
    (proceed connector peer).run tick =
      (served, { peer with
        server
        inbox := peer.inbox.extract (peer.portion peer.inbox.size) peer.inbox.size
        cuts := peer.cuts.tail }) := by
  simp only [proceed, Action.get_bind_apply, hIdle, Action.modify_bind_apply]
  rw [run_work, hFeed]

section frame

variable {connector : Connector κ} {payload reply : ByteArray} {flow : Flow} {after : Handler κ}

theorem run_answerAll_singleton {complaint : ByteArray → String} {handler : Handler κ}
    (h : (Server.answer complaint connector payload handler).run Handler.tick =
      ((reply, flow), after)) :
    (Server.answerAll complaint connector none [payload] handler).run Handler.tick =
      (([reply], if flow == .stop then some .disconnected else none), after) := by
  rw [Server.answerAll, Action.run_bind h]
  · cases flow <;> rfl
  · rintro ⟨⟩

/-- The service takes a frame of which the rest is on its way, and answers it. -/
theorem run_serve (hFits : payload.size ≤ maxSize) {steps : Nat} {peer : ServerPeer κ}
    (hIdle : peer.working = none) (hQuota : peer.server.quota = none)
    (hSound : peer.server.decoder.Sound) (hSettled : peer.server.decoder.Settled)
    (hBytes : peer.server.decoder.unread ++ peer.inbox = sent payload)
    (hAnswer : (Server.answer peer.server.complaint connector payload
      peer.server.handler).run Handler.tick = ((reply, flow), after))
    (hSteps : peer.inbox.size < steps) :
    ∃ cuts, (serve connector steps peer).run tick =
      (([reply], if flow == .stop then some .disconnected else none),
        { peer with
          server := { peer.server with handler := after, decoder := {} }
          inbox := .empty
          cuts }) := by
  induction steps generalizing peer with
  | zero => omega
  | succ steps ih =>
    have hOne : ∀ bytes ∈ [payload], bytes.size ≤ maxSize := by simpa using hFits
    have hStream : peer.server.decoder.unread ++ peer.inbox = stream [payload] ++ .empty := by
      rw [hBytes, stream_cons, stream_nil, ByteArray.append_empty, ByteArray.append_empty]
    have hLeft : 0 < peer.inbox.size := by
      refine Nat.pos_of_ne_zero fun hEmpty => ?_
      rw [ByteArray.size_eq_zero_iff.mp hEmpty, ByteArray.append_empty] at hStream
      nomatch Decoder.eq_nil_of_settled hOne hSound hSettled hStream
    have hPortion := peer.portion_pos hLeft
    have hSize := peer.portion_le peer.inbox.size
    have hBusy : (peer.working.isNone && decide (peer.inbox.size = 0)) = false := by
      simp [Nat.ne_of_gt hLeft]
    rw [← extract_append_extract hSize, ← ByteArray.append_assoc, ← Decoder.unread_push] at hStream
    obtain ⟨taken, left, decoder, hList, hTaken⟩ :=
      Decoder.takeAll_stream .clean hOne (hSound.push _) hStream
    rcases hTaken with ⟨hTaken, hSettled, hSound, hRest⟩ | ⟨-, hError, -⟩
    · cases taken with
      | nil =>
        obtain rfl : left = [payload] := hList.symm
        have hServed := run_proceed connector hIdle (Server.run_feed connector hQuota hTaken rfl)
        rw [stream_cons, stream_nil, ByteArray.append_empty, ByteArray.append_empty] at hRest
        let later : ServerPeer κ := { peer with
          server := { peer.server with decoder }
          inbox := peer.inbox.extract (peer.portion peer.inbox.size) peer.inbox.size
          cuts := peer.cuts.tail }
        have hFewer : later.inbox.size < steps := by
          show (peer.inbox.extract _ _).size < steps
          rw [ByteArray.size_extract]
          omega
        obtain ⟨cuts, hLater⟩ := @ih later hIdle hQuota hSound hSettled hRest hAnswer hFewer
        refine ⟨cuts, ?_⟩
        rw [serve, Action.get_bind_apply, hBusy, if_neg Bool.false_ne_true, Action.run_bind hServed]
        exact hLater
      | cons first taken =>
        obtain ⟨rfl, hNil⟩ := List.cons.inj hList
        obtain ⟨rfl, rfl⟩ := List.append_eq_nil_iff.mp hNil.symm
        rw [stream_nil, ByteArray.append_empty] at hRest
        obtain ⟨hUnread, hEmpty⟩ := eq_empty_of_append_eq_empty hRest
        obtain rfl := Decoder.unread_eq_empty hUnread
        have hFeed := Server.run_feed connector hQuota hTaken (run_answerAll_singleton hAnswer)
        have hServed := run_proceed connector hIdle hFeed
        refine ⟨peer.cuts.tail, ?_⟩
        rw [serve, Action.get_bind_apply, hBusy, if_neg Bool.false_ne_true, Action.run_bind hServed,
          hEmpty]
        cases flow <;> rfl
    · exact absurd rfl hError

/-- Whoever waits for the answer is handed the first piece of it. -/
theorem run_next_of_settled (hFits : payload.size ≤ maxSize) {peer : ServerPeer κ}
    (hIdle : peer.working = none) (hQuota : peer.server.quota = none)
    (hSound : peer.server.decoder.Sound) (hSettled : peer.server.decoder.Settled)
    (hBytes : peer.server.decoder.unread ++ peer.inbox = sent payload)
    (hOutbox : peer.outbox = .empty) (hStop : peer.stop = none)
    (hAnswer : (Server.answer peer.server.complaint connector payload
      peer.server.handler).run Handler.tick = ((reply, flow), after)) :
    ∃ cuts, (next connector peer).run tick =
      (handOver { peer with
        server := { peer.server with handler := after, decoder := {} }
        inbox := .empty
        outbox := sent reply
        stop := if flow == .stop then some .disconnected else none
        cuts }).run tick := by
  have hWaiting : (decide (peer.outbox.size = 0) && peer.stop.isNone) = true := by
    rw [hOutbox, hStop]
    rfl
  obtain ⟨cuts, hServed⟩ :=
    run_serve hFits hIdle hQuota hSound hSettled hBytes hAnswer
      (show peer.inbox.size < peer.enoughSteps from Nat.lt_add_of_pos_right Nat.two_pos)
  refine ⟨cuts, ?_⟩
  rw [next, Action.get_bind_apply, hWaiting, if_pos rfl, Action.run_bind hServed]
  simp only [List.isEmpty_cons, Bool.false_and, Bool.false_eq_true, if_false,
    Action.modify_bind_apply, deliver, List.foldl_cons, List.foldl_nil, hOutbox,
    ByteArray.empty_append]

end frame

theorem run_handOver (peer : ServerPeer κ) :
    (handOver peer).run tick =
      (peer.outbox.extract 0 (peer.portion peer.outbox.size), { peer with
        outbox := peer.outbox.extract (peer.portion peer.outbox.size) peer.outbox.size
        cuts := peer.cuts.tail }) := rfl

theorem run_next_of_outbox (connector : Connector κ) {peer : ServerPeer κ}
    (h : 0 < peer.outbox.size) :
    (next connector peer).run tick = (handOver peer).run tick := by
  have hReady : (decide (peer.outbox.size = 0) && peer.stop.isNone) = false := by
    simp [Nat.ne_of_gt h]
  rw [next, Action.get_bind_apply, hReady, if_neg Bool.false_ne_true]

/-- The stream takes a piece of what is written. -/
theorem run_write (connector : Connector κ) (bytes : ByteArray) {peer : ServerPeer κ}
    (h : peer.stop = none) :
    (ServerPeer.peer connector (.write bytes) peer).run tick =
      (.ok (peer.portion bytes.size), { peer with
        inbox := peer.inbox ++ bytes.extract 0 (peer.portion bytes.size)
        cuts := peer.cuts.tail }) := by
  have hOpen : peer.stop.isSome = false := by rw [h, Option.isSome_none]
  rw [ServerPeer.peer, take, Action.get_bind_apply, hOpen, if_neg Bool.false_ne_true,
    Action.modify_bind_apply, Action.run_pure]

/-- Whoever reads is handed what arrives next. -/
theorem run_read {connector : Connector κ} {peer after : ServerPeer κ} {chunk : ByteArray}
    (h : (next connector peer).run tick = (chunk, after)) :
    (ServerPeer.peer connector .read peer).run tick = (.ok chunk, after) :=
  Action.run_bind h

end ServerPeer

end BeanBridge
