import BeanBridge.Proofs.Client.Method
import BeanBridge.Proofs.Client.Traffic

/-! Recording the traffic of a client changes nothing.  Whoever does not look at the record finds the
dialogue that the client and the other end hold without it. -/

namespace BeanBridge

/-- The dialogue as it looks without the traffic. -/
def Dialogue.unrecorded {π α : Type} :
    Dialogue (Client × Traffic × π) Wait.Reply α → Dialogue (Client × π) Wait.Reply α :=
  Dialogue.seen (fun whole => (whole.1, whole.2.2)) fun part whole => (part.1, whole.2.1, part.2)

namespace Dialogue

variable {π α β : Type} (peer : Peer π)

theorem unrecorded_bind (dialogue : Dialogue (Client × Traffic × π) Wait.Reply α)
    {next : α → Client × Traffic × π → Dialogue (Client × Traffic × π) Wait.Reply β}
    {nextSeen : α → Client × π → Dialogue (Client × π) Wait.Reply β}
    (h : ∀ value whole, (next value whole).unrecorded = nextSeen value (whole.1, whole.2.2)) :
    (dialogue.bind next).unrecorded = dialogue.unrecorded.bind nextSeen :=
  seen_bind dialogue h

theorem unrecorded_within (dialogue : Dialogue (Client × Traffic × π) Wait.Reply α) (limit : Nat) :
    (dialogue.within limit).unrecorded = dialogue.unrecorded.within limit := by
  induction dialogue generalizing limit with
  | done whole value => rfl
  | ask whole wait resume ih =>
    by_cases hLimit : wait.milliseconds < limit
    · rw [within, if_pos hLimit]
      show Dialogue.ask _ _ _ = within limit (Dialogue.ask _ _ _)
      rw [within, if_pos hLimit]
      congr 1
      funext reply part
      exact ih reply _ _
    · rw [within, if_neg hLimit]
      show Dialogue.ask _ _ _ = within limit (Dialogue.ask _ _ _)
      rw [within, if_neg hLimit]
      rfl

theorem unrecorded_servedBy (dialogue : Dialogue Client StreamQuestion.Reply α) (traffic : Traffic)
    (inner : π) :
    (dialogue.servedBy peer.recorded (traffic, inner)).unrecorded = dialogue.servedBy peer inner := by
  induction dialogue generalizing traffic inner with
  | done client value => rfl
  | ask client question resume ih =>
    have hReply (reply : Dialogue π Wait.Reply question.Reply) (client : Client)
        (traffic : Traffic) (inner : π) :
        (((((reply.focus Prod.snd (fun inner whole => (whole.1, inner)) (traffic, inner)).bind
          fun reply whole => .done (whole.1.note question reply, whole.2) reply).focus Prod.snd
            (fun inner whole => (whole.1, inner)) (client, traffic, inner)).bind fun reply whole =>
              (resume reply whole.1).servedBy peer.recorded whole.2).unrecorded :
                Dialogue (Client × π) Wait.Reply α) =
          (reply.focus Prod.snd (fun inner whole => (whole.1, inner)) (client, inner)).bind
            fun reply whole => (resume reply whole.1).servedBy peer whole.2 := by
      induction reply generalizing client traffic inner with
      | done after reply => exact ih reply client _ after
      | ask now wait resume ihReply =>
        simp only [focus, bind, unrecorded, seen]
        congr 1
        funext reply part
        exact ihReply reply part.2 part.1 traffic part.2
    exact hReply (peer question inner) client traffic inner
end Dialogue

namespace Client

variable {π : Type} (peer : Peer π)

theorem unrecorded_exchangeInTime (limit : Option Nat) (frame : RequestFrame) (client : Client)
    (traffic : Traffic) (inner : π) :
    (exchangeInTime peer.recorded limit frame (client, traffic, inner)).unrecorded =
      exchangeInTime peer limit frame (client, inner) := by
  have hServed := (exchange frame client).unrecorded_servedBy peer traffic inner
  cases limit with
  | none => exact hServed
  | some limit =>
    have hTimed := (Dialogue.unrecorded_within ((exchange frame client).servedBy peer.recorded
      (traffic, inner)) limit).trans (congrArg (Dialogue.within limit) hServed)
    refine (Dialogue.unrecorded_bind _ ?_).trans (congrArg (Dialogue.bind _) hTimed)
    rintro (_ | result) whole <;> rfl

theorem unrecorded_call (request : Request) (client : Client) (traffic : Traffic) (inner : π) :
    (call peer.recorded request (client, traffic, inner)).unrecorded =
      call peer request (client, inner) := by
  rw [call, call, Action.get_bind_apply, Action.get_bind_apply]
  by_cases hUsable : client.isBroken = false
  · simp only [hUsable, Bool.false_eq_true, if_false, onClient_bind_apply]
    refine (Dialogue.unrecorded_bind _ ?_).trans (congrArg (Dialogue.bind _)
      (unrecorded_exchangeInTime peer client.responseTimeout ⟨client.nextId, request⟩ client.begin
        traffic inner))
    intro result whole
    rfl
  · simp only [eq_true_of_ne_false hUsable, if_true]
    rfl

/-- Recording the traffic changes nothing about a call. -/
theorem unrecorded_perform (method : Method) (client : Client) (traffic : Traffic) (inner : π) :
    (method.perform peer.recorded (client, traffic, inner)).unrecorded =
      method.perform peer (client, inner) := by
  rw [Method.perform_eq, Method.perform_eq]
  refine (Dialogue.unrecorded_bind _ ?_).trans (congrArg (Dialogue.bind _)
    (unrecorded_call peer (method.request client.callTimeout) client traffic inner))
  intro result whole
  rfl

end Client

end BeanBridge
