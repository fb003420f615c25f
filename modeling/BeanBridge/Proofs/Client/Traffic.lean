import BeanBridge.Client.Basic
import BeanBridge.Proofs.Dialogue

/-! What passes over the stream of a client, and what holds of it whatever the other end does.  The
traffic is noted beside the other end, where it changes nothing.  A wait ends when the other end
likes, which is then as it likes; only the client and the traffic are as they were. -/

namespace BeanBridge

/-- What has passed over a stream. -/
structure Traffic where
  /-- What the stream has taken. -/
  written : ByteArray := .empty
  /-- What has arrived. -/
  received : ByteArray := .empty

/-- The traffic with what a reply to a question adds to it. -/
def Traffic.note (traffic : Traffic) : (question : StreamQuestion) → question.Reply → Traffic
  | .write bytes, .ok taken =>
    { traffic with written := traffic.written ++ bytes.extract 0 (max taken 1) }
  | .read, .ok chunk => { traffic with received := traffic.received ++ chunk }
  | .write _, .error _ => traffic
  | .read, .error _ => traffic

/-- The other end with the traffic noted beside it, in the moment of each reply. -/
def Peer.recorded {π : Type} (peer : Peer π) : Peer (Traffic × π) := fun question => do
  let reply ← (peer question).focus Prod.snd fun inner whole => (whole.1, inner)
  Action.modify fun whole => (whole.1.note question reply, whole.2)
  return reply

namespace Dialogue

/-- Whatever is replied on the way, `waiting` holds of the client and the traffic at every question,
and `ending` at the end. -/
def Secures {α : Type} (waiting : Client → Traffic → Prop) (ending : α → Client → Traffic → Prop) :
    Dialogue Client StreamQuestion.Reply α → Traffic → Prop
  | done client value, traffic => ending value client traffic
  | ask client question resume, traffic =>
    waiting client traffic ∧
      ∀ reply, (resume reply client).Secures waiting ending (traffic.note question reply)

section Secures

variable {α β : Type} {waiting : Client → Traffic → Prop} {ending : α → Client → Traffic → Prop}

theorem Secures.mono {waiting' : Client → Traffic → Prop} {ending' : α → Client → Traffic → Prop}
    {dialogue : Dialogue Client StreamQuestion.Reply α} {traffic : Traffic}
    (h : dialogue.Secures waiting ending traffic)
    (hWaiting : ∀ client traffic, waiting client traffic → waiting' client traffic)
    (hEnding : ∀ value client traffic, ending value client traffic → ending' value client traffic) :
    dialogue.Secures waiting' ending' traffic := by
  induction dialogue generalizing traffic with
  | done client value => exact hEnding _ _ _ h
  | ask client question resume ih =>
    exact ⟨hWaiting _ _ h.1, fun reply => ih reply client (h.2 reply)⟩

theorem Secures.bind {ending' : β → Client → Traffic → Prop}
    {dialogue : Dialogue Client StreamQuestion.Reply α} {traffic : Traffic}
    {next : α → Client → Dialogue Client StreamQuestion.Reply β}
    (h : dialogue.Secures waiting ending traffic)
    (hNext : ∀ value client traffic, ending value client traffic →
      (next value client).Secures waiting ending' traffic) :
    (dialogue.bind next).Secures waiting ending' traffic := by
  induction dialogue generalizing traffic with
  | done client value => exact hNext _ _ _ h
  | ask client question resume ih => exact ⟨h.1, fun reply => ih reply client (h.2 reply)⟩

end Secures

variable {π α β : Type}

/-- Whatever becomes of the other end at the waits, `waiting` holds of the client and the traffic at
every wait, and `ending` at the end. -/
def Assures (waiting : Client → Traffic → Prop) (ending : α → Client → Traffic → Prop) :
    Dialogue (Client × Traffic × π) Wait.Reply α → Prop
  | done whole value => ending value whole.1 whole.2.1
  | ask whole _ resume =>
    waiting whole.1 whole.2.1 ∧
      ∀ inner, (resume () (whole.1, whole.2.1, inner)).Assures waiting ending

/-- A dialogue can come to this: to a value at its end, or to none when it is abandoned at a wait. -/
inductive Leads : Dialogue (Client × Traffic × π) Wait.Reply α → Option α →
    Client × Traffic × π → Prop
  | done (whole : Client × Traffic × π) (value : α) : Leads (.done whole value) (some value) whole
  | abandoned (whole : Client × Traffic × π) (wait : Wait)
      (resume : Unit → Client × Traffic × π → Dialogue (Client × Traffic × π) Wait.Reply α) :
      Leads (.ask whole wait resume) none whole
  | waited {whole : Client × Traffic × π} (wait : Wait)
      {resume : Unit → Client × Traffic × π → Dialogue (Client × Traffic × π) Wait.Reply α}
      {value : Option α} {after : Client × Traffic × π} (inner : π) :
      Leads (resume () (whole.1, whole.2.1, inner)) value after →
      Leads (.ask whole wait resume) value after

/-- The run is one of the ways in which a dialogue can go. -/
theorem leads_run (tick : Nat → π → π) (dialogue : Dialogue (Client × Traffic × π) Wait.Reply α) :
    dialogue.Leads
      (some (dialogue.run fun time whole => (whole.1, whole.2.1, tick time whole.2.2)).1)
      (dialogue.run fun time whole => (whole.1, whole.2.1, tick time whole.2.2)).2 := by
  induction dialogue with
  | done whole value => exact .done whole value
  | ask whole wait resume ih => exact .waited wait _ (ih () _)

/-- There is something to wait for. -/
def waits : Dialogue (Client × Traffic × π) Wait.Reply α → Bool
  | done .. => false
  | ask .. => true

theorem leads_state {dialogue : Dialogue (Client × Traffic × π) Wait.Reply α}
    (h : dialogue.waits = true) : dialogue.Leads none dialogue.state := by
  cases dialogue with
  | done whole value => nomatch h
  | ask whole wait resume => exact .abandoned whole wait resume

section Assures

variable {waiting : Client → Traffic → Prop} {ending : α → Client → Traffic → Prop}
  {dialogue : Dialogue (Client × Traffic × π) Wait.Reply α}

theorem Assures.bind {ending' : β → Client → Traffic → Prop}
    {next : α → Client × Traffic × π → Dialogue (Client × Traffic × π) Wait.Reply β}
    (h : dialogue.Assures waiting ending)
    (hNext : ∀ value whole, ending value whole.1 whole.2.1 →
      (next value whole).Assures waiting ending') :
    (dialogue.bind next).Assures waiting ending' := by
  induction dialogue with
  | done whole value => exact hNext value whole h
  | ask whole wait resume ih => exact ⟨h.1, fun inner => ih () _ (h.2 inner)⟩

/-- Who gives up leaves what held while it waited. -/
theorem Assures.within (h : dialogue.Assures waiting ending) (limit : Nat) :
    (dialogue.within limit).Assures waiting fun value => value.elim waiting ending := by
  induction dialogue generalizing limit with
  | done whole value => exact h
  | ask whole wait resume ih =>
    rw [Dialogue.within]
    split
    · exact ⟨h.1, fun inner => ih () _ (h.2 inner) _⟩
    · exact ⟨h.1, fun inner => h.1⟩

/-- What is assured holds wherever the dialogue leads. -/
theorem Assures.of_leads {value : Option α} {after : Client × Traffic × π}
    (h : dialogue.Assures waiting ending) (hLeads : dialogue.Leads value after) :
    value.elim waiting ending after.1 after.2.1 := by
  induction hLeads with
  | done whole value => exact h
  | abandoned whole wait resume => exact h.1
  | waited wait inner hLeads ih => exact ih (h.2 inner)

/-- Nothing changes while a reply is waited for, and it is noted in the moment when it comes. -/
theorem assures_recorded {peer : Peer π} {question : StreamQuestion} {client : Client}
    {traffic : Traffic}
    {next : question.Reply → Client × Traffic × π → Dialogue (Client × Traffic × π) Wait.Reply α}
    (hWaiting : waiting client traffic)
    (hNext : ∀ reply inner,
      (next reply (client, traffic.note question reply, inner)).Assures waiting ending) (inner : π) :
    (((peer.recorded question (traffic, inner)).focus Prod.snd (fun inner whole => (whole.1, inner))
      (client, traffic, inner)).bind next).Assures waiting ending := by
  show Assures waiting ending (((((peer question inner).focus Prod.snd
    (fun inner whole => (whole.1, inner)) (traffic, inner)).bind fun reply whole =>
      .done (whole.1.note question reply, whole.2) reply).focus Prod.snd
        (fun inner whole => (whole.1, inner)) (client, traffic, inner)).bind next)
  generalize peer question inner = reply
  -- The induction is on the waits before the reply: each leaves the client and the traffic alone.
  induction reply generalizing inner with
  | done after reply => exact hNext reply after
  | ask now wait resume ih => exact ⟨hWaiting, fun inner => ih () inner inner⟩

/-- What is secured over the stream is assured with any other end. -/
theorem Secures.servedBy {dialogue : Dialogue Client StreamQuestion.Reply α} {traffic : Traffic}
    (h : dialogue.Secures waiting ending traffic) (peer : Peer π) (inner : π) :
    (dialogue.servedBy peer.recorded (traffic, inner)).Assures waiting ending := by
  induction dialogue generalizing traffic inner with
  | done client value => exact h
  | ask client question resume ih =>
    exact assures_recorded h.1 (fun reply inner => ih reply client (h.2 reply) inner) inner

end Assures

end Dialogue

end BeanBridge
