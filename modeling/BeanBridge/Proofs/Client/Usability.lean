import BeanBridge.Client.Walk
import BeanBridge.Proofs.Client.Attribution
import BeanBridge.Proofs.Client.Refinement
import BeanBridge.Proofs.Dialogue.Terms

/-! What a failure tells of the client.  Whatever the other end does, a method fails for good exactly
if no call can be made after it, and then none can be made ever after. -/

namespace BeanBridge

/-- An answer was taken: it reports the failure, or it is of the wrong kind. -/
def ClientError.isAnswered : ClientError → Bool
  | connection _ | jmx .. | rejected _ | unexpectedResponse .. => true
  | _ => false

theorem ClientError.not_isFatal {error : ClientError} (h : error.isAnswered = true) :
    error.isFatal = false := by
  cases error <;> first | rfl | nomatch h

namespace Client

variable {π : Type}

/-- Whatever is asked is answered somehow, and the client is not touched until then. -/
def anyReply (waiting : Client → Prop) : Terms Client StreamQuestion.Reply Unit where
  admits _ client _ := waiting client
  drifts before after := after = before
  answers _ _ _ _ := True

def resting (π : Type) (waiting : Client → Prop) : Terms (Client × π) Wait.Reply Unit where
  admits _ whole _ := waiting whole.1
  drifts before after := after.1 = before.1
  answers _ _ _ _ := True

end Client

namespace Dialogue

open Client

variable {π α β : Type} {waiting : Client → Prop} {ending : α → Client → Prop}

/-- Whatever the stream replies, `waiting` holds of the client at every question, and `ending` at the
end. -/
def Settles (waiting : Client → Prop) (ending : α → Client → Prop)
    (dialogue : Dialogue Client StreamQuestion.Reply α) : Prop :=
  dialogue.Upholds (anyReply waiting) (fun value client _ => ending value client) ()

/-- The same of a dialogue that takes its time, whatever becomes of the other end at the waits. -/
def Rests (waiting : Client → Prop) (ending : α → Client → Prop)
    (dialogue : Dialogue (Client × π) Wait.Reply α) : Prop :=
  dialogue.Upholds (resting π waiting) (fun value whole _ => ending value whole.1) ()

theorem Settles.bind {ending' : β → Client → Prop} {dialogue : Dialogue Client StreamQuestion.Reply α}
    {next : α → Client → Dialogue Client StreamQuestion.Reply β} (h : dialogue.Settles waiting ending)
    (hNext : ∀ value client, ending value client → (next value client).Settles waiting ending') :
    (dialogue.bind next).Settles waiting ending' := by
  apply Upholds.bind h
  intro value client _
  exact hNext value client

theorem settles_ask {client : Client} {question : StreamQuestion}
    {resume : question.Reply → Client → Dialogue Client StreamQuestion.Reply α}
    (hWaiting : waiting client) (h : ∀ reply, (resume reply client).Settles waiting ending) :
    (ask client question resume).Settles waiting ending := by
  constructor
  · exact hWaiting
  · rintro reply later next rfl -
    exact h reply

section Rests

variable {dialogue : Dialogue (Client × π) Wait.Reply α}

theorem Rests.bind {ending' : β → Client → Prop}
    {next : α → Client × π → Dialogue (Client × π) Wait.Reply β} (h : dialogue.Rests waiting ending)
    (hNext : ∀ value whole, ending value whole.1 → (next value whole).Rests waiting ending') :
    (dialogue.bind next).Rests waiting ending' := by
  apply Upholds.bind h
  intro value whole _
  exact hNext value whole

theorem Rests.run (h : dialogue.Rests waiting ending) (tick : Nat → π → π) :
    ending (dialogue.run (passing tick)).1 (dialogue.run (passing tick)).2.1 := by
  have hUpholds : dialogue.Upholds (resting π waiting) (fun value whole _ => ending value whole.1) () :=
    h
  apply hUpholds.run
  · intro milliseconds whole
    rfl
  · intro wait other
    trivial

/-- Who gives up leaves the client as it waited. -/
theorem Rests.within (h : dialogue.Rests waiting ending) (limit : Nat) :
    (dialogue.within limit).Rests waiting
      fun value client => value.elim (waiting client) fun found => ending found client := by
  induction dialogue generalizing limit with
  | done whole value => exact h
  | ask whole wait resume ih =>
    rw [Dialogue.within]
    split
    · refine ⟨h.1, fun reply later next hDrifts hAnswers => ?_⟩
      exact ih reply later (h.2 reply later next hDrifts hAnswers) _
    · refine ⟨h.1, fun reply later next hDrifts hAnswers => ?_⟩
      have hSame : later.1 = whole.1 := hDrifts
      show waiting later.1
      rw [hSame]
      exact h.1

/-- The other end takes its time for a reply, and meanwhile the client waits. -/
theorem Settles.servedBy {dialogue : Dialogue Client StreamQuestion.Reply α}
    (h : dialogue.Settles waiting ending) (peer : Peer π) (inner : π) :
    (dialogue.servedBy peer inner).Rests waiting ending := by
  induction dialogue generalizing inner with
  | done client value => exact h
  | ask client question resume ih =>
    rw [Dialogue.servedBy]
    -- The other end answers on its own; the client it finds at the end is the one that asked.
    have hReply : ((peer question inner).focus Prod.snd (fun inner whole => (whole.1, inner))
        (client, inner)).Rests waiting fun _ after => after = client := by
      suffices hAny : ∀ (reply : Dialogue π Wait.Reply question.Reply) (whole : Client × π),
          whole.1 = client → (reply.focus Prod.snd (fun inner whole => (whole.1, inner))
            whole).Rests waiting fun _ after => after = client from hAny _ _ rfl
      intro reply
      induction reply with
      | done after reply => exact fun whole hWhole => hWhole
      | ask now wait resume ihReply =>
        intro whole hWhole
        constructor
        · show waiting whole.1
          rw [hWhole]
          exact h.1
        · intro reply later next hDrifts hAnswers
          exact ihReply reply later.2 later (hDrifts.trans hWhole)
    apply hReply.bind
    rintro reply ⟨after, inner⟩ rfl
    exact ih reply after (h.2 reply after () rfl trivial) inner

end Rests

end Dialogue

namespace Client

open BeanBridge.Frame

variable {π α : Type}

/-! ### Over the stream -/

section stream

variable {broken : Bool} {client : Client}

/-- The exchange changes nothing about whether calls can be made, and fails only for good. -/
def Fails (broken : Bool) (result : Except ClientError α) (client : Client) : Prop :=
  FatalOnly result ∧ client.isBroken = broken

theorem settles_flush (h : client.isBroken = broken) (pieces : Nat) :
    (flush pieces client).Settles (·.isBroken = broken) (Fails broken) := by
  induction pieces generalizing client with
  | zero => exact ⟨fatalOnly_ok (), h⟩
  | succ pieces ih =>
    rw [flush, Action.get_bind_apply]
    by_cases hNone : client.unsent.size = 0
    · rw [if_pos hNone]
      exact ⟨fatalOnly_ok (), h⟩
    · rw [if_neg hNone]
      apply Dialogue.settles_ask h
      intro reply
      cases reply with
      | error error => exact ⟨fatalOnly_error rfl, h⟩
      | ok taken =>
        apply ih
        exact h

theorem settles_makeRoom (h : client.isBroken = broken) :
    (makeRoom client).Settles (·.isBroken = broken) (Fails broken) := by
  rw [makeRoom, Action.get_bind_apply]
  split
  · exact settles_flush h _
  · exact ⟨fatalOnly_ok (), h⟩

theorem settles_send (h : client.isBroken = broken) (payload : ByteArray) :
    (send payload client).Settles (·.isBroken = broken) (Fails broken) := by
  apply (settles_makeRoom h).bind
  rintro (error | _) client ⟨hFatal, hBroken⟩
  · exact ⟨fatalOnly_error (hFatal error rfl), hBroken⟩
  · cases Frame.encode payload with
    | error error => exact ⟨fatalOnly_error rfl, hBroken⟩
    | ok frame =>
      apply settles_flush
      exact hBroken

theorem settles_receive (h : client.isBroken = broken) (reads : Nat) :
    (receive reads client).Settles (·.isBroken = broken) (Fails broken) := by
  induction reads generalizing client with
  | zero => exact ⟨fatalOnly_error rfl, h⟩
  | succ reads ih =>
    rw [receive, Action.get_bind_apply]
    rcases client.decoder.next with ⟨offer, decoder⟩
    cases offer with
    | payload payload => exact ⟨fatalOnly_ok payload, h⟩
    | failed error => exact ⟨fatalOnly_error rfl, h⟩
    | incomplete =>
      simp only [Action.modify_bind_apply, Action.ask_bind_apply]
      apply Dialogue.settles_ask h
      intro reply
      cases reply with
      | error error => exact ⟨fatalOnly_error rfl, h⟩
      | ok chunk =>
        by_cases hEnd : chunk.size = 0
        · simp only [if_pos hEnd, Action.get_bind_apply, Action.modify_bind_apply]
          rcases decoder.finish with ⟨_ | payload | _ | error, after⟩
          · exact ⟨fatalOnly_error rfl, h⟩
          · exact ⟨fatalOnly_ok payload, h⟩
          · exact ⟨fatalOnly_error rfl, h⟩
          · exact ⟨fatalOnly_error rfl, h⟩
        · simp only [if_neg hEnd]
          apply ih
          exact h

theorem settles_exchange (h : client.isBroken = broken) (frame : RequestFrame) :
    (exchange frame client).Settles (·.isBroken = broken) (Fails broken) := by
  apply (settles_send h frame.encode).bind
  rintro (error | _) client ⟨hFatal, hBroken⟩
  · exact ⟨fatalOnly_error (hFatal error rfl), hBroken⟩
  · apply (settles_receive hBroken enoughReads).bind
    rintro (error | payload) client ⟨hFatal, hBroken⟩
    · exact ⟨fatalOnly_error (hFatal error rfl), hBroken⟩
    · dsimp only
      cases ResponseFrame.decode? payload with
      | none => exact ⟨fatalOnly_error rfl, hBroken⟩
      | some frame => exact ⟨fatalOnly_ok frame, hBroken⟩

theorem rests_exchangeInTime (h : client.isBroken = broken) (peer : Peer π) (limit : Option Nat)
    (frame : RequestFrame) (inner : π) :
    (exchangeInTime peer limit frame (client, inner)).Rests (·.isBroken = broken)
      (Fails broken) := by
  have hServed := (settles_exchange h frame).servedBy peer inner
  cases limit with
  | none => exact hServed
  | some limit =>
    apply (hServed.within limit).bind
    rintro (_ | result) whole hEnding
    · exact ⟨fatalOnly_error rfl, hEnding⟩
    · exact hEnding

end stream

/-! ### Calls -/

/-- What a result tells of the client.  It is a failure for good exactly if no call can be made any
more; any other failure was told by an answer, which leaves the client usable as a success does. -/
structure Candid (result : Except ClientError α) (client : Client) : Prop where
  fatal : Fatal result ↔ client.isUsable = false
  usable : (∀ error, result = .error error → error.isAnswered = true) → client.isUsable = true
  told : ∀ error, result = .error error → error.isFatal = true ∨ error.isAnswered = true

theorem candid_ok {client : Client} (h : client.isBroken = false) (value : α) :
    Candid (.ok value) client := by
  constructor
  · simp [Fatal, isUsable, h]
  · simp [isUsable, h]
  · nofun

theorem candid_answered {client : Client} (h : client.isBroken = false) {error : ClientError}
    (hAnswered : error.isAnswered = true) : Candid (.error error : Except ClientError α) client := by
  constructor
  · simp [Fatal, isUsable, h, ClientError.not_isFatal hAnswered]
  · simp [isUsable, h]
  · simp [hAnswered]

theorem candid_fatal {client : Client} (h : client.isBroken = true) {error : ClientError}
    (hFatal : error.isFatal = true) : Candid (.error error : Except ClientError α) client := by
  constructor
  · simp [Fatal, isUsable, h, hFatal]
  · intro hAnswered
    rw [ClientError.not_isFatal (hAnswered error rfl)] at hFatal
    nomatch hFatal
  · simp [hFatal]

theorem Candid.isBroken_of_ok {value : α} {client : Client} (h : Candid (.ok value) client) :
    client.isBroken = false := by
  have hUsable := h.usable nofun
  simpa [isUsable] using hUsable

theorem Candid.isBroken_of_answered {error : ClientError} {client : Client}
    (h : Candid (.error error : Except ClientError α) client) (hAnswered : error.isAnswered = true) :
    client.isBroken = false := by
  have hUsable := h.usable (by simp [hAnswered])
  simpa [isUsable] using hUsable

theorem Candid.error {β : Type} {error : ClientError} {client : Client}
    (h : Candid (.error error : Except ClientError α) client) :
    Candid (.error error : Except ClientError β) client := by
  constructor
  · simpa [Fatal] using h.fatal
  · simpa using h.usable
  · simpa using h.told

theorem Candid.map {β : Type} {result : Except ClientError α} {client : Client}
    (h : Candid result client) (change : α → β) : Candid (result.map change) client := by
  cases result with
  | error error => exact h.error
  | ok value => exact candid_ok h.isBroken_of_ok (change value)

section call

variable (peer : Peer π)

theorem candid_conclude {result : Except ClientError ResponseFrame} {client : Client}
    (h : Fails false result client) (id : UInt64) :
    Candid (client.conclude id result).1 (client.conclude id result).2 := by
  obtain ⟨hFatal, hUsable⟩ := h
  cases result with
  | error error => exact candid_fatal rfl (hFatal error rfl)
  | ok frame =>
    rcases frame with ⟨number, response⟩
    by_cases hId : number = id
    · rw [hId, conclude_answer]
      cases response with
      | error reported => cases reported <;> exact candid_answered hUsable rfl
      | _ => exact candid_ok hUsable _
    · rw [conclude, if_pos hId]
      exact candid_fatal rfl rfl

theorem rests_call (request : Request) (whole : Client × π) :
    (call peer request whole).Rests (·.isBroken = false) Candid := by
  rcases whole with ⟨client, inner⟩
  cases hBroken : client.isBroken with
  | true =>
    rw [call_of_isBroken peer hBroken]
    exact candid_fatal hBroken rfl
  | false =>
    have hBegun : client.begin.isBroken = false := hBroken
    rw [call, Action.get_bind_apply]
    simp only [hBroken, Bool.false_eq_true, if_false, onClient_bind_apply]
    apply (rests_exchangeInTime hBegun peer _ _ inner).bind
    intro result later hFails
    exact candid_conclude hFails _

theorem rests_callFor (request : Request) (select : Response → Option α) (whole : Client × π) :
    (callFor peer request select whole).Rests (·.isBroken = false) Candid := by
  apply (rests_call peer request whole).bind
  rintro (error | response) later hCandid
  · exact hCandid.error
  · cases hSelect : select response with
    | none =>
      simp only [hSelect]
      exact candid_answered hCandid.isBroken_of_ok rfl
    | some value =>
      simp only [hSelect]
      exact candid_ok hCandid.isBroken_of_ok value

theorem rests_perform {method : Method} (hMethod : method ≠ .disconnect) (whole : Client × π) :
    (method.perform peer whole).Rests (·.isBroken = false) Candid := by
  rw [Method.perform_eq]
  apply (rests_call peer _ whole).bind
  intro result later hCandid
  have hLeave : method.leave later.1 = later.1 := by
    cases method with
    | disconnect => exact absurd rfl hMethod
    | _ => rfl
  show Candid (result.bind method.accept) (method.leave later.1)
  rw [hLeave]
  cases result with
  | error error => exact hCandid
  | ok response =>
    have hUsable := hCandid.isBroken_of_ok
    have hFitting (request : Request) : Candid (fitting request response) later.1 := by
      rw [fitting]
      split
      · exact candid_ok hUsable response
      · exact candid_answered hUsable rfl
    cases method with
    | call request => exact hCandid
    | _ => exact hFitting _

/-! ### The walk -/

theorem rests_callInTime (request : Option Int64 → Request) (select : Response → Option α)
    (whole : Client × π) :
    (callInTime peer request select whole).Rests (·.isBroken = false) Candid := by
  rw [callInTime, Action.get_bind_apply]
  exact rests_callFor peer _ select whole

/-- What is collected after a part of the walk does not change what the end of it tells. -/
theorem rests_map {first : Timed (Client × π) (Except ClientError α)} {β : Type} {change : α → β}
    {whole : Client × π} (h : (first whole).Rests (·.isBroken = false) Candid) :
    ((do return (← first).map change : Timed (Client × π) (Except ClientError β)) whole).Rests
      (·.isBroken = false) Candid := by
  apply h.bind
  intro result later hCandid
  exact hCandid.map change

theorem rests_walkAttributes (bean : String) (names : List String) {whole : Client × π}
    (hUsable : whole.1.isBroken = false) :
    (walkAttributes peer bean names whole).Rests (·.isBroken = false) Candid := by
  induction names generalizing whole with
  | nil => exact candid_ok hUsable []
  | cons name names ih =>
    rw [walkAttributes]
    apply (rests_callInTime peer (.read bean name) entries? whole).bind
    rintro (error | entries) later hCandid
    · cases error with
      | jmx message cause stacktrace =>
        apply rests_map
        apply ih
        exact hCandid.isBroken_of_answered rfl
      | _ => exact hCandid.error
    · apply rests_map
      apply ih
      exact hCandid.isBroken_of_ok

theorem rests_walkBeans (beans : List String) {whole : Client × π}
    (hUsable : whole.1.isBroken = false) :
    (walkBeans peer beans whole).Rests (·.isBroken = false) Candid := by
  induction beans generalizing whole with
  | nil => exact candid_ok hUsable []
  | cons bean beans ih =>
    rw [walkBeans]
    apply (rests_callInTime peer (.attributeNames bean) _ whole).bind
    rintro (error | names) later hCandid
    · cases error with
      | jmx message cause stacktrace =>
        apply rests_map
        apply ih
        exact hCandid.isBroken_of_answered rfl
      | _ => exact hCandid.error
    · apply (rests_walkAttributes peer bean names hCandid.isBroken_of_ok).bind
      rintro (error | findings) later hCandid
      · exact hCandid
      · apply rests_map
        apply ih
        exact hCandid.isBroken_of_ok

theorem rests_walk (pattern : String) (whole : Client × π) :
    (walk peer pattern whole).Rests (·.isBroken = false) Candid := by
  rw [walk]
  apply (rests_callInTime peer (.beanNames pattern) _ whole).bind
  rintro (error | beans) later hCandid
  · exact hCandid.error
  · exact rests_walkBeans peer beans hCandid.isBroken_of_ok

theorem walk_of_isBroken {client : Client} (hBroken : client.isBroken = true) (pattern : String)
    (inner : π) : walk peer pattern (client, inner) = .done (client, inner) (.error .closed) := by
  have hNames : beanNames peer pattern (client, inner) = .done (client, inner) (.error .closed) := by
    rw [beanNames, callInTime, Action.get_bind_apply]
    show callFor peer _ _ (client, inner) = _
    rw [callFor, Action.bind_apply, call_of_isBroken peer hBroken]
    rfl
  rw [walk, Action.bind_apply, hNames]
  rfl

/-! ### What comes later -/

/-- What can become of a client and the other end.  Methods and walks are made one after another; each
comes to its end or is given up.  Between them timeouts can be set, and the other end does what it
likes. -/
inductive Later (tick : Nat → π → π) (whole : Client × π) : Client × π → Prop
  | now : Later tick whole whole
  | pause {after : Client × π} (callTimeout : Option Int64) (responseTimeout : Option Nat)
      (inner : π) : Later tick whole after →
      Later tick whole ({ after.1 with callTimeout, responseTimeout }, inner)
  | perform {after : Client × π} (method : Method) : Later tick whole after →
      Later tick whole ((method.perform peer after).run (passing tick)).2
  | walk {after : Client × π} (pattern : String) : Later tick whole after →
      Later tick whole ((walk peer pattern after).run (passing tick)).2
  | abandon {after : Client × π} (method : Method) (limit : Nat) : Later tick whole after →
      Later tick whole (((method.perform peer).within limit after).run (passing tick)).2
  | abandonWalk {after : Client × π} (pattern : String) (limit : Nat) : Later tick whole after →
      Later tick whole (((walk peer pattern).within limit after).run (passing tick)).2

theorem Later.isBroken {tick : Nat → π → π} {whole after : Client × π}
    (h : Later peer tick whole after) (hBroken : whole.1.isBroken = true) :
    after.1.isBroken = true := by
  induction h with
  | now => exact hBroken
  | pause callTimeout responseTimeout inner h ih => exact ih
  | @perform after method h ih =>
    rcases after with ⟨client, inner⟩
    rw [Method.perform_of_isBroken peer ih]
    exact (isBroken_leave method client).mpr (.inl ih)
  | @walk after pattern h ih =>
    rcases after with ⟨client, inner⟩
    rw [walk_of_isBroken peer ih]
    exact ih
  | @abandon after method limit h ih =>
    rcases after with ⟨client, inner⟩
    rw [Timed.within, Method.perform_of_isBroken peer ih]
    exact (isBroken_leave method client).mpr (.inl ih)
  | @abandonWalk after pattern limit h ih =>
    rcases after with ⟨client, inner⟩
    rw [Timed.within, walk_of_isBroken peer ih]
    exact ih

/-- Failing for good and being unusable are one.  Whatever the other end does and whatever state the
client is in, a method other than disconnecting, or a walk, fails for good exactly if the client is
unusable after it; a success, and a failure that an answer told, leave it usable, and there are no
other failures.  After disconnecting the client is unusable, and once it is unusable it stays so. -/
theorem fatal_iff_unusable (tick : Nat → π → π) (whole : Client × π) :
    (∀ method : Method, method ≠ .disconnect →
      Candid ((method.perform peer whole).run (passing tick)).1
        ((method.perform peer whole).run (passing tick)).2.1) ∧
    (∀ pattern, Candid ((walk peer pattern whole).run (passing tick)).1
      ((walk peer pattern whole).run (passing tick)).2.1) ∧
    ((Method.disconnect.perform peer whole).run (passing tick)).2.1.isUsable = false ∧
    ∀ after, Later peer tick whole after → whole.1.isUsable = false → after.1.isUsable = false := by
  refine ⟨?_, ?_, ?_, ?_⟩
  · intro method hMethod
    exact (rests_perform peer hMethod whole).run tick
  · intro pattern
    exact (rests_walk peer pattern whole).run tick
  · rw [Method.perform_eq, Dialogue.run_bind]
    rfl
  · intro after hLater hUnusable
    have hBroken : whole.1.isBroken = true := by simpa [isUsable] using hUnusable
    simp [isUsable, hLater.isBroken peer hBroken]

end call

/-- A reply under the number of another request: the call fails for good, and so does every later
one. -/
theorem fatal_iff_unusable_wrong_number :
    ∃ whole first : Client × List ByteArray, whole.1.isUsable = true ∧
      (Method.version.perform latePeer whole).run (passing fun _ => id) =
        (.error (.idMismatch 1 2), first) ∧
      first.1.isUsable = false ∧
      ∀ after, Later latePeer (fun _ => id) first after → after.1.isUsable = false := by
  let whole : Client × List ByteArray := ({}, [sent (ResponseFrame.encode ⟨2, .pong⟩)])
  rcases hRun : (Method.version.perform latePeer whole).run (passing fun _ => id) with ⟨result, first⟩
  have hResult : ((Method.version.perform latePeer whole).run (passing fun _ => id)).1 =
      .error (.idMismatch 1 2) := by decide +kernel
  have hCandid := (fatal_iff_unusable latePeer (fun _ => id) whole).1 .version nofun
  rw [hRun] at hResult hCandid
  subst hResult
  have hUnusable := hCandid.fatal.mp ⟨_, rfl, rfl⟩
  refine ⟨whole, first, rfl, hRun, hUnusable, ?_⟩
  intro after hLater
  exact (fatal_iff_unusable latePeer (fun _ => id) first).2.2.2 after hLater hUnusable

end Client

end BeanBridge
