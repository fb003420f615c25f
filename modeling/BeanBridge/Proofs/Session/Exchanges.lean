import BeanBridge.Proofs.Connector.Noting
import BeanBridge.Proofs.Session.Operations
import BeanBridge.Service.Fetcher

/-! The exchanges with an endpoint.  Which calls a session makes may depend on the exchanges before
them, and what it returns may be traced back to them.  Both are said over the exchanges alone, and
hold of the notes that are taken of any connector. -/

namespace BeanBridge

/-- A call, and what came of it. -/
structure Exchange where
  call : Call
  outcome : Outcome call.Reply

/-- The exchange that a note is about, if it is complete. -/
def Note.exchange? {κ : Type} : Note κ → Option Exchange
  | asked .. => none
  | answered _ _ call outcome => some ⟨call, outcome⟩

/-- The exchanges in notes, the earliest first. -/
def exchanges {κ : Type} (notes : List (Note κ)) : List Exchange :=
  (notes.filterMap Note.exchange?).reverse

theorem exchanges_asked {κ : Type} (inner : κ) (call : Call) (notes : List (Note κ)) :
    exchanges (.asked inner call :: notes) = exchanges notes := rfl

theorem exchanges_answered {κ : Type} (before after : κ) (call : Call)
    (outcome : Outcome call.Reply) (notes : List (Note κ)) :
    exchanges (.answered before after call outcome :: notes) =
      exchanges notes ++ [⟨call, outcome⟩] := by
  simp [exchanges, Note.exchange?]

/-- The terms for those who see the other side like this. -/
def Terms.seenAs {σ Q γ δ : Type} {R : Q → Type} (terms : Terms σ R δ) (view : γ → δ) :
    Terms σ R γ where
  admits question state other := terms.admits question state (view other)
  drifts := terms.drifts
  answers question other reply next := terms.answers question (view other) reply (view next)

theorem Dialogue.Upholds.seenAs {σ Q γ δ α : Type} {R : Q → Type} {terms : Terms σ R δ} {view : γ → δ}
    {ending : α → σ → δ → Prop} {dialogue : Dialogue σ R α} {other : γ}
    (h : dialogue.Upholds terms ending (view other)) :
    dialogue.Upholds (terms.seenAs view) (fun value state other => ending value state (view other))
      other := by
  induction dialogue generalizing other with
  | done state value => exact h
  | ask state question resume ih =>
    refine ⟨h.1, fun reply later next hDrifts hAnswers => ?_⟩
    exact ih reply later (h.2 reply later (view next) hDrifts hAnswers)

namespace Session

/-- The exchanges so far say which calls may be made, and every call is answered somehow. -/
def tracked (may : List Exchange → Call → Prop) : Terms Connection Call.Reply (List Exchange) where
  admits call _ past := may past call
  drifts before after := after = before
  answers call past reply next := next = past ++ [⟨call, .value reply⟩]

/-- The same, said of the session: what is seen of it stays until the answer comes. -/
def noting {ν : Type} (view : Session → ν) (may : List Exchange → Call → Prop) :
    Terms Session Call.Reply (List Exchange) where
  admits call _ past := may past call
  drifts before after := view after = view before
  answers call past reply next := next = past ++ [⟨call, .value reply⟩]

/-- While time passes nobody touches the notes, or what is seen of the session. -/
def undisturbed (κ : Type) {ν : Type} (view : Session → ν) :
    Terms (Endpoint (Noted κ)) Wait.Reply Unit where
  admits _ _ _ := True
  drifts before after := view after.1 = view before.1 ∧ after.2.1 = before.2.1
  answers _ _ _ _ := True

def passNoting {κ : Type} (drift : Nat → κ → κ) (milliseconds : Nat) (endpoint : Endpoint (Noted κ)) :
    Endpoint (Noted κ) :=
  (endpoint.1.tick milliseconds, endpoint.2.1, drift milliseconds endpoint.2.2)

/-- What an action comes to with a connector behind the session, whose calls are noted. -/
def runNoted {κ α : Type} (connector : Connector κ) (drift : Nat → κ → κ) (act : Act α)
    (session : Session) (inner : κ) : Outcome α × Endpoint (Noted κ) :=
  (act.answeredBy connector.noted (session, [], inner)).run (passNoting drift)

/-- The exchanges end with a call that may be made, and that has broken down. -/
def Crashed (may : List Exchange → Call → Prop) (past : List Exchange) : Prop :=
  ∃ earlier call message, may earlier call ∧ past = earlier ++ [⟨call, .crash message⟩]

variable {κ ν : Type} {may : List Exchange → Call → Prop}

theorem honours_noting (connector : Connector κ) (view : Session → ν) :
    connector.noted.Honours
      ((noting view may).seenAs fun noted : Noted κ => exchanges noted.1)
      (undisturbed κ view) fun whole => Crashed may (exchanges whole.2.1) := by
  rintro call session ⟨notes, before⟩ hMay
  -- While the answer is waited for, the latest note is that it was asked for; the exchange is
  -- complete only once the answer is there.
  have hAnswer (reply : Dialogue κ Wait.Reply (Outcome call.Reply)) (noted : Noted κ)
      (whole : Endpoint (Noted κ)) (hNotes : noted.1 = .asked before call :: notes)
      (hWhole : view whole.1 = view session) :
      (((reply.focus Prod.snd (fun inner noted => (noted.1, inner)) noted).bind fun outcome noted =>
          .done (.answered before noted.2 call outcome :: noted.1, noted.2) outcome).focus Prod.snd
            (fun noted whole => (whole.1, noted)) whole :
              Dialogue (Endpoint (Noted κ)) Wait.Reply (Outcome call.Reply)).Upholds
        (undisturbed κ view)
        (fun outcome whole _ => outcome.Satisfies
          (fun reply => view whole.1 = view session ∧
            exchanges whole.2.1 = exchanges notes ++ [⟨call, .value reply⟩])
          (Crashed may (exchanges whole.2.1))) () := by
    induction reply generalizing noted whole with
    | done after outcome =>
      have hExchanges : exchanges (.answered before after call outcome :: noted.1) =
          exchanges notes ++ [⟨call, outcome⟩] := by
        rw [exchanges_answered, hNotes, exchanges_asked]
      cases outcome with
      | value reply => exact ⟨hWhole, hExchanges⟩
      | crash message => exact ⟨exchanges notes, call, message, hMay, hExchanges⟩
    | ask now wait resume ih =>
      refine ⟨trivial, fun reply later next hDrifts hAnswers => ?_⟩
      obtain ⟨hView, hSame⟩ := hDrifts
      exact ih reply later.2.2 later.2 later (hSame.trans hNotes) (hView.trans hWhole)
  exact hAnswer (connector call before) _ _ rfl rfl

/-- What is upheld whatever is answered holds with any connector, if what is seen of the session does
not change with the time. -/
theorem upholds_runNoted {α : Type} {act : Act α} {session : Session} {view : Session → ν}
    {ending : α → Session → List Exchange → Prop}
    (h : (act session).Upholds (noting view may) ending [])
    (hTick : ∀ milliseconds session, view (session.tick milliseconds) = view session)
    (connector : Connector κ) (drift : Nat → κ → κ) (inner : κ) :
    (runNoted connector drift act session inner).1.Satisfies
      (fun value => ending value (runNoted connector drift act session inner).2.1
        (exchanges (runNoted connector drift act session inner).2.2.1))
      (Crashed may (exchanges (runNoted connector drift act session inner).2.2.1)) := by
  let known (noted : Noted κ) : List Exchange := exchanges noted.1
  have hStart : (act session).Upholds (noting view may) ending (known ([], inner)) := h
  have hSeen : (act session).Upholds ((noting view may).seenAs known)
      (fun value after noted => ending value after (known noted)) ([], inner) := hStart.seenAs
  apply (hSeen.answeredBy (honours_noting connector view)).run
  · intro milliseconds endpoint
    exact ⟨hTick milliseconds endpoint.1, rfl⟩
  · intro wait other
    trivial

/-- What holds of the exchanges whatever is answered holds of those with any connector. -/
theorem Leaves.runNoted {α : Type} {act : Act α} {session : Session}
    {ending : α → Connection → List Exchange → Prop}
    (h : Leaves (tracked may) ending act session []) (connector : Connector κ)
    (drift : Nat → κ → κ) (inner : κ) :
    (runNoted connector drift act session inner).1.Satisfies
      (fun value => ending value (runNoted connector drift act session inner).2.1.connection
        (exchanges (runNoted connector drift act session inner).2.2.1))
      (Crashed may (exchanges (runNoted connector drift act session inner).2.2.1)) := by
  have hStart : (act session).Upholds (noting Session.connection may)
      (fun value after past => ending value after.connection past) [] := h
  exact upholds_runNoted hStart (fun _ _ => rfl) connector drift inner

theorem Leaves.runNoted_value {α : Type} {act : Act α} {session : Session}
    {ending : α → Connection → List Exchange → Prop}
    (h : Leaves (tracked may) ending act session []) {connector : Connector κ}
    {drift : Nat → κ → κ} {inner : κ} {value : α}
    (hValue : (Session.runNoted connector drift act session inner).1 = .value value) :
    ending value (Session.runNoted connector drift act session inner).2.1.connection
      (exchanges (Session.runNoted connector drift act session inner).2.2.1) := by
  have hEnd := h.runNoted connector drift inner
  rw [hValue] at hEnd
  exact hEnd

end Session

end BeanBridge
