import BeanBridge.Connector.Memory
import BeanBridge.Proofs.Connector.Noting
import BeanBridge.Proofs.Dialogue.Terms

/-! The sessions of an endpoint in memory.  A call that finds open what it needs leaves open what it
should, counted, and is answered as over a closed session only if that answer was set up. -/

namespace BeanBridge

namespace Call

/-- The sessions that a call finds open if all is well: none before one is opened, else the one that
it is made over. -/
def needs : Call → List SessionHandle
  | connect .. => []
  | names session _ | describe session _ | read session _ _ | readMany session _ _
  | close session => [session]

/-- The sessions that are open after the answer. -/
def leaves : (call : Call) → call.Reply → List SessionHandle
  | connect .., .ok session => [session]
  | connect .., .error _ => []
  | names session _, _ | describe session _, _ | read session _ _, _ | readMany session _ _, _ =>
    [session]
  | close _, _ => []

/-- The call is made for a session that was let go. -/
def Closes : Call → Prop
  | close _ => True
  | _ => False

end Call

namespace Memory

/-- These sessions are open, and their number is the count. -/
structure Holds (sessions : List SessionHandle) (memory : Memory) : Prop where
  live : memory.live = sessions
  openCount : memory.openCount = sessions.length

/-- The table may have changed, but nothing was asked of it. -/
structure Retuned (before after : Memory) : Prop where
  live : after.live = before.live
  openCount : after.openCount = before.openCount
  connects : after.connects = before.connects
  lastTarget : after.lastTarget = before.lastTarget
  lastEnvironment : after.lastEnvironment = before.lastEnvironment

theorem Retuned.refl (memory : Memory) : Retuned memory memory := ⟨rfl, rfl, rfl, rfl, rfl⟩

theorem Retuned.trans {before middle after : Memory} (h : Retuned before middle)
    (hNext : Retuned middle after) : Retuned before after where
  live := hNext.live.trans h.live
  openCount := hNext.openCount.trans h.openCount
  connects := hNext.connects.trans h.connects
  lastTarget := hNext.lastTarget.trans h.lastTarget
  lastEnvironment := hNext.lastEnvironment.trans h.lastEnvironment

theorem Retuned.holds {before after : Memory} {sessions : List SessionHandle}
    (h : Retuned before after) (hHolds : before.Holds sessions) : after.Holds sessions :=
  ⟨h.live.trans hHolds.live, h.openCount.trans hHolds.openCount⟩

/-- The failure was set up. -/
def Sets (memory : Memory) (error : ConnectorError) : Prop :=
  memory.nextFailure = some error ∨
    (∃ message, memory.refusal = some message ∧ error = .io message "") ∨
    ∃ name bean, memory.beans.lookup name = some bean ∧
      (bean.batchFailure = some error ∨ ∃ name, bean.failing.lookup name = some error)

/-- The answer of a session that is closed. -/
def closedFailure : ConnectorError := .io "session closed" ""

end Memory

/-- The call found open what it needs, and the answer of a closed session was set up. -/
def Note.Sound : Note Memory → Prop
  | .asked memory call => ∀ session ∈ call.needs, session ∈ memory.live ∧ 0 < memory.openCount
  | .answered before after call outcome => ∀ reply, outcome = .value reply →
    call.failure? reply = some Memory.closedFailure →
      before.Sets Memory.closedFailure ∨ after.Sets Memory.closedFailure

namespace Memory

variable {α : Type}

/-- The answer is not that of a closed session, or that was set up. -/
def Admits (memory : Memory) (answer : Except ConnectorError α) : Prop :=
  ConnectorError.of? answer = some closedFailure → memory.Sets closedFailure

theorem admits_of_sets {memory : Memory} {error : ConnectorError} (h : memory.Sets error) :
    memory.Admits (.error error : Except ConnectorError α) := by
  intro hClosed
  obtain rfl := Option.some.inj hClosed
  exact h

theorem admits_remote (memory : Memory) (kind message stacktrace : String) :
    memory.Admits (.error (.remote kind message stacktrace) : Except ConnectorError α) :=
  fun hClosed => nomatch Option.some.inj hClosed

theorem admits_ok (memory : Memory) (value : α) : memory.Admits (.ok value) := nofun

theorem admits_find_bind (memory : Memory) (name : BeanName)
    {answer : Bean → Except ConnectorError α}
    (h : ∀ bean, memory.beans.lookup name.canonicalText = some bean → memory.Admits (answer bean)) :
    memory.Admits ((memory.find name).bind answer) := by
  rw [find]
  cases hBean : memory.beans.lookup name.canonicalText with
  | none => exact admits_remote memory _ _ _
  | some bean => exact h bean hBean

theorem admits_read {memory : Memory} {key : String} {bean : Bean}
    (h : memory.beans.lookup key = some bean) (name : String) : memory.Admits (bean.read name) := by
  rw [Bean.read]
  cases hFailing : bean.failing.lookup name with
  | some error => exact admits_of_sets (.inr (.inr ⟨key, bean, h, .inr ⟨name, hFailing⟩⟩))
  | none =>
    cases bean.attributes.lookup name with
    | some value => exact admits_ok memory value
    | none => exact admits_remote memory _ _ _

theorem admits_readMany {memory : Memory} {key : String} {bean : Bean}
    (h : memory.beans.lookup key = some bean) (names : List String) :
    memory.Admits (bean.readMany names) := by
  rw [Bean.readMany]
  cases hFailure : bean.batchFailure with
  | some error => exact admits_of_sets (.inr (.inr ⟨key, bean, h, .inl hFailure⟩))
  | none => exact admits_ok memory _

theorem eq_of_unlessExplosive {memory : Memory} {names : List String}
    {answer reply : Except ConnectorError α}
    (h : memory.unlessExplosive names answer = .value reply) : reply = answer := by
  rw [unlessExplosive] at h
  cases hFound : names.find? (· ∈ memory.explosive) with
  | some name => rw [hFound] at h; nomatch h
  | none => rw [hFound] at h; exact (Outcome.value.inj h).symm

/-- While a call waits the sessions are left alone.  Closing one does not wait. -/
def waiting (call : Call) : Terms Memory Wait.Reply Unit where
  admits _ memory _ := memory.Holds call.needs ∧ ¬call.Closes
  drifts := Retuned
  answers _ _ _ _ := True

/-- A call over the session that is open leaves it open. -/
theorem upholds_answered {call : Call} {session : SessionHandle} {memory : Memory}
    (hNeeds : call.needs = [session]) (hCall : ¬call.Closes) (h : memory.Holds call.needs)
    {answer : Memory → Outcome (Except ConnectorError α)}
    (hAnswer : ∀ memory reply, answer memory = .value reply → memory.Admits reply) :
    (answered session answer memory).Upholds (waiting call)
      (fun outcome after _ =>
        outcome.Satisfies (fun _ => after.Holds call.needs) (after.Holds call.needs ∧ ¬call.Closes) ∧
        ∀ reply, outcome = .value reply → ConnectorError.of? reply = some closedFailure →
          memory.Sets closedFailure ∨ after.Sets closedFailure) () := by
  have hHolds {after : Memory} (hAfter : after.Holds call.needs)
      (outcome : Outcome (Except ConnectorError α)) :
      outcome.Satisfies (fun _ => after.Holds call.needs)
        (after.Holds call.needs ∧ ¬call.Closes) := by
    cases outcome with
    | value reply => exact hAfter
    | crash message => exact ⟨hAfter, hCall⟩
  have hOpen : session ∈ memory.live := by
    rw [h.live, hNeeds]
    exact List.mem_singleton_self session
  rw [answered, Action.bind_apply, enter, Action.get_bind_apply, if_neg (not_not_intro hOpen)]
  cases hFailure : memory.nextFailure with
  | some error =>
    refine ⟨⟨h.live, h.openCount⟩, ?_⟩
    rintro reply ⟨⟩ hClosed
    exact .inl (admits_of_sets (.inl hFailure) hClosed)
  | none =>
    cases memory.delay with
    | none =>
      exact ⟨hHolds h _, fun reply hReply hClosed => .inl (hAnswer memory reply hReply hClosed)⟩
    | some delay =>
      -- The table may be changed during the delay, and the answer is read from it afterwards.
      refine ⟨⟨h, hCall⟩, fun _ later _ hDrifts _ => ⟨hHolds (hDrifts.holds h) _, ?_⟩⟩
      exact fun reply hReply hClosed => .inr (hAnswer later reply hReply hClosed)

theorem upholds_connector (library : RegexLibrary) {call : Call} {memory : Memory}
    (h : memory.Holds call.needs) : (connector library call memory).Upholds (waiting call)
      (fun outcome after _ =>
        outcome.Satisfies (fun reply => after.Holds (call.leaves reply))
          (after.Holds call.needs ∧ ¬call.Closes) ∧
        (Note.answered memory after call outcome).Sound) () := by
  cases call with
  | connect target environment =>
    rw [connector, Action.bind_apply, connect, Action.modify_bind_apply, Action.get_bind_apply]
    cases hRefusal : memory.refusal with
    | some message =>
      refine ⟨⟨h.live, h.openCount⟩, ?_⟩
      rintro reply ⟨⟩ hClosed
      have hSets : memory.Sets (.io message "") := .inr (.inl ⟨message, hRefusal, rfl⟩)
      exact .inl (Option.some.inj hClosed ▸ hSets)
    | none =>
      refine ⟨⟨congrArg _ h.live, congrArg (· + 1) h.openCount⟩, ?_⟩
      rintro reply ⟨⟩ hClosed
      exact nomatch hClosed
  | close session =>
    rw [connector, Action.modify_bind_apply, close]
    have hOpen : session ∈ memory.live := by
      rw [h.live]
      exact List.mem_singleton_self session
    rw [if_pos hOpen]
    refine ⟨⟨?_, congrArg (· - 1) h.openCount⟩, ?_⟩
    · show memory.live.erase session = []
      rw [h.live]
      exact List.erase_cons_head ..
    · rintro reply ⟨⟩ hClosed
      exact nomatch hClosed
  | names session pattern =>
    refine upholds_answered rfl id h fun memory reply hReply => ?_
    obtain rfl := Outcome.value.inj hReply
    exact admits_ok memory _
  | describe session bean =>
    refine upholds_answered rfl id h fun memory reply hReply => ?_
    obtain rfl := Outcome.value.inj hReply
    have hInfo : (memory.find bean).map (·.info) = (memory.find bean).bind fun found =>
        .ok found.info := by
      cases memory.find bean <;> rfl
    rw [hInfo]
    exact admits_find_bind memory bean fun found _ => admits_ok memory _
  | read session bean name =>
    refine upholds_answered rfl id h fun memory reply hReply => ?_
    rw [eq_of_unlessExplosive hReply]
    exact admits_find_bind memory bean fun found hFound => admits_read hFound name
  | readMany session bean names =>
    refine upholds_answered rfl id h fun memory reply hReply => ?_
    rw [eq_of_unlessExplosive hReply]
    exact admits_find_bind memory bean fun found hFound => admits_readMany hFound names

end Memory

end BeanBridge
