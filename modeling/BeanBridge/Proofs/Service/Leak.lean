import BeanBridge.Proofs.Connector.Memory
import BeanBridge.Proofs.Executor.Order
import BeanBridge.Proofs.Session.Operations
import BeanBridge.Service.Fetcher

/-! No session leaks.  Whatever callers do and whatever is set up in an endpoint in memory, it counts
one open session while the bridge holds one and none else, and every call over a session finds it
open. -/

namespace BeanBridge

section Uses

variable {call : Call} {session : SessionHandle}

theorem Call.Uses.needs (h : call.Uses session) : call.needs = [session] := by
  cases call with
  | connect | close => exact h.elim
  | names | describe | read | readMany => exact congrArg (fun used => [used]) h

theorem Call.Uses.leaves (h : call.Uses session) (reply : call.Reply) :
    call.leaves reply = [session] := by
  cases call with
  | connect | close => exact h.elim
  | names | describe | read | readMany => exact congrArg (fun used => [used]) h

end Uses

namespace Memory

/-- The endpoint has open exactly the session that is held, and the notes show nothing wrong. -/
def accounted : Custody (Noted Memory) where
  free _ noted := noted.2.Holds [] ∧ ∀ note ∈ noted.1, note.Sound
  loose _ session noted := noted.2.Holds [session] ∧ ∀ note ∈ noted.1, note.Sound
  held _ session noted := noted.2.Holds [session] ∧ ∀ note ∈ noted.1, note.Sound

/-- Calls find open what they need, and leave open what they should. -/
def accounting : Terms Connection Call.Reply (Noted Memory) where
  admits call connection noted := noted.2.Holds call.needs ∧ (∀ note ∈ noted.1, note.Sound) ∧
    (¬call.Closes → connection.session.toList = call.needs)
  drifts before after := after = before
  answers call _ reply next := next.2.Holds (call.leaves reply) ∧ ∀ note ∈ next.1, note.Sound

theorem accounted_keeps_iff {connection : Connection} {noted : Noted Memory} :
    accounted.Keeps connection noted ↔
      noted.2.Holds connection.session.toList ∧ ∀ note ∈ noted.1, note.Sound := by
  obtain ⟨config, session⟩ := connection
  cases session <;> exact Iff.rfl

theorem accounted_usable : accounted.Usable accounting where
  still _ _ hDrifts := hDrifts
  close config session noted h := by
    exact ⟨⟨h.1, h.2, fun hCall => absurd trivial hCall⟩, fun reply next hNext => hNext⟩
  connect config noted h := by
    refine ⟨⟨h.1, h.2, fun _ => rfl⟩, fun reply next hNext => ⟨?_, ?_⟩⟩
    · rintro session rfl
      exact hNext
    · rintro error rfl
      exact hNext
  loosen _ _ _ h := h
  resetFree _ _ _ h := h
  resetLoose _ _ _ _ h := h
  use config session call noted h hUses := by
    refine ⟨⟨?_, h.2, fun _ => hUses.needs.symm⟩, fun reply next hNext => ?_⟩
    · rw [hUses.needs]
      exact h.1
    · obtain ⟨hHolds, hNotes⟩ := hNext
      rw [hUses.leaves reply] at hHolds
      exact ⟨hHolds, hNotes⟩

end Memory

/-- The bridge and the endpoint agree about the session that is open. -/
def Agree (endpoint : Endpoint (Noted Memory)) : Prop :=
  Memory.accounted.Keeps endpoint.1.connection endpoint.2

/-- What becomes of an endpoint from outside: time passes for the records and they are taken, and the
table is changed. -/
structure Unasked (before after : Endpoint (Noted Memory)) : Prop where
  connection : after.1.connection = before.1.connection
  notes : after.2.1 = before.2.1
  memory : before.2.2.Retuned after.2.2

theorem unasked_drift : Drift Agree Unasked where
  refl _ := ⟨rfl, rfl, .refl _⟩
  trans _ _ _ h hNext :=
    ⟨hNext.connection.trans h.connection, hNext.notes.trans h.notes, h.memory.trans hNext.memory⟩
  inOrder before after h hAgree := by
    rw [Agree, Memory.accounted_keeps_iff] at hAgree ⊢
    rw [h.connection, h.notes]
    exact ⟨h.memory.holds hAgree.1, hAgree.2⟩

/-- What is wanted of the end of a call: the endpoint accounts for what the reply leaves open, and a
call that has crashed has changed nothing. -/
def Settles (connection : Connection) (call : Call) (outcome : Outcome call.Reply)
    (endpoint : Endpoint (Noted Memory)) : Prop :=
  outcome.Satisfies
    (fun reply => endpoint.1.connection = connection ∧
      endpoint.2.2.Holds (call.leaves reply) ∧ ∀ note ∈ endpoint.2.1, note.Sound)
    (Agree endpoint)

/-- What the endpoint in memory upholds while it answers a call, the bridge and it uphold together
with the notes. -/
theorem Memory.upholds_noted {connection : Connection} {call : Call} {before : Memory}
    (hSession : ¬call.Closes → connection.session.toList = call.needs)
    {dialogue : Dialogue Memory Wait.Reply (Outcome call.Reply)}
    (h : dialogue.Upholds (waiting call)
      (fun outcome after _ =>
        outcome.Satisfies (fun reply => after.Holds (call.leaves reply))
          (after.Holds call.needs ∧ ¬call.Closes) ∧
        (Note.answered before after call outcome).Sound) ())
    {whole : Endpoint (Noted Memory)} {noted : Noted Memory}
    (hWhole : whole.1.connection = connection) (hNotes : ∀ note ∈ noted.1, note.Sound) :
    ((((dialogue.focus Prod.snd (fun inner noted => (noted.1, inner)) noted).bind
      fun outcome noted => .done (.answered before noted.2 call outcome :: noted.1, noted.2)
        outcome).focus Prod.snd (fun noted whole => (whole.1, noted)) whole :
          Dialogue (Endpoint (Noted Memory)) Wait.Reply (Outcome call.Reply)).Upholds
      (Terms.keeping Agree Unasked)
      (fun outcome whole _ => Settles connection call outcome whole) ()) := by
  have hOpen {endpoint : Endpoint (Noted Memory)} (hSame : endpoint.1.connection = connection)
      (hCall : ¬call.Closes) : endpoint.1.connection.session.toList = call.needs := by
    rw [hSame]
    exact hSession hCall
  induction dialogue generalizing whole noted with
  | done after outcome =>
    obtain ⟨hAfter, hNote⟩ := h
    have hNoted := List.forall_mem_cons.mpr ⟨hNote, hNotes⟩
    cases outcome with
    | value reply => exact ⟨hWhole, hAfter, hNoted⟩
    | crash message =>
      refine accounted_keeps_iff.mpr ⟨?_, hNoted⟩
      rw [hOpen hWhole hAfter.2]
      exact hAfter.1
  | ask now wait resume ih =>
    -- A call that waits closes no session, so the bridge holds the one that the call needs.
    obtain ⟨⟨hNow, hCall⟩, hResume⟩ := h
    refine ⟨accounted_keeps_iff.mpr ⟨?_, hNotes⟩, fun reply later next hDrifts _ => ?_⟩
    · rw [hOpen hWhole hCall]
      exact hNow
    · refine ih reply later.2.2 (hResume reply later.2.2 next hDrifts.memory trivial)
        (hDrifts.connection.trans hWhole) ?_
      rw [hDrifts.notes]
      exact hNotes

theorem Memory.honours_accounting (library : RegexLibrary) :
    (Memory.connector library).noted.Honours (accounting.on Session.connection)
      (Terms.keeping Agree Unasked) Agree := by
  rintro call session ⟨notes, before⟩ ⟨hHolds, hSound, hSession⟩
  have hAsked : ∀ note ∈ .asked before call :: notes, note.Sound := by
    refine List.forall_mem_cons.mpr ⟨fun used hUsed => ?_, hSound⟩
    rw [hHolds.live, hHolds.openCount]
    exact ⟨hUsed, List.length_pos_of_mem hUsed⟩
  exact upholds_noted hSession (upholds_connector library hHolds) rfl hAsked

namespace Fetcher

open Executor

/-- The job does an operation. -/
def IsOperation (library : RegexLibrary)
    (job : Timed (Endpoint (Noted Memory)) (Outcome (Except Failure Response))) : Prop :=
  ∃ timeout operation, job = (submission (Memory.connector library).noted timeout operation).job

theorem keeps_of_isOperation {library : RegexLibrary}
    {job : Timed (Endpoint (Noted Memory)) (Outcome (Except Failure Response))}
    (hJob : IsOperation library job) (endpoint : Endpoint (Noted Memory)) (h : Agree endpoint) :
    (job endpoint).Keeps Agree Unasked := by
  obtain ⟨timeout, operation, rfl⟩ := hJob
  have hAct : Session.Leaves Memory.accounting (fun _ after next => Memory.accounted.Keeps after next)
      operation.act endpoint.1 endpoint.2 :=
    Session.leaves_act_keeps Memory.accounted_usable operation h
  refine (Dialogue.Upholds.answeredBy hAct (Memory.honours_accounting library)).mono
    fun outcome whole _ hEnd => ?_
  cases outcome with
  | value result => exact hEnd
  | crash message => exact hEnd

/-- The endpoint counts the session that the bridge holds, and nothing was ever asked of a session
that is not open. -/
structure Accounted (endpoint : Endpoint (Noted Memory)) : Prop where
  openCount : endpoint.2.2.openCount = if endpoint.1.isConnected then 1 else 0
  notes : ∀ note ∈ endpoint.2.1, note.Sound

/-- At every moment of every use the endpoint has as many sessions open as the bridge holds, one at
most. -/
theorem sessions_never_leak {library : RegexLibrary} {memory : Memory}
    {world : World (Endpoint (Noted Memory)) Wait.Reply Response} (hLive : memory.live = [])
    (hCount : memory.openCount = 0) (h : Use (IsOperation library) Unasked ({}, [], memory) world) :
    Accounted world.current := by
  have hStart : Agree ({}, [], memory) :=
    Memory.accounted_keeps_iff.mpr ⟨⟨hLive, hCount⟩, List.forall_mem_nil _⟩
  have hAgree := (h.world_inOrder unasked_drift hStart fun _ => keeps_of_isOperation).current
  obtain ⟨hHolds, hNotes⟩ := Memory.accounted_keeps_iff.mp hAgree
  refine ⟨?_, hNotes⟩
  rw [hHolds.openCount, Session.isConnected, Connection.isConnected]
  cases world.current.1.connection.session <;> rfl

/-- A caller gives up a read that waits for an endpoint set to be slow.  The session stays open, and
is counted. -/
theorem sessions_never_leak_slow_read :
    ∃ world : World (Endpoint (Noted Memory)) Wait.Reply Response,
      Use (IsOperation .ofPatterns) Unasked ({}, [], {}) world ∧ world.work.isNone ∧
        world.progress 1 = .returned (.error (Fault.timedOut 5).failure) ∧
        world.current.1.isConnected = true ∧ world.current.2.2.openCount = 1 := by
  let connecting := (submission Memory.connector.noted 0 (.connect (.ofUrl "a"))).job
  let reading := (submission Memory.connector.noted 5 (.read ⟨"java", [], true⟩ "x")).job
  let opened : Memory :=
    { connects := 1, live := [⟨1⟩], openCount := 1, lastTarget := some "a"
      lastEnvironment := some {} }
  let connected : Endpoint (Noted Memory) :=
    (⟨⟨some (.ofUrl "a"), some ⟨1⟩⟩, {}⟩,
      [.answered {} opened (.connect "a" {}) (.value (.ok ⟨1⟩)), .asked {} (.connect "a" {})], opened)
  let slow (endpoint : Endpoint (Noted Memory)) : Endpoint (Noted Memory) :=
    (endpoint.1, endpoint.2.1, { endpoint.2.2 with delay := some 50 })
  let moment (state : Endpoint (Noted Memory)) (now : Nat)
      (callers : List (Caller (Endpoint (Noted Memory)) Wait.Reply Response)) (queue : List Nat)
      (worker : Worker (Endpoint (Noted Memory)) Wait.Reply Response) :
      World (Endpoint (Noted Memory)) Wait.Reply Response :=
    { state, now, callers, queue, worker }
  have hOne (progress : Progress Response) (caller : Caller _ _ _)
      (hCaller : caller ∈ [⟨0, connecting, 0, progress, false⟩]) :
      IsOperation .ofPatterns caller.job := by
    obtain rfl := List.mem_singleton.mp hCaller
    exact ⟨0, _, rfl⟩
  have hTwo (first second : Progress Response) (isCancelled : Bool) (caller : Caller _ _ _)
      (hCaller : caller ∈
        [⟨0, connecting, 0, first, false⟩, ⟨5, reading, 0, second, isCancelled⟩]) :
      IsOperation .ofPatterns caller.job := by
    rcases List.mem_cons.mp hCaller with rfl | hCaller
    · exact ⟨0, _, rfl⟩
    · obtain rfl := List.mem_singleton.mp hCaller
      exact ⟨5, _, rfl⟩
  have hConnecting : connecting ({}, [], {}) = .done connected (.value (.ok .connected)) := rfl
  have hCalled : Use (IsOperation .ofPatterns) Unasked ({}, [], {})
      (moment ({}, [], {}) 0 [⟨0, connecting, 0, .outside, false⟩] [] .idle) :=
    Use.begin.step (.call _ 0 connecting) (hOne _)
  have hSubmitted : Use (IsOperation .ofPatterns) Unasked ({}, [], {})
      (moment ({}, [], {}) 0 [⟨0, connecting, 0, .waiting 0, false⟩] [0] .idle) :=
    hCalled.step (.enter (i := 0) rfl rfl rfl (by decide)) (hOne _)
  have hLooked : Use (IsOperation .ofPatterns) Unasked ({}, [], {})
      (moment ({}, [], {}) 0 [⟨0, connecting, 0, .waiting 0, false⟩] [] (.polling 0 none)) :=
    ((hSubmitted.step (.take rfl rfl rfl) (hOne _)).step (.keep rfl rfl) (hOne _)).step
      (.look rfl rfl) (hOne _)
  have hStarted : Use (IsOperation .ofPatterns) Unasked ({}, [], {})
      (moment ({}, [], {}) 0 [⟨0, connecting, 0, .waiting 0, false⟩] []
        (.polling 0 (some (.done connected (.value (.ok .connected)))))) := by
    have hBegun := hLooked.step (.start (i := 0) rfl rfl) (hOne (.waiting 0))
    rw [← hConnecting]
    exact hBegun
  have hFinished := hStarted.step (.finish rfl) (hOne (.served (.value (.ok .connected))))
  have hSlow : Use (IsOperation .ofPatterns) Unasked ({}, [], {})
      (moment (slow connected) 0 [⟨0, connecting, 0, .served (.value (.ok .connected)), false⟩] []
        .idle) :=
    hFinished.disturb fun _ => ⟨rfl, rfl, rfl, rfl, rfl, rfl, rfl⟩
  have hEntered : Use (IsOperation .ofPatterns) Unasked ({}, [], {})
      (moment (slow connected) 0 [⟨0, connecting, 0, .served (.value (.ok .connected)), false⟩,
        ⟨5, reading, 0, .waiting 0, false⟩] [1] .idle) :=
    (hSlow.step (.call _ 5 reading) (hTwo _ _ _)).step (.enter (i := 1) rfl rfl rfl (by decide))
      (hTwo _ _ _)
  have hPolled := ((hEntered.step (.take rfl rfl rfl) (hTwo _ _ _)).step (.keep rfl rfl)
    (hTwo _ _ _)).step (.look rfl rfl) (hTwo _ _ _)
  have hReading := hPolled.step (.start (i := 1) rfl rfl) (hTwo _ _ _)
  have hWaiting := (hReading.step (.suspend rfl) (hTwo _ _ _)).step (.passTime _ 5) (hTwo _ _ _)
  have hExpired := (hWaiting.step (.expire (i := 1) rfl rfl (by decide) (by decide))
    (hTwo _ _ true)).step (.cancel rfl rfl) (hTwo _ _ true)
  have hConnected : (reading (slow connected)).state.1.isConnected = true := rfl
  refine ⟨_, hExpired, rfl, rfl, hConnected, ?_⟩
  have hCount := (sessions_never_leak rfl rfl hExpired).openCount
  exact hCount.trans (if_pos hConnected)

end Fetcher

end BeanBridge
