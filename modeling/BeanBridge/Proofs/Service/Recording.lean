import BeanBridge.Connector.Scripted
import BeanBridge.Proofs.Connector.Noting
import BeanBridge.Proofs.Service.Masking

/-! What recording calls changes.  Whether calls are recorded, and how many of the records are kept,
shows in the responses to requests for the records and nowhere else. -/

namespace BeanBridge

/-- The settings do not differ but in what they say about recording calls. -/
def Config.AlikeButRecording (config config' : Config) : Prop :=
  { config with recordsStats := config'.recordsStats, statsCapacity := config'.statsCapacity } =
    config'

/-- What the settings say about recording calls is masked. -/
def Masking.recording : Masking where
  settings := Config.AlikeButRecording
  environments := Eq
  keepsRecords := False

/-- Whatever does not depend on recording is the same. -/
theorem Config.AlikeButRecording.eq {α : Type} {config config' : Config}
    (h : config.AlikeButRecording config') {look : Config → α}
    (hLook : ∀ records capacity,
      look { config with recordsStats := records, statsCapacity := capacity } = look config) :
    look config = look config' :=
  (hLook config'.recordsStats config'.statsCapacity).symm.trans (congrArg look h)

theorem Masking.sound_recording : Masking.recording.Sound where
  refl _ := rfl
  target _ _ h := h.eq fun _ _ => rfl
  verbose _ _ h := h.eq fun _ _ => rfl
  environment _ _ h := h.eq fun _ _ => rfl
  timeout _ _ h := h.eq fun _ _ => rfl
  records _ _ _ hKeeps := hKeeps.elim

theorem Connector.blind_recording {κ : Type} (connector : Connector κ) :
    connector.Blind (Session.kinship .recording) := by
  have hSelf (call : Call) : (connector call).InStep (.timed Eq)
      (Outcome.Akin fun reply reply' => HEq reply reply') (connector call) := by
    rintro inner _ rfl
    refine (Dialogue.InStep.refl (connector call inner)).mono ?_
    rintro outcome _ rfl
    exact .refl HEq.refl outcome
  intro call call' hCalls
  cases hCalls with
  | same => exact hSelf call
  | connect target hEnvironment =>
    obtain rfl := hEnvironment
    exact hSelf _

namespace Handler

variable {κ : Type}

/-- What can be seen of a handler: the session that is open, if one is, and the other side. -/
def view (handler : Handler κ) : Option SessionHandle × κ :=
  (handler.endpoint.1.connection.session, handler.endpoint.2)

def passTime (drift : Nat → κ → κ) (milliseconds : Nat) (handler : Handler κ) : Handler κ :=
  { handler with
    endpoint := (handler.endpoint.1.tick milliseconds, drift milliseconds handler.endpoint.2) }

section

variable {masking : Masking} {handler handler' : Handler κ}

theorem Akin.passTime (h : handler.Akin masking handler') (drift : Nat → κ → κ)
    (milliseconds : Nat) :
    (handler.passTime drift milliseconds).Akin masking (handler'.passTime drift milliseconds) := by
  refine ⟨⟨h.session.connection, fun hKeeps => ?_⟩, congrArg (drift milliseconds) h.inner, h.timeout⟩
  exact congrArg (fun stats : Stats => { stats with now := stats.now + milliseconds })
    (h.session.stats hKeeps)

theorem Akin.view_eq (h : handler.Akin masking handler') : handler.view = handler'.view := by
  rw [view, view, h.session.connection.session, h.inner]

end

/-- Recording calls adds nothing but the records.  Of two runs in which requests to connect differ in
what their settings say about recording, the responses are the same but for those that hold the
records; at each moment in which time passes, and at the end, the same session is open or none is,
and the connector has been called for the same things and is in the same state. -/
theorem recording_changes_only_records (connector : Connector κ) (drift : Nat → κ → κ) (inner : κ)
    {requests requests' : List Request}
    (h : List.Forall₂ (Request.Akin .recording) requests requests') :
    let tick := passTime fun milliseconds (noted : Noted κ) => (noted.1, drift milliseconds noted.2)
    let course := requests.mapM (answer connector.noted) (.start ([], inner))
    let course' := requests'.mapM (answer connector.noted) (.start ([], inner))
    (∀ index : Nat, requests[index]? ≠ some .stats →
      (course.run tick).1[index]? = (course'.run tick).1[index]?) ∧
    (course.pauses tick).map (fun pause => (pause.1.view, pause.2)) =
      (course'.pauses tick).map (fun pause => (pause.1.view, pause.2)) ∧
    (course.run tick).2.view = (course'.run tick).2.view := by
  intro tick course course'
  have hStart : Akin .recording (start (([], inner) : Noted κ)) (start ([], inner)) :=
    ⟨⟨⟨rfl, .none⟩, fun _ => rfl⟩, rfl, rfl⟩
  have hTick : ∀ milliseconds (handler handler' : Handler (Noted κ)),
      handler.Akin .recording handler' →
        (tick milliseconds handler).Akin .recording (tick milliseconds handler') :=
    fun milliseconds handler handler' hAkin => hAkin.passTime _ milliseconds
  obtain ⟨hAfter, hResponses, hPauses⟩ :=
    (inStep_answers Masking.sound_recording connector.noted.blind_recording h _ _ hStart).run hTick
  refine ⟨fun index hOther => hResponses index (.inr hOther), ?_, hAfter.view_eq⟩
  rw [← List.forall₂_eq_eq_eq, List.forall₂_map_left_iff, List.forall₂_map_right_iff]
  refine hPauses.imp ?_
  rintro ⟨paused, wait⟩ ⟨paused', _⟩ ⟨hAkin, rfl⟩
  rw [hAkin.view_eq]

/-- One read takes too long, the next one finds the line broken and the last one crashes. -/
theorem recording_changes_only_records_through_failures :
    let requests (config : Config) := [Request.connect config none, .read "a:b=c" "X" (some 10),
      .stats, .read "a:b=c" "X" none, .read "a:b=c" "Y" none]
    let silent := Config.ofHost "h" 1
    let recorded := { silent with recordsStats := true, statsCapacity := 1 }
    let script : Script := { replies := [{}, { delay := 50 }, { effect := .fail (.io "gone" "") }, {},
      { effect := .crash "boom" }] }
    let tick := passTime fun _ (noted : Noted Script) => noted
    let course (config : Config) :=
      (requests config).mapM (answer Script.connector.noted) (.start ([], script))
    ((course silent).run tick).1[2]? = some (.error (.jmx "internal stats not activated" "" "")) ∧
    ((course recorded).run tick).1[2]?.map Response.kind = some "internalStats" ∧
    ((course recorded).run tick).1[4]? =
      some (.error (.jmx "failed to execute operation, error: boom" "" "")) ∧
    (∀ index : Nat, (requests silent)[index]? ≠ some .stats →
      ((course silent).run tick).1[index]? = ((course recorded).run tick).1[index]?) ∧
    ((course silent).pauses tick).map (fun pause => (pause.1.view, pause.2)) =
      ((course recorded).pauses tick).map (fun pause => (pause.1.view, pause.2)) ∧
    ((course silent).run tick).2.view = ((course recorded).run tick).2.view := by
  intro requests silent recorded script tick course
  have hRequests : List.Forall₂ (Request.Akin .recording) (requests silent) (requests recorded) :=
    .cons (.connect none rfl) (.cons (.same _) (.cons (.same _) (.cons (.same _)
      (.cons (.same _) .nil))))
  exact ⟨by decide +kernel, by decide +kernel, by decide +kernel,
    recording_changes_only_records Script.connector (fun _ inner => inner) script hRequests⟩

end Handler

end BeanBridge
