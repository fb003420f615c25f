import BeanBridge.Connector.Memory
import BeanBridge.Proofs.Dialogue
import BeanBridge.Service.Handler

/-! Requests that name a bean by a text that is no name.  They are refused before anything is asked of
the session, so a run goes as it would without them. -/

namespace BeanBridge

/-- The response to a request that names a bean by a text with a flaw. -/
def BeanName.Flaw.refusal (flaw : BeanName.Flaw) (text : String) : Response :=
  .error (.jmx ("cannot parse MBean glob pattern: '" ++ text ++ "', valid: 'DOMAIN:BEAN'")
    (flaw.message text) "")

namespace Request

/-- The text by which the request names a bean or a pattern. -/
def nameText? : Request → Option String
  | ping | version | connect .. | disconnect | stats => none
  | beanNames text _ | attributeNames text _ | read text _ _ | readMany text _ _
  | queryMany text _ _ => some text

/-- What the request is refused with, if its text is no name. -/
def refusal? (request : Request) : Option Response :=
  request.nameText?.bind fun text =>
    match BeanName.parse text with
    | .ok _ => none
    | .error flaw => some (flaw.refusal text)

theorem refusal?_eq_some_iff {request : Request} {refusal : Response} :
    request.refusal? = some refusal ↔ ∃ text flaw, request.nameText? = some text ∧
      BeanName.parse text = .error flaw ∧ refusal = flaw.refusal text := by
  rw [refusal?, Option.bind_eq_some_iff]
  constructor
  · rintro ⟨text, hText, hRefusal⟩
    cases hParse : BeanName.parse text with
    | ok name =>
      rw [hParse] at hRefusal
      nomatch hRefusal
    | error flaw =>
      rw [hParse] at hRefusal
      exact ⟨text, flaw, hText, hParse, (Option.some.inj hRefusal).symm⟩
  · rintro ⟨text, flaw, hText, hParse, rfl⟩
    refine ⟨text, hText, ?_⟩
    rw [hParse]

end Request

namespace Handler

variable {κ : Type} (connector : Connector κ)

theorem perform_onName_of_error {text : String} {flaw : BeanName.Flaw}
    (h : BeanName.parse text = .error flaw) (timeout : Option Int64)
    (operation : BeanName → Operation) :
    perform connector timeout (Fetcher.onName text operation) = pure (flaw.refusal text) := by
  rw [Fetcher.onName, BeanName.parseForOperation, h]
  rfl

/-- No time passes before the refusal, and nothing changes. -/
theorem answer_of_error {request : Request} {text : String} {flaw : BeanName.Flaw}
    (hText : request.nameText? = some text) (hParse : BeanName.parse text = .error flaw) :
    answer connector request = pure (flaw.refusal text) := by
  cases request with
  | ping | version | connect | disconnect | stats => nomatch hText
  | beanNames _ timeout | attributeNames _ timeout | read _ _ timeout | readMany _ _ timeout
  | queryMany _ _ timeout =>
    obtain rfl := Option.some.inj hText
    exact perform_onName_of_error connector hParse timeout _

theorem flow_of_nameText? {request : Request} {text : String}
    (hText : request.nameText? = some text) : flow request = .carryOn := by
  cases request with
  | disconnect => nomatch hText
  | _ => rfl

/-- A run of requests is the run of those whose names can be read, with the refusals of the others
in between. -/
theorem mapM_answer_eq_fill (requests : List Request) :
    requests.mapM (answer connector) = do
      let responses ← (requests.filter (·.refusal?.isNone)).mapM (answer connector)
      return Fetcher.fill (requests.map Request.refusal?) responses := by
  induction requests with
  | nil => rfl
  | cons request requests ih =>
    rw [List.mapM_cons, ih]
    cases hRefusal : request.refusal? with
    | none =>
      rw [List.filter_cons_of_pos (by simp [hRefusal]), List.mapM_cons]
      simp only [bind_assoc, pure_bind, List.map_cons, hRefusal, Fetcher.fill]
    | some refusal =>
      obtain ⟨text, flaw, hText, hParse, rfl⟩ := Request.refusal?_eq_some_iff.mp hRefusal
      rw [List.filter_cons_of_neg (by simp [hRefusal]), answer_of_error connector hText hParse]
      simp only [bind_assoc, pure_bind, List.map_cons, hRefusal, Fetcher.fill]

/-- A text that is no name never disturbs the bridge.  Whatever state the handler is in, a request
with such a text is at once refused for its flaw, the state stays as it is, and the service goes on;
so every run, in all its time, is the run without such requests, with their refusals put in their
places. -/
theorem malformed_names_change_nothing :
    (∀ (request : Request) (text : String) (flaw : BeanName.Flaw),
      request.nameText? = some text → BeanName.parse text = .error flaw →
        (∀ handler, answer connector request handler =
          .done handler (.error (.jmx
            ("cannot parse MBean glob pattern: '" ++ text ++ "', valid: 'DOMAIN:BEAN'")
            (flaw.message text) ""))) ∧
        flow request = .carryOn) ∧
    ∀ requests : List Request, requests.mapM (answer connector) = do
      let responses ← (requests.filter (·.refusal?.isNone)).mapM (answer connector)
      return Fetcher.fill (requests.map Request.refusal?) responses := by
  constructor
  · intro request text flaw hText hParse
    refine ⟨fun handler => ?_, flow_of_nameText? hText⟩
    rw [answer_of_error connector hText hParse]
    rfl
  · exact mapM_answer_eq_fill connector

/-- The next call over the session is going to fail, and calls are recorded.  The malformed name
neither takes the failure nor leaves a record. -/
theorem malformed_names_change_nothing_before_failure :
    let memory : Memory :=
      { beans := [("a:b=c", ⟨⟨"a", [⟨"b", "c", false⟩], false⟩, [("X", .integer 1)], [], none⟩)]
        nextFailure := some (.remote "T" "refused" "") }
    let malformed := Request.queryMany "bogus" ["X"] (some 1)
    let requests := [.connect { Config.ofHost "h" 1 with recordsStats := true } none, malformed,
      .read "a:b=c" "X" none, .read "a:b=c" "X" none, .stats]
    let refusal : Response := .error (.jmx
      "cannot parse MBean glob pattern: 'bogus', valid: 'DOMAIN:BEAN'"
      "invalid bean name 'bogus': missing domain separator ':'" "")
    ((requests.mapM (answer Memory.connector) (.start memory)).run Handler.tick).1 =
      [.connected, refusal,
        .error (.jmx "can't get attribute: X for bean: a:b=c: " "refused" ""),
        .attributes [.ofScalar "a:b=c,attr=X" (.int 1)],
        .stats [{ kind := "connect", successful := true },
          { kind := "getAttribute", bean := "a:b=c", attributes := ["X"] },
          { kind := "getAttribute", bean := "a:b=c", attributes := ["X"], responseCount := 1
            successful := true }]] ∧
      (∀ handler, answer Memory.connector malformed handler = .done handler refusal) ∧
      requests.mapM (answer Memory.connector) = do
        let responses ← (requests.filter (·.refusal?.isNone)).mapM (answer Memory.connector)
        return Fetcher.fill (requests.map Request.refusal?) responses := by
  intro memory malformed requests refusal
  have hChanges := malformed_names_change_nothing Memory.connector
  refine ⟨by decide +kernel, fun handler => ?_, hChanges.2 requests⟩
  have hParse : BeanName.parse "bogus" = .error .noDomain := rfl
  exact (hChanges.1 malformed "bogus" .noDomain rfl hParse).1 handler

end Handler

end BeanBridge
