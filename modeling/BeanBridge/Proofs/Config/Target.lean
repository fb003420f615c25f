import BeanBridge.Config.Target
import BeanBridge.Proofs.Text.Numeral

/-! Ports in addresses.  Behind the port of an address there is nothing, or a slash that ends it; but
over remoting a path of one's own follows the port as it is given, and one that does not begin with a
slash runs into the port. -/

namespace BeanBridge.Config

/-- The beginning of an address, which tells the mode. -/
def scheme (isRemote isStandalone useTls : Bool) : String :=
  match isRemote, isStandalone, useTls with
  | false, _, _ => "service:jmx:rmi:///jndi/rmi://"
  | true, false, _ => "service:jmx:remote://"
  | true, true, false => "service:jmx:remote+http://"
  | true, true, true => "service:jmx:remote+https://"

/-- What stands behind the port. -/
def tail (config : Config) : String :=
  if config.isRemote then
    if config.effectivePath = defaultPath then "" else config.effectivePath ++ "/"
  else "/" ++ config.effectivePath

/-- Nothing divides the path from the port. -/
def runsOn (config : Config) : Bool :=
  config.isRemote && config.effectivePath != defaultPath &&
    config.effectivePath.toList.head? != some '/'

/-- The path goes on with digits where the port ends. -/
def lengthensPort (config : Config) : Bool := config.tail.toList.head?.any Char.isDigit

/-- The text is empty or begins with a slash. -/
def Delimits (text : String) : Prop := text = "" ∨ text.toList.head? = some '/'

theorem effectivePath_ne_empty (config : Config) : config.effectivePath ≠ "" := by
  rw [effectivePath]
  split
  · decide
  · next h => simpa using h

theorem exists_effectivePath_eq_cons (config : Config) :
    ∃ c text, config.effectivePath.toList = c :: text := by
  apply List.exists_cons_of_ne_nil
  intro h
  exact config.effectivePath_ne_empty (String.toList_eq_nil_iff.mp h)

theorem target_eq (config : Config) (h : config.url = "") :
    config.target = scheme config.isRemote config.isStandalone config.useTls ++ config.host ++ ":" ++
      toString config.port.toNat ++ config.tail := by
  have hUrl : config.url.isEmpty = true := by rw [h]; rfl
  rw [target, tail, hUrl]
  cases config.isRemote with
  | false => simp [scheme, authority, String.append_assoc]
  | true =>
    cases hStandalone : config.isStandalone <;> cases hTls : config.useTls <;>
      simp [scheme, authority, remoteProtocol, hStandalone, hTls, String.append_assoc]

theorem delimits_tail_iff (config : Config) : Delimits config.tail ↔ config.runsOn = false := by
  obtain ⟨c, text, hPath⟩ := config.exists_effectivePath_eq_cons
  rw [Delimits, tail, runsOn]
  cases hRemote : config.isRemote with
  | false => simp
  | true =>
    by_cases hDefault : config.effectivePath = defaultPath
    · simp [hDefault]
    · simp [hDefault, hPath]

/-- A slash ends the digits of a port. -/
theorem lengthensPort_of_runsOn {config : Config} (h : config.runsOn = false) :
    config.lengthensPort = false := by
  rw [lengthensPort]
  rcases config.delimits_tail_iff.mpr h with hEmpty | hSlash
  · rw [hEmpty]
    rfl
  · rw [hSlash]
    rfl

theorem port_eq_of_target_eq {config other : Config} (h : config.url = "") (hOther : other.url = "")
    (hHost : other.host = config.host) (hRemote : other.isRemote = config.isRemote)
    (hStandalone : other.isStandalone = config.isStandalone) (hTls : other.useTls = config.useTls)
    (hPort : config.lengthensPort = false) (hOtherPort : other.lengthensPort = false)
    (hTarget : other.target = config.target) : other.port = config.port := by
  rw [target_eq config h, target_eq other hOther, hHost, hRemote, hStandalone, hTls] at hTarget
  have hLetters := congrArg String.toList hTarget
  simp only [String.toList_append, Nat.toString_eq_ofList_toDigits, String.toList_ofList,
    List.append_assoc, List.append_cancel_left_eq] at hLetters
  exact UInt16.toNat_inj.mp (Text.toDigits_append_inj hOtherPort hPort hLetters).1

/-- The port stands apart from the path unless nothing divides them.  The address is what the mode
begins it with, the host, a colon, the port and a tail, and the tail is empty or begins with a slash
unless the path runs on.  So configurations that differ in the port have different addresses, as long
as the paths do not go on with digits where the ports end. -/
theorem port_stands_apart_unless_run_on (config : Config) (h : config.url = "") :
    (∃ tail, config.target = scheme config.isRemote config.isStandalone config.useTls ++
        config.host ++ ":" ++ toString config.port.toNat ++ tail ∧
      (Delimits tail ↔ config.runsOn = false)) ∧
    (config.runsOn = false → config.lengthensPort = false) ∧
    ∀ other : Config, other.url = "" → other.host = config.host →
      other.isRemote = config.isRemote → other.isStandalone = config.isStandalone →
      other.useTls = config.useTls → config.lengthensPort = false → other.lengthensPort = false →
      other.port ≠ config.port → other.target ≠ config.target := by
  refine ⟨⟨config.tail, target_eq config h, config.delimits_tail_iff⟩, lengthensPort_of_runsOn, ?_⟩
  intro other hOther hHost hRemote hStandalone hTls hPort hOtherPort hDiffer hTarget
  exact hDiffer (port_eq_of_target_eq h hOther hHost hRemote hStandalone hTls hPort hOtherPort
    hTarget)

/-- A path that begins with a slash and one that begins with a letter, behind ports of which one
continues the other. -/
theorem port_stands_apart_unless_run_on_of_prefixes :
    let config : Config := { host := "h", port := 1, path := "/0", isRemote := true }
    let other : Config := { host := "h", port := 10, path := "custom", isRemote := true }
    config.target = "service:jmx:remote://h:1/0/" ∧
      other.target = "service:jmx:remote://h:10custom/" ∧
      config.runsOn = false ∧ other.runsOn = true ∧ other.target ≠ config.target := by
  intro config other
  refine ⟨by decide +kernel, by decide +kernel, by decide +kernel, by decide +kernel, ?_⟩
  exact (port_stands_apart_unless_run_on config rfl).2.2 other rfl rfl rfl rfl rfl
    (by decide +kernel) (by decide +kernel) (by decide)

/-- Over remoting a path without a slash before it lengthens the port, so that the address of one
endpoint is that of another. -/
theorem path_runs_into_port :
    (¬ ∀ config : Config, config.url = "" → ∃ tail, config.target =
      scheme config.isRemote config.isStandalone config.useTls ++ config.host ++ ":" ++
        toString config.port.toNat ++ tail ∧ Delimits tail) ∧
    ∃ config other : Config, config.url = "" ∧ other.url = "" ∧ other.host = config.host ∧
      other.isRemote = config.isRemote ∧ other.isStandalone = config.isStandalone ∧
      other.useTls = config.useTls ∧ other.port ≠ config.port ∧ other.target = config.target := by
  let config : Config := { host := "h", port := 1, path := "0/x", isRemote := true }
  let other : Config := { host := "h", port := 10, path := "/x", isRemote := true }
  refine ⟨fun h => ?_, config, other, rfl, rfl, rfl, rfl, rfl, rfl, by decide, by decide +kernel⟩
  obtain ⟨tail, hTarget, hDelimits⟩ := h config rfl
  have hTail : tail = config.tail := by
    have hLetters := congrArg String.toList (hTarget.symm.trans (target_eq config rfl))
    simpa [String.toList_append, String.toList_inj] using hLetters
  have hApart : config.runsOn = false := (delimits_tail_iff config).mp (hTail ▸ hDelimits)
  exact absurd hApart (by decide +kernel)

end BeanBridge.Config
