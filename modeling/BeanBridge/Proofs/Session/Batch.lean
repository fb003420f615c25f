import BeanBridge.Proofs.Connector.Furnished
import BeanBridge.Proofs.Session.Reading
import BeanBridge.Proofs.Value.Leaves

/-! Attributes read together against attributes read one by one.  Where a batch delivers a value both
ways make the same entries of it; where it does not, both report one failure, which the batch moves
behind the values. -/

namespace BeanBridge

/-! ### Lists of entries -/

namespace Entry

/-- The entry without the words about a failure. -/
def unexplained (entry : Entry) : Entry :=
  if entry.isError then { entry with status := "" } else entry

/-- The lists hold the same entries, but for the words about failures and where these stand among
the others. -/
structure Agree (entries others : List Entry) : Prop where
  perm : (entries.map unexplained).Perm (others.map unexplained)
  valid : entries.filter (!·.isError) = others.filter (!·.isError)

theorem Agree.refl (entries : List Entry) : Agree entries entries := ⟨.refl _, rfl⟩

theorem Agree.trans {entries others further : List Entry} (h : Agree entries others)
    (hNext : Agree others further) : Agree entries further :=
  ⟨h.perm.trans hNext.perm, h.valid.trans hNext.valid⟩

theorem Agree.append {entries others entries' others' : List Entry} (h : Agree entries others)
    (h' : Agree entries' others') : Agree (entries ++ entries') (others ++ others') := by
  constructor
  · rw [List.map_append, List.map_append]
    exact h.perm.append h'.perm
  · rw [List.filter_append, List.filter_append, h.valid, h'.valid]

/-- A failure can be reported before what stands before it. -/
theorem agree_middle {entry : Entry} (h : entry.isError = true) (front back : List Entry) :
    Agree (front ++ entry :: back) (entry :: (front ++ back)) := by
  constructor
  · simp only [List.map_append, List.map_cons]
    exact List.perm_middle
  · simp [h]

/-- Failures of one attribute agree, whatever their words. -/
theorem agree_failed (name status status' : String) :
    Agree [failed name status] [failed name status'] :=
  ⟨.refl _, rfl⟩

end Entry

/-- The value that a batch delivers of an attribute. -/
def Memory.Bean.delivered? (row : Bean) (name : String) : Option Value :=
  match row.failing.lookup name with
  | some _ => none
  | none => row.attributes.lookup name

theorem Memory.Bean.readMany_eq {row : Bean} (h : row.batchFailure = none) (names : List String) :
    row.readMany names =
      .ok (names.filterMap fun name => (row.delivered? name).map (name, ·)) := by
  have hValue (name : String) :
      (if (row.failing.lookup name).isNone = true then (row.attributes.lookup name).map (name, ·)
        else none) = (row.delivered? name).map (name, ·) := by
    rw [delivered?]
    cases row.failing.lookup name with
    | some error => rfl
    | none => rfl
  rw [readMany, h, List.filterMap_filter]
  simp only [hValue]

/-- A single read delivers the same value, or else fails. -/
theorem Memory.Bean.read_of_delivered {row : Bean} {name : String} {value : Value}
    (h : row.delivered? name = some value) : row.read name = .ok value := by
  rw [delivered?] at h
  rw [read]
  cases hFailing : row.failing.lookup name with
  | some error => rw [hFailing] at h; cases h
  | none =>
    rw [hFailing] at h
    change row.attributes.lookup name = some value at h
    simp only [h]

theorem Memory.Bean.read_of_not_delivered {row : Bean} {name : String}
    (h : row.delivered? name = none) : ∃ error, row.read name = .error error := by
  rw [delivered?] at h
  rw [read]
  cases hFailing : row.failing.lookup name with
  | some error => exact ⟨error, rfl⟩
  | none =>
    rw [hFailing] at h
    change row.attributes.lookup name = none at h
    simp only [h]
    exact ⟨_, rfl⟩

namespace Session

/-! ### The bookkeeping of a batch -/

/-- A name of which there is no value stays missing. -/
theorem missing_cons {name : String} {values : List (String × Value)}
    (h : ∀ pair ∈ values, pair.1 ≠ name) (names : List String) :
    missing (name :: names) values = name :: missing names values := by
  induction values generalizing names with
  | nil => rfl
  | cons pair values ih =>
    obtain ⟨hPair, hValues⟩ := List.forall_mem_cons.mp h
    have hErase : (name :: names).erase pair.1 = name :: names.erase pair.1 :=
      List.erase_cons_tail (by simpa using Ne.symm hPair)
    show missing ((name :: names).erase pair.1) values = name :: missing (names.erase pair.1) values
    rw [hErase, ih hValues]

/-- Missing are the names, in order and as often as they come, of which no value was delivered. -/
theorem missing_delivered (deliver : String → Option Value) (names : List String) :
    missing names (names.filterMap fun name => (deliver name).map (name, ·)) =
      names.filter fun name => (deliver name).isNone := by
  induction names with
  | nil => rfl
  | cons name names ih =>
    cases hDeliver : deliver name with
    | some value =>
      rw [List.filterMap_cons_some (by rw [hDeliver]; rfl),
        List.filter_cons_of_neg (by simp [hDeliver]), ← ih]
      show missing ((name :: names).erase name) _ = _
      rw [List.erase_cons_head]
    | none =>
      have hValues : ∀ pair ∈ names.filterMap fun name => (deliver name).map (name, ·),
          pair.1 ≠ name := by
        rintro pair hPair rfl
        obtain ⟨other, -, hOther⟩ := List.mem_filterMap.mp hPair
        obtain ⟨value, hValue, rfl⟩ := Option.map_eq_some_iff.mp hOther
        cases hDeliver.symm.trans hValue
      rw [List.filterMap_cons_none (by rw [hDeliver]; rfl),
        List.filter_cons_of_pos (by simp [hDeliver]), missing_cons hValues, ih]

/-- The entries of a value agree with those of a single read. -/
theorem agree_entriesOf (bean : BeanName) (name : String) (value : Value) :
    Entry.Agree (entriesOf bean name value) (reported bean name (fetched bean name (.ok value))) := by
  show Entry.Agree (entriesOf bean name value) (reported bean name
    ((value.flatten (qualifiedName bean name)).mapError _))
  rw [entriesOf]
  cases value.flatten (qualifiedName bean name) with
  | ok entries => exact .refl entries
  | error reason => exact Entry.agree_failed _ _ _

theorem agree_batchEntries {row : Memory.Bean} (h : row.batchFailure = none) (bean : BeanName)
    (names : List String) {values : List (String × Value)}
    (hValues : row.readMany names = .ok values) :
    Entry.Agree (batchEntries bean names values) (entriesEach row bean names) := by
  rw [Memory.Bean.readMany_eq h] at hValues
  obtain rfl := Except.ok.inj hValues
  rw [batchEntries, missing_delivered]
  clear hValues
  induction names with
  | nil => exact .refl []
  | cons name names ih =>
    rw [entriesEach, List.flatMap_cons]
    cases hDelivered : row.delivered? name with
    | some value =>
      have hAppend := (agree_entriesOf bean name value).append ih
      rw [Memory.Bean.read_of_delivered hDelivered]
      simpa [hDelivered, entriesEach] using hAppend
    | none =>
      obtain ⟨error, hError⟩ := Memory.Bean.read_of_not_delivered hDelivered
      rw [hError, List.filterMap_cons_none (by rw [hDelivered]; rfl),
        List.filter_cons_of_pos (by simp [hDelivered]), List.map_cons]
      exact (Entry.agree_middle rfl _ _).trans
        ((Entry.agree_failed (qualifiedName bean name) _ _).append ih)

/-- However attributes are read, the entries agree with those of single reads. -/
theorem agree_entriesNamed (row : Memory.Bean) (bean : BeanName) (names : List String) :
    Entry.Agree (entriesNamed row bean names) (entriesEach row bean names) := by
  rw [entriesNamed]
  cases hRead : row.readMany names with
  | error error => exact .refl _
  | ok values =>
    cases hBatch : row.batchFailure with
    | none => exact agree_batchEntries hBatch bean names hRead
    | some error => rw [Memory.Bean.readMany, hBatch] at hRead; cases hRead

end Session

/-- With a failure set up for batches on a bean, its attributes are read one by one; both readings
succeed, and their entries agree. -/
theorem Session.batch_agrees_with_single_reads (library : RegexLibrary) {memory injured : Memory}
    {session : Session}
    {handle : SessionHandle} {bean : BeanName} {text : String} {error : ConnectorError}
    {names : List String} (hSession : session.connection.session = some handle)
    (hLive : handle ∈ memory.live) (hCalm : memory.Calm)
    (hMild : ∀ row, memory.find bean = .ok row → row.Mild) (hNames : names ≠ [])
    (hText : (BeanName.parse text).map BeanName.canonicalText = .ok bean.canonicalText)
    (hError : error.isIo = false) (hInjured : memory.failBatch text error = .ok injured) :
    ∃ stats stats' entries entries',
      (readMany bean names).answeredBy (Memory.connector library) (session, memory) =
        .done ({ session with stats }, memory) (.value ⟨entries, none⟩) ∧
      (readMany bean names).answeredBy (Memory.connector library) (session, injured) =
        .done ({ session with stats := stats' }, injured) (.value ⟨entries', none⟩) ∧
      (entries.map Entry.unexplained).Perm (entries'.map Entry.unexplained) ∧
      entries.filter (!·.isError) = entries'.filter (!·.isError) := by
  obtain ⟨name, row, hParse, hRow, rfl⟩ := Memory.changeBean_eq_ok hInjured
  have hName : name.canonicalText = bean.canonicalText := by
    rw [hParse] at hText
    exact Except.ok.inj hText
  rw [hName] at hRow ⊢
  have hFind := Memory.find_eq_ok_iff.mpr hRow
  have hRowMild := hMild row hFind
  have hRowMild' : Memory.Bean.Mild { row with batchFailure := some error } := by
    refine ⟨hRowMild.failing, ?_⟩
    rintro failure ⟨⟩
    exact hError
  have hEase : AtEase session.connection memory handle := ⟨hSession, hLive, hCalm⟩
  have hEase' : AtEase session.connection (memory.withBean bean.canonicalText
      { row with batchFailure := some error }) handle :=
    ⟨hSession, hLive, hCalm.withBean _ _⟩
  obtain ⟨stats, hRun⟩ := hEase.comesTo_readMany hFind hRowMild hNames session.stats
  obtain ⟨stats', hRun'⟩ :=
    hEase'.comesTo_readMany (memory.find_withBean bean _) hRowMild' hNames session.stats
  have hAgree := agree_entriesNamed row bean names
  exact ⟨stats, stats', _, _, hRun, hRun', hAgree.perm, hAgree.valid⟩

/-- A failing attribute, one that is not there, one without a usable value, and one asked for
twice. -/
theorem Session.batch_agrees_with_single_reads_odd_attributes :
    let session : Session := { connection := { session := some ⟨0⟩ } }
    let names := ["c", "x", "a", "b", "a"]
    ∃ injured, Memory.sample.failBatch "d:k=v" (.protocol "no batches") = .ok injured ∧
      ∃ stats stats' entries entries',
        (readMany Memory.sampleName names).answeredBy Memory.connector (session, Memory.sample) =
          .done ({ session with stats }, Memory.sample) (.value ⟨entries, none⟩) ∧
        (readMany Memory.sampleName names).answeredBy Memory.connector (session, injured) =
          .done ({ session with stats := stats' }, injured) (.value ⟨entries', none⟩) ∧
        (entries.map Entry.unexplained).Perm (entries'.map Entry.unexplained) ∧
        entries.filter (!·.isError) = entries'.filter (!·.isError) := by
  intro session names
  have hInjured : Memory.sample.failBatch "d:k=v" (.protocol "no batches") = .ok _ :=
    Memory.changeBean_sample rfl _
  have hMild : ∀ row, Memory.sample.find Memory.sampleName = .ok row → row.Mild := by
    intro row hRow
    obtain rfl := Except.ok.inj (Memory.find_sampleName.symm.trans hRow)
    exact Memory.mild_sampleBean
  have hText : (BeanName.parse "d:k=v").map BeanName.canonicalText =
      .ok Memory.sampleName.canonicalText := by
    rw [Memory.parse_sampleName]
    rfl
  exact ⟨_, hInjured, batch_agrees_with_single_reads .ofPatterns rfl (List.mem_singleton_self _)
    Memory.calm_sample hMild (List.cons_ne_nil _ _) hText rfl hInjured⟩

end BeanBridge
