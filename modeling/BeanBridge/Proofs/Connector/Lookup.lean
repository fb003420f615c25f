import BeanBridge.Proofs.BeanName.Selection
import BeanBridge.Proofs.Connector.Furnished

/-! The bean that a name without wildcards stands for.  A query selects names one by one, and a look-up
goes by the canonical text; in a table that was set up by the texts of names both come to the same
bean, or both to none, as long as the expression for the domain compiles. -/

namespace BeanBridge

namespace Value

variable {α : Type} {fields : List (String × α)}

/-- One field at most has the name. -/
theorem Sorted.filter_name (h : Sorted fields) (name : String) :
    fields.filter (fun field => decide (field.1 = name)) =
      ((fields.lookup name).map fun value => (name, value)).toList := by
  induction fields with
  | nil => rfl
  | cons first fields ih =>
    obtain ⟨k, v⟩ := first
    obtain ⟨hFirst, hFields⟩ := List.pairwise_cons.mp h
    rw [List.filter_cons, lookup_cons]
    by_cases hName : k = name
    · subst hName
      have hNone : fields.filter (fun field => decide (field.1 = k)) = [] := by
        refine List.filter_eq_nil_iff.mpr fun field hField => ?_
        simpa using (String.ne_of_lt (hFirst field hField)).symm
      simp [hNone]
    · rw [if_neg (by simpa using hName), if_neg fun h => hName h.symm, ih hFields]

end Value

namespace Memory

variable {library : RegexLibrary} {memory : Memory} {session : SessionHandle} {bean : BeanName}
  {row : Bean}

/-- The answer to a call, and the table then, while nothing else happens to it. -/
def answer (library : RegexLibrary) (memory : Memory) (call : Call) : Outcome call.Reply × Memory :=
  (connector library call memory).run fun _ memory => memory

/-- No failure was set up, neither for the next call nor for a bean or an attribute. -/
structure Faultless (memory : Memory) : Prop where
  nextFailure : memory.nextFailure = none
  explosive : memory.explosive = []
  failing : ∀ row ∈ memory.beans, row.2.failing = []
  batchFailure : ∀ row ∈ memory.beans, row.2.batchFailure = none

/-- What is answered about a bean that is not in the table. -/
def unknown (bean : BeanName) : ConnectorError :=
  .remote "javax.management.InstanceNotFoundException" bean.text ""

/-- All calls about a name come to the row, and the query to the name it is registered under. -/
structure Finds (library : RegexLibrary) (memory : Memory) (session : SessionHandle)
    (bean : BeanName) (row : Bean) : Prop where
  registered : (row.name.canonicalText, row) ∈ memory.beans
  query : memory.answer library (.names session bean) = (.value (.ok [row.name]), memory)
  describe : memory.answer library (.describe session bean) = (.value (.ok row.info), memory)
  /-- Only the attribute can be missing. -/
  read : ∀ name, memory.answer library (.read session bean name) =
    (.value (match row.attributes.lookup name with
      | some value => .ok value
      | none => .error (.remote "javax.management.AttributeNotFoundException"
          ("No such attribute: " ++ name) "")), memory)
  readMany : ∀ names, memory.answer library (.readMany session bean names) =
    (.value (.ok (names.filterMap fun name => (row.attributes.lookup name).map (name, ·))), memory)

/-- All calls about a name come to no row. -/
structure Misses (library : RegexLibrary) (memory : Memory) (session : SessionHandle)
    (bean : BeanName) : Prop where
  query : memory.answer library (.names session bean) = (.value (.ok []), memory)
  describe : memory.answer library (.describe session bean) = (.value (.error (unknown bean)), memory)
  read : ∀ name, memory.answer library (.read session bean name) =
    (.value (.error (unknown bean)), memory)
  readMany : ∀ names, memory.answer library (.readMany session bean names) =
    (.value (.error (unknown bean)), memory)

/-- Over an open session the answer is given, at once or after the wait. -/
theorem Faultless.run_answered {α : Type} (h : memory.Faultless) (hLive : session ∈ memory.live)
    (reply : Memory → Outcome (Except ConnectorError α)) :
    (answered session reply memory).run (fun _ memory => memory) = (reply memory, memory) := by
  rw [answered, Action.bind_apply, enter, Action.get_bind_apply, if_neg (not_not_intro hLive),
    h.nextFailure]
  cases hDelay : memory.delay <;> rfl

theorem Faultless.unlessExplosive (h : memory.Faultless) {α : Type} (names : List String)
    (reply : Except ConnectorError α) : memory.unlessExplosive names reply = .value reply := by
  have hNone : names.find? (· ∈ memory.explosive) = none := by simp [h.explosive]
  rw [Memory.unlessExplosive, hNone]

/-- The query for a name without wildcards selects what is looked up. -/
theorem Orderly.select_single (h : memory.Orderly) (hLibrary : library.Documented)
    (hCompiles : library.Compiles bean.domain) {text : String}
    (hParse : BeanName.parse text = .ok bean) (hSingle : bean.isPattern = false) :
    memory.select bean library =
      ((memory.beans.lookup bean.canonicalText).map Bean.name).toList := by
  have hSelects : memory.beans.filter
        ((fun name => bean.selects name library) ∘ fun row => row.2.name) =
      memory.beans.filter fun row => decide (row.1 = bean.canonicalText) := by
    refine List.filter_congr fun row hRow => ?_
    obtain ⟨hName, text, hText⟩ := h.named row hRow
    have hKey := BeanName.selects_iff_canonicalText hLibrary hCompiles hParse hText hSingle
    rw [← hName, eq_comm (b := row.1)] at hKey
    exact Bool.eq_iff_iff.mpr (hKey.trans decide_eq_true_iff.symm)
  rw [select, List.filter_map, hSelects, h.sorted.filter_name]
  cases memory.beans.lookup bean.canonicalText <;> rfl

theorem Faultless.finds (h : memory.Faultless) (hLive : session ∈ memory.live)
    (hOrderly : memory.Orderly) (hSelect : memory.select bean library = [row.name])
    (hRow : memory.beans.lookup bean.canonicalText = some row) :
    Finds library memory session bean row where
  registered := by
    have hMem := Value.mem_of_lookup hRow
    rwa [← (hOrderly.named _ hMem).key]
  query := by
    rw [answer, connector, h.run_answered hLive, hSelect]
  describe := by
    rw [answer, connector, h.run_answered hLive, find_eq_ok_iff.mpr hRow]
    rfl
  read name := by
    have hFailing : row.failing = [] := h.failing _ (Value.mem_of_lookup hRow)
    rw [answer, connector, h.run_answered hLive, h.unlessExplosive, find_eq_ok_iff.mpr hRow]
    cases hValue : row.attributes.lookup name <;>
      simp [Except.bind, Bean.read, hFailing, hValue]
  readMany names := by
    have hFailing : row.failing = [] := h.failing _ (Value.mem_of_lookup hRow)
    have hBatch : row.batchFailure = none := h.batchFailure _ (Value.mem_of_lookup hRow)
    rw [answer, connector, h.run_answered hLive, h.unlessExplosive, find_eq_ok_iff.mpr hRow]
    simp [Except.bind, Bean.readMany, hFailing, hBatch]

theorem Faultless.misses (h : memory.Faultless) (hLive : session ∈ memory.live)
    (hSelect : memory.select bean library = [])
    (hNone : memory.beans.lookup bean.canonicalText = none) : Misses library memory session bean := by
  have hFind : memory.find bean = .error (unknown bean) := by
    rw [find, hNone]
    rfl
  constructor
  · rw [answer, connector, h.run_answered hLive, hSelect]
  · rw [answer, connector, h.run_answered hLive, hFind]
    rfl
  · intro name
    rw [answer, connector, h.run_answered hLive, h.unlessExplosive, hFind]
    rfl
  · intro names
    rw [answer, connector, h.run_answered hLive, h.unlessExplosive, hFind]
    rfl

/-- A name without wildcards selects just the names with its canonical text, if the expression for its
domain compiles.  So in a table that was set up by the texts of names, the query for it and all calls
about it come to the same bean or to none. -/
theorem single_name_stands_for_one_bean (hLibrary : library.Documented)
    (hCompiles : library.Compiles bean.domain) {text : String}
    (hParse : BeanName.parse text = .ok bean) (hSingle : bean.isPattern = false) :
    (∀ textOther other, BeanName.parse textOther = .ok other →
      (bean.selects other library = true ↔ bean.canonicalText = other.canonicalText)) ∧
    ∀ memory session, Furnished memory → memory.Faultless → session ∈ memory.live →
      (∃ row, Finds library memory session bean row) ∨ Misses library memory session bean := by
  have hSelects (textOther : String) (other : BeanName)
      (hOther : BeanName.parse textOther = .ok other) :=
    BeanName.selects_iff_canonicalText hLibrary hCompiles hParse hOther hSingle
  refine ⟨hSelects, ?_⟩
  intro memory session hFurnished hFaultless hLive
  have hSelect := hFurnished.orderly.select_single hLibrary hCompiles hParse hSingle
  cases hRow : memory.beans.lookup bean.canonicalText with
  | some row =>
    rw [hRow] at hSelect
    exact .inl ⟨row, hFaultless.finds hLive hFurnished.orderly hSelect hRow⟩
  | none =>
    rw [hRow] at hSelect
    exact .inr (hFaultless.misses hLive hSelect hRow)

/-- A bean is registered with its properties in one order and asked for in the other, over an
endpoint that takes its time. -/
theorem single_name_stands_for_one_bean_reordered :
    let registered := "d:k=\"\\*,\",j=1"
    let asked := "d:j=1,k=\"\\*,\""
    let session : SessionHandle := ⟨0⟩
    ∃ name bean row memory, BeanName.parse registered = .ok name ∧
      BeanName.parse asked = .ok bean ∧ bean.isPattern = false ∧ row.name = name ∧
      addBean { live := [session], openCount := 1, delay := some 5 } registered [("a", .integer 1)] =
        .ok memory ∧
      Furnished memory ∧ memory.Faultless ∧ session ∈ memory.live ∧
      RegexLibrary.ofPatterns.Documented ∧ RegexLibrary.ofPatterns.Compiles bean.domain ∧
      Finds .ofPatterns memory session bean row := by
  intro registered asked session
  let k : BeanName.Clause := ⟨['k'], .quoted [.escaped '*', .plain ',']⟩
  let j : BeanName.Clause := ⟨['j'], .bare ['1']⟩
  let first : BeanName.Spelling := ⟨['d'], [.clause k, .clause j]⟩
  let second : BeanName.Spelling := ⟨['d'], [.clause j, .clause k]⟩
  have hRegistered : first.Spells registered := by decide +kernel
  have hAsked : second.Spells asked := by decide +kernel
  have hName := BeanName.parse_of_spells hRegistered
  have hBean := BeanName.parse_of_spells hAsked
  let bare : Memory := { live := [session], openCount := 1, delay := some 5 }
  let row : Bean := { name := first.name, attributes := Value.sortFields [("a", .integer 1)] }
  let memory : Memory := { bare with beans := [(first.name.canonicalText, row)] }
  have hAdd : addBean bare registered [("a", .integer 1)] = .ok memory := by
    rw [addBean, canonical_of_parse hName]
    rfl
  have hFurnished : Furnished memory := .addBean (.empty bare rfl) hAdd
  have hFaultless : memory.Faultless := ⟨rfl, rfl, by simp [memory, row], by simp [memory, row]⟩
  have hLive : session ∈ memory.live := List.mem_cons_self
  have hSingle : second.name.isPattern = false := by decide +kernel
  have hLibrary := RegexLibrary.documented_ofPatterns
  have hCompiles : RegexLibrary.ofPatterns.Compiles second.name.domain := by decide +kernel
  obtain ⟨hSelects, hCalls⟩ := single_name_stands_for_one_bean hLibrary hCompiles hBean hSingle
  refine ⟨_, _, row, memory, hName, hBean, hSingle, rfl, hAdd, hFurnished, hFaultless, hLive, hLibrary,
    hCompiles, ?_⟩
  rcases hCalls memory session hFurnished hFaultless hLive with ⟨found, hFinds⟩ | hMisses
  · obtain ⟨-, rfl⟩ := Prod.mk.inj (List.mem_singleton.mp hFinds.registered)
    exact hFinds
  · have hSame := (BeanName.Spelling.canonicalText_eq_iff_sameBean hAsked.1 hRegistered.1).mpr
      ⟨rfl, fun pair => by simp [BeanName.pairs, BeanName.Spelling.name,
        BeanName.Spelling.clauses, BeanName.SpelledEntry.clauses, first, second, or_comm]⟩
    have hQuery := hMisses.query
    rw [answer, connector, hFaultless.run_answered hLive] at hQuery
    simp [select, memory, row, (hSelects _ _ hName).mpr hSame] at hQuery

/-- The expression for a domain of half a million letters does not compile, so a query for the name
returns nothing, where the look-up finds the bean that is registered under it. -/
theorem long_name_is_looked_up_but_not_found :
    let text := String.ofList (BeanName.longSpelling 500000).text
    let name := (BeanName.longSpelling 500000).name
    let session : SessionHandle := ⟨0⟩
    ∃ (memory : Memory) (row : Bean), BeanName.parse text = .ok name ∧ name.isPattern = false ∧
      addBean { live := [session], openCount := 1 } text [("a", .integer 1)] = .ok memory ∧
      Furnished memory ∧ memory.Faultless ∧ session ∈ memory.live ∧ row.name = name ∧
      name.selects name = false ∧
      memory.answer .ofPatterns (.names session name) = (.value (.ok []), memory) ∧
      memory.answer .ofPatterns (.describe session name) = (.value (.ok row.info), memory) := by
  intro text name session
  let bare : Memory := { live := [session], openCount := 1 }
  let row : Bean := { name, attributes := Value.sortFields [("a", .integer 1)] }
  have hParse : BeanName.parse text = .ok name := BeanName.parse_longSpelling _
  have hAdd : addBean bare text [("a", .integer 1)] = .ok (bare.withBean name.canonicalText row) := by
    rw [addBean, canonical_of_parse hParse]
    rfl
  have hFurnished : Furnished (bare.withBean name.canonicalText row) := .addBean (.empty bare rfl) hAdd
  have hFaultless : (bare.withBean name.canonicalText row).Faultless :=
    ⟨rfl, rfl, List.forall_mem_singleton.mpr rfl, List.forall_mem_singleton.mpr rfl⟩
  have hLive : session ∈ (bare.withBean name.canonicalText row).live := List.mem_cons_self
  have hSelects (other : BeanName) : name.selects other = false :=
    BeanName.selects_longSpelling (by decide) other
  have hSelect : (bare.withBean name.canonicalText row).select name .ofPatterns = [] := by
    simp [select, hSelects]
  refine ⟨_, row, hParse, BeanName.isPattern_longSpelling _, hAdd, hFurnished, hFaultless, hLive, rfl,
    hSelects name, ?_, ?_⟩
  · rw [answer, connector, hFaultless.run_answered hLive, hSelect]
  · rw [answer, connector, hFaultless.run_answered hLive, find_withBean]
    rfl

end Memory

end BeanBridge
