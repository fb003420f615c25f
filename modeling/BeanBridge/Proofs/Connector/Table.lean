import BeanBridge.Connector.Memory
import BeanBridge.Proofs.Dialogue

/-! The table of an endpoint in memory: where a bean is found after the table was changed, and what
is answered over a session while nothing was set up to wait, to fail or to break down. -/

namespace BeanBridge

/-! ### Fields in the order of their names -/

namespace Value

variable {α : Type} {key : String} {value : α} {fields : List (String × α)}

theorem lookup_cons (name k : String) (v : α) (fields : List (String × α)) :
    ((k, v) :: fields).lookup name = if name = k then some v else fields.lookup name := by
  by_cases h : name = k
  · rw [if_pos h, h, List.lookup_cons_self]
  · rw [if_neg h, List.lookup_cons, beq_eq_false_iff_ne.mpr h]

/-- A field is found where it was put, and every other field as before. -/
theorem lookup_insertField (name : String) :
    (insertField key value fields).lookup name =
      if name = key then some value else fields.lookup name := by
  induction fields with
  | nil => rw [insertField, lookup_cons]
  | cons field fields ih =>
    obtain ⟨k, v⟩ := field
    rw [insertField]
    split
    · rw [lookup_cons]
    · split
      · next hKey =>
        rw [lookup_cons, lookup_cons, ← hKey]
        split
        · rfl
        · rfl
      · next hKey =>
        rw [lookup_cons, lookup_cons, ih]
        by_cases hName : name = k
        · rw [if_pos hName, if_pos hName, if_neg fun h => hKey (h.symm.trans hName)]
        · rw [if_neg hName, if_neg hName]

end Value

namespace Memory

variable {α : Type} {library : RegexLibrary} {memory : Memory} {session : SessionHandle}

/-- Nothing was set up for the calls over a session but what the table says. -/
structure Calm (memory : Memory) : Prop where
  nextFailure : memory.nextFailure = none
  delay : memory.delay = none
  explosive : memory.explosive = []

/-- No failure that was set up for the bean breaks a session. -/
structure Bean.Mild (bean : Bean) : Prop where
  failing : ∀ name error, bean.failing.lookup name = some error → error.isIo = false
  batchFailure : ∀ error, bean.batchFailure = some error → error.isIo = false

theorem Calm.answered (h : memory.Calm) (hLive : session ∈ memory.live)
    (answer : Memory → Outcome (Except ConnectorError α)) :
    answered session answer memory = .done memory (answer memory) := by
  rw [Memory.answered, Action.bind_apply, enter, Action.get_bind_apply,
    if_neg (not_not_intro hLive), h.nextFailure, h.delay]
  rfl

theorem Calm.unlessExplosive (h : memory.Calm) (names : List String)
    (answer : Except ConnectorError α) : memory.unlessExplosive names answer = .value answer := by
  have hNone : names.find? (· ∈ memory.explosive) = none := by simp [h.explosive]
  rw [Memory.unlessExplosive, hNone]

theorem Calm.names (h : memory.Calm) (hLive : session ∈ memory.live) (pattern : BeanName) :
    connector library (.names session pattern) memory =
      .done memory (.value (.ok (memory.select pattern library))) :=
  h.answered hLive _

theorem Calm.describe (h : memory.Calm) (hLive : session ∈ memory.live) {bean : BeanName}
    {row : Bean} (hFind : memory.find bean = .ok row) :
    connector library (.describe session bean) memory = .done memory (.value (.ok row.info)) := by
  refine (h.answered hLive _).trans ?_
  rw [hFind]
  rfl

theorem Calm.read (h : memory.Calm) (hLive : session ∈ memory.live) {bean : BeanName}
    {row : Bean} (hFind : memory.find bean = .ok row) (name : String) :
    connector library (.read session bean name) memory = .done memory (.value (row.read name)) := by
  refine (h.answered hLive _).trans ?_
  rw [h.unlessExplosive, hFind]
  rfl

theorem Calm.readMany (h : memory.Calm) (hLive : session ∈ memory.live) {bean : BeanName}
    {row : Bean} (hFind : memory.find bean = .ok row) (names : List String) :
    connector library (.readMany session bean names) memory =
      .done memory (.value (row.readMany names)) := by
  refine (h.answered hLive _).trans ?_
  rw [h.unlessExplosive, hFind]
  rfl

theorem Bean.Mild.read {row : Bean} (h : row.Mild) {name : String} {error : ConnectorError}
    (hRead : row.read name = .error error) : error.isIo = false := by
  rw [Bean.read] at hRead
  split at hRead
  · next failure hFailure =>
    obtain rfl := Except.error.inj hRead
    exact h.failing name _ hFailure
  · split at hRead
    · simp at hRead
    · obtain rfl := Except.error.inj hRead
      rfl

theorem Bean.Mild.readMany {row : Bean} (h : row.Mild) {names : List String}
    {error : ConnectorError} (hRead : row.readMany names = .error error) : error.isIo = false := by
  rw [Bean.readMany] at hRead
  split at hRead
  · next failure hFailure =>
    obtain rfl := Except.error.inj hRead
    exact h.batchFailure _ hFailure
  · simp at hRead

/-! ### Changes of the table -/

/-- The table with the bean put under the canonical name. -/
def withBean (memory : Memory) (key : String) (row : Bean) : Memory :=
  { memory with beans := Value.insertField key row memory.beans }

theorem find_eq_ok_iff {bean : BeanName} {row : Bean} :
    memory.find bean = .ok row ↔ memory.beans.lookup bean.canonicalText = some row := by
  rw [find]
  split
  · next found hFound => simp [hFound]
  · next hNone => simp [hNone]

theorem find_withBean (memory : Memory) (bean : BeanName) (row : Bean) :
    (memory.withBean bean.canonicalText row).find bean = .ok row := by
  rw [find_eq_ok_iff, withBean, Value.lookup_insertField, if_pos rfl]

theorem Calm.withBean (h : memory.Calm) (key : String) (row : Bean) :
    (memory.withBean key row).Calm :=
  ⟨h.nextFailure, h.delay, h.explosive⟩

theorem canonical_of_parse {text : String} {name : BeanName}
    (h : BeanName.parse text = .ok name) : canonical text = .ok name := by
  rw [canonical, h]
  rfl

/-- A bean is changed where its canonical name stands, and there is one. -/
theorem changeBean_eq_ok {text : String} {change : Bean → Bean} {changed : Memory}
    (h : memory.changeBean text change = .ok changed) :
    ∃ name row, BeanName.parse text = .ok name ∧
      memory.beans.lookup name.canonicalText = some row ∧
      changed = memory.withBean name.canonicalText (change row) := by
  rw [changeBean] at h
  cases hParse : BeanName.parse text with
  | error flaw => rw [canonical, hParse] at h; cases h
  | ok name =>
    rw [canonical_of_parse hParse] at h
    cases hRow : memory.beans.lookup name.canonicalText with
    | none =>
      simp only [bind, Except.bind, hRow] at h
      cases h
    | some row =>
      simp only [bind, Except.bind, hRow] at h
      exact ⟨name, row, rfl, hRow, (Except.ok.inj h).symm⟩

end Memory

end BeanBridge
