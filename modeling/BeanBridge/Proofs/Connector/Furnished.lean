import BeanBridge.Proofs.BeanName.Text
import BeanBridge.Proofs.Connector.Table

/-! Tables of an endpoint in memory as they are set up.  Beans are added, and reads are made to fail,
by the texts of names; so every bean stands under its canonical name, each canonical name once, and
a bean is found again by the text under which it is listed. -/

namespace BeanBridge

namespace Value

variable {α : Type} {key : String} {value : α} {fields : List (String × α)}

/-- The fields stand in the order of their names, and no name comes twice. -/
def Sorted (fields : List (String × α)) : Prop := fields.Pairwise (·.1 < ·.1)

theorem eq_or_mem_of_mem_insertField {field : String × α}
    (h : field ∈ insertField key value fields) : field = (key, value) ∨ field ∈ fields := by
  induction fields with
  | nil => exact .inl (List.mem_singleton.mp h)
  | cons first fields ih =>
    rw [insertField] at h
    split at h
    · exact List.mem_cons.mp h
    · split at h
      · rcases List.mem_cons.mp h with hField | hMem
        · exact .inl hField
        · exact .inr (List.mem_cons_of_mem first hMem)
      · rcases List.mem_cons.mp h with rfl | hMem
        · exact .inr (List.mem_cons_self ..)
        · exact (ih hMem).imp_right (List.mem_cons_of_mem first)

theorem Sorted.insertField (h : Sorted fields) : Sorted (insertField key value fields) := by
  induction fields with
  | nil => exact List.pairwise_singleton _ _
  | cons first fields ih =>
    obtain ⟨k, v⟩ := first
    obtain ⟨hFirst, hFields⟩ := List.pairwise_cons.mp h
    rw [Value.insertField]
    split
    · next hLt =>
      refine List.pairwise_cons.mpr ⟨?_, h⟩
      intro field hField
      rcases List.mem_cons.mp hField with rfl | hMem
      · exact hLt
      · exact String.lt_trans hLt (hFirst field hMem)
    · next hGe =>
      split
      · next hEq => exact List.pairwise_cons.mpr ⟨hEq ▸ hFirst, hFields⟩
      · next hNe =>
        refine List.pairwise_cons.mpr ⟨?_, ih hFields⟩
        intro field hField
        rcases eq_or_mem_of_mem_insertField hField with rfl | hMem
        · exact String.not_le.mp fun hLe =>
            hNe (String.le_antisymm hLe (String.not_lt.mp hGe))
        · exact hFirst field hMem

theorem mem_of_lookup (h : fields.lookup key = some value) : (key, value) ∈ fields := by
  induction fields with
  | nil => cases h
  | cons first fields ih =>
    obtain ⟨k, v⟩ := first
    rw [lookup_cons] at h
    split at h
    · next hEq =>
      obtain rfl := Option.some.inj h
      rw [hEq]
      exact List.mem_cons_self ..
    · exact List.mem_cons_of_mem _ (ih h)

end Value

namespace Memory

/-- The table was set up bean by bean; whatever else is set, and whatever sessions there are. -/
inductive Furnished : Memory → Prop
  | empty (memory : Memory) (h : memory.beans = []) : Furnished memory
  | addBean {memory changed : Memory} {text : String} {attributes : List (String × Value)}
    (h : Furnished memory) (hChanged : memory.addBean text attributes = .ok changed) :
    Furnished changed
  | failRead {memory changed : Memory} {text name : String} {error : ConnectorError}
    (h : Furnished memory) (hChanged : memory.failRead text name error = .ok changed) :
    Furnished changed
  | failBatch {memory changed : Memory} {text : String} {error : ConnectorError}
    (h : Furnished memory) (hChanged : memory.failBatch text error = .ok changed) :
    Furnished changed

variable {memory changed : Memory} {text : String}

/-- The bean stands under its canonical name, and the name was read from a text. -/
structure Named (row : String × Bean) : Prop where
  key : row.1 = row.2.name.canonicalText
  name : ∃ text, BeanName.parse text = .ok row.2.name

/-- Every bean stands under its canonical name, in the order of these. -/
structure Orderly (memory : Memory) : Prop where
  sorted : Value.Sorted memory.beans
  named : ∀ row ∈ memory.beans, Named row

theorem Orderly.withBean (h : memory.Orderly) {key : String} {row : Bean}
    (hRow : Named (key, row)) : (memory.withBean key row).Orderly where
  sorted := h.sorted.insertField
  named := by
    intro found hFound
    rcases Value.eq_or_mem_of_mem_insertField hFound with rfl | hMem
    · exact hRow
    · exact h.named found hMem

/-- A change that leaves the name alone leaves the table in order. -/
theorem Orderly.changeBean (h : memory.Orderly) {change : Bean → Bean}
    (hChanged : memory.changeBean text change = .ok changed)
    (hName : ∀ row, (change row).name = row.name) : changed.Orderly := by
  obtain ⟨name, row, -, hRow, rfl⟩ := changeBean_eq_ok hChanged
  obtain ⟨hKey, hParse⟩ := h.named _ (Value.mem_of_lookup hRow)
  refine h.withBean ⟨?_, ?_⟩
  · rw [hName]
    exact hKey
  · rw [hName]
    exact hParse

theorem Orderly.addBean (h : memory.Orderly) {attributes : List (String × Value)}
    (hChanged : memory.addBean text attributes = .ok changed) : changed.Orderly := by
  rw [Memory.addBean] at hChanged
  cases hParse : BeanName.parse text with
  | error flaw => rw [canonical, hParse] at hChanged; cases hChanged
  | ok name =>
    rw [canonical_of_parse hParse] at hChanged
    obtain rfl := Except.ok.inj hChanged
    exact h.withBean ⟨rfl, text, hParse⟩

theorem Furnished.orderly (h : memory.Furnished) : memory.Orderly := by
  induction h with
  | empty memory h =>
    constructor
    · rw [h]
      exact List.Pairwise.nil
    · simp [h]
  | addBean h hChanged ih => exact ih.addBean hChanged
  | failRead h hChanged ih => exact ih.changeBean hChanged fun _ => rfl
  | failBatch h hChanged ih => exact ih.changeBean hChanged fun _ => rfl

def sampleName : BeanName := ⟨"d", [⟨"k", "v", false⟩], false⟩

def sampleBean : Bean where
  name := sampleName
  attributes := [("a", .integer 1), ("b", .null), ("c", .text "t")]
  failing := [("c", .remote "E" "refused" "")]

def sample : Memory := { beans := [("d:k=v", sampleBean)], live := [⟨0⟩], openCount := 1 }

theorem parse_sampleName : BeanName.parse "d:k=v" = .ok sampleName := by
  have hSpells : BeanName.Spelling.Spells ⟨['d'], [.clause ⟨['k'], .bare ['v']⟩]⟩ "d:k=v" := by
    decide +kernel
  exact BeanName.parse_of_spells hSpells

theorem canonicalText_sampleName : sampleName.canonicalText = "d:k=v" := by
  rw [BeanName.canonicalText, BeanName.canonicalProperties, BeanName.sortedProperties]
  simp only [sampleName, List.mergeSort_singleton]
  rfl

theorem find_sampleName : sample.find sampleName = .ok sampleBean := by
  rw [find_eq_ok_iff, canonicalText_sampleName]
  rfl

theorem calm_sample : sample.Calm := ⟨rfl, rfl, rfl⟩

theorem mild_sampleBean : sampleBean.Mild := by
  constructor
  · intro name error h
    rw [sampleBean, Value.lookup_cons] at h
    split at h
    · obtain rfl := Option.some.inj h
      rfl
    · cases h
  · intro error h
    cases h

theorem changeBean_sample {beans : List (String × Bean)} {row : Bean}
    (hRow : beans.lookup "d:k=v" = some row) (change : Bean → Bean) :
    changeBean { sample with beans } "d:k=v" change =
      .ok (withBean { sample with beans } "d:k=v" (change row)) := by
  rw [changeBean, canonical_of_parse parse_sampleName]
  simp only [bind, Except.bind, canonicalText_sampleName, hRow]
  rfl

end Memory

end BeanBridge
