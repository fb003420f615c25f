import BeanBridge.Proofs.Stats.View

/-! A recorder with one writer.  If every record is filled in before the next one is begun, what the
recorder holds is told by all the records made since it was turned on: the latest of them, up to its
capacity.  The clock is left out. -/

namespace BeanBridge

/-- The latest records, up to a capacity. -/
def Recorder.remembered (capacity : Nat) (records : List Stat) : List Stat :=
  records.drop (records.length - capacity)

theorem Recorder.remembered_of_le {capacity : Nat} {records : List Stat}
    (h : records.length ≤ capacity) : remembered capacity records = records := by
  rw [remembered, Nat.sub_eq_zero_of_le h, List.drop_zero]

/-- The recorder after these records, the first of which has the number `base`. -/
def Recorder.holding (capacity base : Nat) (records : List Stat) : Recorder where
  capacity := capacity
  first := base + (records.length - capacity)
  kept := remembered capacity records

theorem Recorder.capacityOf_pos (setting : Int64) : 0 < capacityOf setting := by
  unfold capacityOf
  split
  · omega
  · decide

namespace Recorder

variable {capacity base : Nat} (hCapacity : 0 < capacity) (records : List Stat) (stat : Stat)

theorem length_remembered : (remembered capacity records).length = min capacity records.length := by
  rw [remembered, List.length_drop]
  omega

include hCapacity

theorem remembered_concat : remembered capacity (records ++ [stat]) =
    records.drop (records.length + 1 - capacity) ++ [stat] := by
  rw [remembered, List.length_append, List.length_singleton,
    List.drop_append_of_le_length (by omega)]

theorem push_holding :
    (holding capacity base records).push stat = holding capacity base (records ++ [stat]) := by
  have hFirst : base + (records.length - capacity) +
      min (min capacity records.length + 1 - capacity) (min capacity records.length) =
      base + (records.length + 1 - capacity) := by omega
  have hKept : (remembered capacity records).drop (min capacity records.length + 1 - capacity) =
      records.drop (records.length + 1 - capacity) := by
    rw [remembered, List.drop_drop]
    congr 1
    omega
  simp only [push, holding, length_remembered, hFirst, hKept, remembered_concat hCapacity,
    List.length_append, List.length_singleton]

/-- The number given last is that of the last record. -/
theorem modify_holding (change : Stat → Stat) :
    (holding capacity base (records ++ [stat])).modify (base + records.length) change =
      holding capacity base (records ++ [change stat]) := by
  have hKept : ¬ base + records.length < base + (records.length + 1 - capacity) := by omega
  -- However many records have been given up, the last one stands at the end of those kept.
  have hPlace : base + records.length - (base + (records.length + 1 - capacity)) =
      (records.drop (records.length + 1 - capacity)).length + 0 := by
    rw [List.length_drop]
    omega
  simp only [modify, holding, remembered_concat hCapacity, List.length_append,
    List.length_singleton, if_neg hKept, hPlace, List.modify, List.modifyTailIdx_add]
  rfl

end Recorder

namespace Stats

/-- A recorder that has been turned on, after these records. -/
def holding (capacity base : Nat) (records : List Stat) : Stats where
  next := base + records.length
  recorder := some (.holding capacity base records)

/-- The handle of the record behind these. -/
def Handle.behind (base : Nat) (records : List Stat) : Handle := ⟨some (base + records.length, 0)⟩

section

variable {capacity base : Nat} {records : List Stat}

theorem timeless_configure (before : Stats) (setting : Int64) :
    (before.configure true setting).timeless =
      holding (Recorder.capacityOf setting) before.next [] := by
  simp [configure, timeless, Recorder.timeless, holding, Recorder.holding, Recorder.remembered]

theorem drain?_of_timeless {after : Stats} (h : after.timeless = holding capacity base records) :
    after.drain?.map (fun (kept, _) => kept.map Stat.timeless) =
      some (Recorder.remembered capacity records) := by
  have hDrain := congrArg (Option.map Prod.fst) (View.timeless.drain? after)
  rw [Option.map_map] at hDrain
  refine hDrain.symm.trans ?_
  show Option.map Prod.fst after.timeless.drain? = _
  rw [h]
  rfl

variable (hCapacity : 0 < capacity)
include hCapacity

/-- What is noted through the handle of the last record. -/
theorem update_holding {before : Stats} {handle : Handle} {stat : Stat} {change : Stat → Stat}
    (h : before.timeless = holding capacity base (records ++ [stat]))
    (hHandle : handle.timeless = .behind base records) (change' : Stat → Stat)
    (hChange : ∀ stat, (change stat).timeless = change' stat.timeless) :
    (before.update handle change).timeless =
      holding capacity base (records ++ [change' stat]) := by
  rw [timeless_update _ _ hChange, h, hHandle]
  simp only [update, Handle.behind, holding, Option.map_some, Recorder.modify_holding hCapacity,
    List.length_append, List.length_singleton]

/-- A record is begun, with what the call is about. -/
theorem begin_holding {before : Stats} (h : before.timeless = holding capacity base records)
    (kind bean : String) (attributes : List String) :
    (before.record kind).1.timeless = .behind base records ∧
      (((before.record kind).2.setBean (before.record kind).1 bean).setAttributes
          (before.record kind).1 attributes).timeless =
        holding capacity base
          (records ++ [{ kind := kind, bean := bean, attributes := attributes }]) := by
  have hBegin : before.timeless.record kind =
      (.behind base records, holding capacity base (records ++ [{ kind := kind }])) := by
    simp only [h, record, holding, Recorder.push_holding hCapacity, Handle.behind,
      List.length_append, List.length_singleton]
    rfl
  rw [timeless_record] at hBegin
  obtain ⟨hHandle, hBegun⟩ := Prod.mk.inj hBegin
  have hBean : ((before.record kind).2.setBean (before.record kind).1 bean).timeless =
      holding capacity base (records ++ [{ kind := kind, bean := bean }]) :=
    update_holding hCapacity hBegun hHandle ({ · with bean }) fun _ => rfl
  exact ⟨hHandle, update_holding hCapacity hBean hHandle ({ · with attributes }) fun _ => rfl⟩

/-- The record is finished, with the count of a call that succeeded. -/
theorem finish_holding {before : Stats} {handle : Handle} {stat : Stat}
    (h : before.timeless = holding capacity base (records ++ [stat]))
    (hHandle : handle.timeless = .behind base records) (count? : Option Nat) :
    (match count? with
      | some number => ((before.setSuccessful handle).setCount handle number).finish handle
      | none => before.finish handle).timeless =
      holding capacity base (records ++ [match count? with
        | some number => { stat with responseCount := .ofNat number, successful := true }
        | none => stat]) := by
  have hFinish {before : Stats} {stat : Stat}
      (h : before.timeless = holding capacity base (records ++ [stat])) :
      (before.finish handle).timeless = holding capacity base (records ++ [stat]) := by
    unfold finish
    split
    · exact h
    · exact update_holding hCapacity h hHandle id fun _ => rfl
  cases count? with
  | none => exact hFinish h
  | some number =>
    have hSuccess : (before.setSuccessful handle).timeless =
        holding capacity base (records ++ [{ stat with successful := true }]) :=
      update_holding hCapacity h hHandle ({ · with successful := true }) fun _ => rfl
    exact hFinish
      (update_holding hCapacity hSuccess hHandle ({ · with responseCount := .ofNat number })
        fun _ => rfl)

end

end Stats

end BeanBridge
