import BeanBridge.Stats.Recorder

/-! Views of records.  A view leaves something out of records, and whatever is done with them it does
not matter whether it is left out before or after that.  In this way the clock can be left out. -/

namespace BeanBridge

/-- What is seen of records, of the recorder and of a handle of a record, in keeping with all that is
done with them. -/
structure Stats.View where
  stat : Stat → Stat
  stats : Stats → Stats
  handle : Handle → Handle
  configure : ∀ before isEnabled capacity,
    stats (before.configure isEnabled capacity) = (stats before).configure isEnabled capacity
  record : ∀ before kind,
    (stats before).record kind = (handle (before.record kind).1, stats (before.record kind).2)
  setBean : ∀ before record bean,
    stats (before.setBean record bean) = (stats before).setBean (handle record) bean
  setAttributes : ∀ before record attributes,
    stats (before.setAttributes record attributes) =
      (stats before).setAttributes (handle record) attributes
  setCount : ∀ before record count,
    stats (before.setCount record count) = (stats before).setCount (handle record) count
  setSuccessful : ∀ before record,
    stats (before.setSuccessful record) = (stats before).setSuccessful (handle record)
  finish : ∀ before record, stats (before.finish record) = (stats before).finish (handle record)
  drain? : ∀ before, (stats before).drain? =
    before.drain?.map fun (records, after) => (records.map stat, stats after)

/-- All is seen. -/
def Stats.View.full : View where
  stat := id
  stats := id
  handle := id
  configure _ _ _ := rfl
  record _ _ := rfl
  setBean _ _ _ := rfl
  setAttributes _ _ _ := rfl
  setCount _ _ _ := rfl
  setSuccessful _ _ := rfl
  finish _ _ := rfl
  drain? before := by simp

namespace Stats.View

variable (view : View) {before before' : Stats} {record record' : Handle}

theorem record_congr (h : view.stats before = view.stats before') (kind : String) :
    view.handle (before.record kind).1 = view.handle (before'.record kind).1 ∧
      view.stats (before.record kind).2 = view.stats (before'.record kind).2 := by
  have hRecord := congrArg (·.record kind) h
  simp only [view.record] at hRecord
  exact Prod.mk.inj hRecord

theorem describe_congr (h : view.stats before = view.stats before')
    (hRecord : view.handle record = view.handle record') (bean : String) (attributes : List String) :
    view.stats ((before.setBean record bean).setAttributes record attributes) =
      view.stats ((before'.setBean record' bean).setAttributes record' attributes) := by
  rw [view.setAttributes, view.setBean, view.setAttributes, view.setBean, h, hRecord]

theorem finish_congr (h : view.stats before = view.stats before')
    (hRecord : view.handle record = view.handle record') :
    view.stats (before.finish record) = view.stats (before'.finish record') := by
  rw [view.finish, view.finish, h, hRecord]

theorem succeed_congr (h : view.stats before = view.stats before')
    (hRecord : view.handle record = view.handle record') (count : Nat) :
    view.stats ((before.setSuccessful record).setCount record count) =
      view.stats ((before'.setSuccessful record').setCount record' count) := by
  rw [view.setCount, view.setSuccessful, view.setCount, view.setSuccessful, h, hRecord]

theorem drain?_congr (h : view.stats before = view.stats before') :
    (before.drain?.map fun (records, after) => (records.map view.stat, view.stats after)) =
      before'.drain?.map fun (records, after) => (records.map view.stat, view.stats after) := by
  rw [← view.drain?, ← view.drain?, h]

end Stats.View

/-! ### Records without the clock -/

/-- The record without what the clock showed. -/
def Stat.timeless (stat : Stat) : Stat := { stat with start := 0, duration := .zero }

def Recorder.timeless (recorder : Recorder) : Recorder :=
  { recorder with kept := recorder.kept.map Stat.timeless }

theorem Recorder.timeless_push (recorder : Recorder) (stat : Stat) :
    (recorder.push stat).timeless = recorder.timeless.push stat.timeless := by
  simp [timeless, push]

theorem Recorder.timeless_modify (recorder : Recorder) (number : Nat) {change change' : Stat → Stat}
    (h : ∀ stat, (change stat).timeless = change' stat.timeless) :
    (recorder.modify number change).timeless = recorder.timeless.modify number change' := by
  have hKept (kept : List Stat) (index : Nat) :
      (kept.modify index change).map Stat.timeless =
        (kept.map Stat.timeless).modify index change' := by
    induction kept generalizing index with
    | nil => simp
    | cons stat kept ih => cases index <;> simp [h, ih]
  rw [modify, modify]
  show timeless (if number < recorder.first then _ else _) = if number < recorder.first then _ else _
  split
  · rfl
  · rw [timeless, hKept]
    rfl

theorem Recorder.timeless_clear (recorder : Recorder) :
    recorder.clear.timeless = recorder.timeless.clear := by
  simp [timeless, clear]

namespace Stats

def Handle.timeless (handle : Handle) : Handle := ⟨handle.record.map fun (number, _) => (number, 0)⟩

def timeless (stats : Stats) : Stats :=
  { stats with recorder := stats.recorder.map Recorder.timeless, now := 0 }

theorem timeless_record (stats : Stats) (kind : String) :
    stats.timeless.record kind =
      ((stats.record kind).1.timeless, (stats.record kind).2.timeless) := by
  rcases stats with ⟨next, _ | recorder, now⟩
  · rfl
  · simp only [record, timeless, Option.map_some, Recorder.timeless_push]
    rfl

theorem timeless_update (stats : Stats) (handle : Handle) {change change' : Stat → Stat}
    (h : ∀ stat, (change stat).timeless = change' stat.timeless) :
    (stats.update handle change).timeless = stats.timeless.update handle.timeless change' := by
  rcases handle with ⟨_ | ⟨number, start⟩⟩
  · rfl
  · rcases stats with ⟨next, _ | recorder, now⟩
    · rfl
    · simp [update, timeless, Handle.timeless, Recorder.timeless_modify _ _ h]

theorem timeless_finish (stats : Stats) (handle : Handle) :
    (stats.finish handle).timeless = stats.timeless.finish handle.timeless := by
  rcases handle with ⟨_ | ⟨number, start⟩⟩
  · rfl
  · exact timeless_update stats _ fun stat => rfl

/-- All is seen but what the clock shows. -/
def View.timeless : View where
  stat := Stat.timeless
  stats := Stats.timeless
  handle := Handle.timeless
  configure before isEnabled capacity := by cases isEnabled <;> rfl
  record := timeless_record
  setBean before record bean := timeless_update before record fun _ => rfl
  setAttributes before record attributes := timeless_update before record fun _ => rfl
  setCount before record count := timeless_update before record fun _ => rfl
  setSuccessful before record := timeless_update before record fun _ => rfl
  finish := timeless_finish
  drain? before := by
    rcases before with ⟨next, _ | recorder, now⟩
    · rfl
    · simp only [Stats.drain?, Stats.timeless, Option.map_some, ← Recorder.timeless_clear]
      rfl

end Stats

end BeanBridge
