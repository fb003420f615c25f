import BeanBridge.Stats.Basic

/-! The recorder of calls: it keeps the newest records up to its capacity, and each record can be
filled in through its handle for as long as it is kept. -/

namespace BeanBridge

/-- Kept records, the oldest first.  Records are numbered in the order they are begun, so the ones
kept bear consecutive numbers. -/
structure Recorder where
  capacity : Nat
  /-- The number of the oldest record that is kept, or of the next one. -/
  first : Nat
  kept : List Stat
  deriving DecidableEq

namespace Recorder

/-- The capacity when no usable one is given. -/
def usualCapacity : Nat := 100000

/-- The capacity that a setting stands for. -/
def capacityOf (setting : Int64) : Nat :=
  if 1 ≤ setting.toInt then setting.toInt.toNat else usualCapacity

/-- Begins a record, in the place of the oldest ones when there is no room. -/
def push (recorder : Recorder) (stat : Stat) : Recorder :=
  let surplus := recorder.kept.length + 1 - recorder.capacity
  { recorder with
    first := recorder.first + min surplus recorder.kept.length
    kept := recorder.kept.drop surplus ++ [stat] }

/-- Changes the record with the number given, if it is kept. -/
def modify (recorder : Recorder) (number : Nat) (change : Stat → Stat) : Recorder :=
  if number < recorder.first then recorder
  else { recorder with kept := recorder.kept.modify (number - recorder.first) change }

/-- Forgets all records. -/
def clear (recorder : Recorder) : Recorder :=
  { recorder with first := recorder.first + recorder.kept.length, kept := [] }

end Recorder

/-- A recorder that can be turned on and off, and the time it reads. -/
structure Stats where
  /-- The number of the next record. -/
  next : Nat := 0
  recorder : Option Recorder := none
  /-- The time now, in milliseconds since 1970. -/
  now : Nat := 0
  deriving DecidableEq

namespace Stats

/-- A way to fill in a record.  There is none while recording is off. -/
structure Handle where
  /-- The number of the record and the time when it was begun. -/
  record : Option (Nat × Nat)
  deriving DecidableEq

def Handle.disabled : Handle := ⟨none⟩

/-- A recorder that is turned on. -/
def enabled (capacity : Int64) : Stats :=
  { recorder := some ⟨Recorder.capacityOf capacity, 0, []⟩ }

/-- Turns recording off, or on with nothing recorded yet. -/
def configure (stats : Stats) (isEnabled : Bool) (capacity : Int64) : Stats :=
  { stats with
    recorder :=
      if isEnabled then some ⟨Recorder.capacityOf capacity, stats.next, []⟩ else none }

/-- Begins a record of a kind of call. -/
def record (stats : Stats) (kind : String) : Handle × Stats :=
  match stats.recorder with
  | none => (.disabled, stats)
  | some recorder =>
    (⟨some (stats.next, stats.now)⟩,
      { stats with
        next := stats.next + 1
        recorder := some (recorder.push { kind, start := .ofNat stats.now }) })

/-- Changes the record of a handle, if it is still kept. -/
def update (stats : Stats) (handle : Handle) (change : Stat → Stat) : Stats :=
  match handle.record with
  | none => stats
  | some (number, _) => { stats with recorder := stats.recorder.map (·.modify number change) }

/-- Notes the bean or pattern of the call. -/
def setBean (stats : Stats) (handle : Handle) (bean : String) : Stats :=
  stats.update handle ({ · with bean })

/-- Notes the attributes asked for. -/
def setAttributes (stats : Stats) (handle : Handle) (attributes : List String) : Stats :=
  stats.update handle ({ · with attributes })

/-- Notes how many values came back. -/
def setCount (stats : Stats) (handle : Handle) (count : Nat) : Stats :=
  stats.update handle ({ · with responseCount := .ofNat count })

/-- Notes that the call succeeded. -/
def setSuccessful (stats : Stats) (handle : Handle) : Stats :=
  stats.update handle ({ · with successful := true })

/-- Notes how long the call took. -/
def finish (stats : Stats) (handle : Handle) : Stats :=
  match handle.record with
  | none => stats
  | some (_, start) =>
    stats.update handle ({ · with duration := .ofInt ((stats.now : Int) - start) })

/-- Takes the records, the oldest first; none while recording is off. -/
def drain? (stats : Stats) : Option (List Stat × Stats) :=
  stats.recorder.map fun recorder =>
    (recorder.kept, { stats with recorder := some recorder.clear })

end Stats

end BeanBridge
