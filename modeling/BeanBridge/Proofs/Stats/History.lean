import BeanBridge.Stats.Recorder

/-! What can be done to a recorder of calls, and what is to be expected of it.  A history lists the
steps taken, the latest first.  What is expected is told from the history alone: which records were
begun since the recorder was last turned on or emptied, and how each was filled in through its own
handle, as if nothing else had ever happened to it. -/

namespace BeanBridge.Stats

/-- What is noted through a handle. -/
inductive Note where
  | bean (bean : String)
  | attributes (attributes : List String)
  | count (count : Nat)
  | successful
  /-- How long the call took. -/
  | finish
  deriving DecidableEq

/-- Notes something through a handle. -/
def note (stats : Stats) (handle : Handle) : Note → Stats
  | .bean bean => stats.setBean handle bean
  | .attributes attributes => stats.setAttributes handle attributes
  | .count count => stats.setCount handle count
  | .successful => stats.setSuccessful handle
  | .finish => stats.finish handle

/-- What a note changes in its record, that was begun at some time. -/
def Note.fill (note : Note) (now begun : Nat) (stat : Stat) : Stat :=
  match note with
  | .bean name => { stat with bean := name }
  | .attributes names => { stat with attributes := names }
  | .count number => { stat with responseCount := .ofNat number }
  | .successful => { stat with successful := true }
  | .finish => { stat with duration := .ofInt ((now : Int) - begun) }

/-- A step in the use of a recorder.  Handles go by the order in which they were given out. -/
inductive Step where
  | configure (isEnabled : Bool) (capacity : Int64)
  | record (kind : String)
  | note (handle : Nat) (note : Note)
  | drain
  | passTime (milliseconds : Nat)
  deriving DecidableEq

/-- A recorder, the handles it gave out and what it was drained of, the latest last. -/
structure Use where
  stats : Stats := {}
  handles : List Handle := []
  /-- Where recording was off, there was nothing to be drained. -/
  drained : List (Option (List Stat)) := []

/-- Takes a step. -/
def Use.take (use : Use) : Step → Use
  | .configure isEnabled capacity => { use with stats := use.stats.configure isEnabled capacity }
  | .record kind =>
    { use with
      stats := (use.stats.record kind).2
      handles := use.handles ++ [(use.stats.record kind).1] }
  | .note handle note =>
    match use.handles[handle]? with
    | some handle => { use with stats := use.stats.note handle note }
    | none => use
  | .drain =>
    { use with
      stats := (use.stats.drain?.map Prod.snd).getD use.stats
      drained := use.drained ++ [use.stats.drain?.map Prod.fst] }
  | .passTime milliseconds => { use with stats.now := use.stats.now + milliseconds }

/-- The recorder after the steps of a history. -/
def use : List Step → Use
  | [] => {}
  | step :: earlier => (use earlier).take step

/-! ### What a history tells -/

def Step.setting? : Step → Option (Bool × Int64)
  | configure isEnabled capacity => some (isEnabled, capacity)
  | _ => none

/-- The latest configuration. -/
def setting? (history : List Step) : Option (Bool × Int64) := history.findSome? Step.setting?

/-- How many records there is room for, if the latest configuration turned recording on. -/
def room? (history : List Step) : Option Nat :=
  match setting? history with
  | some (true, capacity) =>
    some (if 1 ≤ capacity.toInt then capacity.toInt.toNat else 100000)
  | _ => none

def clock : List Step → Nat
  | [] => 0
  | .passTime milliseconds :: earlier => clock earlier + milliseconds
  | _ :: earlier => clock earlier

/-- How many handles were given out. -/
def asked : List Step → Nat
  | [] => 0
  | .record _ :: earlier => asked earlier + 1
  | _ :: earlier => asked earlier

/-- The handles of the records begun since the latest configuration or the latest drain that was not
refused, the oldest first. -/
def begun : List Step → List Nat
  | [] => []
  | .configure .. :: _ => []
  | .drain :: earlier => if (room? earlier).isSome then [] else begun earlier
  | .record _ :: earlier =>
    if (room? earlier).isSome then begun earlier ++ [asked earlier] else begun earlier
  | _ :: earlier => begun earlier

theorem begun_drain (earlier : List Step) :
    begun (.drain :: earlier) = if (room? earlier).isSome then [] else begun earlier := rfl

theorem begun_record (kind : String) (earlier : List Step) :
    begun (.record kind :: earlier) =
      if (room? earlier).isSome then begun earlier ++ [asked earlier] else begun earlier := rfl

/-- When the record of a handle was begun. -/
def begunAt : List Step → Nat → Nat
  | [], _ => 0
  | .record _ :: earlier, i => if i = asked earlier then clock earlier else begunAt earlier i
  | _ :: earlier, i => begunAt earlier i

/-- The record of a handle, with everything that was noted through the handle and nothing else. -/
def filled : List Step → Nat → Stat
  | [], _ => { kind := "" }
  | .record kind :: earlier, i =>
    if i = asked earlier then { kind, start := .ofNat (clock earlier) } else filled earlier i
  | .note handle note :: earlier, i =>
    if i = handle then note.fill (clock earlier) (begunAt earlier i) (filled earlier i)
    else filled earlier i
  | _ :: earlier, i => filled earlier i

/-- The handles of the newest records, as many as there is room for. -/
def newest (history : List Step) : List Nat :=
  (begun history).drop ((begun history).length - (room? history).getD 0)

/-- The handles of the records that were drained, in the order in which they were. -/
def returned : List Step → List Nat
  | [] => []
  | .drain :: earlier => returned earlier ++ newest earlier
  | _ :: earlier => returned earlier

end BeanBridge.Stats
