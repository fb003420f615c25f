import BeanBridge.Proofs.Stats.History

/-! A recorder keeps the newest records.  Its records bear consecutive numbers, and so do the handles
of those begun since it was turned on or emptied; hence a handle finds its own record at its place, or
finds that it is gone.  What is kept and drained is what the history tells. -/

namespace BeanBridge.Stats

variable {history : List Step}

/-! ### Histories -/

theorem one_le_of_room? {room : Nat} (h : room? history = some room) : 1 ≤ room := by
  rw [room?] at h
  split at h
  · obtain rfl := Option.some.inj h
    split <;> omega
  · cases h

/-- While recording is off no record is begun. -/
theorem begun_eq_nil (h : room? history = none) : begun history = [] := by
  induction history with
  | nil => rfl
  | cons step earlier ih =>
    cases step with
    | configure isEnabled capacity => rfl
    | record kind =>
      have hOff : room? earlier = none := h
      rw [begun_record, hOff]
      exact ih hOff
    | drain =>
      have hOff : room? earlier = none := h
      rw [begun_drain, hOff]
      exact ih hOff
    | note handle note => exact ih h
    | passTime milliseconds => exact ih h

theorem begun_record_on {room : Nat} (h : room? history = some room) (kind : String) :
    begun (.record kind :: history) = begun history ++ [asked history] := by
  rw [begun_record, h, if_pos Option.isSome_some]

theorem begun_drain_on {room : Nat} (h : room? history = some room) :
    begun (.drain :: history) = [] := by
  rw [begun_drain, h, if_pos Option.isSome_some]

/-- The records begun since the recorder was turned on or emptied are the latest that were asked
for. -/
theorem begun_eq_range (history : List Step) :
    (begun history).length ≤ asked history ∧
      begun history =
        List.range' (asked history - (begun history).length) (begun history).length := by
  induction history with
  | nil => exact ⟨Nat.le_refl 0, rfl⟩
  | cons step earlier ih =>
    obtain ⟨hLength, hBegun⟩ := ih
    cases step with
    | configure isEnabled capacity => exact ⟨Nat.zero_le _, rfl⟩
    | note handle note => exact ⟨hLength, hBegun⟩
    | passTime milliseconds => exact ⟨hLength, hBegun⟩
    | drain =>
      rw [begun_drain]
      split
      · exact ⟨Nat.zero_le _, rfl⟩
      · exact ⟨hLength, hBegun⟩
    | record kind =>
      rw [begun_record, asked]
      cases hRoom : room? earlier with
      | none =>
        rw [begun_eq_nil hRoom]
        exact ⟨Nat.zero_le _, rfl⟩
      | some room =>
        rw [if_pos Option.isSome_some, List.length_append, List.length_singleton,
          Nat.add_sub_add_right, List.range'_concat, ← hBegun, Nat.one_mul,
          Nat.sub_add_cancel hLength]
        exact ⟨by omega, rfl⟩

theorem mem_begun {i : Nat} :
    i ∈ begun history ↔ asked history ≤ i + (begun history).length ∧ i < asked history := by
  obtain ⟨hLength, hBegun⟩ := begun_eq_range history
  rw [hBegun, List.mem_range'_1, List.length_range']
  omega

/-- The newest records are the latest of those begun. -/
theorem newest_eq_range {room : Nat} (h : room? history = some room) :
    newest history = List.range' (asked history - min room (begun history).length)
      (min room (begun history).length) := by
  obtain ⟨hLength, hBegun⟩ := begun_eq_range history
  rw [newest, h, Option.getD_some]
  generalize (begun history).length = count at hLength hBegun ⊢
  rw [hBegun, List.drop_range']
  congr 1 <;> omega

theorem newest_eq_nil (h : begun history = []) : newest history = [] := by
  rw [newest, h, List.drop_nil]

theorem newest_subset_begun {i : Nat} (h : i ∈ newest history) : i ∈ begun history :=
  List.mem_of_mem_drop h

theorem length_newest {room : Nat} (h : room? history = some room) :
    (newest history).length = min room (begun history).length := by
  rw [newest_eq_range h, List.length_range']

/-- A record that is begun is among the newest, and the oldest of them makes room for it. -/
theorem newest_record {room : Nat} (h : room? history = some room) (kind : String) :
    newest (.record kind :: history) =
      (newest history).drop ((newest history).length + 1 - room) ++ [asked history] := by
  have hRoom : room? (.record kind :: history) = some room := h
  have hOne := one_le_of_room? h
  rw [length_newest h, newest, newest, hRoom, h, begun_record_on h, List.length_append,
    List.length_singleton, Option.getD_some, List.drop_drop,
    List.drop_append_of_le_length (by omega)]
  congr 2
  omega

theorem map_filled_record {records : List Nat} (h : ∀ i ∈ records, i < asked history)
    (kind : String) :
    records.map (filled (.record kind :: history)) = records.map (filled history) :=
  List.map_congr_left fun i hi => if_neg (Nat.ne_of_lt (h i hi))

/-! ### Steps -/

theorem Use.take_record_off (use : Use) (h : use.stats.recorder = none) (kind : String) :
    use.take (.record kind) = { use with handles := use.handles ++ [.disabled] } := by
  simp only [take, record, h]

theorem Use.take_record_on (use : Use) {recorder : Recorder}
    (h : use.stats.recorder = some recorder) (kind : String) :
    use.take (.record kind) =
      { use with
        stats := { use.stats with
          next := use.stats.next + 1
          recorder := some (recorder.push { kind, start := .ofNat use.stats.now }) }
        handles := use.handles ++ [⟨some (use.stats.next, use.stats.now)⟩] } := by
  simp only [take, record, h]

theorem Use.take_drain_off (use : Use) (h : use.stats.recorder = none) :
    use.take .drain = { use with drained := use.drained ++ [none] } := by
  simp only [take, drain?, h, Option.map_none, Option.getD_none]

theorem Use.take_drain_on (use : Use) {recorder : Recorder}
    (h : use.stats.recorder = some recorder) :
    use.take .drain =
      { use with
        stats.recorder := some recorder.clear
        drained := use.drained ++ [some recorder.kept] } := by
  simp only [take, drain?, h, Option.map_some, Option.getD_some]

theorem note_disabled (stats : Stats) (note : Note) : stats.note .disabled note = stats := by
  cases note <;> rfl

theorem note_record (stats : Stats) (number start : Nat) (note : Note) :
    stats.note ⟨some (number, start)⟩ note =
      { stats with
        recorder := stats.recorder.map (·.modify number (note.fill stats.now start)) } := by
  cases note <;> rfl

/-- A note in a record that is not kept changes no record that is. -/
theorem map_filled_note {records : List Nat} {handle : Nat} (h : handle ∉ records) (note : Note) :
    records.map (filled (.note handle note :: history)) = records.map (filled history) :=
  List.map_congr_left fun i hi => if_neg fun (hSame : i = handle) => h (hSame ▸ hi)

/-- A note in a record that is kept changes the record at its place. -/
theorem map_filled_note_range {first count handle : Nat} (h : first ≤ handle) (note : Note) :
    (List.range' first count).map (filled (.note handle note :: history)) =
      ((List.range' first count).map (filled history)).modify (handle - first)
        (note.fill (clock history) (begunAt history handle)) := by
  refine List.ext_getElem (by simp) fun i hi hModified => ?_
  rw [List.getElem_modify, List.getElem_map, List.getElem_map, List.getElem_range', filled]
  by_cases hSame : first + 1 * i = handle
  · rw [if_pos hSame, if_pos (by omega), hSame]
  · rw [if_neg hSame, if_neg (by omega)]

/-! ### The recorder and its history -/

section Tracking

variable {use : Use}

/-- The recorder is as its history tells. -/
structure Tracks (history : List Step) (use : Use) : Prop where
  now : use.stats.now = clock history
  given : use.handles.length = asked history
  room : use.stats.recorder.map Recorder.capacity = room? history
  kept : ∀ recorder ∈ use.stats.recorder, recorder.kept = (newest history).map (filled history)
  next : ∀ recorder ∈ use.stats.recorder,
    recorder.first + recorder.kept.length = use.stats.next
  /-- The records begun bear the numbers up to the next one. -/
  latest : ∀ i ∈ begun history, ∃ number, number + asked history = use.stats.next + i ∧
    use.handles[i]? = some ⟨some (number, begunAt history i)⟩
  /-- All others bear lesser ones. -/
  older : ∀ i number start, use.handles[i]? = some ⟨some (number, start)⟩ → i ∉ begun history →
    number + (begun history).length < use.stats.next

namespace Tracks

/-- The handle of a record that is begun bears its number. -/
theorem number_of_begun (h : Tracks history use) {i number start : Nat} (hBegun : i ∈ begun history)
    (hHandle : use.handles[i]? = some ⟨some (number, start)⟩) :
    number + asked history = use.stats.next + i ∧ begunAt history i = start := by
  obtain ⟨found, hNumber, hFound⟩ := h.latest i hBegun
  obtain ⟨rfl, hStart⟩ : found = number ∧ begunAt history i = start := by
    simpa [hFound] using hHandle
  exact ⟨hNumber, hStart⟩

theorem number_lt (h : Tracks history use) {i number start : Nat}
    (hHandle : use.handles[i]? = some ⟨some (number, start)⟩) : number < use.stats.next := by
  by_cases hBegun : i ∈ begun history
  · have hNumber := (h.number_of_begun hBegun hHandle).1
    have hAsked := (mem_begun.mp hBegun).2
    omega
  · have hOlder := h.older i number start hHandle hBegun
    omega

theorem recorder_eq_none (h : Tracks history use) (hRoom : room? history = none) :
    use.stats.recorder = none := by
  rw [← h.room] at hRoom
  exact Option.map_eq_none_iff.mp hRoom

theorem exists_recorder (h : Tracks history use) {room : Nat} (hRoom : room? history = some room) :
    ∃ recorder, use.stats.recorder = some recorder ∧ recorder.capacity = room := by
  rw [← h.room] at hRoom
  exact Option.map_eq_some_iff.mp hRoom

theorem configure (h : Tracks history use) (isEnabled : Bool) (capacity : Int64) :
    Tracks (.configure isEnabled capacity :: history)
      (use.take (.configure isEnabled capacity)) where
  now := h.now
  given := h.given
  room := by cases isEnabled <;> rfl
  kept recorder hRecorder := by
    cases isEnabled with
    | true =>
      obtain rfl := Option.some.inj hRecorder
      rw [newest_eq_nil rfl]
      rfl
    | false => nomatch hRecorder
  next recorder hRecorder := by
    cases isEnabled with
    | true =>
      obtain rfl := Option.some.inj hRecorder
      rfl
    | false => nomatch hRecorder
  latest := nofun
  older _ _ _ hHandle _ := h.number_lt hHandle

theorem passTime (h : Tracks history use) (milliseconds : Nat) :
    Tracks (.passTime milliseconds :: history) (use.take (.passTime milliseconds)) where
  now := congrArg (· + milliseconds) h.now
  given := h.given
  room := h.room
  kept := h.kept
  next := h.next
  latest := h.latest
  older := h.older

/-- While recording is off, a handle is given out that has no record. -/
theorem record_off (h : Tracks history use) (hRoom : room? history = none) (kind : String) :
    Tracks (.record kind :: history) (use.take (.record kind)) := by
  have hOff := h.recorder_eq_none hRoom
  have hBegun : begun (.record kind :: history) = [] := begun_eq_nil (hRoom ▸ rfl)
  rw [use.take_record_off hOff]
  refine ⟨h.now, ?_, h.room, ?_, ?_, ?_, ?_⟩
  · rw [List.length_append, h.given]
    rfl
  · intro recorder hRecorder
    rw [hOff] at hRecorder
    nomatch hRecorder
  · exact h.next
  · rw [hBegun]
    nofun
  · intro i number start hHandle _
    rw [hBegun]
    refine h.number_lt (?_ : use.handles[i]? = some ⟨some (number, start)⟩)
    rcases Nat.lt_trichotomy i use.handles.length with hLow | rfl | hHigh
    · rwa [List.getElem?_append_left hLow] at hHandle
    · rw [List.getElem?_concat_length] at hHandle
      nomatch hHandle
    · rw [List.getElem?_eq_none (by rw [List.length_append]; exact hHigh)] at hHandle
      nomatch hHandle

theorem record_on (h : Tracks history use) {room : Nat} (hRoom : room? history = some room)
    (kind : String) : Tracks (.record kind :: history) (use.take (.record kind)) := by
  obtain ⟨recorder, hRecorder, hCapacity⟩ := h.exists_recorder hRoom
  have hKept := h.kept recorder hRecorder
  have hNext := h.next recorder hRecorder
  have hOne := one_le_of_room? hRoom
  have hBegun := begun_record_on hRoom kind
  rw [use.take_record_on hRecorder]
  refine ⟨h.now, ?_, ?_, ?_, ?_, ?_, ?_⟩
  · rw [List.length_append, h.given]
    rfl
  · exact (congrArg some hCapacity).trans hRoom.symm
  · intro pushed hPushed
    obtain rfl := Option.some.inj hPushed
    have hEarlier : ∀ i ∈ (newest history).drop ((newest history).length + 1 - room),
        i < asked history := fun i hi =>
      (mem_begun.mp (newest_subset_begun (List.mem_of_mem_drop hi))).2
    rw [newest_record hRoom, List.map_append, map_filled_record hEarlier, List.map_drop,
      List.map_singleton, filled, if_pos rfl, ← hKept, ← h.now, Recorder.push, hCapacity,
      ← List.length_map (filled history), ← hKept]
  · intro pushed hPushed
    obtain rfl := Option.some.inj hPushed
    simp only [Recorder.push, List.length_append, List.length_drop, List.length_singleton]
    omega
  · intro i hi
    rw [hBegun, List.mem_append, List.mem_singleton] at hi
    rw [begunAt, asked]
    rcases hi with hEarlier | rfl
    · obtain ⟨number, hNumber, hHandle⟩ := h.latest i hEarlier
      have hLow := (mem_begun.mp hEarlier).2
      refine ⟨number, by show number + (asked history + 1) = use.stats.next + 1 + i; omega, ?_⟩
      rw [if_neg (Nat.ne_of_lt hLow), List.getElem?_append_left (h.given ▸ hLow), hHandle]
    · refine ⟨use.stats.next, (Nat.add_right_comm use.stats.next 1 _).symm, ?_⟩
      rw [if_pos rfl, ← h.given, List.getElem?_concat_length, h.now]
  · intro i number start hHandle hOlder
    rw [hBegun, List.mem_append, List.mem_singleton, not_or] at hOlder
    rw [hBegun, List.length_append, List.length_singleton]
    have hLow : i < use.handles.length := by
      have hLength := (List.getElem?_eq_some_iff.mp hHandle).1
      rw [List.length_append, List.length_singleton] at hLength
      have hGiven := h.given
      omega
    rw [List.getElem?_append_left hLow] at hHandle
    have hLess := h.older i number start hHandle hOlder.1
    show _ < use.stats.next + 1
    omega

/-- Through a handle whose record is not kept nothing is changed that is. -/
theorem number_lt_first (h : Tracks history use) {recorder : Recorder}
    (hRecorder : use.stats.recorder = some recorder) {i number start : Nat}
    (hHandle : use.handles[i]? = some ⟨some (number, start)⟩) (hGone : i ∉ newest history) :
    number < recorder.first := by
  have hRoom : room? history = some recorder.capacity := by rw [← h.room, hRecorder]; rfl
  have hNext := h.next recorder hRecorder
  rw [h.kept recorder hRecorder, List.length_map, length_newest hRoom] at hNext
  -- A record begun since then stands before those kept, and all others are older still.
  by_cases hBegun : i ∈ begun history
  · have hNumber := (h.number_of_begun hBegun hHandle).1
    rw [newest_eq_range hRoom, List.mem_range'_1] at hGone
    have hAsked := mem_begun.mp hBegun
    omega
  · have hOlder := h.older i number start hHandle hBegun
    omega

/-- A note through a handle whose record is not kept. -/
theorem note_gone (h : Tracks history use) {handle : Nat} (hGone : handle ∉ newest history)
    (note : Note) : Tracks (.note handle note :: history) use where
  now := h.now
  given := h.given
  room := h.room
  kept recorder hRecorder := (h.kept recorder hRecorder).trans (map_filled_note hGone note).symm
  next := h.next
  latest := h.latest
  older := h.older

theorem note_kept (h : Tracks history use) {handle number start : Nat}
    (hHandle : use.handles[handle]? = some ⟨some (number, start)⟩)
    (hKept : handle ∈ newest history) (note : Note) :
    Tracks (.note handle note :: history)
      { use with
        stats.recorder :=
          use.stats.recorder.map (·.modify number (note.fill use.stats.now start)) } := by
  obtain ⟨hNumber, rfl⟩ := h.number_of_begun (newest_subset_begun hKept) hHandle
  cases hRoom : room? history with
  | none =>
    rw [newest_eq_nil (begun_eq_nil hRoom)] at hKept
    nomatch hKept
  | some room =>
    obtain ⟨recorder, hRecorder, hCapacity⟩ := h.exists_recorder hRoom
    have hNext := h.next recorder hRecorder
    have hRange := newest_eq_range hRoom
    have hLength := congrArg List.length (h.kept recorder hRecorder)
    rw [List.length_map, length_newest hRoom] at hLength
    rw [hRange, List.mem_range'_1] at hKept
    have hBegun := (begun_eq_range history).1
    have hModify (change : Stat → Stat) : recorder.modify number change =
        { recorder with kept := recorder.kept.modify (number - recorder.first) change } :=
      if_neg (by omega)
    refine ⟨h.now, h.given, ?_, ?_, ?_, h.latest, h.older⟩
    · rw [hRecorder, Option.map_some, hModify, Option.map_some, hCapacity]
      exact hRoom.symm
    · intro changed hChanged
      rw [hRecorder, Option.map_some, hModify] at hChanged
      obtain rfl := Option.some.inj hChanged
      -- The place of a record among those kept is the place of its handle among the newest.
      have hPlace : number - recorder.first =
          handle - (asked history - min room (begun history).length) := by omega
      have hNewest : newest (.note handle note :: history) = newest history := rfl
      rw [hNewest, hRange, map_filled_note_range hKept.1, ← hRange, ← h.kept recorder hRecorder,
        ← h.now, hPlace]
    · intro changed hChanged
      rw [hRecorder, Option.map_some, hModify] at hChanged
      obtain rfl := Option.some.inj hChanged
      rw [List.length_modify]
      exact hNext

theorem note (h : Tracks history use) (handle : Nat) (note : Note) :
    Tracks (.note handle note :: history) (use.take (.note handle note)) := by
  have hLatest {found : Option Handle} (hFound : use.handles[handle]? = found)
      (hNone : ∀ number start, found ≠ some ⟨some (number, start)⟩) : handle ∉ newest history := by
    intro hMem
    obtain ⟨number, -, hHandle⟩ := h.latest handle (newest_subset_begun hMem)
    exact hNone _ _ (hFound.symm.trans hHandle)
  rw [Use.take]
  split
  · next found hHandle =>
    obtain ⟨record⟩ := found
    cases record with
    | none =>
      have hSame : use.stats.note ⟨none⟩ note = use.stats := note_disabled _ _
      rw [hSame]
      exact h.note_gone (hLatest hHandle (by simp)) note
    | some pair =>
      rw [note_record]
      by_cases hMem : handle ∈ newest history
      · exact h.note_kept hHandle hMem note
      · have hSame : use.stats.recorder.map
            (·.modify pair.1 (note.fill use.stats.now pair.2)) = use.stats.recorder := by
          cases hRecorder : use.stats.recorder with
          | none => rfl
          | some recorder =>
            exact congrArg some (if_pos (h.number_lt_first hRecorder hHandle hMem))
        rw [hSame]
        exact h.note_gone hMem note
  · next hHandle => exact h.note_gone (hLatest hHandle (by simp)) note

theorem drain (h : Tracks history use) : Tracks (.drain :: history) (use.take .drain) := by
  cases hRecorder : use.stats.recorder with
  | none =>
    have hRoom : room? history = none := by rw [← h.room, hRecorder]; rfl
    have hBegun : begun (.drain :: history) = begun history := by rw [begun_drain, hRoom]; rfl
    rw [use.take_drain_off hRecorder]
    refine ⟨h.now, h.given, h.room, ?_, h.next, hBegun ▸ h.latest, hBegun ▸ h.older⟩
    intro recorder hSome
    rw [hRecorder] at hSome
    nomatch hSome
  | some recorder =>
    have hRoom : room? history = some recorder.capacity := by rw [← h.room, hRecorder]; rfl
    have hBegun := begun_drain_on hRoom
    rw [use.take_drain_on hRecorder]
    refine ⟨h.now, h.given, hRoom.symm, ?_, ?_, ?_, ?_⟩
    · intro cleared hCleared
      obtain rfl := Option.some.inj hCleared
      rw [newest_eq_nil hBegun]
      rfl
    · intro cleared hCleared
      obtain rfl := Option.some.inj hCleared
      exact h.next recorder hRecorder
    · rw [hBegun]
      nofun
    · intro i number start hHandle _
      rw [hBegun]
      exact h.number_lt hHandle

theorem take (h : Tracks history use) (step : Step) : Tracks (step :: history) (use.take step) := by
  cases step with
  | configure isEnabled capacity => exact h.configure isEnabled capacity
  | record kind =>
    cases hRoom : room? history with
    | none => exact h.record_off hRoom kind
    | some room => exact h.record_on hRoom kind
  | note handle note => exact h.note handle note
  | drain => exact h.drain
  | passTime milliseconds => exact h.passTime milliseconds

end Tracks

end Tracking

/-- Whatever is done to it, the recorder is as its history tells. -/
theorem tracks_use (history : List Step) : Tracks history (use history) := by
  induction history with
  | nil => exact ⟨rfl, rfl, rfl, nofun, nofun, nofun, nofun⟩
  | cons step earlier ih => exact ih.take step

/-! ### Drains -/

/-- The records drained so far are older than all those begun since. -/
theorem lt_of_mem_returned {i : Nat} (h : i ∈ returned history) :
    i + (begun history).length < asked history := by
  induction history with
  | nil => nomatch h
  | cons step earlier ih =>
    cases step with
    | configure isEnabled capacity => exact Nat.lt_of_le_of_lt (Nat.le_add_right _ _) (ih h)
    | note handle note => exact ih h
    | passTime milliseconds => exact ih h
    | record kind =>
      have hEarlier := ih h
      rw [begun_record, asked]
      split
      · rw [List.length_append, List.length_singleton]
        omega
      · omega
    | drain =>
      have hAsked : asked (.drain :: earlier) = asked earlier := rfl
      rw [begun_drain, hAsked]
      rcases List.mem_append.mp h with hReturned | hNewest
      · have hEarlier := ih hReturned
        split
        · exact Nat.lt_of_le_of_lt (Nat.le_add_right _ _) hEarlier
        · exact hEarlier
      · have hBegun := newest_subset_begun hNewest
        cases hRoom : room? earlier with
        | none =>
          rw [begun_eq_nil hRoom] at hBegun
          nomatch hBegun
        | some room => exact (mem_begun.mp hBegun).2

/-- Records are drained in the order in which they were begun, and none of them twice. -/
theorem pairwise_returned (history : List Step) : (returned history).Pairwise (· < ·) := by
  induction history with
  | nil => exact .nil
  | cons step earlier ih =>
    cases step with
    | drain =>
      have hNewest : (newest earlier).Pairwise (· < ·) := by
        refine List.Pairwise.sublist (List.drop_sublist _ _) ?_
        rw [(begun_eq_range earlier).2]
        exact List.pairwise_lt_range'
      refine List.pairwise_append.mpr ⟨ih, hNewest, fun i hi j hj => ?_⟩
      have hOlder := lt_of_mem_returned hi
      have hYounger := (mem_begun.mp (newest_subset_begun hj)).1
      omega
    | _ => exact ih

theorem asked_le_append (between earlier : List Step) :
    asked earlier ≤ asked (between ++ earlier) := by
  induction between with
  | nil => exact Nat.le_refl _
  | cons step between ih =>
    cases step with
    | record kind => exact Nat.le_succ_of_le ih
    | _ => exact ih

/-- What was begun before a configuration is forgotten. -/
theorem asked_le_of_mem_begun {isEnabled : Bool} {capacity : Int64} {between earlier : List Step}
    {i : Nat} (h : i ∈ begun (between ++ .configure isEnabled capacity :: earlier)) :
    asked earlier ≤ i := by
  induction between with
  | nil => nomatch h
  | cons step between ih =>
    cases step with
    | configure isEnabled capacity => nomatch h
    | note handle note => exact ih h
    | passTime milliseconds => exact ih h
    | drain =>
      rw [List.cons_append, begun_drain] at h
      split at h
      · nomatch h
      · exact ih h
    | record kind =>
      rw [List.cons_append, begun_record] at h
      split at h
      · rcases List.mem_append.mp h with hEarlier | hNow
        · exact ih hEarlier
        · obtain rfl := List.mem_singleton.mp hNow
          exact asked_le_append between (.configure _ _ :: earlier)
      · exact ih h

theorem map_kept_use (history : List Step) :
    (use history).stats.recorder.map Recorder.kept =
      (room? history).map fun _ => (newest history).map (filled history) := by
  have hTracks := tracks_use history
  rw [← hTracks.room]
  cases hRecorder : (use history).stats.recorder with
  | none => rfl
  | some recorder => exact congrArg some (hTracks.kept recorder hRecorder)

theorem drain?_eq_none_iff (history : List Step) :
    (use history).stats.drain? = none ↔ ∀ capacity, setting? history ≠ some (true, capacity) := by
  have hRoom : (use history).stats.drain? = none ↔ room? history = none := by
    rw [drain?, Option.map_eq_none_iff, ← (tracks_use history).room, Option.map_eq_none_iff]
  rw [hRoom, room?]
  split
  · next capacity hSetting =>
    rw [hSetting]
    exact ⟨nofun, fun h => absurd rfl (h capacity)⟩
  · next hOther => exact ⟨fun _ => hOther, fun _ => rfl⟩

/-- The recorder keeps the newest records, and yields each of them once. -/
structure KeepsNewest (history : List Step) : Prop where
  /-- The newest of the records begun since the recorder was turned on or emptied are kept in their
  order, each as it was filled in through its own handle. -/
  kept : (use history).stats.recorder.map Recorder.kept =
    (room? history).map fun _ => (newest history).map (filled history)
  /-- They are as many as there is room for, or all. -/
  count : ∀ room, room? history = some room →
    (newest history).length = min room (begun history).length
  bounded : ∀ recorder ∈ (use history).stats.recorder,
    recorder.kept.length ≤ recorder.capacity ∧ room? history = some recorder.capacity
  /-- A drain yields what is kept, and nothing of it is left. -/
  drained : (use (.drain :: history)).drained = (use history).drained ++
    [(room? history).map fun _ => (newest history).map (filled history)]
  emptied : (use (.drain :: history)).stats.recorder.map Recorder.kept =
    (room? history).map fun _ => []
  /-- It is refused unless the latest configuration turned recording on. -/
  refused : (use history).stats.drain? = none ↔
    ∀ capacity, setting? history ≠ some (true, capacity)
  once : (returned history).Pairwise (· < ·)
  /-- No record from before a configuration is kept after it. -/
  fresh : ∀ between isEnabled capacity earlier,
    history = between ++ .configure isEnabled capacity :: earlier →
      ∀ i ∈ newest history, asked earlier ≤ i

/-- However records are begun, filled in and drained, and recording is turned on and off, the
recorder keeps the newest records. -/
theorem newest_records_kept (history : List Step) : KeepsNewest history where
  kept := map_kept_use history
  count _ := length_newest
  bounded recorder hRecorder := by
    have hTracks := tracks_use history
    have hRoom : room? history = some recorder.capacity := by
      rw [← hTracks.room, Option.mem_def.mp hRecorder]
      rfl
    refine ⟨?_, hRoom⟩
    rw [hTracks.kept recorder hRecorder, List.length_map, length_newest hRoom]
    exact Nat.min_le_left _ _
  drained := by
    rw [← map_kept_use]
    show _ ++ [((use history).stats.drain?).map Prod.fst] = _
    rw [drain?, Option.map_map]
    rfl
  emptied := by
    rw [map_kept_use]
    have hRoom : room? (.drain :: history) = room? history := rfl
    rw [hRoom]
    cases hSome : room? history with
    | none => rfl
    | some room =>
      rw [newest_eq_nil (begun_drain_on hSome)]
      rfl
  refused := drain?_eq_none_iff history
  once := pairwise_returned history
  fresh := by
    rintro between isEnabled capacity earlier rfl i hi
    exact asked_le_of_mem_begun (newest_subset_begun hi)

/-- There is room for one record.  The second one takes the place of the first, and what is noted
through the first handle then goes nowhere. -/
example :
    (use [.drain, .note 0 (.bean "first"), .note 1 (.bean "second"), .record "b", .record "a",
      .configure true 1]).drained.map (·.map (·.map Stat.bean)) = [some ["second"]] := rfl

end BeanBridge.Stats
