import BeanBridge.Agent.Session
import BeanBridge.Proofs.Session.Batch
import Mathlib.Data.List.Basic

/-! Values taken out of an answer.  An agent answers a read of several attributes with an object, and
each of its members is taken once: what is asked for again finds nothing.  So the values are those of
the names without repetitions, and the names that stay missing are the absent and the repeated ones. -/

namespace BeanBridge

/-! ### Lists without repetitions -/

section EraseDups

variable {α : Type} [BEq α] [LawfulBEq α]

theorem eraseDups_filter (keep : α → Bool) :
    ∀ list : List α, (list.filter keep).eraseDups = list.eraseDups.filter keep
  | [] => rfl
  | a :: rest => by
    have hRest := eraseDups_filter keep (rest.filter fun b => !b == a)
    rw [List.eraseDups_cons, List.filter_cons, List.filter_cons]
    by_cases hKeep : keep a = true
    · rw [if_pos hKeep, if_pos hKeep, List.eraseDups_cons, ← hRest, List.filter_filter,
        List.filter_filter]
      simp only [Bool.and_comm]
    · rw [if_neg hKeep, if_neg hKeep, ← hRest, List.filter_filter]
      congr 1
      apply List.filter_congr
      intro b _
      by_cases hSame : b = a
      · simp [hSame, hKeep]
      · simp [hSame]
termination_by list => list.length
decreasing_by
  have := List.length_filter_le (fun b => !b == a) rest
  simp only [List.length_cons]
  omega

theorem nodup_eraseDups : ∀ list : List α, list.eraseDups.Nodup
  | [] => List.nodup_nil
  | a :: rest => by
    rw [List.eraseDups_cons, List.nodup_cons, List.mem_eraseDups]
    exact ⟨by simp, nodup_eraseDups _⟩
termination_by list => list.length
decreasing_by
  have := List.length_filter_le (fun b => !b == a) rest
  simp only [List.length_cons]
  omega

theorem eraseDups_eq_self {list : List α} (h : list.Nodup) : list.eraseDups = list := by
  induction list with
  | nil => rfl
  | cons a rest ih =>
    obtain ⟨hNew, hRest⟩ := List.nodup_cons.mp h
    have hKept : (rest.filter fun b => !b == a) = rest := by
      apply List.filter_eq_self.mpr
      intro b hb
      simpa using fun hSame : b = a => hNew (hSame ▸ hb)
    rw [List.eraseDups_cons, hKept, ih hRest]

end EraseDups

theorem lookup_filter_ne {β : Type} {name other : String} (h : other ≠ name)
    (members : List (String × β)) :
    (members.filter fun member => member.1 != name).lookup other = members.lookup other := by
  induction members with
  | nil => rfl
  | cons member members ih =>
    obtain ⟨key, value⟩ := member
    by_cases hKey : key = name
    · have hOther : (other == key) = false := by simpa using hKey ▸ h
      rw [List.filter_cons_of_neg (by simp [hKey]), ih, List.lookup_cons, hOther]
    · rw [List.filter_cons_of_pos (by simpa using hKey), List.lookup_cons, List.lookup_cons, ih]

namespace Agent

/-- The values that members hold for names, one for each time that a name comes. -/
def delivered (names : List String) (members : List (String × Json)) : List (String × Value) :=
  names.filterMap fun name => ((members.lookup name).map Value.ofJson).map (name, ·)

theorem takeValues_eq (names : List String) (members : List (String × Json)) :
    takeValues names members = delivered names.eraseDups members := by
  induction names generalizing members with
  | nil => rfl
  | cons name names ih =>
    rw [takeValues, List.eraseDups_cons, eraseDups_filter, delivered]
    cases hLookup : members.lookup name with
    | some value =>
      rw [List.filterMap_cons_some (by rw [hLookup]; rfl), List.filterMap_filter]
      simp only [ih, delivered]
      congr 1
      -- Without the member that was taken, nothing is found for the name, and for others the same.
      apply List.filterMap_congr
      intro other _
      by_cases hSame : other = name
      · have hGone : (members.filter fun member => member.1 != name).lookup name = none := by
          rw [List.lookup_eq_none_iff]
          intro member hMember
          simpa [bne_comm] using (List.mem_filter.mp hMember).2
        simp [hSame, hGone]
      · simp [hSame, lookup_filter_ne hSame]
    | none =>
      rw [List.filterMap_cons_none (by rw [hLookup]; rfl), List.filterMap_filter]
      simp only [ih, delivered]
      apply List.filterMap_congr
      intro other _
      by_cases hSame : other = name
      · simp [hSame, hLookup]
      · simp [hSame]

theorem takeValues_of_nodup {names : List String} (h : names.Nodup)
    (members : List (String × Json)) : takeValues names members = delivered names members := by
  rw [takeValues_eq, eraseDups_eq_self h]

/-- The names of the values. -/
theorem map_fst_delivered (names : List String) (members : List (String × Json)) :
    (delivered names members).map (·.1) = names.filter fun name => (members.lookup name).isSome := by
  induction names with
  | nil => rfl
  | cons name names ih =>
    cases hLookup : members.lookup name with
    | none =>
      rw [delivered, List.filterMap_cons_none (by rw [hLookup]; rfl),
        List.filter_cons_of_neg (by simp [hLookup])]
      exact ih
    | some value =>
      rw [delivered, List.filterMap_cons_some (by rw [hLookup]; rfl),
        List.filter_cons_of_pos (by simp [hLookup]), List.map_cons]
      exact congrArg (name :: ·) ih

end Agent

namespace Session

/-- A name is missing as often as it was asked for in vain. -/
theorem count_missing (name : String) (names : List String) (values : List (String × Value)) :
    (missing names values).count name = names.count name - (values.map (·.1)).count name := by
  induction values generalizing names with
  | nil => simp [missing]
  | cons pair values ih =>
    show (missing (names.erase pair.1) values).count name = _
    rw [ih, List.count_erase, List.map_cons, List.count_cons]
    omega

end Session

/-- Among the names asked for, those missing from an agent's answer are the ones without a member and
the ones asked for again. -/
theorem Agent.mem_missing_takeValues {name : String} {names : List String}
    {members : List (String × Json)} :
    name ∈ Session.missing names (takeValues names members) ↔
      name ∈ names ∧ (members.lookup name = none ∨ 2 ≤ names.count name) := by
  have hOnce := (nodup_eraseDups names).count (a := name)
  simp only [List.mem_eraseDups] at hOnce
  rw [← List.count_pos_iff, Session.count_missing, takeValues_eq, map_fst_delivered]
  cases hLookup : members.lookup name with
  | none =>
    have hNone : (names.eraseDups.filter fun name => (members.lookup name).isSome).count name = 0 := by
      apply List.count_eq_zero.mpr
      simp [hLookup]
    simp [hNone]
  | some value =>
    rw [List.count_filter (by simp [hLookup]), hOnce]
    by_cases hAsked : name ∈ names
    · have hPos := List.count_pos_iff.mpr hAsked
      simp only [hAsked, if_true, reduceCtorEq, false_or, true_and]
      omega
    · simp [hAsked]

end BeanBridge
