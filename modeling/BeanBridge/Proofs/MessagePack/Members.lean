import Mathlib.Data.List.Basic
import BeanBridge.Proofs.MessagePack.Record

/-! Records whose keys are texts, with their members in any order and others among them.  Such a
record is read if each of its fields is there at most once, and a field that is read holds the
value beside its name, wherever that stands. -/

namespace BeanBridge.MessagePack

/-- The values of the members with the name given, in their order. -/
def valuesAt (name : String) (members : List (String × Item)) : List Item :=
  (members.filter (·.1 == name)).map Prod.snd

section

variable {name other : String} {value : Item} {members members' : List (String × Item)}

@[simp] theorem valuesAt_nil : valuesAt name [] = [] := rfl

@[simp] theorem valuesAt_cons_self :
    valuesAt name ((name, value) :: members) = value :: valuesAt name members := by
  simp [valuesAt]

theorem valuesAt_cons_of_ne (h : other ≠ name) :
    valuesAt name ((other, value) :: members) = valuesAt name members := by
  simp [valuesAt, h]

theorem valuesAt_subset_cons (member : String × Item) :
    valuesAt name members ⊆ valuesAt name (member :: members) :=
  (((List.sublist_cons_self _ _).filter _).map _).subset

theorem valuesAt_perm (h : members.Perm members') :
    (valuesAt name members).Perm (valuesAt name members') :=
  (h.filter _).map _

/-- What is left when all members of one name are taken out holds the others as before. -/
theorem valuesAt_filter_ne (h : other ≠ name) :
    valuesAt name (members.filter fun member => !(member.1 == other)) = valuesAt name members := by
  rw [valuesAt, valuesAt, List.filter_filter]
  congr 1
  refine List.filter_congr fun member _ => ?_
  by_cases hName : member.1 = name
  · simp [hName, h.symm]
  · simp [hName]

end

theorem Item.ofString_injective : Function.Injective ofString := by
  intro s t h
  have hText := congrArg string? h
  rwa [string?_ofString, string?_ofString, Option.some.injEq] at hText

theorem Item.ofFields_injective : Function.Injective ofFields := by
  intro members members' h
  refine List.map_injective_iff.mpr ?_ (Item.map.inj h)
  rintro ⟨name, value⟩ ⟨name', value'⟩ hMember
  have hParts := Prod.mk.inj hMember
  exact Prod.ext (ofString_injective hParts.1) hParts.2

/-- A name that no field bears is passed over. -/
theorem Item.key_ofString_of_notMem {reading : Reading} {names : List String} {name : String}
    (h : name ∉ names) : (ofString name).key reading names = .other := by
  have hFind : names.findIdx? (· == name) = none := by
    rw [List.findIdx?_eq_none_iff]
    intro other hOther
    exact beq_eq_false_iff_ne.mpr fun hEq => h (hEq ▸ hOther)
  show (ofString name).nameIn names = _
  rw [nameIn, string?_ofString, Option.bind_some, hFind]

/-- A text names a variant only by bearing its name. -/
theorem Item.getElem?_of_variant?_ofString {reading : Reading} {names : List String}
    {name : String} {position : Nat} (hNodup : names.Nodup)
    (h : (ofString name).variant? reading names = some position) :
    names[position]? = some name := by
  by_cases hMem : name ∈ names
  · obtain ⟨found, hFound⟩ := List.mem_iff_getElem?.mp hMem
    rw [variant?_ofString hNodup hFound, Option.some.injEq] at h
    rwa [← h]
  · rw [variant?, key_ofString_of_notMem hMem] at h
    cases h

namespace Fields

variable {reading : Reading} {names : List String} {members : List (String × Item)}
  {fields : Fields}

/-- The fields are the values beside the names in the members. -/
def Holds (fields : Fields) (names : List String) (members : List (String × Item)) : Prop :=
  ∀ ⦃position name⦄, names[position]? = some name →
    valuesAt name members = (fields.get? position).toList

theorem get?_insert (position other : Nat) (value : Item) :
    Fields.get? ⟨(position, value) :: fields.list⟩ other =
      if other = position then some value else fields.get? other := by
  rw [get?, List.lookup_cons]
  by_cases h : other = position
  · rw [if_pos h, h, beq_self_eq_true]
  · rw [if_neg h, beq_eq_false_iff_ne.mpr h]
    rfl

/-- A member that bears the name of no field changes nothing. -/
theorem Holds.cons_other {name : String} {value : Item} (h : fields.Holds names members)
    (hName : name ∉ names) : fields.Holds names ((name, value) :: members) := by
  intro position field hField
  have hNe : name ≠ field := fun hEq => hName (hEq ▸ List.mem_of_getElem? hField)
  rw [valuesAt_cons_of_ne hNe, h hField]

/-- A field that was not there is what its member says. -/
theorem Holds.cons_field {name : String} {value : Item} {position : Nat}
    (h : fields.Holds names members) (hNodup : names.Nodup) (hName : names[position]? = some name)
    (hNone : fields.get? position = none) :
    Holds ⟨(position, value) :: fields.list⟩ names ((name, value) :: members) := by
  intro other field hField
  rw [get?_insert]
  split
  · rename_i hEq
    subst hEq
    obtain rfl := Option.some.inj (hName.symm.trans hField)
    rw [valuesAt_cons_self, h hName, hNone]
    rfl
  · rename_i hOther
    have hNe : name ≠ field := by
      rintro rfl
      have hLt := (List.getElem?_eq_some_iff.mp hField).1
      exact hOther ((List.getElem?_inj hLt hNodup).mp (hField.trans hName.symm))
    rw [valuesAt_cons_of_ne hNe, h hField]

theorem insert?_eq_some_iff {position : Nat} {value : Item} {after : Fields} :
    fields.insert? position value = some after ↔
      fields.get? position = none ∧ ⟨(position, value) :: fields.list⟩ = after := by
  unfold insert?
  split
  · rename_i hNone
    simp [hNone]
  · rename_i hSome
    simp [hSome]

theorem holds_of_ofEntries? (hNodup : names.Nodup)
    (h : ofEntries? reading names (members.map fun member => (Item.ofString member.1, member.2)) =
      some fields) : fields.Holds names members := by
  induction members generalizing fields with
  | nil =>
    obtain rfl := Option.some.inj h
    exact fun _ _ _ => rfl
  | cons member members ih =>
    obtain ⟨before, hBefore, hInsert⟩ := Option.bind_eq_some_iff.mp h
    have hHolds := ih hBefore
    by_cases hMem : member.1 ∈ names
    · obtain ⟨position, hPosition⟩ := List.mem_iff_getElem?.mp hMem
      simp only [Item.key_ofString hNodup hPosition] at hInsert
      obtain ⟨hNone, rfl⟩ := insert?_eq_some_iff.mp hInsert
      exact hHolds.cons_field hNodup hPosition hNone
    · simp only [Item.key_ofString_of_notMem hMem, Option.some.injEq] at hInsert
      exact hInsert ▸ hHolds.cons_other hMem

theorem exists_ofEntries? (reading : Reading) (hNodup : names.Nodup)
    (h : ∀ name ∈ names, (valuesAt name members).length ≤ 1) :
    ∃ fields, ofEntries? reading names
      (members.map fun member => (Item.ofString member.1, member.2)) = some fields := by
  induction members with
  | nil => exact ⟨⟨[]⟩, rfl⟩
  | cons member members ih =>
    obtain ⟨name, value⟩ := member
    have hShorter : ∀ other ∈ names, (valuesAt other members).length ≤ 1 := by
      intro other hOther
      have hCons := h other hOther
      by_cases hName : name = other
      · subst hName
        rw [valuesAt_cons_self, List.length_cons] at hCons
        omega
      · rwa [valuesAt_cons_of_ne hName] at hCons
    obtain ⟨before, hBefore⟩ := ih hShorter
    rw [List.map_cons, ofEntries?, hBefore, Option.bind_eq_bind, Option.bind_some]
    by_cases hMem : name ∈ names
    · obtain ⟨position, hPosition⟩ := List.mem_iff_getElem?.mp hMem
      have hNone : before.get? position = none := by
        have hHolds := holds_of_ofEntries? hNodup hBefore hPosition
        have hCons := h name hMem
        rw [valuesAt_cons_self, List.length_cons, hHolds] at hCons
        simpa using hCons
      simp only [Item.key_ofString hNodup hPosition]
      exact ⟨_, insert?_eq_some_iff.mpr ⟨hNone, rfl⟩⟩
    · simp only [Item.key_ofString_of_notMem hMem]
      exact ⟨before, rfl⟩

end Fields

end BeanBridge.MessagePack
