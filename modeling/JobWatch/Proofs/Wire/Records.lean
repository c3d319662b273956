import JobWatch.Wire.Record
import Mathlib.Data.List.Basic

/-! What is known of an object that was read as a record: no field occurs twice in it, and every
field was read from its only member, or was left out.
-/

namespace JobWatch.Wire

variable {α β : Type}

namespace Checked

/-- A part under a function is sound if the part is. -/
theorem map_eq_sound {f : α → β} {part : Checked α} {value : β}
    : f <$> part = .sound value ↔ ∃ read, part = .sound read ∧ f read = value := by
  cases part <;> simp [Functor.map, map]

/-- Two parts combined are sound if both are. -/
theorem seq_eq_sound {left : Checked (α → β)} {right : Checked α} {value : β}
    : left <*> right = .sound value
      ↔ ∃ f read, left = .sound f ∧ right = .sound read ∧ f read = value := by
  cases left <;> cases right <;> simp [Seq.seq, apply]

/-- A part that is read was sound, and nothing else was wrong. -/
theorem toExcept_under_eq_ok {part : Checked α} {flaw? : Option Flaw} {value : α}
    : (part.under flaw?).toExcept = .ok value ↔ part = .sound value ∧ flaw? = none := by
  cases flaw? <;> cases part <;> simp [under, toExcept]

end Checked

/-- An object that is read has all its fields read, and no flaw in its keys. -/
theorem record_object {names : List String} {fields : (String → Slot) → Checked α}
    {members : List (Option String × Json)} {value : α}
    (read : record names fields (.object members true) = .ok value)
    : fields (memberSlot names members) = .sound value ∧ keyFlaw? names members = none := by
  obtain ⟨sound, noFlaw⟩ := Checked.toExcept_under_eq_ok.mp read
  refine ⟨sound, ?_⟩
  simpa using noFlaw

/-- Without a flaw in the keys, a known name is that of one member at most. Witness: of two members
the later one would be the flaw.
-/
theorem member_unique {names : List String} {members : List (Option String × Json)}
    {name : String} {first second : Nat} {left right : Json}
    (noFlaw : keyFlaw? names members = none) (known : name ∈ names)
    (firstMember : members[first]? = some (some name, left))
    (secondMember : members[second]? = some (some name, right))
    : first = second := by
  have later {before behind : Nat} {early late : Json}
      (earlyMember : members[before]? = some (some name, early))
      (lateMember : members[behind]? = some (some name, late))
      : behind ≤ before := by
    refine Nat.le_of_not_lt fun order => ?_
    have noted := List.findSome?_eq_none_iff.mp noFlaw ((some name, late), behind)
      (List.mem_zipIdx_iff_getElem?.mpr lateMember)
    have seen : (members.take behind).any (·.1 == some name) := by
      refine List.any_eq_true.mpr ⟨(some name, early), ?_, by simp⟩
      refine List.mem_of_getElem? (i := before) ?_
      rw [List.getElem?_take, if_pos order, earlyMember]
    simp [known, seen] at noted
  exact Nat.le_antisymm (later secondMember firstMember) (later firstMember secondMember)

/-- The place of a field holds its member. -/
theorem memberSlot_of_mem {names : List String} {members : List (Option String × Json)}
    {name : String} {json : Json} (noFlaw : keyFlaw? names members = none) (known : name ∈ names)
    (member : (some name, json) ∈ members)
    : (memberSlot names members name).content = .ok json := by
  obtain ⟨place, found⟩ := List.mem_iff_getElem?.mp member
  have isThere : members.zipIdx.find? (·.1.1 == some name) ≠ none := by
    intro absent
    have differs := List.find?_eq_none.mp absent ((some name, json), place)
      (List.mem_zipIdx_iff_getElem?.mpr found)
    simp at differs
  obtain ⟨⟨⟨key, value⟩, position⟩, picked⟩ := Option.ne_none_iff_exists'.mp isThere
  have isKey : key = some name := by simpa using List.find?_some picked
  subst isKey
  have at_position : members[position]? = some (some name, value) :=
    List.mem_zipIdx_iff_getElem?.mp (List.mem_of_find?_eq_some picked)
  obtain rfl := member_unique noFlaw known found at_position
  rw [found] at at_position
  obtain ⟨_, rfl⟩ := Prod.mk.inj (Option.some.inj at_position)
  simp [memberSlot, picked]

/-- The place of a field that is left out holds nothing. -/
theorem memberSlot_of_absent {names : List String} {members : List (Option String × Json)}
    {name : String} (absent : ∀ member ∈ members, member.1 ≠ some name)
    : (memberSlot names members name).content = .error (.missingField name) := by
  have nowhere : members.zipIdx.find? (·.1.1 == some name) = none := by
    refine List.find?_eq_none.mpr fun ⟨member, position⟩ isThere => ?_
    have isMember := List.mem_of_getElem? (List.mem_zipIdx_iff_getElem?.mp isThere)
    simpa using absent member isMember
  simp [memberSlot, nowhere]

/-- A field that is there and sound was read from its value. -/
theorem Slot.orElse_present {slot : Slot} {absent value : α} {read : Reader α} {json : Json}
    (content : slot.content = .ok json) (sound : slot.orElse absent read = .sound value)
    : read json = .ok value := by
  rw [orElse, content] at sound
  cases held : read json with
  | ok other =>
      simp only [present, held, Checked.sound.injEq] at sound
      rw [sound]
  | error fault => simp [present, held] at sound

/-- A field that is left out is what it then stands for. -/
theorem Slot.orElse_absent {slot : Slot} {absent value : α} {read : Reader α} {fault : Fault}
    (content : slot.content = .error fault) (sound : slot.orElse absent read = .sound value)
    : value = absent := by
  rw [orElse, content] at sound
  exact (Checked.sound.inj sound).symm

end JobWatch.Wire
