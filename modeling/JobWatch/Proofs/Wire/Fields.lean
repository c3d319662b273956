import JobWatch.Output.Batch
import JobWatch.Proofs.Wire.SentRecords
import Mathlib.Data.Bool.AllAny

/-! What the fields of a record hold hangs on their own members or items only. A batch is read field
by field from these places.
-/

namespace JobWatch.Wire

-----------------------------------------------------------------------
-- Places of fields
-----------------------------------------------------------------------

section Places

variable {names : List String} {name : String}

/-- The keys of an object have no flaw if all of them are texts, and no known name stands in two
places.
-/
theorem keyFlaw?_eq_none_iff {members : List (Option String × Json)}
    : keyFlaw? names members = none
      ↔ (∀ member ∈ members, member.1 ≠ none)
        ∧ members.Pairwise fun left right =>
            ∀ name ∈ names, left.1 = some name → right.1 ≠ some name := by
  rw [keyFlaw?, List.findSome?_eq_none_iff, List.pairwise_iff_getElem]
  constructor
  · intro noFlaw
    constructor
    · rintro ⟨key, json⟩ isThere rfl
      obtain ⟨position, found⟩ := List.mem_iff_getElem?.mp isThere
      cases noFlaw ((none, json), position) (List.mem_zipIdx_iff_getElem?.mpr found)
    · intro first second firstBound secondBound order name known firstName secondName
      have flaw := noFlaw (members[second], second)
        (List.mem_zipIdx_iff_getElem?.mpr (List.getElem?_eq_getElem secondBound))
      have seen : (members.take second).any (·.1 == some name) := by
        refine List.any_eq_true.mpr ⟨members[first], ?_, beq_iff_eq.mpr firstName⟩
        exact List.mem_take_iff_getElem.mpr ⟨first, by omega, rfl⟩
      simp [secondName, known, seen] at flaw
  · rintro ⟨areTexts, distinct⟩ ⟨⟨key, json⟩, position⟩ isThere
    have found := List.mem_zipIdx_iff_getElem?.mp isThere
    obtain ⟨bound, same⟩ := List.getElem?_eq_some_iff.mp found
    cases key with
    | none => exact absurd rfl (areTexts _ (List.mem_of_getElem? found))
    | some name =>
        refine if_neg fun twice => ?_
        obtain ⟨known, seen⟩ := Bool.and_eq_true_iff.mp twice
        obtain ⟨earlier, isEarlier, sameName⟩ := List.any_eq_true.mp seen
        obtain ⟨place, before, rfl⟩ := List.mem_take_iff_getElem.mp isEarlier
        refine distinct place position (by omega) bound (by omega) name (by simpa using known)
          (beq_iff_eq.mp sameName) ?_
        rw [same]

/-- A flaw in the keys does not hang on a value. -/
theorem keyFlaw?_swap {before after : List (Option String × Json)} {key : Option String}
    {json other : Json} (noFlaw : keyFlaw? names (before ++ (key, other) :: after) = none)
    : keyFlaw? names (before ++ (key, json) :: after) = none := by
  rw [keyFlaw?_eq_none_iff] at noFlaw ⊢
  simpa only [List.pairwise_append, List.pairwise_cons, List.forall_mem_append,
    List.forall_mem_cons] using noFlaw

/-- What a field holds is the value of the first member of its name. -/
theorem memberSlot_content_eq (names : List String) (members : List (Option String × Json))
    (name : String)
    : (memberSlot names members name).content
      = match members.find? (·.1 == some name) with
        | some member => .ok member.2
        | none => .error (.missingField name) := by
  have places : members.find? (·.1 == some name)
      = (members.zipIdx.find? (·.1.1 == some name)).map (·.1) := by
    rw [← List.zipIdx_map_fst 0 members, List.find?_map, List.zipIdx_map_fst]
    rfl
  rw [places, memberSlot]
  cases members.zipIdx.find? (·.1.1 == some name) <;> rfl

/-- A value does not change what the fields of other names hold. -/
theorem memberSlot_swap {before after : List (Option String × Json)} {json other : Json}
    {field : String} (differs : name ≠ field)
    : (memberSlot names (before ++ (some field, json) :: after) name).content
      = (memberSlot names (before ++ (some field, other) :: after) name).content := by
  have passed (json : Json) : ((some field, json) :: after).find? (·.1 == some name)
      = after.find? (·.1 == some name) :=
    List.find?_cons_of_neg (by simpa using differs.symm)
  rw [memberSlot_content_eq, memberSlot_content_eq, List.find?_append, List.find?_append,
    passed, passed]

/-- The same of an array, where the place of a field is that of its name. -/
theorem itemSlot_swap {before after : List Json} {json other : Json} {field : String}
    (known : field ∈ names) (place : before.length = names.idxOf field) (differs : name ≠ field)
    : (itemSlot names (before ++ json :: after) name).content
      = (itemSlot names (before ++ other :: after) name).content := by
  have elsewhere : names.idxOf name ≠ before.length := by
    rw [place]
    exact fun same => differs ((List.idxOf_inj known).mp same.symm).symm
  have same : (before ++ json :: after)[names.idxOf name]?
      = (before ++ other :: after)[names.idxOf name]? := by
    rw [List.getElem?_append, List.getElem?_append, List.getElem?_cons, List.getElem?_cons]
    split
    · rfl
    · rw [if_neg (by omega), if_neg (by omega)]
  simp only [itemSlot, same]

/-- The value at the place of a field is what the field holds. -/
theorem itemSlot_here {before after : List Json} {json : Json}
    (place : before.length = names.idxOf name)
    : (itemSlot names (before ++ json :: after) name).content = .ok json := by
  simp [itemSlot, ← place]

/-- A part that is read is also read from another place that holds the same. -/
theorem Slot.orElse_congr {α : Type} {slot other : Slot} {absent value : α} {read : Reader α}
    (same : other.content = slot.content) (sound : slot.orElse absent read = .sound value)
    : other.orElse absent read = .sound value := by
  cases content : slot.content with
  | ok json => exact orElse_sent absent (same.trans content) (orElse_present content sound)
  | error fault =>
      rw [orElse_absent content sound]
      exact orElse_left_out absent (same.trans content)

end Places

-----------------------------------------------------------------------
-- Documents
-----------------------------------------------------------------------

/-- The text of a value is read as the value is. -/
theorem document_text {α : Type} {read : Reader α} {text : List Char} {value : Json}
    (spelled : Json.IsTextOf text value)
    : document read (Json.read (text.map some)) = read value := by
  simp only [document, Json.read_text spelled]
  cases read value <;> simp

-----------------------------------------------------------------------
-- Batches
-----------------------------------------------------------------------

/-- The fields of a batch, each read from its place. -/
structure Reads (slot : String → Slot) (batch : Output.Batch) : Prop where
  id : (slot "id").orElse none lenientText = .sound batch.id
  message : (slot "message").optional text = .sound batch.message
  error : (slot "error").optional text = .sound batch.error
  unmodified : (slot "unmodified").either false bool = .sound batch.unmodified
  empty : (slot "empty").either false bool = .sound batch.empty
  offset : (slot "offset").orElse 0 lenientInteger = .sound batch.offset
  completed : (slot "completed").either false bool = .sound batch.completed
  execCompleted : (slot "execCompleted").either false bool = .sound batch.execCompleted
  hasFailedNodes : (slot "hasFailedNodes").either false bool = .sound batch.hasFailedNodes
  execState : (slot "execState").either "" text = .sound batch.execState
  lastModified : (slot "lastModified").orElse 0 lenientInteger = .sound batch.lastModified
  execDuration : (slot "execDuration").orElse 0 lenientInteger = .sound batch.execDuration
  percentLoaded : (slot "percentLoaded").either ⟨false, 0⟩ binary64 = .sound batch.percentLoaded
  totalSize : (slot "totalSize").orElse 0 lenientInteger = .sound batch.totalSize
  entries : (slot "entries").either [] (list Output.Entry.decode) = .sound batch.entries

/-- A value is read as a batch if it is a record without flaw and every field is read. -/
theorem decode_batch_iff {value : Json} {batch : Output.Batch}
    : Output.Batch.decode value = .ok batch
      ↔ ∃ layout, layout? Output.Batch.fieldNames value = some layout
          ∧ layout.flaw? = none ∧ Reads layout.slot batch := by
  rw [Output.Batch.decode, record]
  cases layout? Output.Batch.fieldNames value with
  | none => simp
  | some layout =>
      simp only [Option.some.injEq, exists_eq_left', Checked.toExcept_under_eq_ok]
      rw [and_comm, and_congr_right_iff]
      intro noFlaw
      constructor
      · intro sound
        simp only [Checked.seq_eq_sound, Checked.map_eq_sound] at sound
        obtain ⟨_, _, ⟨_, _, ⟨_, _, sound, percentLoaded, rfl⟩, totalSize, rfl⟩, entries, rfl⟩ :=
          sound
        obtain ⟨_, _, ⟨_, _, ⟨_, _, sound, execState, rfl⟩, lastModified, rfl⟩, execDuration,
          rfl⟩ := sound
        obtain ⟨_, _, ⟨_, _, ⟨_, _, sound, completed, rfl⟩, execCompleted, rfl⟩, failed, rfl⟩ :=
          sound
        obtain ⟨_, _, ⟨_, _, ⟨_, _, sound, unmodified, rfl⟩, empty, rfl⟩, offset, rfl⟩ := sound
        obtain ⟨_, _, ⟨_, _, ⟨_, id, rfl⟩, message, rfl⟩, error, rfl⟩ := sound
        exact ⟨id, message, error, unmodified, empty, offset, completed, execCompleted, failed,
          execState, lastModified, execDuration, percentLoaded, totalSize, entries⟩
      · intro reads
        rw [reads.id, reads.message, reads.error, reads.unmodified, reads.empty, reads.offset,
          reads.completed, reads.execCompleted, reads.hasFailedNodes, reads.execState,
          reads.lastModified, reads.execDuration, reads.percentLoaded, reads.totalSize,
          reads.entries]
        rfl

/-- An object is read as a batch if no key has a flaw and every field is read. -/
theorem decode_object_iff {members : List (Option String × Json)} {batch : Output.Batch}
    : Output.Batch.decode (.object members true) = .ok batch
      ↔ keyFlaw? Output.Batch.fieldNames members = none
        ∧ Reads (memberSlot Output.Batch.fieldNames members) batch := by
  rw [decode_batch_iff]
  simp [layout?]

/-- A batch of which nothing is sent. -/
def blankBatch : Output.Batch where
  id := none
  message := none
  error := none
  unmodified := false
  empty := false
  offset := 0
  completed := false
  execCompleted := false
  hasFailedNodes := false
  execState := ""
  lastModified := 0
  execDuration := 0
  percentLoaded := ⟨false, 0⟩
  totalSize := 0
  entries := []

end JobWatch.Wire
