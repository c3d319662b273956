import JobWatch.Proofs.Wire.Fields
import Mathlib.Logic.Relation

/-! A batch means the same however its document is written. The order of members, members of unknown
names and known members that are null make no difference, and the fields may be named or stand in
the order of their declaration. The same holds of each entry.
-/

namespace JobWatch.Wire

variable {α β : Type} {names : List String}

-----------------------------------------------------------------------
-- Optional fields
-----------------------------------------------------------------------

namespace Slot

/-- The value that a field is given, and its place. -/
def given? (slot : Slot) : Option (Nat × Json) :=
  match slot.content with
  | .ok value => some (slot.position, value)
  | .error _ => none

/-- The value that a field stands for, which is null if it is left out. -/
def meant (slot : Slot) : Json :=
  match slot.content with
  | .ok value => value
  | .error _ => .null

/-- A field that may be left out hangs on nothing but the value it is given and its place. -/
theorem orElse_given {slot other : Slot} (same : slot.given? = other.given?) (absent : α)
    (read : Reader α)
    : slot.orElse absent read = other.orElse absent read := by
  obtain ⟨position, content⟩ := slot
  obtain ⟨otherPosition, otherContent⟩ := other
  cases content <;> cases otherContent <;> simp only [given?, Option.some.injEq, Prod.mk.injEq,
    reduceCtorEq] at same
  · rfl
  · obtain ⟨rfl, rfl⟩ := same
    rfl

/-- A field for which null is the same as being left out is read from what it stands for. -/
theorem orElse_sound_iff {slot : Slot} {absent value : α} {read : Reader α}
    (readsNull : read .null = .ok absent)
    : slot.orElse absent read = .sound value ↔ read slot.meant = .ok value := by
  cases content : slot.content with
  | ok json =>
      rw [meant, content]
      exact ⟨orElse_present content, orElse_sent absent content⟩
  | error fault =>
      rw [meant, content, orElse, content, readsNull, Checked.sound.injEq, Except.ok.injEq]

end Slot

/-- The fields of a record hang on nothing but what they are given, and each of them may be left
out, which is the same as null.
-/
structure AllOptional (names : List String) (fields : (String → Slot) → Checked α) : Prop where
  given : ∀ {slot other : String → Slot},
    (∀ name ∈ names, (slot name).given? = (other name).given?) → fields slot = fields other
  meant : ∀ {slot other : String → Slot} {value : α},
    (∀ name ∈ names, (slot name).meant = (other name).meant)
      → fields slot = .sound value → fields other = .sound value

namespace AllOptional

theorem field {name : String} (known : name ∈ names) {absent : α} {read : Reader α}
    (readsNull : read .null = .ok absent)
    : AllOptional names fun slot => (slot name).orElse absent read where
  given same := Slot.orElse_given (same name known) absent read
  meant same sound := by
    rw [Slot.orElse_sound_iff readsNull] at sound ⊢
    rwa [← same name known]

theorem either {name : String} (known : name ∈ names) (absent : α) (read : Reader α)
    : AllOptional names fun slot => (slot name).either absent read :=
  field known rfl

theorem optional {name : String} (known : name ∈ names) (read : Reader α)
    : AllOptional names fun slot => (slot name).optional read :=
  field known rfl

theorem map {fields : (String → Slot) → Checked α} (f : α → β)
    (optional : AllOptional names fields)
    : AllOptional names fun slot => f <$> fields slot where
  given same := by rw [optional.given same]
  meant same sound := by
    obtain ⟨value, read, rfl⟩ := Checked.map_eq_sound.mp sound
    exact Checked.map_eq_sound.mpr ⟨value, optional.meant same read, rfl⟩

theorem seq {fields : (String → Slot) → Checked (α → β)} {others : (String → Slot) → Checked α}
    (left : AllOptional names fields) (right : AllOptional names others)
    : AllOptional names fun slot => fields slot <*> others slot where
  given same := by rw [left.given same, right.given same]
  meant same sound := by
    obtain ⟨f, value, leftRead, rightRead, rfl⟩ := Checked.seq_eq_sound.mp sound
    exact Checked.seq_eq_sound.mpr
      ⟨f, value, left.meant same leftRead, right.meant same rightRead, rfl⟩

end AllOptional

/-- All fields of an entry may be left out or null. -/
theorem entry_optional
    : ∃ fields, AllOptional Output.Entry.fieldNames fields
        ∧ Output.Entry.decode = record Output.Entry.fieldNames fields := by
  refine ⟨_, ?_, rfl⟩
  refine .seq (.seq (.seq (.seq (.seq (.map _ ?time) ?level) ?log) ?user) ?command) ?node
  case level | log => exact .either (by decide) _ _
  all_goals exact .optional (by decide) text

/-- All fields of a batch may be left out or null. -/
theorem batch_optional
    : ∃ fields, AllOptional Output.Batch.fieldNames fields
        ∧ Output.Batch.decode = record Output.Batch.fieldNames fields := by
  refine ⟨_, ?_, rfl⟩
  refine .seq (.seq (.seq (.seq (.seq ?front ?lastModified) ?execDuration) ?percentLoaded)
    ?totalSize) ?entries
  case front =>
    refine .seq (.seq (.seq (.seq (.seq (.seq (.seq (.seq (.seq (.map _ ?id) ?message) ?error)
      ?unmodified) ?empty) ?offset) ?completed) ?execCompleted) ?hasFailedNodes) ?execState
    case id | offset => exact .field (by decide) rfl
    case message | error => exact .optional (by decide) text
    all_goals exact .either (by decide) _ _
  case percentLoaded | entries => exact .either (by decide) _ _
  all_goals exact .field (by decide) rfl

-----------------------------------------------------------------------
-- Members
-----------------------------------------------------------------------

/-- Two values are read alike: as the same, or neither is read. -/
def ReadAlike (read : Reader α) (left right : Json) : Prop :=
  ∀ value, read left = .ok value ↔ read right = .ok value

/-- Members that say the same of the fields of these names: the keys of both are free of flaws or
neither are, and what they give to the fields, other than null, is the same.
-/
structure SameFields (names : List String) (left right : List (Option String × Json)) : Prop where
  flaw : keyFlaw? names left = none ↔ keyFlaw? names right = none
  given : ∀ name ∈ names, ∀ json, json ≠ .null
    → ((some name, json) ∈ left ↔ (some name, json) ∈ right)

/-- Without a flaw in the keys, a field stands for a value other than null if a member gives it. -/
theorem memberSlot_meant_iff {members : List (Option String × Json)} {name : String} {json : Json}
    (noFlaw : keyFlaw? names members = none) (known : name ∈ names) (notNull : json ≠ .null)
    : (memberSlot names members name).meant = json ↔ (some name, json) ∈ members := by
  constructor
  · intro meant
    by_cases absent : ∀ member ∈ members, member.1 ≠ some name
    · rw [Slot.meant, memberSlot_of_absent absent] at meant
      exact absurd meant.symm notNull
    · push Not at absent
      obtain ⟨⟨_, value⟩, isMember, rfl⟩ := absent
      rw [Slot.meant, memberSlot_of_mem noFlaw known isMember] at meant
      rwa [← meant]
  · intro isMember
    rw [Slot.meant, memberSlot_of_mem noFlaw known isMember]

namespace SameFields

variable {left right : List (Option String × Json)}

theorem symm (same : SameFields names left right) : SameFields names right left where
  flaw := same.flaw.symm
  given name known json notNull := (same.given name known json notNull).symm

/-- The fields stand for the same values. -/
theorem meant (same : SameFields names left right) (noFlaw : keyFlaw? names left = none)
    {name : String} (known : name ∈ names)
    : (memberSlot names left name).meant = (memberSlot names right name).meant := by
  have carried {json : Json} (notNull : json ≠ .null)
      : (memberSlot names left name).meant = json ↔ (memberSlot names right name).meant = json := by
    rw [memberSlot_meant_iff noFlaw known notNull,
      memberSlot_meant_iff (same.flaw.mp noFlaw) known notNull, same.given name known json notNull]
  by_cases null : (memberSlot names left name).meant = .null
  · by_cases otherNull : (memberSlot names right name).meant = .null
    · rw [null, otherNull]
    · exact (carried otherNull).mpr rfl
  · exact ((carried null).mp rfl).symm

/-- An object is read if it is so under the other members. -/
theorem read {fields : (String → Slot) → Checked α} (optional : AllOptional names fields)
    (same : SameFields names left right) {value : α}
    (decoded : record names fields (.object left true) = .ok value)
    : record names fields (.object right true) = .ok value := by
  obtain ⟨sound, noFlaw⟩ := record_object decoded
  refine Checked.toExcept_under_eq_ok.mpr ⟨?_, ?_⟩
  · exact optional.meant (fun name known => same.meant noFlaw known) sound
  · simpa using same.flaw.mp noFlaw

theorem readAlike {fields : (String → Slot) → Checked α} (optional : AllOptional names fields)
    (same : SameFields names left right)
    : ReadAlike (record names fields) (.object left true) (.object right true) :=
  fun _ => ⟨same.read optional, same.symm.read optional⟩

/-- The order of the members says nothing. -/
theorem of_perm (permuted : left.Perm right) : SameFields names left right where
  flaw := by
    rw [keyFlaw?_eq_none_iff, keyFlaw?_eq_none_iff, permuted.pairwise_iff]
    · simp only [permuted.mem_iff]
    · exact fun apart name known isRight isLeft => apart name known isLeft isRight
  given _ _ _ _ := permuted.mem_iff

/-- A member says nothing if its name is unknown, or if it is null and the only one of its name. -/
theorem of_insert {before after : List (Option String × Json)} {name : String} {json : Json}
    (free : name ∈ names → json = .null ∧ ∀ member ∈ before ++ after, member.1 ≠ some name)
    : SameFields names (before ++ after) (before ++ (some name, json) :: after) where
  flaw := by
    have apart : ∀ member ∈ before ++ after, ∀ other ∈ names, some name = some other
        → member.1 ≠ some other := by
      rintro member isMember _ known ⟨⟩
      exact (free known).2 member isMember
    rw [(of_perm List.perm_middle).flaw, keyFlaw?_eq_none_iff, keyFlaw?_eq_none_iff,
      List.forall_mem_cons, List.pairwise_cons]
    constructor
    · rintro ⟨areTexts, distinct⟩
      exact ⟨⟨nofun, areTexts⟩, apart, distinct⟩
    · rintro ⟨⟨-, areTexts⟩, -, distinct⟩
      exact ⟨areTexts, distinct⟩
  given other known value notNull := by
    have differs : (some other, value) ≠ (some name, json) := by
      rintro ⟨⟩
      exact notNull (free known).1
    simp only [List.mem_append, List.mem_cons, differs, false_or]

end SameFields

-----------------------------------------------------------------------
-- Arrays
-----------------------------------------------------------------------

/-- Among members in the order of their declaration, a field has the place of its name, by induction
on the names.
-/
theorem find?_zip {name : String} (known : name ∈ names) (values : List Json) (start : Nat)
    : ((named (names.zip values)).zipIdx start).find? (·.1.1 == some name)
      = values[names.idxOf name]?.map fun value =>
          ((some name, value), start + names.idxOf name) := by
  induction names generalizing values start with
  | nil => cases known
  | cons first rest ih =>
      cases values with
      | nil => rfl
      | cons value values =>
          rw [List.zip_cons_cons, named, List.map_cons, List.zipIdx_cons]
          by_cases here : first = name
          · subst here
            simp
          · have known : name ∈ rest := (List.mem_cons.mp known).resolve_left (Ne.symm here)
            rw [List.find?_cons_of_neg (by simpa using here), List.idxOf_cons_ne _ here]
            simp only [Nat.succ_eq_add_one, List.getElem?_cons_succ]
            rw [← named, ih known]
            simp only [Nat.add_assoc, Nat.add_comm 1]

/-- The fields of an array are given what they are given under their names. -/
theorem memberSlot_zip {name : String} (known : name ∈ names) (values : List Json)
    : (memberSlot names (named (names.zip values)) name).given?
      = (itemSlot names values name).given? := by
  rw [memberSlot, itemSlot, find?_zip known values 0]
  cases values[names.idxOf name]? with
  | none => rfl
  | some value => simp [Slot.given?]

/-- An array of the first fields is read as the object of just these members, with the same fault if
there is one.
-/
theorem record_array {fields : (String → Slot) → Checked α} (optional : AllOptional names fields)
    (distinct : names.Nodup) {values : List Json} (fits : values.length ≤ names.length)
    : record names fields (.array values true)
      = record names fields (.object (named (names.zip values)) true) := by
  have noFlaw : keyFlaw? names (named (names.zip values)) = none := by
    refine keyFlaw?_named names ?_
    rw [List.zip_eq_zip_take_min, List.map_fst_zip (by simp)]
    exact distinct.sublist (List.take_sublist _ _)
  have same := optional.given fun name known => memberSlot_zip known values
  simp only [record, layout?, noFlaw, same, if_neg (Nat.not_lt.mpr fits)]
  rfl

-----------------------------------------------------------------------
-- Notations
-----------------------------------------------------------------------

/-- Ways to write a record once more: with its members in another order, with one more member of an
unknown name, with one more member that is null, and as an array of its first fields.
-/
inductive Respelled (names : List String) : Json → Json → Prop
  | permuted {left right} (permuted : left.Perm right)
    : Respelled names (.object left true) (.object right true)
  | unknown (before after) {name} (unknown : name ∉ names) (json)
    : Respelled names (.object (before ++ after) true)
        (.object (before ++ (some name, json) :: after) true)
  | null (before after) {name} (known : name ∈ names)
    (absent : ∀ member ∈ before ++ after, member.1 ≠ some name)
    : Respelled names (.object (before ++ after) true)
        (.object (before ++ (some name, .null) :: after) true)
  | array {values} (fits : values.length ≤ names.length)
    : Respelled names (.object (named (names.zip values)) true) (.array values true)

/-- Ways to write a batch once more: as a record, and in one of its entries. -/
inductive BatchRespelled : Json → Json → Prop
  | record {left right} (respelled : Respelled Output.Batch.fieldNames left right)
    : BatchRespelled left right
  | entry (before after front back) {left right}
    (respelled : Respelled Output.Entry.fieldNames left right)
    : BatchRespelled
        (.object (before ++ (some "entries", .array (front ++ left :: back) true) :: after) true)
        (.object (before ++ (some "entries", .array (front ++ right :: back) true) :: after) true)

/-- A record is read alike however it is written, by cases of the ways. -/
theorem Respelled.readAlike {fields : (String → Slot) → Checked α}
    (optional : AllOptional names fields) (distinct : names.Nodup) {left right : Json}
    (respelled : Respelled names left right)
    : ReadAlike (Wire.record names fields) left right := by
  cases respelled with
  | permuted permuted => exact (SameFields.of_perm permuted).readAlike optional
  | unknown before after unknown json =>
      exact (SameFields.of_insert fun known => absurd known unknown).readAlike optional
  | null before after known absent =>
      exact (SameFields.of_insert fun _ => ⟨rfl, absent⟩).readAlike optional
  | array fits =>
      intro value
      rw [record_array optional distinct fits]

/-- A list is read if its first item and the others are. -/
theorem mapM_cons_iff {read : Reader α} {item : Json} {items : List Json} {values : List α}
    : (item :: items).mapM read = .ok values
      ↔ ∃ value rest, read item = .ok value ∧ items.mapM read = .ok rest
          ∧ value :: rest = values := by
  rw [List.mapM_cons]
  cases read item <;> cases items.mapM read <;> simp [bind, Except.bind, pure, Except.pure]

namespace ReadAlike

variable {read : Reader α} {left right : Json}

/-- Lists are read alike if they differ in one item that is, by induction on what is in front of it.
-/
theorem items (alike : ReadAlike read left right) (front back : List Json) (values : List α)
    : (front ++ left :: back).mapM read = .ok values
      ↔ (front ++ right :: back).mapM read = .ok values := by
  induction front generalizing values with
  | nil => simp only [List.nil_append, mapM_cons_iff, alike _]
  | cons item front ih => simp only [List.cons_append, mapM_cons_iff, ih]

theorem list (alike : ReadAlike read left right) (front back : List Json)
    : ReadAlike (Wire.list read) (.array (front ++ left :: back) true)
        (.array (front ++ right :: back) true) := by
  have list_iff (items : List Json) (values : List α)
      : Wire.list read (.array items true) = .ok values ↔ items.mapM read = .ok values := by
    rw [Wire.list]
    cases items.mapM read <;> simp
  intro values
  rw [list_iff, list_iff, alike.items]

end ReadAlike

/-- Another list of entries that is read alike leaves a batch as it is: all other fields are read as
before.
-/
theorem Reads.entries_swap {slot other : String → Slot} {batch : Output.Batch}
    (reads : Reads slot batch)
    (same : ∀ name, name ≠ "entries" → (other name).content = (slot name).content)
    (here : (other "entries").either [] (Wire.list Output.Entry.decode) = .sound batch.entries)
    : Reads other batch := by
  obtain ⟨_, _, _, _, _, _, _, _, _, _, _, _, _, _, -⟩ := reads
  constructor <;>
    first
    | exact here
    | exact Slot.orElse_congr (same _ (by decide)) ‹_›

/-- A batch is read from an object with a list of entries that is read alike. -/
theorem entries_read {before after : List (Option String × Json)} {left right : List Json}
    {batch : Output.Batch}
    (alike : ReadAlike (list Output.Entry.decode) (.array left true) (.array right true))
    (decoded : Output.Batch.decode
      (.object (before ++ (some "entries", .array left true) :: after) true) = .ok batch)
    : Output.Batch.decode
        (.object (before ++ (some "entries", .array right true) :: after) true) = .ok batch := by
  obtain ⟨noFlaw, reads⟩ := decode_object_iff.mp decoded
  have keys (json : Json) : keyFlaw? Output.Batch.fieldNames
      (before ++ (some "entries", json) :: after) = none := keyFlaw?_swap noFlaw
  have held (json : Json) := memberSlot_of_mem (keys json) (by decide)
    (List.mem_append_right _ List.mem_cons_self)
  have sound := reads.entries
  rw [Slot.either] at sound
  have readLeft := Slot.orElse_present (held _) sound
  have readRight := (alike _).mp readLeft
  refine decode_object_iff.mpr ⟨keys _, reads.entries_swap (fun name differs => ?_) ?_⟩
  · exact memberSlot_swap differs
  · exact Slot.orElse_sent [] (held _) readRight

-----------------------------------------------------------------------
-- Documents
-----------------------------------------------------------------------

/-- A batch is read alike however it is written, by cases of the ways. -/
theorem BatchRespelled.readAlike {left right : Json} (respelled : BatchRespelled left right)
    : ReadAlike Output.Batch.decode left right := by
  cases respelled with
  | record respelled =>
      obtain ⟨fields, optional, isRecord⟩ := batch_optional
      rw [isRecord]
      exact respelled.readAlike optional (by decide)
  | entry before after front back respelled =>
      obtain ⟨fields, optional, isRecord⟩ := entry_optional
      have alike : ReadAlike Output.Entry.decode _ _ :=
        isRecord ▸ respelled.readAlike optional (by decide)
      have listed := alike.list front back
      exact fun _ => ⟨entries_read listed, entries_read fun values => (listed values).symm⟩

/-- What a document means to a reader does not hang on how it is written. However often it is
written once more in one of the ways, it is read as the same value, or as none if it was read as
none; and as an array of the first fields it is read as with just these members, with the same fault
if there is one.
-/
structure NotationLaw (names : List String) (read : Reader α) (Respells : Json → Json → Prop)
    : Prop where
  alike : ∀ left right, Relation.EqvGen Respells left right
    → ∀ leftText rightText, Json.IsTextOf leftText left → Json.IsTextOf rightText right
    → ∀ value, document read (Json.read (leftText.map some)) = .ok value
        ↔ document read (Json.read (rightText.map some)) = .ok value
  array : ∀ values : List Json, values.length ≤ names.length
    → ∀ leftText rightText, Json.IsTextOf leftText (.array values true)
    → Json.IsTextOf rightText (.object (named (names.zip values)) true)
    → document read (Json.read (leftText.map some))
        = document read (Json.read (rightText.map some))

/-- Values that are related by chains of such as are read alike are read alike, by induction on the
chain.
-/
theorem ReadAlike.of_eqvGen {read : Reader α} {Respells : Json → Json → Prop}
    (kept : ∀ left right, Respells left right → ReadAlike read left right) {left right : Json}
    (respelled : Relation.EqvGen Respells left right)
    : ReadAlike read left right := by
  induction respelled with
  | rel left right once => exact kept left right once
  | refl => exact fun _ => Iff.rfl
  | symm _ _ _ ih => exact fun value => (ih value).symm
  | trans _ _ _ _ _ first second => exact fun value => (first value).trans (second value)

/-- The law holds of a record with optional fields if the ways to write it keep what is read. -/
theorem NotationLaw.of_optional {fields : (String → Slot) → Checked α}
    {Respells : Json → Json → Prop} (optional : AllOptional names fields) (distinct : names.Nodup)
    (kept : ∀ left right, Respells left right → ReadAlike (record names fields) left right)
    : NotationLaw names (record names fields) Respells where
  alike left right respelled leftText rightText leftSpelled rightSpelled value := by
    rw [document_text leftSpelled, document_text rightSpelled]
    exact ReadAlike.of_eqvGen kept respelled value
  array values fits leftText rightText leftSpelled rightSpelled := by
    rw [document_text leftSpelled, document_text rightSpelled, record_array optional distinct fits]

/-- A batch means the same however its document is written, and so does an entry. -/
theorem notations_mean_the_same
    : NotationLaw Output.Batch.fieldNames Output.Batch.decode BatchRespelled
      ∧ NotationLaw Output.Entry.fieldNames Output.Entry.decode
          (Respelled Output.Entry.fieldNames) := by
  constructor
  · obtain ⟨fields, optional, isRecord⟩ := batch_optional
    rw [isRecord]
    refine .of_optional optional (by decide) fun left right respelled => ?_
    exact isRecord ▸ respelled.readAlike
  · obtain ⟨fields, optional, isRecord⟩ := entry_optional
    rw [isRecord]
    exact .of_optional optional (by decide) fun left right respelled =>
      respelled.readAlike optional (by decide)

/-- A batch with a member of an unknown name and an entry with a member that is null, as without
them; and an entry that is an array of two fields, as with these two members.
-/
theorem unknown_and_null_members_say_nothing
    : document Output.Batch.decode (Json.read
          ("\x7b\"x\":true,\"entries\":[\x7b\"log\":\"a\",\"level\":null\x7d]\x7d".toList.map some))
        = .ok { blankBatch with entries := [⟨none, .normal, "a", none, none, none⟩] }
      ∧ document Output.Entry.decode (Json.read ("[null,\"WARN\"]".toList.map some))
        = document Output.Entry.decode
            (Json.read ("\x7b\"time\":null,\"level\":\"WARN\"\x7d".toList.map some)) := by
  let log : String × Json := ("log", .string "a")
  let bare : Json := .record [log]
  let full : Json := .record [log, ("level", .null)]
  let bareBatch : Json := .record [("entries", .array [bare] true)]
  let fullBatch : Json := .record [("x", .bool true), ("entries", .array [full] true)]
  have respelled : Relation.EqvGen BatchRespelled bareBatch fullBatch := by
    refine .trans _ (.record [("entries", .array [full] true)]) _ (.rel _ _ ?_) (.rel _ _ ?_)
    · exact .entry [] [] [] [] (.null (named [log]) [] (by decide) (by decide))
    · exact .record (.unknown [] _ (by decide) (.bool true))
  have listed {entry : Json} (complete : entry.IsComplete) : (Json.array [entry] true).IsComplete :=
    .array (List.forall_mem_singleton.mpr complete)
  have bareComplete : bareBatch.IsComplete := by
    refine Json.isComplete_record (List.forall_mem_singleton.mpr (listed ?_))
    exact Json.isComplete_record (List.forall_mem_singleton.mpr (.string "a"))
  have fullComplete : fullBatch.IsComplete := by
    refine Json.isComplete_record (List.forall_mem_cons.mpr ⟨.bool true, ?_⟩)
    refine List.forall_mem_singleton.mpr (listed (Json.isComplete_record ?_))
    exact List.forall_mem_cons.mpr ⟨.string "a", List.forall_mem_singleton.mpr .null⟩
  have itemsComplete : (Json.array [.null, .string "WARN"] true).IsComplete :=
    .array (List.forall_mem_cons.mpr ⟨.null, List.forall_mem_singleton.mpr (.string "WARN")⟩)
  have membersComplete : (Json.record [("time", .null), ("level", .string "WARN")]).IsComplete :=
    Json.isComplete_record
      (List.forall_mem_cons.mpr ⟨.null, List.forall_mem_singleton.mpr (.string "WARN")⟩)
  have spelled {value : Json} {text : List Char} (complete : value.IsComplete)
      (written : value.text = text)
      : Json.IsTextOf text value :=
    written ▸ Json.isTextOf_text complete
  obtain ⟨batches, entries⟩ := notations_mean_the_same
  constructor
  · have bareText := spelled bareComplete rfl
    refine (batches.alike _ _ respelled _ _ bareText (spelled fullComplete ?_) _).mp ?_
    · decide
    · exact (document_text bareText).trans (by decide)
  · refine entries.array [.null, .string "WARN"] (by decide) _ _ (spelled itemsComplete ?_)
      (spelled membersComplete ?_)
    · decide
    · decide

end JobWatch.Wire
