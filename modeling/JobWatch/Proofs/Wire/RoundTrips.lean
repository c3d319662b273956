import JobWatch.Execution.Page
import JobWatch.Export.Status
import JobWatch.Output.Batch
import JobWatch.Proofs.Calendar.Timestamps
import JobWatch.Proofs.Wire.SentRecords

/-! Every record is read back from the text that is written for it. So any text that is read as a
record has a canonical form, however it spells the record.
-/

namespace JobWatch

open Wire

-----------------------------------------------------------------------
-- Output
-----------------------------------------------------------------------

namespace Output

/-- A level is told by its name, by cases. -/
theorem Level.decode_encode (level : Level) : decode level.encode = .ok level := by
  cases level <;> decide

namespace Entry

/-- An optional member is there for a value that is. -/
theorem optionalMember_eq (name : String) (value : Option String)
    : optionalMember name value = value.toList.map fun text => (name, Json.string text) := by
  cases value <;> rfl

/-- A field that is left out when absent is read as it was, by cases of its being there. -/
theorem optional_left_out {field : String → Slot} {name : String} {value : Option String}
    (present : ∀ member ∈ optionalMember name value, (field member.1).content = .ok member.2)
    (absent : value = none → (field name).content = .error (.missingField name))
    : (field name).optional Wire.text = .sound value := by
  cases value with
  | none => exact Slot.orElse_left_out none (absent rfl)
  | some text => exact Slot.orElse_sent none (present (name, .string text) List.mem_cons_self) rfl

/-- An entry is read as it was sent. -/
theorem decode_encode (entry : Entry) : decode entry.encode = .ok entry := by
  refine record_sent ?_ fun field holds => ?_
  · obtain ⟨time, level, log, user, command, node⟩ := entry
    cases user <;> cases command <;> cases node <;> simp [optionalMember]
  have present := holds.present
  simp only [List.forall_mem_append, List.forall_mem_cons] at present
  obtain ⟨⟨⟨⟨time, level, log, -⟩, user⟩, command⟩, node⟩ := present
  have noUser (none : entry.user = none) := holds.absent "user" (by
    simp [optionalMember_eq, none])
  have noCommand (none : entry.command = none) := holds.absent "command" (by
    simp [optionalMember_eq, none])
  have noNode (none : entry.node = none) := holds.absent "node" (by
    simp [optionalMember_eq, none])
  rw [Slot.optional_sent time text_sent nofun,
    Slot.either_sent _ level nofun (Level.decode_encode _),
    Slot.either_sent _ log nofun (text_sent _), optional_left_out user noUser,
    optional_left_out command noCommand, optional_left_out node noNode]
  rfl

/-- All that is sent of an entry can be spelled. -/
theorem encode_complete (entry : Entry) : entry.encode.IsComplete := by
  have optional (name : String) (value : Option String)
      : ∀ member ∈ optionalMember name value, member.2.IsComplete := by
    cases value with
    | none => exact nofun
    | some text => exact List.forall_mem_singleton.mpr (.string text)
  refine Json.isComplete_record ?_
  simp only [List.forall_mem_append, List.forall_mem_cons]
  exact ⟨⟨⟨⟨Json.isComplete_orNull .string _, .string _, .string _, nofun⟩, optional _ _⟩,
    optional _ _⟩, optional _ _⟩

end Entry

namespace Batch

/-- What a batch keeps when it is sent: all but the share that is loaded. -/
def kept (batch : Batch) : Batch :=
  { batch with percentLoaded := ⟨false, 0⟩ }

/-- A batch is read as it was sent, without the share that is loaded. -/
theorem decode_encode (batch : Batch) : decode batch.encode = .ok batch.kept := by
  refine record_sent (by simp [members]) fun field holds => ?_
  have percentLoaded := holds.absent "percentLoaded" (by simp [members])
  have present := holds.present
  simp only [members, List.forall_mem_cons] at present
  obtain ⟨id, message, error, unmodified, empty, offset, completed, execCompleted, hasFailedNodes,
    execState, lastModified, execDuration, totalSize, entries, -⟩ := present
  rw [Slot.orElse_sent _ id (lenientText_sent _), Slot.optional_sent message text_sent nofun,
    Slot.optional_sent error text_sent nofun, Slot.either_sent _ unmodified nofun (bool_sent _),
    Slot.either_sent _ empty nofun (bool_sent _), Slot.orElse_sent _ offset (lenientInteger_sent _),
    Slot.either_sent _ completed nofun (bool_sent _),
    Slot.either_sent _ execCompleted nofun (bool_sent _),
    Slot.either_sent _ hasFailedNodes nofun (bool_sent _),
    Slot.either_sent _ execState nofun (text_sent _),
    Slot.orElse_sent _ lastModified (lenientInteger_sent _),
    Slot.orElse_sent _ execDuration (lenientInteger_sent _),
    Slot.either, Slot.orElse_left_out _ percentLoaded,
    Slot.orElse_sent _ totalSize (lenientInteger_sent _),
    Slot.either_sent _ entries nofun (list_sent Entry.decode_encode _)]
  rfl

/-- All that is sent of a batch can be spelled. -/
theorem encode_complete (batch : Batch) : batch.encode.IsComplete := by
  refine Json.isComplete_record ?_
  simp only [members, List.forall_mem_cons]
  exact ⟨Json.isComplete_orNull .string _, Json.isComplete_orNull .string _,
    Json.isComplete_orNull .string _, .bool _, .bool _, Json.isComplete_ofInt _, .bool _, .bool _,
    .bool _, .string _, Json.isComplete_ofInt _, Json.isComplete_ofInt _, Json.isComplete_ofInt _,
    Json.isComplete_list Entry.encode_complete _, nofun⟩

end Batch

end Output

/-- The status of an export is read as it was sent. -/
theorem Export.Status.decode_encode (status : Export.Status)
    : decode status.encode = .ok status := by
  refine record_sent (by simp) fun field holds => ?_
  have present := holds.present
  simp only [List.forall_mem_cons] at present
  obtain ⟨token, ready, percentage, -⟩ := present
  rw [Slot.required_sent token (text_sent _), Slot.orElse_sent _ ready (bool_sent _),
    Slot.orElse_sent _ percentage (uint32_sent _)]
  rfl

/-- All that is sent of the status of an export can be spelled. -/
theorem Export.Status.encode_complete (status : Export.Status) : status.encode.IsComplete := by
  refine Json.isComplete_record ?_
  simp only [List.forall_mem_cons]
  exact ⟨.string _, .bool _, Json.isComplete_ofInt _, nofun⟩

/-- The place of a page is read as it was sent. -/
theorem Listing.Paging.decode_encode (paging : Paging) : decode paging.encode = .ok paging := by
  refine record_sent (by simp) fun field holds => ?_
  have present := holds.present
  simp only [List.forall_mem_cons] at present
  obtain ⟨count, total, max, offset, -⟩ := present
  rw [Slot.required_sent count (int64_sent _), Slot.required_sent total (int64_sent _),
    Slot.required_sent max (int64_sent _), Slot.required_sent offset (int64_sent _)]
  rfl

/-- All that is sent of the place of a page can be spelled. -/
theorem Listing.Paging.encode_complete (paging : Paging) : paging.encode.IsComplete := by
  refine Json.isComplete_record ?_
  simp only [List.forall_mem_cons]
  exact ⟨Json.isComplete_ofInt _, Json.isComplete_ofInt _, Json.isComplete_ofInt _,
    Json.isComplete_ofInt _, nofun⟩

-----------------------------------------------------------------------
-- Executions
-----------------------------------------------------------------------

namespace Execution

/-- A state is told by its name, by cases. -/
theorem Status.decode_encode (status : Status) : decode status.encode = .ok status := by
  cases status <;> decide

/-- A job is read as it was sent. -/
theorem Job.decode_encode (job : Job) : decode job.encode = .ok job := by
  refine record_sent (by simp) fun field holds => ?_
  have present := holds.present
  simp only [List.forall_mem_cons] at present
  obtain ⟨id, name, group, project, -⟩ := present
  rw [Slot.required_sent id (text_sent _), Slot.required_sent name (text_sent _),
    Slot.optional_sent group text_sent nofun, Slot.optional_sent project text_sent nofun]
  rfl

/-- All that is sent of a job can be spelled. -/
theorem Job.encode_complete (job : Job) : job.encode.IsComplete := by
  refine Json.isComplete_record ?_
  simp only [List.forall_mem_cons]
  exact ⟨.string _, .string _, Json.isComplete_orNull .string _, Json.isComplete_orNull .string _,
    nofun⟩

/-- An instant is read as it was sent. -/
theorem DateStamp.readDate_text (date : Calendar.Instant)
    : readDate (.string (Calendar.Timestamp.text date)) = .ok date := by
  simp only [readDate, Calendar.Timestamp.read?_text]

/-- A date is read as it was sent. -/
theorem DateStamp.decode_encode (stamp : DateStamp) : decode stamp.encode = .ok stamp := by
  refine record_sent (by simp) fun field holds => ?_
  have present := holds.present
  simp only [List.forall_mem_cons] at present
  obtain ⟨unixtime, date, -⟩ := present
  rw [Slot.required_sent unixtime (int64_sent _), Slot.required_sent date (readDate_text _)]
  rfl

/-- All that is sent of a date can be spelled. -/
theorem DateStamp.encode_complete (stamp : DateStamp) : stamp.encode.IsComplete := by
  refine Json.isComplete_record ?_
  simp only [List.forall_mem_cons]
  exact ⟨Json.isComplete_ofInt _, .string _, nofun⟩

/-- An execution is read as it was sent. -/
theorem decode_encode (execution : Execution) : decode execution.encode = .ok execution := by
  refine record_sent (by simp) fun field holds => ?_
  have present := holds.present
  simp only [List.forall_mem_cons] at present
  obtain ⟨id, status, project, user, description, argstring, permalink, job, dateStarted, dateEnded,
    -⟩ := present
  have jobThere (job : Job) : job.encode ≠ .null := record_ne_null _
  have stampThere (stamp : DateStamp) : stamp.encode ≠ .null := record_ne_null _
  rw [Slot.required_sent id (int64_sent _), Slot.required_sent status (Status.decode_encode _),
    Slot.required_sent project (text_sent _), Slot.optional_sent user text_sent nofun,
    Slot.optional_sent description text_sent nofun, Slot.optional_sent argstring text_sent nofun,
    Slot.optional_sent permalink text_sent nofun, Slot.optional_sent job Job.decode_encode jobThere,
    Slot.optional_sent dateStarted DateStamp.decode_encode stampThere,
    Slot.optional_sent dateEnded DateStamp.decode_encode stampThere]
  rfl

/-- All that is sent of an execution can be spelled. -/
theorem encode_complete (execution : Execution) : execution.encode.IsComplete := by
  refine Json.isComplete_record ?_
  simp only [List.forall_mem_cons]
  exact ⟨Json.isComplete_ofInt _, .string _, .string _, Json.isComplete_orNull .string _,
    Json.isComplete_orNull .string _, Json.isComplete_orNull .string _,
    Json.isComplete_orNull .string _, Json.isComplete_orNull Job.encode_complete _,
    Json.isComplete_orNull DateStamp.encode_complete _,
    Json.isComplete_orNull DateStamp.encode_complete _, nofun⟩

/-- A page of executions is read as it was sent. -/
theorem Page.decode_encode (page : Page) : decode page.encode = .ok page := by
  refine record_sent (by simp) fun field holds => ?_
  have present := holds.present
  simp only [List.forall_mem_cons] at present
  obtain ⟨paging, executions, -⟩ := present
  rw [Slot.required_sent paging (Listing.Paging.decode_encode _),
    Slot.orElse_sent _ executions (list_sent Execution.decode_encode _)]
  rfl

/-- All that is sent of a page of executions can be spelled. -/
theorem Page.encode_complete (page : Page) : page.encode.IsComplete := by
  refine Json.isComplete_record ?_
  simp only [List.forall_mem_cons]
  exact ⟨Listing.Paging.encode_complete _, Json.isComplete_list Execution.encode_complete _, nofun⟩

end Execution

-----------------------------------------------------------------------
-- Canonical texts
-----------------------------------------------------------------------

namespace Wire

variable {α : Type} {decode : Reader α} {encode : α → Json} {kept : α → α}

/-- A text written once more: it is read, and what it is read as is written. -/
def rewrite (decode : Reader α) (encode : α → Json) (text : String) : Except Fault String :=
  (document decode (Json.ofText text)).map fun value => (encode value).render

/-- The text that is written for a value is read as what is kept of the value. It is the canonical
form of all texts that are read as the value: written once more it stays as it is.
-/
structure ReadsBack (decode : Reader α) (encode : α → Json) (kept : α → α) : Prop where
  value_kept : ∀ value, document decode (Json.ofText (encode value).render) = .ok (kept value)
  text_canonical : ∀ text written,
    rewrite decode encode text = .ok written → rewrite decode encode written = .ok written

/-- A value is read back from its text if it is read as it was sent, can be spelled, and is sent as
what is kept of it.
-/
theorem ReadsBack.of_sent (reads : ∀ value, decode (encode value) = .ok (kept value))
    (complete : ∀ value, (encode value).IsComplete)
    (same : ∀ value, encode (kept value) = encode value)
    : ReadsBack decode encode kept := by
  have value_kept (value : α)
      : document decode (Json.ofText (encode value).render) = .ok (kept value) := by
    rw [Json.ofText_render (complete value)]
    simp only [document, reads, Bool.false_eq_true, if_false]
  refine ⟨value_kept, fun text written isWritten => ?_⟩
  cases read : document decode (Json.ofText text) with
  | error fault =>
      rw [rewrite, read] at isWritten
      cases isWritten
  | ok value =>
      rw [rewrite, read] at isWritten
      obtain rfl := Except.ok.inj isWritten
      rw [rewrite, value_kept, Except.map, same]

/-- Every record is read back from the text that is written for it, whatever its values are: batches
but for the share that is loaded, entries, statuses of exports, places of pages, executions and
pages of executions.
-/
theorem records_read_back
    : ReadsBack Output.Batch.decode Output.Batch.encode Output.Batch.kept
      ∧ ReadsBack Output.Entry.decode Output.Entry.encode id
      ∧ ReadsBack Export.Status.decode Export.Status.encode id
      ∧ ReadsBack Listing.Paging.decode Listing.Paging.encode id
      ∧ ReadsBack Execution.decode Execution.encode id
      ∧ ReadsBack Execution.Page.decode Execution.Page.encode id :=
  ⟨.of_sent Output.Batch.decode_encode Output.Batch.encode_complete fun _ => rfl,
    .of_sent Output.Entry.decode_encode Output.Entry.encode_complete fun _ => rfl,
    .of_sent Export.Status.decode_encode Export.Status.encode_complete fun _ => rfl,
    .of_sent Listing.Paging.decode_encode Listing.Paging.encode_complete fun _ => rfl,
    .of_sent Execution.decode_encode Execution.encode_complete fun _ => rfl,
    .of_sent Execution.Page.decode_encode Execution.Page.encode_complete fun _ => rfl⟩

end Wire

end JobWatch
