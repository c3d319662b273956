import JobWatch.Proofs.Client.Addresses
import JobWatch.Proofs.Json.Reading
import JobWatch.Proofs.Poll.Runs
import JobWatch.Proofs.Text.Utf8
import JobWatch.Proofs.Wire.CursorFields

/-! A cursor crosses the wire unchanged: what a response spells for it is what the next request asks
with, over runs of any length.
-/

namespace JobWatch.Client

open JobWatch.Http

/-- A body is the UTF-8 of a JSON object whose fields spell the two numbers of a cursor. -/
def BodySpells (body : List UInt8) (offset lastModified : Int) : Prop :=
  ∃ text members,
    body = Text.Utf8.encode text
    ∧ Json.IsTextOf text (.object members true)
    ∧ Wire.FieldSpells members "offset" offset
    ∧ Wire.FieldSpells members "lastModified" lastModified

/-- Only a response that arrived as a whole is read as a document. -/
theorem document_whole {α : Type} {read : Wire.Reader α} {reply : Reply} {value : α}
    (isRead : document read reply = .ok value)
    : ∃ status body,
        reply.received = .answered status body true
        ∧ Wire.document read (Json.read (Text.Utf8.decode body)) = .ok value := by
  rw [document, accept] at isRead
  cases received : reply.received with
  | dropped => simp [received] at isRead
  | answered status body complete =>
      simp only [received] at isRead
      split at isRead
      · cases complete with
        | false => simp at isRead
        | true =>
            refine ⟨status, body, rfl, ?_⟩
            cases found : Wire.document read (Json.read (Text.Utf8.decode body)) with
            | error fault => simp [found] at isRead
            | ok other => simpa [found] using isRead
      · cases isRead

/-- A batch that is read from a body holds the numbers that the body spells. -/
theorem batch_spelled {body : List UInt8} {offset lastModified : Int} {batch : Output.Batch}
    (spelled : BodySpells body offset lastModified)
    (isRead : Wire.document Output.Batch.decode (Json.read (Text.Utf8.decode body)) = .ok batch)
    : batch.offset.toInt = offset ∧ batch.lastModified.toInt = lastModified := by
  obtain ⟨text, members, rfl, isText, offsetSpelled, lastModifiedSpelled⟩ := spelled
  rw [Text.Utf8.decode_encode, Json.read_text isText] at isRead
  refine Wire.batch_cursor ?_ offsetSpelled lastModifiedSpelled
  cases found : Output.Batch.decode (.object members true) with
  | error fault => simp [Wire.document, found] at isRead
  | ok other => simpa [Wire.document, found] using isRead

/-- What the requests of a run ask for, in order. A request that cannot be sent asks for nothing. -/
def targets {Event : Type} (connection : Connection) (id : String)
    (run : Poll.Run Poll.OutputQuery Event Reply)
    : List (Option String) :=
  (Poll.requests run.steps).map fun query =>
    (connection.request? (.output id query)).map (·.target)

/-- The query that a run starts with. -/
def startQuery (start : Poll.Start) (maxLines : UInt32) : String :=
  match start with
  | .restart => cursorQuery 0 0 maxLines
  | .tail lines => tailQuery lines

/-- The query that a run starts with is written as it is. -/
theorem outputQuery_start (start : Poll.Start) (maxLines : UInt32)
    : String.ofList (Endpoint.outputQuery (start.query maxLines)) = startQuery start maxLines := by
  cases start with
  | restart =>
      rw [Poll.Start.query, Endpoint.outputQuery_after, String.ofList_toList]
      rfl
  | tail lines =>
      rw [Poll.Start.query, Endpoint.outputQuery_tail, String.ofList_toList]
      rfl

/-- Every request of a run is sent, and asks for what its query says. -/
theorem target_of_query {Event : Type} {base : PlainBase} {token : Option String}
    {resolver : Resolver} {id : String} {run : Poll.Run Poll.OutputQuery Event Reply}
    {poll : Nat} {target : Option String} (plainId : IsPlainSegment id.toList)
    (sent : ∀ query ∈ Poll.requests run.steps,
      (Connection.request? { connect base.text token with resolver } (.output id query)).isSome)
    (asked : (targets { connect base.text token with resolver } id run)[poll]? = some target)
    : ∃ query,
        (Poll.requests run.steps)[poll]? = some query
        ∧ target = some (base.outputTarget id (String.ofList (Endpoint.outputQuery query))) := by
  rw [targets, List.getElem?_map] at asked
  obtain ⟨query, isQuery, rfl⟩ := Option.map_eq_some_iff.mp asked
  obtain ⟨request, isRequest⟩ := Option.isSome_iff_exists.mp
    (sent query (List.mem_of_getElem? isQuery))
  refine ⟨query, isQuery, ?_⟩
  rw [isRequest, Option.map_some, request?_output plainId isRequest]

/-- The first request of a run asks for its start, and every later one for what is behind the cursor
that the body before it spells, in canonical decimal and below the path of the server's address.
-/
theorem requests_ask_behind_spelled_cursors {Event : Type} (base : PlainBase)
    (token : Option String) (resolver : Resolver) {id : String}
    (plainId : IsPlainSegment id.toList) (start : Poll.Start) (maxLines : UInt32)
    (deliver : List Output.Entry → List Event) (replies : List Reply) (waits : List Bool)
    : let connection := { connect base.text token with resolver }
      let run :=
        Poll.follow (connection.outputService id) start maxLines deliver replies waits
      (∀ target, (targets connection id run)[0]? = some target
        → target = some (base.outputTarget id (startQuery start maxLines)))
      ∧ ∀ poll target, (targets connection id run)[poll + 1]? = some target
          → ∃ reply status body,
              replies[poll]? = some reply
              ∧ reply.received = .answered status body true
              ∧ ∀ offset lastModified, BodySpells body offset lastModified
                  → target
                    = some (base.outputTarget id (cursorQuery offset lastModified maxLines)) := by
  intro connection run
  have ran : (Poll.following maxLines deliver).Ran (connection.outputService id)
      (start.query maxLines) replies waits run :=
    Poll.Loop.ran _ _ _ _ _
  have sent : ∀ query ∈ Poll.requests run.steps,
      (connection.request? (.output id query)).isSome :=
    fun query asked => Connection.service_sends (ran.sent query asked)
  constructor
  · intro target asked
    obtain ⟨query, isQuery, rfl⟩ := target_of_query plainId sent asked
    have isStart : query = start.query maxLines := ran.first_request isQuery
    rw [isStart, outputQuery_start]
  · intro poll target asked
    obtain ⟨query, isQuery, rfl⟩ := target_of_query plainId sent asked
    obtain ⟨before, reply, batch, -, replied, answered, -, isNext⟩ := ran.next_request isQuery
    have isRead : document Output.Batch.decode reply = .ok batch :=
      Connection.service_reads.mp answered
    obtain ⟨status, body, received, isBatch⟩ := document_whole isRead
    refine ⟨reply, status, body, replied, received, fun offset lastModified spelled => ?_⟩
    obtain ⟨rfl, rfl⟩ := batch_spelled spelled isBatch
    have isCursor : query = .after (.after batch maxLines) := isNext
    rw [isCursor, Endpoint.outputQuery_after, String.ofList_toList]
    rfl

/-- A server on the machine itself, its address with two slashes at the end. -/
def loopback : PlainBase where
  host := "[::1]:4440".toList
  segments := ["rd".toList]
  slashes := 2
  isHost := ⟨by decide, List.all_iff_forall_prop.mp (by decide)⟩
  plain := List.forall_mem_singleton.mpr (.of_all (by decide) (by decide))
  ends := by decide

/-- A body that spells its offset in a string with a sign, zeros and blanks, and the least number
of 64 bits in a literal.
-/
def paddedBody : List Char :=
  "\x7b\"offset\":\" +007\",\"lastModified\":-9223372036854775808\x7d".toList

theorem paddedBody_spells : BodySpells (Text.Utf8.encode paddedBody) 7 (-9223372036854775808) := by
  have noSpace := Json.isBlankText_nil
  have plain {text : List Char} (looks : text.all fun c => c ≠ '"' ∧ c ≠ '\\' ∧ 0x20 ≤ c.toNat)
      : Json.IsPlainText text :=
    List.all_iff_forall_prop.mp looks
  let least : Json.Numeral :=
    ⟨true, [9, 2, 2, 3, 3, 7, 2, 0, 3, 6, 8, 5, 4, 7, 7, 5, 8, 0, 8], [], none⟩
  have literal : Json.SpellsNumeral "-9223372036854775808".toList least :=
    ⟨by simp [Json.IsWhole, least], [], .absent, by decide⟩
  have offset := Json.spells_member "offset".toList (plain (by decide))
    (Json.spells_plain " +007".toList (plain (by decide)))
  have lastModified := Json.spells_member "lastModified".toList (plain (by decide))
    (Json.Spells.number literal)
  have object := Json.Spells.object (.moreMembers noSpace noSpace offset
    (.lastMember noSpace noSpace lastModified))
  have isText : Json.IsTextOf paddedBody _ :=
    ⟨[], _, [], noSpace, object, noSpace, by decide⟩
  refine ⟨paddedBody, _, rfl, isText, ?_, ?_⟩
  · have spaceBefore : Wire.IsBlank [' '] := List.forall_mem_singleton.mpr (by decide)
    have nothingBehind : Wire.IsBlank [] := fun _ member => nomatch member
    have padded : Wire.SpellsInteger "+007".toList 7 :=
      .plus ⟨by decide, List.all_eq_true.mp (by decide), by decide⟩
    exact .present List.mem_cons_self (.text spaceBefore nothingBehind padded (by decide))
  · refine .present (List.mem_cons_of_mem _ List.mem_cons_self) ?_
    exact .literal (by simp [Json.IsWhole]) (by decide)

/-- The request behind such a body asks with both numbers in canonical decimal. -/
theorem second_request_asks_behind_padded_cursor
    : let connection := { connect loopback.text none with resolver := .offline }
      let run :=
        Poll.follow (connection.outputService "7") .restart 500 (fun entries => entries)
          [.answered 200 (Text.Utf8.encode paddedBody) true] []
      IsPlainSegment "7".toList
      ∧ (targets connection "7" run)[1]?
        = some (some ("/rd/api/41/execution/7/output?offset=7&lastmod=-9223372036854775808"
          ++ "&maxlines=500&compacted=true")) := by
  intro connection run
  have plainId : IsPlainSegment "7".toList := .of_all (by decide) (by decide)
  have isThere : ((targets connection "7" run)[1]?).isSome := by decide +kernel
  obtain ⟨target, asked⟩ := Option.isSome_iff_exists.mp isThere
  obtain ⟨-, later⟩ := requests_ask_behind_spelled_cursors loopback none .offline plainId .restart
    500 (fun entries => entries) [.answered 200 (Text.Utf8.encode paddedBody) true] []
  obtain ⟨reply, status, body, replied, received, asks⟩ := later 0 target asked
  obtain rfl := Option.some.inj replied
  obtain ⟨rfl, rfl, -⟩ := Reply.answered.inj received
  refine ⟨plainId, ?_⟩
  rw [asked, asks 7 (-9223372036854775808) paddedBody_spells]
  decide

end JobWatch.Client
