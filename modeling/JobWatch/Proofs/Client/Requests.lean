import JobWatch.Client.Connection
import JobWatch.Proofs.Http.Targets
import JobWatch.Proofs.Number.Decimal

/-! What a connection sends: a service over it refuses only what cannot be sent, and a request that
is sent without a proxy asks for what its address says.
-/

namespace JobWatch.Client

open JobWatch.Http

namespace Connection

/-- A service over a connection refuses nothing that can be sent. -/
theorem service_sends {Asked α : Type} {connection : Connection} {endpoint : Asked → Endpoint}
    {read : Reply → Except Error α} {asked : Asked}
    (taken : (connection.service endpoint read).refusal? asked = none)
    : (connection.request? (endpoint asked)).isSome := by
  simpa [service, Option.isSome_iff_ne_none] using taken

/-- A result is what the reply reads as: only errors depend on what was asked for. -/
theorem result_ok_iff {α : Type} {endpoint : Endpoint} {read : Reply → Except Error α}
    {reply : Reply} {answer : α}
    : result endpoint read reply = .ok answer ↔ read reply = .ok answer := by
  rw [result]
  cases read reply <;> simp [Except.mapError]

/-- An answer of a service over a connection is what the reply reads as. -/
theorem service_reads {Asked α : Type} {connection : Connection} {endpoint : Asked → Endpoint}
    {read : Reply → Except Error α} {asked : Asked} {reply : Reply} {answer : α}
    : (connection.service endpoint read).answer asked reply = .ok answer
      ↔ read reply = .ok answer :=
  result_ok_iff

end Connection

/-- A server's address in its parts: a host, a path of plain segments, and slashes at the end. A
last segment without characters would be one of these slashes.
-/
structure PlainBase where
  host : List Char
  segments : List (List Char)
  slashes : Nat
  isHost : IsHostText host
  plain : ∀ segment ∈ segments, IsPlainSegment segment
  ends : segments.getLast? ≠ some []

namespace PlainBase

/-- The address as it is given. -/
def text (base : PlainBase) : String :=
  String.ofList ("http://".toList ++ base.host ++ pathOf base.segments
    ++ List.replicate base.slashes '/')

/-- The path of the address, without the slashes at its end. -/
def path (base : PlainBase) : String :=
  String.ofList (pathOf base.segments)

/-- In front of the slashes at its end an address has none, by cases of its last segment. -/
theorem no_slash_at_end (base : PlainBase)
    : ∀ c ∈ ("http://".toList ++ base.host ++ pathOf base.segments).getLast?,
        (c == '/') = false := by
  intro c isLast
  rcases List.eq_nil_or_concat base.segments with none | ⟨others, segment, some⟩
  · rw [none, pathOf_nil, List.append_nil] at isLast
    have inHost := Text.mem_getLast?_append base.isHost.nonempty isLast
    have plain := base.isHost.plain c inHost
    simp only [List.mem_cons, not_or] at plain
    exact beq_eq_false_iff_ne.mpr plain.1
  · have nonempty : segment ≠ [] := by
      rintro rfl
      exact base.ends (by rw [some, List.concat_eq_append, List.getLast?_concat])
    rw [some, List.concat_eq_append, pathOf_append, pathOf_cons, pathOf_nil, List.append_nil,
      List.append_cons, ← List.append_assoc, ← List.append_assoc] at isLast
    have inSegment := Text.mem_getLast?_append nonempty isLast
    have isMember : segment ∈ base.segments := by simp [some]
    have unreserved := (base.plain segment isMember).unreserved c inSegment
    refine beq_eq_false_iff_ne.mpr ?_
    rintro rfl
    exact absurd unreserved (by decide)

/-- A connection leaves the slashes at the end of an address out. -/
theorem baseUrl_connect (base : PlainBase) (token : Option String)
    : (connect base.text token).baseUrl.toList
      = "http://".toList ++ base.host ++ pathOf base.segments := by
  have dropped : ∀ c ∈ List.replicate base.slashes '/', c == '/' := fun c member => by
    rw [List.eq_of_mem_replicate member]
    rfl
  unfold connect text
  rw [String.toList_ofList, String.toList_ofList]
  exact Text.dropTrailing_append dropped base.no_slash_at_end

/-- What follows the path of the server's address in a request for the output of an execution. -/
def outputTarget (base : PlainBase) (id query : String) : String :=
  base.path ++ "/api/41/execution/" ++ id ++ "/output?" ++ query

end PlainBase

/-- The query for the lines behind a cursor, both of its numbers in canonical decimal. -/
def cursorQuery (offset lastModified : Int) (maxLines : UInt32) : String :=
  "offset=" ++ toString offset ++ "&lastmod=" ++ toString lastModified
    ++ "&maxlines=" ++ toString maxLines.toNat ++ "&compacted=true"

/-- The query for the last lines. -/
def tailQuery (lines : UInt32) : String :=
  "tail=" ++ toString lines.toNat ++ "&compacted=true"

namespace Endpoint

/-- A signed word is written in canonical decimal. -/
theorem signedWord_eq (value : Int64) : signedWord value = (toString value.toInt).toList :=
  Number.signed_eq_toString value.toInt

/-- A word is written in canonical decimal. -/
theorem word_eq (value : UInt32) : word value = (toString value.toNat).toList :=
  Number.natural_eq_toString value.toNat

/-- A cursor is written into the query as it is. -/
theorem outputQuery_after (cursor : Output.Cursor)
    : outputQuery (.after cursor)
      = (cursorQuery cursor.offset.toInt cursor.lastModified.toInt cursor.maxLines).toList := by
  unfold outputQuery cursorQuery
  simp only [signedWord_eq, word_eq, String.toList_append]

/-- A number of lines is written into the query as it is. -/
theorem outputQuery_tail (lines : UInt32)
    : outputQuery (.tail lines) = (tailQuery lines).toList := by
  unfold outputQuery tailQuery
  simp only [word_eq, String.toList_append]

end Endpoint

namespace Connection

/-- What a target has in front of its path: a proxy is told the server as well. -/
def origin (connection : Connection) (url : Url) : List Char :=
  match connection.proxies.forHost? url.host with
  | some _ => "http://".toList ++ url.strayUserinfo ++ url.authority
  | none => []

/-- A target is the path and the query of an address behind the origin. -/
theorem eq_of_target? {connection : Connection} {url : Url} {target : List Char}
    (isTarget : connection.target? url = some target)
    : target = connection.origin url ++ url.target := by
  rw [target?] at isTarget
  rw [origin]
  cases proxy? : connection.proxies.forHost? url.host <;> simp only [proxy?] at isTarget ⊢
  all_goals
    split at isTarget
    · exact (Option.some.inj isTarget).symm
    · cases isTarget

/-- What is sent for an endpoint is read off the text of its address. -/
theorem address_of_request? {connection : Connection} {endpoint : Endpoint} {request : Request}
    (sent : connection.request? endpoint = some request)
    : ∃ address,
        Url.read? (connection.urlText endpoint) = some address
        ∧ request
          = { method := "GET"
              target := String.ofList (connection.origin address ++ address.target)
              accept := "application/json"
              authorization := connection.authorization address } := by
  obtain ⟨address, isUrl, sent⟩ := Option.bind_eq_some_iff.mp sent
  obtain ⟨target, isTarget, rfl⟩ := Option.map_eq_some_iff.mp sent
  refine ⟨address, ?_, by rw [eq_of_target? isTarget]⟩
  rw [url?] at isUrl
  split at isUrl
  · exact (Option.filter_eq_some_iff.mp isUrl).1
  · cases isUrl

end Connection

/-- A request that is sent without a proxy asks for what its address says. -/
theorem request?_direct {url : String} {token : Option String} {resolver : Resolver}
    {endpoint : Endpoint} {request : Request}
    (sent : Connection.request? { connect url token with resolver } endpoint = some request)
    : ∃ address,
        Url.read? (Connection.urlText (connect url token) endpoint) = some address
        ∧ request.target = String.ofList address.target := by
  obtain ⟨address, isUrl, rfl⟩ := Connection.address_of_request? sent
  exact ⟨address, isUrl, rfl⟩

end JobWatch.Client
