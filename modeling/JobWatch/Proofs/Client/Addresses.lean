import JobWatch.Proofs.Client.Requests
import JobWatch.Proofs.Http.Transparency

/-! What the requests for the endpoints address: an endpoint has its own segments and parameters,
and a target names them exactly if the names in it are taken as they are.
-/

namespace JobWatch.Client

open JobWatch.Http

namespace Endpoint

-----------------------------------------------------------------------
-- Resources of endpoints
-----------------------------------------------------------------------

/-- The segments of an endpoint, below the root of the interface. -/
def segments : Endpoint → List String
  | execution id => ["execution", id]
  | executions project _ _ => ["project", project, "executions"]
  | output id _ => ["execution", id, "output"]
  | exportStart project => ["project", project, "export", "async"]
  | exportStatus project token => ["project", project, "export", "status", token]
  | exportDownload project token => ["project", project, "export", "download", token]

/-- The parameters of an endpoint with their values, all numbers in canonical decimal. -/
def parameters : Endpoint → List (String × String)
  | executions _ max offset => [("max", toString max.toNat), ("offset", toString offset.toNat)]
  | output _ (.after cursor) =>
    [("offset", toString cursor.offset.toInt), ("lastmod", toString cursor.lastModified.toInt),
      ("maxlines", toString cursor.maxLines.toNat), ("compacted", "true")]
  | output _ (.tail lines) => [("tail", toString lines.toNat), ("compacted", "true")]
  | execution _ | exportStart _ | exportStatus _ _ | exportDownload _ _ => []

/-- The identifiers, project names and tokens in an endpoint. -/
def names : Endpoint → List String
  | execution id | output id _ => [id]
  | executions project _ _ | exportStart project => [project]
  | exportStatus project token | exportDownload project token => [project, token]

/-- The name that the address of an endpoint ends with, if it ends with one. -/
def finalName? : Endpoint → Option String
  | execution id => some id
  | exportStatus _ token | exportDownload _ token => some token
  | executions _ _ _ | output _ _ | exportStart _ => none

/-- A name ends with a character past the space, or has none. -/
def HasVisibleEnd (name : String) : Prop :=
  ∀ c ∈ name.toList.getLast?, 0x20 < c.toNat

/-- The names in an endpoint are taken as they are, and no blank stands at the end of its address.
-/
structure IsFaithful (endpoint : Endpoint) : Prop where
  transparent : ∀ name ∈ endpoint.names, IsTransparent name.toList
  ends : ∀ name ∈ endpoint.finalName?, HasVisibleEnd name

end Endpoint

/-- The resource of an endpoint below the address of a server. -/
def PlainBase.resource (base : PlainBase) (endpoint : Endpoint) : Resource where
  segments := base.segments ++ (["api", "41"] ++ endpoint.segments).map String.toList
  parameters := endpoint.parameters.map fun (name, value) => (name.toList, value.toList)

theorem PlainBase.segments_ne_nil (base : PlainBase) (endpoint : Endpoint)
    : (base.resource endpoint).segments ≠ [] := by
  simp [resource]

namespace Endpoint

theorem word_injective {value other : UInt32} (same : toString value.toNat = toString other.toNat)
    : value = other :=
  UInt32.toNat_inj.mp <| Number.natural_injective <| by
    rw [Number.natural_eq_toString, Number.natural_eq_toString, same]

theorem signedWord_injective {value other : Int64}
    (same : toString value.toInt = toString other.toInt)
    : value = other :=
  Int64.toInt_inj.mp <| Number.signed_injective <| by
    rw [Number.signed_eq_toString, Number.signed_eq_toString, same]

/-- A query for output is told by its parameters. -/
theorem query_injective {id other : String} {query later : Poll.OutputQuery}
    (same : (output id query).parameters = (output other later).parameters)
    : query = later := by
  cases query with
  | after cursor =>
      cases later with
      | after place =>
          simp only [parameters, List.cons.injEq, Prod.mk.injEq, true_and, and_true] at same
          obtain ⟨offset, lastModified, maxLines⟩ := same
          refine congrArg Poll.OutputQuery.after ?_
          cases cursor
          cases place
          rw [Output.Cursor.mk.injEq]
          exact ⟨signedWord_injective offset, signedWord_injective lastModified,
            word_injective maxLines⟩
      | tail lines => simp [parameters] at same
  | tail lines =>
      cases later with
      | after place => simp [parameters] at same
      | tail others =>
          simp only [parameters, List.cons.injEq, Prod.mk.injEq, true_and, and_true] at same
          rw [word_injective same]

/-- An endpoint is told by its segments and its parameters. -/
theorem resource_injective {base : PlainBase} {endpoint other : Endpoint}
    (same : base.resource endpoint = base.resource other)
    : endpoint = other := by
  obtain ⟨segments, parameters⟩ := Resource.mk.inj same
  have segments : endpoint.segments = other.segments := by
    have same := List.append_cancel_left segments
    have injective : Function.Injective String.toList := fun _ _ => String.toList_inj.mp
    exact List.append_cancel_left (List.map_injective_iff.mpr injective same)
  have parameters : endpoint.parameters = other.parameters := by
    refine List.map_injective_iff.mpr ?_ parameters
    rintro ⟨name, value⟩ ⟨otherName, otherValue⟩ same
    obtain ⟨name, value⟩ := Prod.mk.inj same
    rw [String.toList_inj.mp name, String.toList_inj.mp value]
  -- the segments tell endpoints of different kinds apart, and the parameters those of one kind
  cases endpoint <;> cases other <;> simp_all [Endpoint.segments]
  case executions.executions =>
    simp only [Endpoint.parameters, List.cons.injEq, Prod.mk.injEq, true_and, and_true]
      at parameters
    exact parameters.imp word_injective word_injective
  case output.output => exact query_injective parameters

-----------------------------------------------------------------------
-- Addresses of endpoints
-----------------------------------------------------------------------

/-- The parameters of an endpoint stand for themselves in a query. -/
theorem parameters_plain (base : PlainBase) (endpoint : Endpoint)
    : Resource.ArePlain (base.resource endpoint).parameters := by
  have fixed {name : String} (looks : name.toList.all Resource.isParameterChar)
      : ∀ c ∈ name.toList, Resource.isParameterChar c :=
    List.all_eq_true.mp looks
  have digits (value : Nat) : ∀ c ∈ (toString value).toList, Resource.isParameterChar c := by
    have all : ∀ digit, Resource.isParameterChar (Number.digitChar digit) := by decide
    intro c member
    rw [← Number.natural_eq_toString] at member
    obtain ⟨digit, -, rfl⟩ := List.mem_map.mp member
    exact all digit
  have signed (value : Int) : ∀ c ∈ (toString value).toList, Resource.isParameterChar c := by
    rw [← Number.signed_eq_toString]
    cases value with
    | ofNat value => rw [Number.signed, Number.natural_eq_toString]; exact digits value
    | negSucc value =>
        rw [Number.signed, Number.natural_eq_toString]
        exact List.forall_mem_cons.mpr ⟨by decide, digits (value + 1)⟩
  unfold Resource.ArePlain PlainBase.resource
  cases endpoint with
  | output id query =>
      cases query with
      | after cursor =>
          simp only [parameters, List.map_cons, List.map_nil, List.forall_mem_cons,
            List.forall_mem_append, List.not_mem_nil, false_imp_iff, implies_true, and_true]
          exact ⟨⟨fixed (by decide), signed _⟩, ⟨fixed (by decide), signed _⟩,
            ⟨fixed (by decide), digits _⟩, fixed (by decide), fixed (by decide)⟩
      | tail lines =>
          simp only [parameters, List.map_cons, List.map_nil, List.forall_mem_cons,
            List.forall_mem_append, List.not_mem_nil, false_imp_iff, implies_true, and_true]
          exact ⟨⟨fixed (by decide), digits _⟩, fixed (by decide), fixed (by decide)⟩
  | executions project max offset =>
      simp only [parameters, List.map_cons, List.map_nil, List.forall_mem_cons,
        List.forall_mem_append, List.not_mem_nil, false_imp_iff, implies_true, and_true]
      exact ⟨⟨fixed (by decide), digits _⟩, fixed (by decide), digits _⟩
  | execution id => exact List.forall_mem_nil _
  | exportStart project => exact List.forall_mem_nil _
  | exportStatus project token => exact List.forall_mem_nil _
  | exportDownload project token => exact List.forall_mem_nil _

theorem outputQuery_eq (base : PlainBase) (id : String) (query : Poll.OutputQuery)
    : outputQuery query = Resource.queryOf (base.resource (output id query)).parameters := by
  have compacted : "&compacted=true".toList = '&' :: "compacted".toList ++ '=' :: "true".toList :=
    rfl
  unfold PlainBase.resource outputQuery
  cases query with
  | after cursor =>
      have offset : "offset=".toList = "offset".toList ++ ['='] := rfl
      have lastModified : "&lastmod=".toList = '&' :: "lastmod".toList ++ ['='] := rfl
      have maxLines : "&maxlines=".toList = '&' :: "maxlines".toList ++ ['='] := rfl
      simp only [offset, lastModified, maxLines, compacted, signedWord_eq, word_eq, parameters,
        Resource.queryOf, Resource.parameterText, List.map_cons, List.map_nil, List.flatMap_cons,
        List.flatMap_nil, List.append_assoc, List.cons_append, List.nil_append, List.append_nil]
  | tail lines =>
      have tail : "tail=".toList = "tail".toList ++ ['='] := rfl
      simp only [tail, compacted, word_eq, parameters, Resource.queryOf, Resource.parameterText,
        List.map_cons, List.map_nil, List.flatMap_cons, List.flatMap_nil, List.append_assoc,
        List.cons_append, List.nil_append, List.append_nil]

theorem query?_output (base : PlainBase) (id : String) (query : Poll.OutputQuery)
    : (base.resource (output id query)).query? = some (outputQuery query) := by
  rw [outputQuery_eq base id]
  cases query <;> rfl

/-- The path of an endpoint is made of its segments and its parameters. -/
theorem path_eq (base : PlainBase) (endpoint : Endpoint)
    : '/' :: endpoint.path
      = pathOf (endpoint.segments.map String.toList)
        ++ Url.marked '?' (base.resource endpoint).query? := by
  have project : "project/".toList = "project".toList ++ ['/'] := rfl
  have execution : "execution/".toList = "execution".toList ++ ['/'] := rfl
  unfold Endpoint.path segments
  cases endpoint with
  | output id query =>
      have output : "/output?".toList = '/' :: "output".toList ++ ['?'] := rfl
      simp only [query?_output, execution, output, Url.marked, List.map_cons, List.map_nil,
        pathOf_cons, pathOf_nil, List.append_assoc, List.cons_append, List.nil_append,
        List.append_nil]
  | executions name max skipped =>
      have executions : "/executions?max=".toList
          = '/' :: "executions".toList ++ '?' :: "max".toList ++ ['='] := rfl
      have offset : "&offset=".toList = '&' :: "offset".toList ++ ['='] := rfl
      have some : (base.resource (.executions name max skipped)).query?
          = some
            (Resource.queryOf [("max".toList, word max), ("offset".toList, word skipped)]) := by
        rw [word_eq, word_eq]
        rfl
      simp only [some, project, executions, offset, Resource.queryOf, Resource.parameterText,
        Url.marked, List.map_cons, List.map_nil, pathOf_cons, pathOf_nil, List.flatMap_cons,
        List.flatMap_nil, List.append_assoc, List.cons_append, List.nil_append, List.append_nil]
  | execution id =>
      have none : (base.resource (.execution id)).query? = none := rfl
      simp only [none, execution, Url.marked, List.map_cons, List.map_nil, pathOf_cons, pathOf_nil,
        List.append_assoc, List.cons_append, List.nil_append, List.append_nil]
  | exportStart name =>
      have start : "/export/async".toList = '/' :: "export".toList ++ '/' :: "async".toList := rfl
      have none : (base.resource (.exportStart name)).query? = none := rfl
      simp only [none, project, start, Url.marked, List.map_cons, List.map_nil, pathOf_cons,
        pathOf_nil, List.append_assoc, List.cons_append, List.nil_append, List.append_nil]
  | exportStatus name token =>
      have status : "/export/status/".toList
          = '/' :: "export".toList ++ '/' :: "status".toList ++ ['/'] := rfl
      have none : (base.resource (.exportStatus name token)).query? = none := rfl
      simp only [none, project, status, Url.marked, List.map_cons, List.map_nil, pathOf_cons,
        pathOf_nil, List.append_assoc, List.cons_append, List.nil_append, List.append_nil]
  | exportDownload name token =>
      have download : "/export/download/".toList
          = '/' :: "export".toList ++ '/' :: "download".toList ++ ['/'] := rfl
      have none : (base.resource (.exportDownload name token)).query? = none := rfl
      simp only [none, project, download, Url.marked, List.map_cons, List.map_nil, pathOf_cons,
        pathOf_nil, List.append_assoc, List.cons_append, List.nil_append, List.append_nil]

theorem urlText_eq {base : PlainBase} {connection : Connection} (endpoint : Endpoint)
    (known : connection.baseUrl.toList = "http://".toList ++ base.host ++ pathOf base.segments)
    : connection.urlText endpoint
      = Url.addressText base.host (base.resource endpoint).segments
          (base.resource endpoint).query? := by
  have version : Number.natural apiVersion = "41".toList := Number.natural_eq_toString 41
  have root : "/api/".toList = '/' :: "api".toList ++ ['/'] := rfl
  unfold Connection.urlText Url.addressText
  rw [path_eq base endpoint, known, version, root]
  simp [PlainBase.resource]

/-- The segments that are the same for all names. -/
def words : List String :=
  ["api", "41", "execution", "output", "project", "executions", "export", "async", "status",
    "download"]

theorem words_plain : ∀ word ∈ words, IsPlainSegment word.toList := by
  have all : ∀ word ∈ words, (word.toList.all fun c => IsUnreserved c)
      ∧ word.toList ≠ ['.'] ∧ word.toList ≠ ['.', '.'] := by decide
  exact fun word member => .of_all (all word member).1 (all word member).2

theorem mem_segments {endpoint : Endpoint} {segment : String}
    (member : segment ∈ endpoint.segments)
    : segment ∈ endpoint.names ∨ segment ∈ words := by
  cases endpoint <;>
    simp only [segments, names, words, List.mem_cons, List.not_mem_nil, or_false] at member ⊢ <;>
    grind

theorem names_subset {endpoint : Endpoint} : ∀ name ∈ endpoint.names, name ∈ endpoint.segments := by
  cases endpoint <;> simp [segments, names]

/-- What holds of plain segments holds of all segments of an endpoint's resource exactly if it holds
of the names in the endpoint.
-/
theorem forall_segments {isKind : List Char → Prop} (base : PlainBase) (endpoint : Endpoint)
    (plain : ∀ segment, IsPlainSegment segment → isKind segment)
    : (∀ s ∈ (base.resource endpoint).segments, isKind s)
      ↔ ∀ name ∈ endpoint.names, isKind name.toList := by
  constructor
  · intro all name member
    refine all _ (List.mem_append_right _ (List.mem_map_of_mem ?_))
    exact List.mem_append_right _ (names_subset name member)
  · intro named
    refine List.forall_mem_append.mpr ⟨fun s member => plain s (base.plain s member), ?_⟩
    intro s member
    obtain ⟨segment, isSegment, rfl⟩ := List.mem_map.mp member
    have ofWord (isWord : segment ∈ words) : isKind segment.toList := plain _ (words_plain _ isWord)
    rcases List.mem_append.mp isSegment with root | isSegment
    · exact ofWord (List.mem_append_left _ root)
    · exact (mem_segments isSegment).elim (named segment) ofWord

/-- The address of an endpoint without parameters ends visibly exactly if the name at its end does.
-/
theorem endsVisibly_iff (base : PlainBase) (endpoint : Endpoint)
    : ((base.resource endpoint).parameters = [] → Url.EndsVisibly (base.resource endpoint).segments)
      ↔ ∀ name ∈ endpoint.finalName?, HasVisibleEnd name := by
  have last {before : List String} {segment : String}
      (isLast : endpoint.segments = before ++ [segment])
      : Url.EndsVisibly (base.resource endpoint).segments ↔ HasVisibleEnd segment := by
    have parts : (base.resource endpoint).segments
        = base.segments ++ (["api", "41"] ++ before).map String.toList ++ [segment.toList] := by
      rw [PlainBase.resource, isLast, ← List.append_assoc, List.map_append, ← List.append_assoc]
      rfl
    rw [parts, Url.endsVisibly_concat, HasVisibleEnd]
  have asked (some : endpoint.parameters ≠ []) : (base.resource endpoint).parameters ≠ [] :=
    fun none => some (List.map_eq_nil_iff.mp none)
  have named (name : String) : (∀ other ∈ some name, HasVisibleEnd other) ↔ HasVisibleEnd name :=
    ⟨fun all => all name rfl, fun visible other same => Option.some.inj same ▸ visible⟩
  cases endpoint with
  | output id query =>
      refine iff_of_true (fun none => absurd none (asked ?_)) fun _ member => nomatch member
      cases query <;> exact List.cons_ne_nil _ _
  | executions project max offset =>
      exact iff_of_true (fun none => absurd none (asked (List.cons_ne_nil _ _)))
        fun _ member => nomatch member
  | exportStart project =>
      have ends : HasVisibleEnd "async" := by
        intro c isLast
        have last : "async".toList.getLast? = some 'c' := rfl
        rw [Option.mem_def.mp isLast] at last
        rw [Option.some.inj last]
        decide
      have isLast : segments (.exportStart project) = ["project", project, "export"] ++ ["async"] :=
        rfl
      exact iff_of_true (fun _ => (last isLast).mpr ends) fun _ member => nomatch member
  | execution id =>
      have isLast : segments (.execution id) = ["execution"] ++ [id] := rfl
      exact (imp_iff_right rfl).trans ((last isLast).trans (named id).symm)
  | exportStatus project token =>
      have isLast : segments (.exportStatus project token)
          = ["project", project, "export", "status"] ++ [token] := rfl
      exact (imp_iff_right rfl).trans ((last isLast).trans (named token).symm)
  | exportDownload project token =>
      have isLast : segments (.exportDownload project token)
          = ["project", project, "export", "download"] ++ [token] := rfl
      exact (imp_iff_right rfl).trans ((last isLast).trans (named token).symm)

/-- The address of an endpoint with plain names has the path and the query of the endpoint, as they
are, and no fragment.
-/
theorem parts_of_plain {base : PlainBase} {connection : Connection} {endpoint : Endpoint}
    {url : Url}
    (known : connection.baseUrl.toList = "http://".toList ++ base.host ++ pathOf base.segments)
    (plain : ∀ name ∈ endpoint.names, IsPlainSegment name.toList)
    (read : Url.read? (connection.urlText endpoint) = some url)
    : url.target
        = pathOf (base.resource endpoint).segments
          ++ Url.marked '?' (base.resource endpoint).query?
      ∧ url.fragment = none := by
  rw [urlText_eq endpoint known] at read
  have nonempty := base.segments_ne_nil endpoint
  have plain := (forall_segments base endpoint fun _ plain => plain).mpr plain
  have kept := Resource.query?_kept (parameters_plain base endpoint)
  exact ⟨Url.target_of_plain base.isHost nonempty plain kept read,
    Url.fragment_of_plain base.isHost nonempty plain kept read⟩

end Endpoint

/-- A request with plain names that is sent without a proxy asks for the path and the query of its
endpoint, as they are.
-/
theorem request?_plain {base : PlainBase} {token : Option String} {resolver : Resolver}
    {endpoint : Endpoint} {request : Request}
    (plain : ∀ name ∈ endpoint.names, IsPlainSegment name.toList)
    (sent : Connection.request? { connect base.text token with resolver } endpoint = some request)
    : request.target
      = String.ofList (pathOf (base.resource endpoint).segments
        ++ Url.marked '?' (base.resource endpoint).query?) := by
  obtain ⟨url, read, asks⟩ := request?_direct sent
  rw [asks, (Endpoint.parts_of_plain (base.baseUrl_connect token) plain read).1]

/-- A request for the output of an execution that can be sent without a proxy asks for this output
below the path of the server's address.
-/
theorem request?_output {base : PlainBase} {token : Option String} {resolver : Resolver}
    {id : String} {query : Poll.OutputQuery} {request : Request}
    (plainId : IsPlainSegment id.toList)
    (sent : Connection.request? { connect base.text token with resolver } (.output id query)
      = some request)
    : request.target = base.outputTarget id (String.ofList (Endpoint.outputQuery query)) := by
  have root : "/api/41/execution/".toList
      = '/' :: "api".toList ++ '/' :: "41".toList ++ '/' :: "execution".toList ++ ['/'] :=
    rfl
  have output : "/output?".toList = '/' :: "output".toList ++ ['?'] := rfl
  have names : ∀ name ∈ (Endpoint.output id query).names, IsPlainSegment name.toList :=
    List.forall_mem_singleton.mpr plainId
  refine String.toList_inj.mp ?_
  rw [request?_plain names sent, Endpoint.query?_output]
  unfold PlainBase.outputTarget PlainBase.path PlainBase.resource Endpoint.segments Url.marked
  simp only [String.toList_append, String.toList_ofList, root, output, pathOf_append, pathOf_cons,
    pathOf_nil, List.map_cons, List.map_nil, List.append_assoc, List.cons_append,
    List.nil_append]

/-- A request that is sent without a proxy asks for the resource of its endpoint, and for no other,
exactly if the names in it are taken as they are: then the path of its target has the segments of
the endpoint below those of the server's own address, each name a single one, and its query has the
parameters of the endpoint with their values. So no two such endpoints have a target in common.
-/
theorem request_names_resource {base : PlainBase} {token : Option String} {resolver : Resolver}
    {endpoint : Endpoint} {request : Request}
    (sent : Connection.request? { connect base.text token with resolver } endpoint = some request)
    : (Resource.ofTarget? request.target.toList = some (base.resource endpoint)
        ↔ endpoint.IsFaithful)
      ∧ ∀ {other : Endpoint} {later : Request},
        Connection.request? { connect base.text token with resolver } other = some later →
        endpoint.IsFaithful → other.IsFaithful → request.target = later.target →
        endpoint = other := by
  have names {endpoint : Endpoint} {request : Request}
      (sent : Connection.request? { connect base.text token with resolver } endpoint = some request)
      : Resource.ofTarget? request.target.toList = some (base.resource endpoint)
        ↔ endpoint.IsFaithful := by
    obtain ⟨url, read, asks⟩ := request?_direct sent
    rw [Endpoint.urlText_eq endpoint (base.baseUrl_connect token)] at read
    rw [asks, String.toList_ofList,
      Resource.ofTarget?_iff base.isHost (base.segments_ne_nil endpoint)
        (Endpoint.parameters_plain base endpoint) read,
      Endpoint.forall_segments base endpoint fun _ plain => plain.isTransparent,
      Endpoint.endsVisibly_iff]
    exact ⟨fun ⟨transparent, ends⟩ => ⟨transparent, ends⟩,
      fun faithful => ⟨faithful.transparent, faithful.ends⟩⟩
  refine ⟨names sent, fun {other later} otherSent faithful otherFaithful same => ?_⟩
  have read := (names sent).mpr faithful
  rw [same, (names otherSent).mpr otherFaithful] at read
  exact (Endpoint.resource_injective (Option.some.inj read)).symm

/-- A server on the machine itself. -/
def localServer : PlainBase where
  host := "[::1]:8080".toList
  segments := []
  slashes := 0
  isHost := ⟨by decide, List.all_iff_forall_prop.mp (by decide)⟩
  plain := List.forall_mem_nil _
  ends := by decide

/-- An identifier with a space, a colon and letters past ASCII is asked for as one segment. -/
theorem spaced_name_is_one_segment
    : ∃ request,
        Connection.request? { connect localServer.text none with resolver := .offline }
            (.output "nightly 7: größe" (.tail 3))
          = some request
        ∧ Resource.ofTarget? request.target.toList
          = some ⟨["api".toList, "41".toList, "execution".toList, "nightly 7: größe".toList,
              "output".toList],
            [("tail".toList, "3".toList), ("compacted".toList, "true".toList)]⟩ := by
  have isSent : (Connection.request? { connect localServer.text none with resolver := .offline }
      (.output "nightly 7: größe" (.tail 3))).isSome := by decide +kernel
  obtain ⟨request, sent⟩ := Option.isSome_iff_exists.mp isSent
  have transparent : IsTransparent "nightly 7: größe".toList :=
    ⟨List.all_iff_forall_prop.mp (by decide), noEscape_of_noPercent (by decide), by decide,
      by decide⟩
  have faithful : Endpoint.IsFaithful (.output "nightly 7: größe" (.tail 3)) :=
    ⟨List.forall_mem_singleton.mpr transparent, fun _ member => nomatch member⟩
  exact ⟨request, sent, (request_names_resource sent).1.mpr faithful⟩

/-- A number sign in an identifier hides the output behind it, and with it the cursor. -/
theorem hash_hides_cursor
    : ∃ request,
        Connection.request? { connect localServer.text none with resolver := .offline }
            (.output "1#" (.after ⟨2048, 7, 500⟩))
          = some request
        ∧ request.target = "/api/41/execution/1"
        ∧ Resource.ofTarget? request.target.toList
          ≠ some (localServer.resource (.output "1#" (.after ⟨2048, 7, 500⟩))) := by
  have asks : (Connection.request? { connect localServer.text none with resolver := .offline }
      (.output "1#" (.after ⟨2048, 7, 500⟩))).map (·.target) = some "/api/41/execution/1" := by
    decide +kernel
  obtain ⟨request, sent, isTarget⟩ := Option.map_eq_some_iff.mp asks
  refine ⟨request, sent, isTarget, ?_⟩
  rw [isTarget]
  decide

end JobWatch.Client
