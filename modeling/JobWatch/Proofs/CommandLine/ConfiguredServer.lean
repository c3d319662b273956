import JobWatch.CommandLine.Settings
import JobWatch.Proofs.Client.Sending
import JobWatch.Proofs.Http.Directories

/-! Where the requests of accepted settings go: below the path of the server's address exactly if
this address takes paths.
-/

namespace JobWatch

open JobWatch.Http

namespace Client

/-- Where an endpoint is below the root of any server. -/
theorem Endpoint.path_below_root (endpoint : Endpoint)
    : let resource := localServer.resource endpoint
      "/api/41/".toList ++ endpoint.path
        = pathOf resource.segments ++ Url.marked '?' resource.query? := by
  intro resource
  have root : "/api/41/".toList = '/' :: "api".toList ++ '/' :: "41".toList ++ ['/'] := rfl
  have segments : resource.segments
      = "api".toList :: "41".toList :: endpoint.segments.map String.toList := rfl
  rw [root, List.append_assoc, List.singleton_append, path_eq localServer endpoint, segments,
    pathOf_cons, pathOf_cons]
  simp only [List.append_assoc, List.cons_append]
  rfl

theorem Connection.urlText_below_base (connection : Connection) (endpoint : Endpoint)
    : connection.urlText endpoint
      = connection.baseUrl.toList ++ ("/api/41/".toList ++ endpoint.path) := by
  have version : Number.natural apiVersion = "41".toList := Number.natural_eq_toString 41
  have root : "/api/41/".toList = "/api/".toList ++ "41".toList ++ ['/'] := rfl
  rw [urlText, version, root]
  simp only [List.append_assoc, List.cons_append, List.nil_append]

/-- An address that is not too long is asked for if the token may be sent and a way leads there. -/
theorem Connection.request?_isSome {connection : Connection} {endpoint : Endpoint} {address : Url}
    (read : Url.read? (connection.urlText endpoint) = some address)
    (legal : connection.hasLegalToken) (fits : address.fits)
    (reaches : connection.Reaches address.host)
    : (connection.request? endpoint).isSome :=
  request?_isSome_iff.mpr ⟨legal, address, read, fits, reaches⟩

end Client

namespace CommandLine.Settings

variable {settings : Settings} {configured : Url}

/-- Accepted settings name a server behind one of two schemes. -/
theorem serverUrl_scheme (valid : settings.fault? = none)
    : ∃ text,
        settings.serverUrl.toList = "http:".toList ++ text
        ∨ settings.serverUrl.toList = "https:".toList ++ text := by
  have known : settings.hasKnownScheme = true := by
    rw [fault?] at valid
    split at valid
    · cases valid
    · split at valid
      · cases valid
      · simp_all
  rcases (Bool.or_eq_true _ _).mp known with http | https
  · obtain ⟨text, same⟩ := List.isPrefixOf_iff_prefix.mp http
    exact ⟨'/' :: '/' :: text, .inl same.symm⟩
  · obtain ⟨text, same⟩ := List.isPrefixOf_iff_prefix.mp https
    exact ⟨'/' :: '/' :: text, .inr same.symm⟩

/-- The scheme is http if their URL is an address. -/
theorem serverUrl_eq (valid : settings.fault? = none)
    (isUrl : Url.read? settings.serverUrl.toList = some configured)
    : ∃ text, settings.serverUrl.toList = "http:".toList ++ text := by
  obtain ⟨text, http | https⟩ := serverUrl_scheme valid
  · exact ⟨text, http⟩
  · rw [https, Url.read?_https] at isUrl
    cases isUrl

/-- The connection to a server has the server's address without the slashes at its end. -/
theorem baseUrl_connection (settings : Settings) (resolver : Resolver)
    : (settings.connection resolver).baseUrl.toList
      = Text.dropTrailing (· == '/') settings.serverUrl.toList :=
  String.toList_ofList

open Client in
/-- The requests of accepted settings, for endpoints with plain names. Each asks for its endpoint
below the path of the server's address exactly if this address takes paths. If it does, only the
length of an address, the way to the server or the token keeps a request from being sent. An
address that is read as it is written takes paths if it does not end with dots, and the requests
go to the server that it names.
-/
theorem requested_below_configured_path (valid : settings.fault? = none)
    (isUrl : Url.read? settings.serverUrl.toList = some configured) {endpoint : Endpoint}
    (plain : ∀ name ∈ endpoint.names, IsPlainSegment name.toList) (resolver : Resolver)
    : let connection := settings.connection resolver
      let base := connection.baseUrl.toList
      let address? := Url.read? (connection.urlText endpoint)
      let target := configured.stem ++ "/api/41/".toList ++ endpoint.path
      (∀ request ∈ connection.request? endpoint,
        ∃ address ∈ address?,
          request.target.toList = connection.origin address ++ target
          ↔ Url.TakesPaths base configured)
      ∧ (Url.TakesPaths base configured
        → ∃ address ∈ address?,
          connection.hasLegalToken → address.fits → connection.Reaches address.host
            → (connection.request? endpoint).isSome)
      ∧ ((∀ c ∈ settings.serverUrl.toList, Url.IsWritten c)
        → (∀ last ∈ (Text.split Url.isSlash base).getLast?, ¬Url.IsDots last)
        → Url.TakesPaths base configured
          ∧ ∃ address ∈ address?,
            address = { configured with path := address.path, query := address.query }) := by
  intro connection base address? target
  obtain ⟨text, same⟩ := serverUrl_eq valid isUrl
  rw [same] at isUrl
  have baseIs : base = "http:".toList ++ Text.dropTrailing (· == '/') text := by
    rw [← Url.dropTrailing_http, ← same]
    exact baseUrl_connection settings resolver
  have isPlain :=
    (Endpoint.forall_segments localServer endpoint fun _ plain => plain).mpr plain
  have kept := Resource.query?_kept (Endpoint.parameters_plain localServer endpoint)
  have below := endpoint.path_below_root
  obtain ⟨others, segments⟩ : ∃ others,
      (localServer.resource endpoint).segments = "api".toList :: others := ⟨_, rfl⟩
  dsimp only at below
  rw [segments] at isPlain below
  have written : connection.urlText endpoint
      = "http:".toList ++ Text.dropTrailing (· == '/') text ++ pathOf ("api".toList :: others)
        ++ Url.marked '?' (localServer.resource endpoint).query? := by
    have isBase : connection.baseUrl.toList = base := rfl
    rw [Connection.urlText_below_base, below, ← List.append_assoc, isBase, baseIs]
  have targetIs : target = configured.stem ++ pathOf ("api".toList :: others)
      ++ Url.marked '?' (localServer.resource endpoint).query? := by
    rw [List.append_assoc, ← below, ← List.append_assoc]
  have reads (takes : Url.TakesPaths base configured) : ∃ address directory,
      address? = some address
      ∧ Url.read? (base ++ ['/']) = some directory
      ∧ address = { directory with path := address.path, query := address.query } := by
    rw [baseIs] at takes
    obtain ⟨address, directory, read, isDirectory, sameServer⟩ := takes.reads isUrl isPlain kept
    rw [← written] at read
    exact ⟨address, directory, read, by rw [baseIs]; exact isDirectory, sameServer⟩
  refine ⟨fun request sent => ?_, fun takes => ?_, fun isWritten noDots => ?_⟩
  · obtain ⟨address, read, rfl⟩ := Connection.address_of_request? sent
    refine ⟨address, read, ?_⟩
    rw [written] at read
    rw [String.toList_ofList, List.append_cancel_left_eq, baseIs, targetIs]
    exact Url.target_iff_takesPaths isUrl isPlain (by decide) kept read
  · obtain ⟨address, directory, read, -⟩ := reads takes
    exact ⟨address, read, Connection.request?_isSome read⟩
  · rw [same] at isWritten
    rw [baseIs] at noDots
    obtain ⟨takes, path, isDirectory⟩ := Url.takesPaths_of_written isUrl
      (fun c member => isWritten c (List.mem_append_right _ member)) noDots
    rw [← baseIs] at takes isDirectory
    obtain ⟨address, directory, read, found, sameServer⟩ := reads takes
    obtain rfl := Option.some.inj (found.symm.trans isDirectory)
    exact ⟨takes, address, read, sameServer⟩

/-- Settings for a server whose address has credentials, dots in its path and slashes at its end. -/
def dotted : Settings :=
  { standard with serverUrl := "http://u:p@[::1]:4440/a/../rd///" }

open Client in
/-- Dots in the middle of a server's path and the slashes at its end are no obstacle. -/
theorem dotted_path_is_kept
    : ∃ request,
        (dotted.connection .offline).request? (.output "5" (.tail 3)) = some request
        ∧ request.target = "/rd/api/41/execution/5/output?tail=3&compacted=true" := by
  have stems : (Url.read? dotted.serverUrl.toList).map Url.stem = some "/rd".toList := by
    decide +kernel
  obtain ⟨configured, isUrl, isStem⟩ := Option.map_eq_some_iff.mp stems
  have isSent : ((dotted.connection .offline).request? (.output "5" (.tail 3))).isSome := by
    decide +kernel
  obtain ⟨request, sent⟩ := Option.isSome_iff_exists.mp isSent
  have plain : ∀ name ∈ Endpoint.names (.output "5" (.tail 3)), IsPlainSegment name.toList :=
    List.forall_mem_singleton.mpr (.of_all (by decide) (by decide))
  have valid : dotted.fault? = none := by decide +kernel
  obtain ⟨asks, -, takes⟩ := requested_below_configured_path valid isUrl plain .offline
  have isLast : (Text.split Url.isSlash (dotted.connection .offline).baseUrl.toList).getLast?
      = some "rd".toList := by decide +kernel
  have noDots : ¬Url.IsDots "rd".toList := by
    rintro (two | one)
    · exact absurd two (by decide)
    · exact absurd one (by decide)
  have written : ∀ c ∈ dotted.serverUrl.toList, Url.IsWritten c :=
    List.all_iff_forall_prop.mp (by decide +kernel)
  obtain ⟨address, -, iff⟩ := asks request sent
  refine ⟨request, sent, ?_⟩
  have inPlace := takes written fun last member => by
    rw [isLast] at member
    rwa [← Option.some.inj member]
  have target := iff.mpr inPlace.1
  have direct : (dotted.connection .offline).origin address = [] := rfl
  rw [direct, isStem] at target
  refine String.toList_inj.mp (target.trans ?_)
  decide +kernel

open Client in
/-- Settings with this server are accepted and its address is read, but their request for an
execution goes to a target other than the one below the path of the address.
-/
def Misplaces (server target : String) : Prop :=
  let settings := { standard with serverUrl := server }
  settings.fault? = none
  ∧ ∃ configured request,
    Url.read? server.toList = some configured
    ∧ (settings.connection .offline).request? (.execution "5") = some request
    ∧ request.target = target
    ∧ request.target.toList
      ≠ configured.stem ++ "/api/41/".toList ++ Endpoint.path (.execution "5")

open Client in
theorem Misplaces.of_checked {server target : String}
    (valid : { standard with serverUrl := server }.fault? = none)
    (asked
      : ((({ standard with serverUrl := server } : Settings).connection .offline).request?
          (.execution "5")).map (·.target) = some target)
    (elsewhere
      : (Url.read? server.toList).any fun configured =>
          target.toList
            ≠ configured.stem ++ "/api/41/".toList ++ Endpoint.path (.execution "5"))
    : Misplaces server target := by
  obtain ⟨request, sent, isTarget⟩ := Option.map_eq_some_iff.mp asked
  obtain ⟨configured, isUrl, differs⟩ := (Option.any_eq_true _ _).mp elsewhere
  refine ⟨valid, configured, request, isUrl, sent, isTarget, ?_⟩
  rw [isTarget]
  exact of_decide_eq_true differs

/-- Below servers with a query or a fragment, or with a backslash, a blank or dots at the end, an
endpoint is not where their paths say.
-/
theorem misplaced_requests
    : Misplaces "http://[::1]:4440?env=prod" "/?env=prod/api/41/execution/5"
      ∧ Misplaces "http://[::1]:4440/rd#top" "/rd"
      ∧ Misplaces "http://[::1]:4440/rd\\" "/rd//api/41/execution/5"
      ∧ Misplaces "http://[::1]:4440/rd " "/rd%20/api/41/execution/5"
      ∧ Misplaces "http://[::1]:4440/a//b/.." "/a//api/41/execution/5" := by
  refine ⟨?query, ?fragment, ?backslash, ?blank, ?dots⟩
  all_goals
    refine .of_checked ?_ ?_ ?_ <;> decide +kernel

end CommandLine.Settings

end JobWatch
