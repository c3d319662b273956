import JobWatch.Proofs.Client.Addresses

/-! What a call sends and what comes of it. At a server that can be reached, only the length of an
address keeps a request from being sent.
-/

namespace JobWatch.Client

open JobWatch.Http

namespace Connection

-----------------------------------------------------------------------
-- What is sent
-----------------------------------------------------------------------

/-- A host is found, or the proxy for it can be reached. -/
def Reaches (connection : Connection) (host : Host) : Prop :=
  match connection.proxies.forHost? host with
  | some proxy => proxy.isReachable connection.resolver
  | none => connection.resolver.finds host

/-- A connection leads to a server: it has the server's address, it reaches the host in this
address, and it has no token that must not be sent.
-/
structure LeadsTo (connection : Connection) (base : PlainBase) : Prop where
  known : connection.baseUrl.toList = "http://".toList ++ base.host ++ pathOf base.segments
  reached : ∃ authority ∈ Url.readAuthority? base.host, connection.Reaches authority.2.1
  legal : connection.hasLegalToken = true

/-- The address of an endpoint is not too long to be asked for. -/
def Fits (connection : Connection) (endpoint : Endpoint) : Prop :=
  ∃ url ∈ Url.read? (connection.urlText endpoint), url.fits = true

theorem target?_isSome {connection : Connection} {url : Url}
    : (connection.target? url).isSome ↔ connection.Reaches url.host := by
  rw [target?, Reaches]
  cases connection.proxies.forHost? url.host with
  | some proxy => cases reachable : proxy.isReachable connection.resolver <;> simp [reachable]
  | none => cases connection.resolver.finds url.host <;> simp

/-- A request is sent if the token may be sent and its address is read, not too long and reached. -/
theorem request?_isSome_iff {connection : Connection} {endpoint : Endpoint}
    : (connection.request? endpoint).isSome
      ↔ connection.hasLegalToken = true
        ∧ ∃ url ∈ Url.read? (connection.urlText endpoint),
            url.fits = true ∧ connection.Reaches url.host := by
  rw [request?, url?]
  cases connection.hasLegalToken with
  | false => simp
  | true =>
      cases Url.read? (connection.urlText endpoint) with
      | none => simp
      | some url => cases fits : url.fits <;> simp [Option.filter, fits, ← target?_isSome]

/-- All addresses of endpoints are read, and have the host of the server. -/
theorem LeadsTo.reads {connection : Connection} {base : PlainBase}
    (leads : connection.LeadsTo base) (endpoint : Endpoint)
    : ∃ url, Url.read? (connection.urlText endpoint) = some url ∧ connection.Reaches url.host := by
  obtain ⟨authority, isAuthority, reached⟩ := leads.reached
  have nonempty := base.segments_ne_nil endpoint
  rw [Endpoint.urlText_eq endpoint leads.known]
  cases parts : (base.resource endpoint).segments with
  | nil => exact absurd parts nonempty
  | cons segment others =>
      rw [Url.read?_addressText base.isHost, Option.mem_def.mp isAuthority]
      exact ⟨_, rfl, reached⟩

/-- A connection that leads to a server sends all requests whose addresses are not too long. -/
theorem LeadsTo.sends_iff {connection : Connection} {base : PlainBase}
    (leads : connection.LeadsTo base) {endpoint : Endpoint}
    : (connection.request? endpoint).isSome ↔ connection.Fits endpoint := by
  obtain ⟨url, isUrl, reached⟩ := leads.reads endpoint
  rw [request?_isSome_iff, Fits, isUrl]
  simp [leads.legal, reached]

/-- All addresses of endpoints that are read have the same in front of their paths. -/
theorem exists_site (connection : Connection)
    : ∃ site?, ∀ endpoint, (Url.read? (connection.urlText endpoint)).map Url.site = site? := by
  obtain ⟨site?, same⟩ := Url.read?_site connection.baseUrl.toList 'a' ['p', 'i'] rfl rfl
  refine ⟨site?, fun endpoint => ?_⟩
  have text : connection.urlText endpoint
      = connection.baseUrl.toList
        ++ '/' :: ('a' :: ['p', 'i']
          ++ '/' :: (Number.natural apiVersion ++ '/' :: endpoint.path)) := by
    have root : "/api/".toList = '/' :: 'a' :: ['p', 'i', '/'] := rfl
    rw [urlText, root]
    simp only [List.append_assoc, List.cons_append, List.nil_append]
  rw [text, same]

/-- Once a request was sent, only the length of its address keeps another one from being sent.
Witness: the token is the same, and so is the host.
-/
theorem sends_iff_of_sent {connection : Connection} {endpoint other : Endpoint}
    (sent : (connection.request? other).isSome)
    : (connection.request? endpoint).isSome ↔ connection.Fits endpoint := by
  obtain ⟨legal, url, isUrl, -, reached⟩ := request?_isSome_iff.mp sent
  obtain ⟨site?, same⟩ := connection.exists_site
  have there := (same endpoint).trans (same other).symm
  rw [Option.mem_def.mp isUrl, Option.map_some] at there
  obtain ⟨address, isAddress, sameSite⟩ := Option.map_eq_some_iff.mp there
  have sameHost : address.host = url.host := congrArg (·.2.1) sameSite
  rw [request?_isSome_iff, Fits, isAddress]
  simp [legal, sameHost, reached]

/-- The address of an endpoint with plain names is its beginning at the server, a path and a query,
and fits if these are not too long together.
-/
theorem fits_iff_of_plain {connection : Connection} {base : PlainBase} {endpoint : Endpoint}
    {userinfo : List Char} {host : Host} {port : Option Nat}
    (known : connection.baseUrl.toList = "http://".toList ++ base.host ++ pathOf base.segments)
    (authority : Url.readAuthority? base.host = some (userinfo, host, port))
    (plain : ∀ name ∈ endpoint.names, IsPlainSegment name.toList)
    : connection.Fits endpoint
      ↔ (Url.beginning ⟨userinfo, host, port, [], none, none⟩
          ++ (pathOf (base.resource endpoint).segments
            ++ Url.marked '?' (base.resource endpoint).query?)).length ≤ Url.maxSize := by
  have site : (Url.read? (connection.urlText endpoint)).map Url.site
      = some (userinfo, host, port) := by
    rw [Endpoint.urlText_eq endpoint known, Url.site_addressText base.isHost
      (base.segments_ne_nil endpoint), authority]
  obtain ⟨url, read, isSite⟩ := Option.map_eq_some_iff.mp site
  obtain ⟨target, fragment⟩ := Endpoint.parts_of_plain known plain read
  have beginning : url.beginning = Url.beginning ⟨userinfo, host, port, [], none, none⟩ :=
    Url.beginning_eq_of_site isSite
  rw [← beginning, ← target, ← Url.fits_iff fragment, Fits, read]
  exact ⟨fun ⟨_, same, fits⟩ => Option.some.inj same ▸ fits, fun fits => ⟨url, rfl, fits⟩⟩

/-- An endpoint with plain names cannot be asked for if one of them is longer than an address may
be.
-/
theorem not_fits_of_long {connection : Connection} {base : PlainBase} {endpoint : Endpoint}
    (known : connection.baseUrl.toList = "http://".toList ++ base.host ++ pathOf base.segments)
    (plain : ∀ name ∈ endpoint.names, IsPlainSegment name.toList) {name : String}
    (member : name ∈ endpoint.names) (long : Url.maxSize < name.toList.length)
    : ¬connection.Fits endpoint := by
  rintro ⟨url, isUrl, fits⟩
  obtain ⟨target, -⟩ := Endpoint.parts_of_plain known plain (Option.mem_def.mp isUrl)
  have isSegment : name.toList ∈ (base.resource endpoint).segments := by
    refine List.mem_append_right _ (List.mem_map_of_mem ?_)
    exact List.mem_append_right _ (Endpoint.names_subset name member)
  have inside : ('/' :: name.toList).Sublist (pathOf (base.resource endpoint).segments) := by
    unfold pathOf
    rw [List.flatMap_def]
    exact List.sublist_flatten_of_mem (List.mem_map_of_mem isSegment)
  have enough := inside.length_le
  have size := Url.target_le_of_fits fits
  rw [target, List.length_append] at size
  rw [List.length_cons] at enough
  omega

-----------------------------------------------------------------------
-- What comes of it
-----------------------------------------------------------------------

variable {α : Type} {connection : Connection} {endpoint : Endpoint} {read : Reply → Except Error α}
  {replies : List Reply}

theorem call_request
    : (connection.call endpoint read replies).request = connection.request? endpoint := by
  rw [call]
  cases connection.request? endpoint <;> rfl

/-- A call succeeds exactly if it is sent, and the reply to it reads as its result. -/
theorem call_ok_iff {answer : α} (fails : read .dropped ≠ .ok answer)
    : (connection.call endpoint read replies).result = .ok answer
      ↔ (connection.request? endpoint).isSome
        ∧ ∃ reply ∈ replies.head?, read reply = .ok answer := by
  rw [call]
  cases connection.request? endpoint with
  | none => simp
  | some request =>
      cases replies with
      | nil => simp [result_ok_iff, fails]
      | cons reply rest => simp [result_ok_iff]

end Connection

/-- An archive is the body of a reply that grants the request and arrives as a whole. -/
theorem archive_ok_iff {reply : Reply} {body : List UInt8}
    : archive reply = .ok body
      ↔ ∃ status, reply.received = .answered status body true ∧ isSuccess status = true := by
  rw [archive, accept]
  cases received : reply.received with
  | dropped => simp
  | answered status octets complete =>
      cases granted : isSuccess status <;> cases complete <;> simp [granted]

end JobWatch.Client
