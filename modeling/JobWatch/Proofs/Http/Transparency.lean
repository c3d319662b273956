import JobWatch.Proofs.Http.Resources

/-! Which segments an address takes as they are: its target names the resource that the address is
made of exactly if all its segments are of this kind.
-/

namespace JobWatch.Http

namespace Url

/-- A segment that is sent has no slash and no question mark. -/
theorem encode_whole {segment : List Char} (whole : ∀ c ∈ segment, isSlash c = false) (c : Char)
    (member : c ∈ Percent.encode keepsInPath segment)
    : c ≠ '/' ∧ c ≠ '?' := by
  rcases Percent.mem_encode member with ⟨kept, inside⟩ | rfl | hex
  · constructor
    · rintro rfl
      exact absurd (whole '/' inside) (by decide)
    · rintro rfl
      exact absurd kept (by decide)
  · decide
  · constructor <;> (rintro rfl; exact absurd hex (by decide))

/-- What a target names is read off the segments that are sent. -/
theorem ofTarget?_target {url : Url} {raw : List (List Char)} {resource : Resource}
    (path : url.path = resolve [] raw) (nonempty : raw ≠ [])
    (whole : ∀ s ∈ raw, ∀ c ∈ s, isSlash c = false)
    : Resource.ofTarget? url.target = some resource
      ↔ url.path.map octets = resource.segments.map Text.Utf8.encode
        ∧ Resource.readParameters (url.query.getD []) = resource.parameters := by
  have sent : ∀ s ∈ url.path, ∀ c ∈ s, c ≠ '/' ∧ c ≠ '?' := by
    intro s member
    rw [path] at member
    rcases mem_resolve member with inPath | rfl | ⟨segment, isRaw, rfl⟩
    · cases inPath
    · exact List.forall_mem_nil _
    · exact encode_whole (whole segment isRaw)
  have passes : ∀ c ∈ pathOf url.path, c != '?' := by
    intro c member
    obtain ⟨segment, isSegment, inside⟩ := List.mem_flatMap.mp member
    rcases List.mem_cons.mp inside with rfl | inside
    · rfl
    · exact bne_iff_ne.mpr (sent segment isSegment c inside).2
  have cut : url.target.takeWhile (· != '?') = pathOf url.path
      ∧ (url.target.dropWhile (· != '?')).drop 1 = url.query.getD [] := by
    have parts : url.target = pathOf url.path ++ marked '?' url.query := rfl
    obtain ⟨before, behind⟩ := cut_marked passes (bne_self_eq_false '?') url.query
    rw [parts, before, behind]
    cases url.query <;> exact ⟨rfl, rfl⟩
  have some : url.path ≠ [] := by
    rw [path]
    exact resolve_ne_nil nonempty
  rw [Resource.ofTarget?, cut.1, cut.2, Option.map_eq_some_iff]
  constructor
  · rintro ⟨segments, areSegments, rfl⟩
    exact ⟨(Resource.readSegments?_pathOf some fun s member c inside =>
      (sent s member c inside).1).mp areSegments, rfl⟩
  · rintro ⟨same, parameters⟩
    refine ⟨resource.segments, (Resource.readSegments?_pathOf some fun s member c inside =>
      (sent s member c inside).1).mpr same, ?_⟩
    rw [parameters]

-----------------------------------------------------------------------
-- Addresses in parts
-----------------------------------------------------------------------

/-- An address in its parts: a host, segments, and a query if there is one. -/
def addressText (host : List Char) (segments : List (List Char)) (query? : Option (List Char))
    : List Char :=
  "http://".toList ++ host ++ pathOf segments ++ marked '?' query?

variable {host : List Char} {segments : List (List Char)} {query? : Option (List Char)}

theorem margin_not_slash {c : Char} (margin : isMargin c) : isSlash c = false := by
  refine Bool.eq_false_iff.mpr fun slash => ?_
  rcases (Bool.or_eq_true _ _).mp slash with slash | slash
  all_goals
    rw [eq_of_beq slash] at margin
    exact absurd margin (by decide)

/-- The last character of a path is no margin. -/
def EndsVisibly (segments : List (List Char)) : Prop :=
  ∀ c ∈ (pathOf segments).getLast?, isMargin c = false

theorem endsVisibly_concat {before : List (List Char)} {last : List Char}
    : EndsVisibly (before ++ [last]) ↔ ∀ c ∈ last.getLast?, 0x20 < c.toNat := by
  rw [EndsVisibly, pathOf_append, pathOf_cons, pathOf_nil, List.append_nil,
    List.getLast?_append, List.getLast?_cons]
  cases last.getLast? with
  | none => simp [isMargin]
  | some c => simp [isMargin]

/-- What is read as the path of a text behind the first slash of an address. -/
def pathPart (text : List Char) : List Char :=
  (tidy text).takeWhile (!endsPath ·)

/-- What is read as the query of such a text. -/
def queryPart? (text : List Char) : Option (List Char) :=
  readQuery? ((tidy text).dropWhile (!endsPath ·))

/-- An address is read if its host is, and has the path and the query behind its first slash. -/
theorem read?_addressText (isHost : IsHostText host) (segment : List Char)
    (others : List (List Char)) (query? : Option (List Char))
    : let text := segment ++ pathOf others ++ marked '?' query?
      read? (addressText host (segment :: others) query?)
        = (readAuthority? host).map fun (userinfo, host, port) =>
          { userinfo, host, port
            path := resolve [] (Text.split isSlash (pathPart text))
            query := queryPart? text
            fragment := readFragment? (('/' :: tidy text).dropWhile (· != '#')) } := by
  intro text
  have slash : pathOf (segment :: others) ++ marked '?' query? = '/' :: text := by
    rw [pathOf_cons, List.cons_append, List.cons_append]
  unfold addressText
  rw [List.append_assoc, slash, read?_behind isHost]
  rfl

/-- What an address has in front of its path is read from its host. -/
theorem site_addressText (isHost : IsHostText host) (nonempty : segments ≠ [])
    : (read? (addressText host segments query?)).map site = readAuthority? host := by
  cases segments with
  | nil => exact absurd rfl nonempty
  | cons segment others =>
      rw [read?_addressText isHost, Option.map_map]
      exact Option.map_id'

theorem parts_addressText (isHost : IsHostText host) {segment : List Char}
    {others : List (List Char)} {url : Url}
    (read : read? (addressText host (segment :: others) query?) = some url)
    : url.path
        = resolve [] (Text.split isSlash (pathPart (segment ++ pathOf others ++ marked '?' query?)))
      ∧ url.query = queryPart? (segment ++ pathOf others ++ marked '?' query?) := by
  rw [read?_addressText isHost] at read
  obtain ⟨⟨userinfo, known, port⟩, -, rfl⟩ := Option.map_eq_some_iff.mp read
  exact ⟨rfl, rfl⟩

/-- Only what follows a question mark is tidied at its end. -/
theorem tidy_marked (text query : List Char)
    : tidy (text ++ '?' :: query) = text.filter (!isDropped ·) ++ '?' :: tidy query := by
  rw [tidy, Text.dropTrailing_past rfl, List.filter_append]
  rfl

/-- What is read as a path is part of the text in front of the query. -/
theorem pathPart_sublist (text : List Char) (query? : Option (List Char))
    : (pathPart (text ++ marked '?' query?)).Sublist text := by
  cases query? with
  | none =>
      rw [marked, List.append_nil, pathPart, tidy]
      exact (List.takeWhile_sublist _).trans
        (List.filter_sublist.trans (List.rdropWhile_prefix isMargin _).sublist)
  | some query =>
      rw [marked, pathPart, tidy_marked, Text.takeWhile_stop rfl]
      exact (List.takeWhile_sublist _).trans List.filter_sublist

/-- Nothing of a text is dropped wherever it stands, and nothing in it ends a path. -/
def IsClear (text : List Char) : Prop :=
  ∀ c ∈ text, isDropped c = false ∧ endsPath c = false

theorem IsClear.filter {text : List Char} (clear : IsClear text)
    : text.filter (!isDropped ·) = text :=
  List.filter_eq_self.mpr fun c member => by rw [(clear c member).1]; rfl

theorem IsClear.passes {text : List Char} (clear : IsClear text)
    : ∀ c ∈ text, !endsPath c := fun c member => by
  rw [(clear c member).2]
  rfl

theorem pathPart_marked {text : List Char} (clear : IsClear text) (query : List Char)
    : pathPart (text ++ '?' :: query) = text := by
  rw [pathPart, tidy_marked, clear.filter, Text.takeWhile_stop rfl,
    List.takeWhile_eq_self_iff.mpr clear.passes]

/-- A clear text is read as a path but for the margin at its end. -/
theorem pathPart_clear {text : List Char} (clear : IsClear text)
    : pathPart text = Text.dropTrailing isMargin text := by
  have front : IsClear (Text.dropTrailing isMargin text) := fun c member =>
    clear c ((List.rdropWhile_prefix isMargin text).sublist.mem member)
  rw [pathPart, tidy, front.filter, List.takeWhile_eq_self_iff.mpr front.passes]

-----------------------------------------------------------------------
-- Transparent segments
-----------------------------------------------------------------------

variable {segment : List Char} {others : List (List Char)}

theorem unmarked_char {c : Char} (unmarked : c ∉ marks)
    : isSlash c = false ∧ isDropped c = false ∧ endsPath c = false := by
  simp only [marks, List.mem_cons, List.not_mem_nil, or_false, not_or] at unmarked
  simp [isSlash, isDropped, endsPath, unmarked]

theorem isClear_of_unmarked (unmarked : ∀ s ∈ segment :: others, ∀ c ∈ s, c ∉ marks)
    : IsClear (segment ++ pathOf others) := by
  intro c member
  rcases List.mem_append.mp member with first | member
  · exact (unmarked_char (unmarked segment List.mem_cons_self c first)).2
  · obtain ⟨s, isSegment, inside⟩ := List.mem_flatMap.mp member
    rcases List.mem_cons.mp inside with rfl | inside
    · exact ⟨rfl, rfl⟩
    · exact (unmarked_char (unmarked s (List.mem_cons_of_mem _ isSegment) c inside)).2

theorem split_unmarked (unmarked : ∀ s ∈ segment :: others, ∀ c ∈ s, c ∉ marks)
    : Text.split isSlash (segment ++ pathOf others) = segment :: others :=
  split_pathOf rfl fun s member c inside => (unmarked_char (unmarked s member c inside)).1

/-- A path ends visibly exactly if nothing is dropped at its end. -/
theorem endsVisibly_iff
    : EndsVisibly (segment :: others)
      ↔ Text.dropTrailing isMargin (segment ++ pathOf others) = segment ++ pathOf others := by
  have slash : Text.dropTrailing isMargin (pathOf (segment :: others))
      = '/' :: Text.dropTrailing isMargin (segment ++ pathOf others) :=
    Text.dropTrailing_past rfl [] _
  have path : pathOf (segment :: others) = '/' :: (segment ++ pathOf others) := by
    rw [pathOf_cons, List.cons_append]
  constructor
  · intro ends
    rw [Text.dropTrailing_eq_self ends, path] at slash
    exact (List.cons.inj slash).2.symm
  · intro all c isLast
    rw [all, ← path] at slash
    exact Text.fails_at_end slash isLast

theorem filter_pathOf (segments : List (List Char))
    : (pathOf segments).filter (!isSlash ·) = segments.flatten.filter (!isSlash ·) := by
  induction segments with
  | nil => rfl
  | cons segment rest ih =>
      rw [pathOf_cons, List.filter_append, List.flatten_cons, List.filter_append, ih]
      rfl

/-- Behind segments without marks the path ends where they do, and the query is the one that is
given.
-/
theorem parts_of_unmarked (unmarked : ∀ s ∈ segment :: others, ∀ c ∈ s, c ∉ marks)
    (ends : query? = none → EndsVisibly (segment :: others))
    (kept : ∀ query ∈ query?, ∀ c ∈ query, keepsInQuery c)
    : pathPart (segment ++ pathOf others ++ marked '?' query?) = segment ++ pathOf others
      ∧ queryPart? (segment ++ pathOf others ++ marked '?' query?) = query? := by
  have clear := isClear_of_unmarked unmarked
  cases query? with
  | none =>
      have all := endsVisibly_iff.mp (ends rfl)
      rw [marked, List.append_nil, pathPart_clear clear, queryPart?, tidy, all, clear.filter,
        List.dropWhile_eq_nil_iff.mpr clear.passes]
      exact ⟨rfl, rfl⟩
  | some query =>
      have stays : tidy query = query := tidy_visible fun c member =>
        keepsInQuery_past (kept query rfl c member)
      rw [marked, pathPart_marked clear, queryPart?, tidy_marked, clear.filter, stays,
        (Text.cut_at clear.passes rfl _).2]
      exact ⟨rfl, readQuery?_marked kept⟩

/-- Segments of which nothing is lost have no marks, and nothing is dropped behind them. -/
theorem whole_of_flatten
    (all : (pathPart (segment ++ pathOf others ++ marked '?' query?)).filter (!isSlash ·)
      = (segment :: others).flatten)
    : (∀ s ∈ segment :: others, ∀ c ∈ s, c ∉ marks)
      ∧ (query? = none → EndsVisibly (segment :: others)) := by
  have unmarked : ∀ s ∈ segment :: others, ∀ c ∈ s, c ∉ marks := by
    intro s isSegment c inside
    have kept : c ∈ (segment :: others).flatten := List.mem_flatten.mpr ⟨s, isSegment, inside⟩
    rw [← all, List.mem_filter] at kept
    obtain ⟨inPath, noSlash⟩ := kept
    have noEnd := List.mem_takeWhile_imp inPath
    have stays := (List.mem_filter.mp ((List.takeWhile_sublist _).mem inPath)).2
    simp only [isSlash, isDropped, endsPath, Bool.not_eq_true', Bool.or_eq_false_iff,
      beq_eq_false_iff_ne] at noSlash noEnd stays
    simp [marks, noSlash, noEnd, stays]
  refine ⟨unmarked, ?_⟩
  rintro rfl
  rw [marked, List.append_nil, pathPart_clear (isClear_of_unmarked unmarked)] at all
  obtain ⟨dropped, parts, margins⟩ := Text.dropTrailing_dropped isMargin (segment ++ pathOf others)
  have slashes := filter_pathOf (segment :: others)
  have stays : (segment :: others).flatten.filter (!isSlash ·) = (segment :: others).flatten :=
    List.filter_eq_self.mpr fun c member => by
      obtain ⟨s, isSegment, inside⟩ := List.mem_flatten.mp member
      rw [(unmarked_char (unmarked s isSegment c inside)).1]
      rfl
  have none : dropped.filter (!isSlash ·) = [] := by
    rw [pathOf_cons, List.cons_append, List.filter_cons_of_neg (by decide), parts,
      List.filter_append, all, stays] at slashes
    exact List.append_right_eq_self.mp slashes
  have noMargin : ∀ c ∈ dropped, !isSlash c := fun c member => by
    rw [margin_not_slash (margins c member)]
    rfl
  rw [List.filter_eq_self.mpr noMargin] at none
  rw [none, List.append_nil] at parts
  exact endsVisibly_iff.mpr parts.symm

/-- The octets that are sent for some texts are those of the texts. -/
theorem length_pathOctets_of_same {path texts : List (List Char)}
    (same : path.map octets = texts.map Text.Utf8.encode)
    : (pathOctets path).length = (Text.Utf8.encode texts.flatten).length := by
  have all : Text.Utf8.encode texts.flatten = (texts.map Text.Utf8.encode).flatten := by
    clear same
    induction texts with
    | nil => rfl
    | cons text texts ih => rw [List.flatten_cons, Text.Utf8.encode_append, ih]; rfl
  rw [all, ← same]
  rfl

/-- A transparent segment is not read as dots. -/
theorem not_isDots (transparent : IsTransparent segment) : ¬IsDots segment := by
  rw [isDots_of_no_escape transparent.noEscape]
  exact not_or.mpr ⟨transparent.notDots, transparent.notDot⟩

/-- Transparent segments are sent encoded, and the query behind them as it is. -/
theorem sent_of_transparent (isHost : IsHostText host)
    (transparent : ∀ s ∈ segment :: others, IsTransparent s)
    (ends : query? = none → EndsVisibly (segment :: others))
    (kept : ∀ query ∈ query?, ∀ c ∈ query, keepsInQuery c) {url : Url}
    (read : read? (addressText host (segment :: others) query?) = some url)
    : url.path = (segment :: others).map (Percent.encode keepsInPath) ∧ url.query = query? := by
  have unmarked := fun s member => (transparent s member).unmarked
  obtain ⟨path, query⟩ := parts_addressText isHost read
  obtain ⟨pathIs, queryIs⟩ := parts_of_unmarked unmarked ends kept
  rw [path, pathIs, split_unmarked unmarked,
    resolve_of_no_dots fun s member => not_isDots (transparent s member), query, queryIs]
  exact ⟨rfl, rfl⟩

/-- Plain segments are sent as they are. -/
theorem encode_plain (plain : ∀ s ∈ segments, IsPlainSegment s)
    : segments.map (Percent.encode keepsInPath) = segments :=
  (List.map_congr_left fun s member =>
    encode_kept fun c inside => keepsInPath_of ((plain s member).unreserved c inside)).trans
    (List.map_id _)

/-- What is asked for at an address of plain segments is its path and its query, unchanged. -/
theorem target_of_plain (isHost : IsHostText host) (nonempty : segments ≠ [])
    (plain : ∀ s ∈ segments, IsPlainSegment s)
    (kept : ∀ query ∈ query?, ∀ c ∈ query, keepsInQuery c) {url : Url}
    (read : read? (addressText host segments query?) = some url)
    : url.target = pathOf segments ++ marked '?' query? := by
  cases segments with
  | nil => exact absurd rfl nonempty
  | cons segment others =>
      have ends : EndsVisibly (segment :: others) := fun c isLast =>
        (visible (pathOf_visible plain c (List.mem_of_mem_getLast? isLast))).1
      obtain ⟨path, query⟩ := sent_of_transparent isHost
        (fun s member => (plain s member).isTransparent) (fun _ => ends) kept read
      rw [target, pathText, path, encode_plain plain, query]
      rfl

/-- An address of plain segments has no fragment: no number sign stands in it. -/
theorem fragment_of_plain (isHost : IsHostText host) (nonempty : segments ≠ [])
    (plain : ∀ s ∈ segments, IsPlainSegment s)
    (kept : ∀ query ∈ query?, ∀ c ∈ query, keepsInQuery c) {url : Url}
    (read : read? (addressText host segments query?) = some url)
    : url.fragment = none := by
  cases segments with
  | nil => exact absurd rfl nonempty
  | cons segment others =>
      have inPath (c : Char) (member : c ∈ pathOf (segment :: others)) : c ≠ '#' := by
        obtain ⟨part, isPart, inside⟩ := List.mem_flatMap.mp member
        rintro rfl
        rcases List.mem_cons.mp inside with slash | inside
        · exact absurd slash (by decide)
        · exact absurd ((plain part isPart).unreserved '#' inside) (by decide)
      have inQuery (c : Char) (member : c ∈ marked '?' query?) : c ≠ '#' := by
        cases query? with
        | none => cases member
        | some query =>
            rcases List.mem_cons.mp member with rfl | inside
            · decide
            · exact keepsInQuery_ne (kept query rfl c inside)
      rw [read?_addressText isHost] at read
      obtain ⟨⟨userinfo, known, port⟩, -, rfl⟩ := Option.map_eq_some_iff.mp read
      have clear : ∀ c ∈ '/' :: tidy (segment ++ pathOf others ++ marked '?' query?), c != '#' := by
        intro c member
        have inText : c ∈ pathOf (segment :: others) ++ marked '?' query? := by
          rw [pathOf_cons, List.cons_append, List.cons_append]
          exact List.mem_cons.mpr ((List.mem_cons.mp member).imp_right
            (List.filter_sublist.trans (List.rdropWhile_prefix isMargin _).sublist).mem)
        exact bne_iff_ne.mpr ((List.mem_append.mp inText).elim (inPath c) (inQuery c))
      rw [List.dropWhile_eq_nil_iff.mpr clear]
      rfl

theorem target_le_of_fits {url : Url} (short : url.fits = true) : url.target.length ≤ maxSize := by
  have size : (url.absoluteTarget ++ marked '#' url.fragment).length ≤ maxSize := by
    unfold fits at short
    exact decide_eq_true_eq.mp short
  refine Nat.le_trans ?_ size
  unfold absoluteTarget
  simp only [List.length_append]
  omega

/-- A target names the segments and the query of an address exactly if the address takes each of
these segments as it is. Witness: what is sent stands for as many octets as the segments have only
if nothing of them is dropped, no escape is decoded and no dots are resolved.
-/
theorem names_iff_transparent (isHost : IsHostText host)
    (kept : ∀ query ∈ query?, ∀ c ∈ query, keepsInQuery c) {url : Url}
    (read : read? (addressText host (segment :: others) query?) = some url)
    : Resource.ofTarget? url.target
        = some ⟨segment :: others, Resource.readParameters (query?.getD [])⟩
      ↔ (∀ s ∈ segment :: others, IsTransparent s)
        ∧ (query? = none → EndsVisibly (segment :: others)) := by
  obtain ⟨path, query⟩ := parts_addressText isHost read
  rw [ofTarget?_target path (Text.split_ne_nil _ _) fun s => Text.split_whole]
  dsimp only
  constructor
  · rintro ⟨same, -⟩
    -- reading, resolving and decoding lose octets or keep them all, and here none is lost
    have octets := length_pathOctets_of_same same
    have inside : ((pathPart (segment ++ pathOf others ++ marked '?' query?)).filter
        (!isSlash ·)).Sublist (segment :: others).flatten := by
      have front := (pathPart_sublist (segment ++ pathOf others) query?).filter (!isSlash ·)
      have slashes := filter_pathOf (segment :: others)
      rw [pathOf_cons, List.cons_append, List.filter_cons_of_neg (by decide)] at slashes
      rw [slashes] at front
      exact front.trans List.filter_sublist
    have resolved := length_pathOctets_resolve []
      (Text.split isSlash (pathPart (segment ++ pathOf others ++ marked '?' query?)))
    have decoded := length_pathOctets
      (Text.split isSlash (pathPart (segment ++ pathOf others ++ marked '?' query?)))
    rw [← path, pathOctets_nil, List.length_nil, Nat.zero_add] at resolved
    rw [Text.flatten_split] at decoded
    have all := Text.Utf8.eq_of_sublist inside (by omega)
    obtain ⟨unmarked, ends⟩ := whole_of_flatten all
    rw [all, (parts_of_unmarked unmarked ends kept).1, split_unmarked unmarked] at decoded
    rw [(parts_of_unmarked unmarked ends kept).1, split_unmarked unmarked] at resolved
    have noEscape := decoded.2 (by omega)
    have noDots := resolved.2 (by omega)
    refine ⟨fun s member => ?_, ends⟩
    have written := (isDots_of_no_escape (noEscape s member)).not.mp (noDots s member)
    exact ⟨unmarked s member, noEscape s member, (not_or.mp written).2, (not_or.mp written).1⟩
  · rintro ⟨transparent, ends⟩
    obtain ⟨path, query⟩ := sent_of_transparent isHost transparent ends kept read
    rw [path, query, List.map_map]
    refine ⟨List.map_congr_left fun s member => ?_, rfl⟩
    rw [Function.comp_apply, Percent.octets_encode percent_keptInPath hex_keptInPath,
      Percent.octets_eq_encode (transparent s member).noEscape]

end Url

namespace Resource

/-- The target of an address names the resource that the address is made of exactly if the address
takes each of its segments as it is.
-/
theorem ofTarget?_iff {host : List Char} {resource : Resource} {url : Url}
    (isHost : IsHostText host) (nonempty : resource.segments ≠ [])
    (plain : ArePlain resource.parameters)
    (read : Url.read? (Url.addressText host resource.segments resource.query?) = some url)
    : ofTarget? url.target = some resource
      ↔ (∀ s ∈ resource.segments, IsTransparent s)
        ∧ (resource.parameters = [] → Url.EndsVisibly resource.segments) := by
  obtain ⟨segments, parameters⟩ := resource
  cases segments with
  | nil => exact absurd rfl nonempty
  | cons segment others =>
      have absent : query? ⟨segment :: others, parameters⟩ = none ↔ parameters = [] := by
        simp [query?]
      have iff := Url.names_iff_transparent isHost (query?_kept plain) read
      rwa [query?_getD, readParameters_queryOf plain, absent] at iff

end Resource

end JobWatch.Http
