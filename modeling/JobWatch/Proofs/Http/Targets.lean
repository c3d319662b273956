import JobWatch.Http.Url
import JobWatch.Proofs.Number.Decimal
import JobWatch.Proofs.Text.Cutting
import Mathlib.Data.Bool.AllAny
import Mathlib.Data.List.TakeWhile

/-! How an address is read: behind its scheme its host, whatever follows it, and behind the host a
path and a query, of which plain characters stand for themselves.
-/

namespace JobWatch.Http

-----------------------------------------------------------------------
-- Plain texts
-----------------------------------------------------------------------

/-- The characters that have no meaning of their own in an address: ASCII letters and digits, and
four marks.
-/
def IsUnreserved (c : Char) : Prop :=
  c.isAlphanum ∨ c = '-' ∨ c = '_' ∨ c = '~' ∨ c = '.'

/-- A segment of unreserved characters that is no dot segment. -/
structure IsPlainSegment (segment : List Char) : Prop where
  unreserved : ∀ c ∈ segment, IsUnreserved c
  notDot : segment ≠ ['.']
  notDots : segment ≠ ['.', '.']

/-- A host, and a port behind it or not: whatever stands between the scheme and the path. -/
structure IsHostText (text : List Char) : Prop where
  nonempty : text ≠ []
  plain : ∀ c ∈ text, c ∉ ['/', '\\', '?', '#', '\t', '\n', '\r']

/-- Some segments, each behind a slash. -/
def pathOf (segments : List (List Char)) : List Char :=
  segments.flatMap ('/' :: ·)

@[simp]
theorem pathOf_nil : pathOf [] = [] :=
  rfl

@[simp]
theorem pathOf_cons (segment : List Char) (segments : List (List Char))
    : pathOf (segment :: segments) = '/' :: segment ++ pathOf segments :=
  rfl

@[simp]
theorem pathOf_append (before after : List (List Char))
    : pathOf (before ++ after) = pathOf before ++ pathOf after :=
  List.flatMap_append

theorem alphanum_range {c : Char} (alphanum : c.isAlphanum)
    : 65 ≤ c.toNat ∧ c.toNat ≤ 90 ∨ 97 ≤ c.toNat ∧ c.toNat ≤ 122
      ∨ 48 ≤ c.toNat ∧ c.toNat ≤ 57 := by
  rcases (Bool.or_eq_true _ _).mp alphanum with alpha | digit
  · rcases (Bool.or_eq_true _ _).mp alpha with upper | lower
    · exact .inl (of_decide_eq_true upper)
    · obtain ⟨low, high⟩ := (Bool.and_eq_true _ _).mp lower
      exact .inr (.inl ⟨of_decide_eq_true low, of_decide_eq_true high⟩)
  · exact .inr (.inr (Number.isDigit_bounds digit))

theorem IsUnreserved.range {c : Char} (unreserved : IsUnreserved c)
    : 65 ≤ c.toNat ∧ c.toNat ≤ 90 ∨ 97 ≤ c.toNat ∧ c.toNat ≤ 122
      ∨ 48 ≤ c.toNat ∧ c.toNat ≤ 57 ∨ c.toNat = 45 ∨ c.toNat = 95 ∨ c.toNat = 126
      ∨ c.toNat = 46 := by
  rcases unreserved with alphanum | rfl | rfl | rfl | rfl
  · rcases alphanum_range alphanum with upper | lower | digit
    · exact .inl upper
    · exact .inr (.inl lower)
    · exact .inr (.inr (.inl digit))
  all_goals decide

instance : DecidablePred IsUnreserved :=
  fun c => inferInstanceAs (Decidable (c.isAlphanum ∨ c = '-' ∨ c = '_' ∨ c = '~' ∨ c = '.'))

/-- An unreserved character is not among characters that are none. -/
theorem IsUnreserved.not_mem {c : Char} (unreserved : IsUnreserved c) {others : List Char}
    (reserved : others.all fun other => ¬IsUnreserved other)
    : c ∉ others :=
  fun member => List.all_iff_forall_prop.mp reserved c member unreserved

/-- A segment is plain if a look at each of its characters says so. -/
theorem IsPlainSegment.of_all {segment : List Char}
    (unreserved : segment.all fun c => IsUnreserved c)
    (noDots : segment ≠ ['.'] ∧ segment ≠ ['.', '.'])
    : IsPlainSegment segment :=
  ⟨List.all_iff_forall_prop.mp unreserved, noDots.1, noDots.2⟩

/-- One character, repeated more often than the dots of a dot segment. -/
theorem IsPlainSegment.replicate {c : Char} {size : Nat} (unreserved : IsUnreserved c)
    (long : 2 < size)
    : IsPlainSegment (List.replicate size c) where
  unreserved d member := List.eq_of_mem_replicate member ▸ unreserved
  notDot same := by
    have length := congrArg List.length same
    simp at length
    omega
  notDots same := by
    have length := congrArg List.length same
    simp at length
    omega

-----------------------------------------------------------------------
-- Characters that are kept
-----------------------------------------------------------------------

namespace Url

/-- A text of characters that stand for themselves is not changed. -/
theorem encode_kept {keep : Char → Bool} {text : List Char} (kept : ∀ c ∈ text, keep c)
    : Percent.encode keep text = text := by
  induction text with
  | nil => rfl
  | cons c rest ih =>
      have others := ih fun d member => kept d (List.mem_cons_of_mem _ member)
      rw [Percent.encode] at others ⊢
      rw [List.flatMap_cons, if_pos (kept c List.mem_cons_self), others]
      rfl

theorem keepsInPath_of {c : Char} (unreserved : IsUnreserved c) : keepsInPath c := by
  have range := unreserved.range
  have absent : c ∉ "\"#<>?\x60\x7b\x7d".toList := unreserved.not_mem (by decide)
  simp only [keepsInPath, Bool.and_eq_true, decide_eq_true_eq, Bool.not_eq_true',
    List.contains_eq_mem, decide_eq_false_iff_not]
  exact ⟨⟨by omega, by omega⟩, absent⟩

/-- What is kept in a query does not end it. -/
theorem keepsInQuery_ne {c : Char} (kept : keepsInQuery c) : c ≠ '#' := by
  rintro rfl
  exact absurd kept (by decide)

theorem keepsInQuery_past {c : Char} (kept : keepsInQuery c) : 0x20 < c.toNat := by
  simp only [keepsInQuery, Bool.and_eq_true, decide_eq_true_eq] at kept
  exact kept.1.1

theorem endsPath_ne {c : Char} (unmarked : endsPath c = false) : c != '#' := by
  refine bne_iff_ne.mpr ?_
  rintro rfl
  exact absurd unmarked (by decide)

/-- A text is cut at the mark behind it, if there is one. -/
theorem cut_marked {passes : Char → Bool} {text : List Char} {mark : Char}
    (all : ∀ c ∈ text, passes c) (stops : passes mark = false) (part? : Option (List Char))
    : (text ++ marked mark part?).takeWhile passes = text
      ∧ (text ++ marked mark part?).dropWhile passes = marked mark part? := by
  cases part? with
  | none =>
      rw [marked, List.append_nil]
      exact ⟨List.takeWhile_eq_self_iff.mpr all, List.dropWhile_eq_nil_iff.mpr all⟩
  | some part => exact Text.cut_at all stops part

/-- A query of kept characters is read as it is written. -/
theorem readQuery?_marked {query? : Option (List Char)}
    (kept : ∀ query ∈ query?, ∀ c ∈ query, keepsInQuery c)
    : readQuery? (marked '?' query?) = query? := by
  cases query? with
  | none => rfl
  | some query =>
      have whole : query.takeWhile (· != '#') = query :=
        List.takeWhile_eq_self_iff.mpr fun c member =>
          bne_iff_ne.mpr (keepsInQuery_ne (kept query rfl c member))
      rw [marked, readQuery?, whole, encode_kept (kept query rfl)]

theorem visible {c : Char} (past : 0x20 < c.toNat) : isMargin c = false ∧ isDropped c = false := by
  constructor
  · simp only [isMargin, decide_eq_false_iff_not]
    omega
  · have tab : c ≠ '\t' := by rintro rfl; exact absurd past (by decide)
    have lineFeed : c ≠ '\n' := by rintro rfl; exact absurd past (by decide)
    have carriageReturn : c ≠ '\r' := by rintro rfl; exact absurd past (by decide)
    simp [isDropped, tab, lineFeed, carriageReturn]

-----------------------------------------------------------------------
-- Paths
-----------------------------------------------------------------------

/-- One dot or two, encoded or not. -/
def IsDots (segment : List Char) : Prop :=
  plainDots segment = ['.', '.'] ∨ plainDots segment = ['.']

/-- Segments that are no dots stay where they are, encoded, by induction on them. -/
theorem resolve_of_no_dots {segments : List (List Char)} (noDots : ∀ s ∈ segments, ¬IsDots s)
    (path : List (List Char))
    : resolve path segments = path.reverse ++ segments.map (Percent.encode keepsInPath) := by
  induction segments generalizing path with
  | nil => simp [resolve]
  | cons segment rest ih =>
      obtain ⟨notTwo, notOne⟩ := not_or.mp (noDots segment List.mem_cons_self)
      rw [resolve, if_neg notTwo, if_neg notOne,
        ih fun s member => noDots s (List.mem_cons_of_mem _ member)]
      simp

/-- A path is cut at its slashes if its segments have no separators. -/
theorem split_pathOf {isSeparator : Char → Bool} {segment : List Char} {rest : List (List Char)}
    (separates : isSeparator '/')
    (whole : ∀ s ∈ segment :: rest, ∀ c ∈ s, isSeparator c = false)
    : Text.split isSeparator (segment ++ pathOf rest) = segment :: rest :=
  Text.split_joined _ separates whole

theorem pathOf_visible {segments : List (List Char)} (plain : ∀ s ∈ segments, IsPlainSegment s)
    (c : Char) (member : c ∈ pathOf segments)
    : 0x20 < c.toNat := by
  obtain ⟨segment, isSegment, inside⟩ := List.mem_flatMap.mp member
  rcases List.mem_cons.mp inside with rfl | inside
  · decide
  · have range := ((plain segment isSegment).unreserved c inside).range
    omega

-----------------------------------------------------------------------
-- Behind a scheme
-----------------------------------------------------------------------

/-- The end of an address without its margin and without dropped characters. -/
def tidy (text : List Char) : List Char :=
  (Text.dropTrailing isMargin text).filter (!isDropped ·)

theorem tidy_eq_self {text : List Char} (stays : ∀ c ∈ text, isDropped c = false)
    (ends : ∀ c ∈ text.getLast?, isMargin c = false)
    : tidy text = text := by
  rw [tidy, Text.dropTrailing_eq_self ends]
  exact List.filter_eq_self.mpr fun c member => by rw [stays c member]; rfl

theorem tidy_visible {text : List Char} (past : ∀ c ∈ text, 0x20 < c.toNat) : tidy text = text :=
  tidy_eq_self (fun c member => (visible (past c member)).2)
    fun c isLast => (visible (past c (List.mem_of_mem_getLast? isLast))).1

/-- Behind a slash only the end of a text is tidied. -/
theorem tidy_slash (before rest : List Char)
    : tidy (before ++ '/' :: rest) = before.filter (!isDropped ·) ++ '/' :: tidy rest := by
  rw [tidy, Text.dropTrailing_past rfl, List.filter_append, List.filter_cons_of_pos rfl, tidy]

/-- What stands between the scheme and the path of an address: what is before the host, the host,
and its port if that is given.
-/
def readAuthority? (text : List Char) : Option (List Char × Host × Option Nat) :=
  let (userinfo, hostAndPort) := splitUserinfo text
  let (host, behind) := splitHost false hostAndPort
  match Host.read? host, port? behind with
  | some host, some port => some (userinfo, host, port)
  | _, _ => none

/-- The address that a text stands for behind its scheme and the slashes there. -/
def readBehindScheme? (text : List Char) : Option Url :=
  let behind := text.dropWhile (!endsAuthority ·)
  (readAuthority? (text.takeWhile (!endsAuthority ·))).map fun (userinfo, host, port) =>
    { userinfo, host, port
      path := readPath (behind.takeWhile (!endsPath ·))
      query := readQuery? (behind.dropWhile (!endsPath ·))
      fragment := readFragment? (behind.dropWhile (· != '#')) }

/-- An address is read from what follows its scheme and the slashes there. -/
theorem read?_eq (text : List Char)
    : read? text
      = (afterScheme? (clean text)).bind fun rest =>
          readBehindScheme? (rest.dropWhile isSlash) := by
  rw [read?]
  cases afterScheme? (clean text) with
  | none => rfl
  | some rest =>
      simp only [readBehindScheme?, readAuthority?, Option.bind_some]
      split <;> simp_all

/-- Only what follows the colon behind a scheme is tidied: the colon is no margin. -/
theorem clean_scheme (scheme : List Char) (visible : scheme.all (0x20 < ·.toNat))
    (nonempty : scheme ≠ []) (text : List Char)
    : clean (scheme ++ ':' :: text) = scheme ++ ':' :: tidy text := by
  have plain : ∀ c ∈ scheme, isMargin c = false ∧ isDropped c = false := fun c member =>
    Url.visible (of_decide_eq_true (List.all_eq_true.mp visible c member))
  have starts : (scheme ++ ':' :: text).dropWhile isMargin = scheme ++ ':' :: text := by
    obtain ⟨c, rest, rfl⟩ := List.exists_cons_of_ne_nil nonempty
    refine List.dropWhile_cons_of_neg ?_
    rw [(plain c List.mem_cons_self).1]
    exact Bool.false_ne_true
  have stay : scheme.filter (!isDropped ·) = scheme :=
    List.filter_eq_self.mpr fun c member => by rw [(plain c member).2]; rfl
  rw [clean, starts, Text.dropTrailing_past (by decide), List.filter_append, stay,
    List.filter_cons_of_pos (by decide), tidy]

/-- An address is read from what follows its scheme, whatever that is. -/
theorem read?_scheme (text : List Char)
    : read? ("http:".toList ++ text) = readBehindScheme? ((tidy text).dropWhile isSlash) := by
  have cleaned : clean ("http:".toList ++ text) = "http".toList ++ ':' :: tidy text :=
    clean_scheme "http".toList (by decide) (by decide) text
  rw [read?_eq, cleaned]
  rfl

/-- An address with another scheme is not read. -/
theorem read?_https (text : List Char) : read? ("https:".toList ++ text) = none := by
  have cleaned : clean ("https:".toList ++ text) = "https".toList ++ ':' :: tidy text :=
    clean_scheme "https".toList (by decide) (by decide) text
  rw [read?_eq, cleaned]
  rfl

/-- Nothing is read where there is nothing but slashes. -/
theorem readBehindScheme?_nil : readBehindScheme? [] = none := by
  decide +kernel

-----------------------------------------------------------------------
-- In front of a path
-----------------------------------------------------------------------

/-- Only what follows a slash is tidied at its end. -/
theorem clean_slash (before rest : List Char)
    : clean (before ++ '/' :: rest)
      = (before.dropWhile isMargin).filter (!isDropped ·) ++ '/' :: tidy rest := by
  rw [clean, Text.dropWhile_stop rfl, Text.dropTrailing_past rfl, List.filter_append,
    List.filter_cons_of_pos rfl, tidy]

/-- A text begins with a scheme if four letters and a colon are there. -/
theorem afterScheme?_eq_some {text rest : List Char}
    : afterScheme? text = some rest
      ↔ ∃ scheme, scheme.map Char.toLower = "http".toList ∧ text = scheme ++ ':' :: rest := by
  constructor
  · intro read
    unfold afterScheme? at read
    split at read
    case h_1 h t t' p behind =>
      split at read
      case isTrue lower =>
        obtain rfl := Option.some.inj read
        exact ⟨[h, t, t', p], lower, rfl⟩
      case isFalse => cases read
    case h_2 => cases read
  · rintro ⟨scheme, lower, rfl⟩
    have length := congrArg List.length lower
    rw [List.length_map] at length
    obtain ⟨h, t, t', p, rfl⟩ := List.length_eq_four.mp length
    exact if_pos lower

/-- A slash ends what may be a scheme. -/
theorem afterScheme?_slash (before rest : List Char)
    : afterScheme? (before ++ '/' :: rest) = (afterScheme? before).map (· ++ '/' :: rest) := by
  refine Option.ext fun behind => ?_
  rw [afterScheme?_eq_some, Option.map_eq_some_iff]
  constructor
  · rintro ⟨scheme, lower, same⟩
    have noSlash : '/' ∉ scheme ++ [':'] := by
      intro member
      rcases List.mem_append.mp member with member | colon
      · have inLetters : Char.toLower '/' ∈ "http".toList := lower ▸ List.mem_map_of_mem member
        exact absurd inLetters (by decide)
      · exact absurd colon (by decide)
    rw [List.append_cons scheme] at same
    rcases List.append_eq_append_iff.mp same with
      ⟨_ | ⟨slash, more⟩, isScheme, isBehind⟩ | ⟨more, isBefore, isBehind⟩
    · refine ⟨[], afterScheme?_eq_some.mpr ⟨scheme, lower, ?_⟩, isBehind⟩
      rw [isScheme, List.append_nil]
    · obtain ⟨rfl, -⟩ := List.cons.inj isBehind
      exact absurd (isScheme ▸ List.mem_append_right _ List.mem_cons_self) noSlash
    · refine ⟨more, afterScheme?_eq_some.mpr ⟨scheme, lower, ?_⟩, isBehind.symm⟩
      rw [isBefore, List.append_assoc, List.singleton_append]
  · rintro ⟨more, found, rfl⟩
    obtain ⟨scheme, lower, rfl⟩ := afterScheme?_eq_some.mp found
    refine ⟨scheme, lower, ?_⟩
    rw [List.append_assoc, List.cons_append]

/-- What an address has in front of its path: what is before the host, the host, and its port if
that is given.
-/
def site (url : Url) : List Char × Host × Option Nat :=
  (url.userinfo, url.host, url.port)

/-- An address up to its path, without credentials. -/
def beginning (url : Url) : List Char :=
  "http://".toList ++ url.strayUserinfo ++ url.authority

theorem beginning_eq_of_site {url other : Url} (same : url.site = other.site)
    : url.beginning = other.beginning := by
  cases url
  cases other
  cases same
  rfl

/-- An address without a fragment fits if its beginning is not too long together with its target. -/
theorem fits_iff {url : Url} (fragment : url.fragment = none)
    : url.fits = true ↔ (url.beginning ++ url.target).length ≤ maxSize := by
  have whole : url.absoluteTarget ++ marked '#' url.fragment = url.beginning ++ url.target := by
    rw [fragment]
    exact List.append_nil _
  rw [fits, whole, decide_eq_true_eq]

/-- Behind a scheme, what is in front of the path is read from what stands there. -/
theorem readBehindScheme?_site (text : List Char)
    : (readBehindScheme? text).map site
      = readAuthority? (text.takeWhile (!endsAuthority ·)) := by
  rw [readBehindScheme?, Option.map_map]
  exact Option.map_id'

/-- What is in front of the path of an address does not hang on what follows a segment of the path
that begins with a plain character.
-/
theorem read?_site (front : List Char) (first : Char) (others : List Char)
    (stays : isDropped first = false) (noSlash : isSlash first = false)
    : ∃ site?, ∀ behind,
        (read? (front ++ '/' :: (first :: others ++ '/' :: behind))).map site = site? := by
  have tidied (behind : List Char) : tidy (first :: others ++ '/' :: behind)
      = first :: (others.filter (!isDropped ·) ++ '/' :: tidy behind) := by
    rw [tidy_slash, List.filter_cons_of_pos (by rw [stays]; rfl), List.cons_append]
  cases scheme : afterScheme? ((front.dropWhile isMargin).filter (!isDropped ·)) with
  | none =>
      refine ⟨none, fun behind => ?_⟩
      rw [read?_eq, clean_slash, afterScheme?_slash, scheme]
      rfl
  | some rest =>
      let before := (rest ++ ['/']).dropWhile isSlash ++ first :: others.filter (!isDropped ·)
      refine ⟨readAuthority? (before.takeWhile (!endsAuthority ·)), fun behind => ?_⟩
      have starts : (rest ++ '/' :: tidy (first :: others ++ '/' :: behind)).dropWhile isSlash
          = before ++ '/' :: tidy behind := by
        rw [tidied, List.append_cons rest, Text.dropWhile_stop noSlash, List.append_assoc]
        rfl
      rw [read?_eq, clean_slash, afterScheme?_slash, scheme, Option.map_some, Option.bind_some,
        starts, readBehindScheme?_site, Text.takeWhile_stop rfl]

-----------------------------------------------------------------------
-- Behind a host
-----------------------------------------------------------------------

variable {host : List Char}

/-- A host is not dropped in any of its characters, and ends at none of them. -/
theorem host_whole (isHost : IsHostText host) (c : Char) (member : c ∈ host)
    : isDropped c = false ∧ isSlash c = false ∧ endsAuthority c = false := by
  have plain := isHost.plain c member
  simp only [List.mem_cons, List.not_mem_nil, or_false, not_or] at plain
  simp [isDropped, isSlash, endsAuthority, endsPath, plain]

theorem dropWhile_slashes (isHost : IsHostText host) (behind : List Char)
    : ("//".toList ++ host ++ behind).dropWhile isSlash = host ++ behind := by
  have slashes : "//".toList ++ host ++ behind = '/' :: '/' :: (host ++ behind) := rfl
  rw [slashes, List.dropWhile_cons_of_pos rfl, List.dropWhile_cons_of_pos rfl]
  cases host with
  | nil => exact absurd rfl isHost.nonempty
  | cons c rest =>
      refine List.dropWhile_cons_of_neg ?_
      rw [(host_whole isHost c List.mem_cons_self).2.1]
      exact Bool.false_ne_true

/-- An address is read in two parts: the host, whatever follows it, and what follows it, whatever
the host.
-/
theorem read?_behind (isHost : IsHostText host) (rest : List Char)
    : read? ("http://".toList ++ host ++ '/' :: rest)
      = (readAuthority? host).map fun (userinfo, host, port) =>
        { userinfo, host, port
          path := readPath (('/' :: tidy rest).takeWhile (!endsPath ·))
          query := readQuery? (('/' :: tidy rest).dropWhile (!endsPath ·))
          fragment := readFragment? (('/' :: tidy rest).dropWhile (· != '#')) } := by
  have hostStays : host.filter (!isDropped ·) = host :=
    List.filter_eq_self.mpr fun c member => by rw [(host_whole isHost c member).1]; rfl
  have stays : ("//".toList ++ host).filter (!isDropped ·) = "//".toList ++ host := by
    rw [List.filter_append, hostStays]
    rfl
  have passes : ∀ c ∈ host, !endsAuthority c := fun c member => by
    rw [(host_whole isHost c member).2.2]
    rfl
  have stops : (!endsAuthority '/') = false := rfl
  obtain ⟨before, behind⟩ := Text.cut_at passes stops (tidy rest)
  have scheme : "http://".toList ++ host ++ '/' :: rest
      = "http:".toList ++ ("//".toList ++ host ++ '/' :: rest) := rfl
  rw [scheme, read?_scheme, tidy_slash, stays, dropWhile_slashes isHost, readBehindScheme?, before,
    behind]

end Url

end JobWatch.Http
