import JobWatch.Proofs.Http.Transparency

/-! Addresses made by writing something behind another address: what is read before it does not
depend on what is written, as long as no query and no fragment has begun.
-/

namespace JobWatch.Http.Url

-----------------------------------------------------------------------
-- Paths
-----------------------------------------------------------------------

/-- The segments before the end of a path are resolved without regard to those behind them. -/
theorem resolve_append (path before : List (List Char))
    : ∃ done, ∀ rest, rest ≠ [] → resolve path (before ++ rest) = resolve done rest := by
  induction before generalizing path with
  | nil => exact ⟨path, fun _ _ => rfl⟩
  | cons segment before ih =>
      have more {rest : List (List Char)} (some : rest ≠ [])
          : (before ++ rest).isEmpty = false := by
        simpa using fun _ => some
      by_cases two : plainDots segment = ['.', '.']
      · obtain ⟨done, same⟩ := ih (parent path)
        refine ⟨done, fun rest some => ?_⟩
        rw [List.cons_append, resolve, if_pos two, more some]
        exact same rest some
      · by_cases one : plainDots segment = ['.']
        · obtain ⟨done, same⟩ := ih path
          refine ⟨done, fun rest some => ?_⟩
          rw [List.cons_append, resolve, if_neg two, if_pos one, more some]
          exact same rest some
        · obtain ⟨done, same⟩ := ih (Percent.encode keepsInPath segment :: path)
          refine ⟨done, fun rest some => ?_⟩
          rw [List.cons_append, resolve, if_neg two, if_neg one]
          exact same rest some

/-- A path is read up to a slash, and then goes on with what stands behind it. -/
theorem readPath_slash (path : List Char)
    : ∃ done, ∀ behind,
        readPath (path ++ '/' :: behind) = resolve done (Text.split isSlash behind) := by
  cases path with
  | nil => exact ⟨[], fun behind => rfl⟩
  | cons slash path =>
      obtain ⟨done, same⟩ := resolve_append [] (Text.split isSlash path)
      refine ⟨done, fun behind => ?_⟩
      rw [List.cons_append, readPath, List.drop_one, List.tail_cons, Text.split_separator rfl]
      exact same _ (Text.split_ne_nil _ _)

-----------------------------------------------------------------------
-- Queries and fragments
-----------------------------------------------------------------------

/-- A text in which no query and no fragment begins is a host and a path, and behind it the path
goes on from a slash, and the query is the one that is written.
-/
theorem readBehindScheme?_unmarked {before path : List Char} {query? : Option (List Char)}
    (unmarked : ∀ c ∈ before ++ path, endsPath c = false) (starts : ∀ c ∈ path.head?, c = '/')
    (kept : ∀ query ∈ query?, ∀ c ∈ query, keepsInQuery c)
    : readBehindScheme? (before ++ (path ++ marked '?' query?))
      = (readAuthority? (before.takeWhile (!endsAuthority ·))).map fun (userinfo, host, port) =>
        { userinfo, host, port
          path := readPath (before.dropWhile (!endsAuthority ·) ++ path)
          query := query?
          fragment := none } := by
  have whole : ∀ c ∈ before.dropWhile (!endsAuthority ·) ++ path, endsPath c = false :=
    fun c member => unmarked c
      ((List.append_sublist_append_right _).mpr (List.dropWhile_suffix _).sublist |>.mem member)
  have passes : ∀ c ∈ before.dropWhile (!endsAuthority ·) ++ path, !endsPath c :=
    fun c member => by rw [whole c member]; rfl
  have noFragment : ∀ c ∈ before.dropWhile (!endsAuthority ·) ++ path ++ marked '?' query?,
      c != '#' := by
    refine List.forall_mem_append.mpr ⟨fun c member => endsPath_ne (whole c member), ?_⟩
    cases query? with
    | none => exact List.forall_mem_nil _
    | some query =>
        refine List.forall_mem_cons.mpr ⟨rfl, fun c member => bne_iff_ne.mpr ?_⟩
        exact keepsInQuery_ne (kept query rfl c member)
  have endsHost : ∀ c ∈ (path ++ marked '?' query?).head?, (!endsAuthority c) = false := by
    intro c isFirst
    cases path with
    | nil =>
        cases query? with
        | none => cases isFirst
        | some query =>
            rw [← Option.some.inj isFirst]
            rfl
    | cons slash path =>
        rw [← Option.some.inj isFirst, starts slash rfl]
        rfl
  have stops : (!endsPath '?') = false := rfl
  obtain ⟨hostIs, behindIs⟩ := Text.cut_behind endsHost before
  obtain ⟨pathIs, queryIs⟩ := cut_marked passes stops query?
  rw [readBehindScheme?, hostIs, behindIs]
  dsimp only
  rw [← List.append_assoc, List.dropWhile_eq_nil_iff.mpr noFragment, pathIs, queryIs,
    readQuery?_marked kept]
  rfl

/-- Behind such a text, all paths go on from the same segments. -/
theorem readBehindScheme?_slash {before : List Char} (unmarked : ∀ c ∈ before, endsPath c = false)
    : ∃ done, ∀ (path : List Char) (query? : Option (List Char)),
        (∀ c ∈ path, endsPath c = false) → (∀ query ∈ query?, ∀ c ∈ query, keepsInQuery c) →
        readBehindScheme? (before ++ '/' :: (path ++ marked '?' query?))
          = (readAuthority? (before.takeWhile (!endsAuthority ·))).map fun (userinfo, host, port) =>
            { userinfo, host, port
              path := resolve done (Text.split isSlash path)
              query := query?
              fragment := none } := by
  obtain ⟨done, same⟩ := readPath_slash (before.dropWhile (!endsAuthority ·))
  refine ⟨done, fun path query? clear kept => ?_⟩
  rw [← List.cons_append, readBehindScheme?_unmarked ?_ ?_ kept, same]
  · exact List.forall_mem_append.mpr ⟨unmarked, List.forall_mem_cons.mpr ⟨rfl, clear⟩⟩
  · exact fun c isFirst => (Option.some.inj isFirst).symm

/-- With slashes behind it, such a text has neither a query nor a fragment. -/
theorem readBehindScheme?_slashes {before slashes : List Char}
    (unmarked : ∀ c ∈ before, endsPath c = false) (areSlashes : ∀ c ∈ slashes, c = '/')
    : readBehindScheme? (before ++ slashes)
      = (readAuthority? (before.takeWhile (!endsAuthority ·))).map fun (userinfo, host, port) =>
        { userinfo, host, port
          path := readPath (before.dropWhile (!endsAuthority ·) ++ slashes)
          query := none
          fragment := none } := by
  have clear : ∀ c ∈ before ++ slashes, endsPath c = false := by
    refine List.forall_mem_append.mpr ⟨unmarked, fun c member => ?_⟩
    rw [areSlashes c member]
    rfl
  have starts : ∀ c ∈ slashes.head?, c = '/' := fun c isFirst =>
    areSlashes c (List.mem_of_mem_head? isFirst)
  have noQuery : ∀ query ∈ (none : Option (List Char)), ∀ c ∈ query, keepsInQuery c :=
    fun _ none => nomatch none
  have whole := readBehindScheme?_unmarked clear starts noQuery
  rwa [marked, List.append_nil] at whole

/-- Where a query or a fragment has begun, the path does not depend on what is written behind. -/
theorem readBehindScheme?_marked {text : List Char} (mark : ∃ c ∈ text, endsPath c)
    : ∃ path, ∀ more url, readBehindScheme? (text ++ more) = some url
        → url.path = path ∧ ¬(url.query = none ∧ url.fragment = none) := by
  -- the first such character is the one that ends the path
  obtain ⟨front, c, rest, rfl, passes, stops⟩ : ∃ front c rest, text = front ++ c :: rest
      ∧ (∀ d ∈ front, !endsPath d) ∧ (!endsPath c) = false := by
    obtain ⟨c, member, ends⟩ := mark
    exact Text.exists_stop ⟨c, member, by rw [ends]; rfl⟩
  have ends : endsPath c := by simpa using stops
  have endsHost : (!endsAuthority c) = false := by simp [endsAuthority, ends]
  have inside : ∀ d ∈ front.dropWhile (!endsAuthority ·), !endsPath d :=
    fun d member => passes d ((List.dropWhile_suffix _).sublist.mem member)
  refine ⟨readPath (front.dropWhile (!endsAuthority ·)), fun more url read => ?_⟩
  have hostIs : (front ++ c :: (rest ++ more)).takeWhile (!endsAuthority ·)
      = front.takeWhile (!endsAuthority ·) := Text.takeWhile_stop (by exact endsHost) _ _
  have behindIs : (front ++ c :: (rest ++ more)).dropWhile (!endsAuthority ·)
      = front.dropWhile (!endsAuthority ·) ++ c :: (rest ++ more) :=
    Text.dropWhile_stop (by exact endsHost) _ _
  rw [readBehindScheme?, List.append_assoc, List.cons_append, hostIs, behindIs] at read
  obtain ⟨⟨userinfo, host, port⟩, -, rfl⟩ := Option.map_eq_some_iff.mp read
  obtain ⟨path, behind⟩ := Text.cut_at inside stops (rest ++ more)
  refine ⟨congrArg readPath path, ?_⟩
  rintro ⟨noQuery, noFragment⟩
  dsimp only at noQuery noFragment
  rw [behind] at noQuery
  rcases (Bool.or_eq_true _ _).mp ends with question | number
  · rw [eq_of_beq question] at noQuery
    cases noQuery
  · rw [eq_of_beq number, (Text.cut_at (fun d member => ?_) (by decide) _).2] at noFragment
    · cases noFragment
    · exact endsPath_ne (by simpa using inside d member)

-----------------------------------------------------------------------
-- Slashes at the end
-----------------------------------------------------------------------

/-- What is read of an address behind its scheme, and before the slashes at its end. -/
def baseText (text : List Char) : List Char :=
  ((Text.dropTrailing (· == '/') text).filter (!isDropped ·)).dropWhile isSlash

/-- The colon behind a scheme ends the slashes at the end of an address. -/
theorem dropTrailing_colon (scheme text : List Char)
    : Text.dropTrailing (· == '/') (scheme ++ ':' :: text)
      = scheme ++ ':' :: Text.dropTrailing (· == '/') text := by
  have stays : (':' == '/') = false := rfl
  exact Text.dropTrailing_past (by exact stays) _ _

theorem dropTrailing_http (text : List Char)
    : Text.dropTrailing (· == '/') ("http:".toList ++ text)
      = "http:".toList ++ Text.dropTrailing (· == '/') text :=
  dropTrailing_colon "http".toList text

theorem dropTrailing_https (text : List Char)
    : Text.dropTrailing (· == '/') ("https:".toList ++ text)
      = "https:".toList ++ Text.dropTrailing (· == '/') text :=
  dropTrailing_colon "https".toList text

section Base

variable {text : List Char} {url : Url}

/-- An address that is read has more than slashes behind its scheme. -/
theorem exists_no_slash (read : read? ("http:".toList ++ text) = some url)
    : ∃ c ∈ tidy text, isSlash c = false := by
  have some : (tidy text).dropWhile isSlash ≠ [] := by
    intro none
    rw [read?_scheme, none, readBehindScheme?_nil] at read
    cases read
  simpa [List.dropWhile_eq_nil_iff] using some

/-- What is left behind the slashes after the scheme is the same with and without a continuation. -/
theorem dropWhile_base (read : read? ("http:".toList ++ text) = some url) (behind : List Char)
    : ((Text.dropTrailing (· == '/') text).filter (!isDropped ·) ++ behind).dropWhile isSlash
      = baseText text ++ behind := by
  obtain ⟨c, member, noSlash⟩ := exists_no_slash read
  obtain ⟨inside, stays⟩ := List.mem_filter.mp member
  have inText : c ∈ text := (List.rdropWhile_prefix isMargin text).sublist.mem inside
  obtain ⟨slashes, parts, areSlashes⟩ := Text.dropTrailing_dropped (· == '/') text
  have inBase : c ∈ Text.dropTrailing (· == '/') text := by
    rw [parts] at inText
    refine (List.mem_append.mp inText).resolve_right fun isSlash => ?_
    rw [eq_of_beq (areSlashes c isSlash)] at noSlash
    cases noSlash
  have some
      : ((Text.dropTrailing (· == '/') text).filter (!isDropped ·)).dropWhile isSlash ≠ [] := by
    intro none
    have slash := List.dropWhile_eq_nil_iff.mp none c (List.mem_filter.mpr ⟨inBase, stays⟩)
    rw [noSlash] at slash
    cases slash
  rw [List.dropWhile_append, if_neg (by simpa using some), baseText]

/-- Behind a slash, an address is read from its base and what is written behind it. -/
theorem read?_continued (read : read? ("http:".toList ++ text) = some url) (behind : List Char)
    : read? ("http:".toList ++ Text.dropTrailing (· == '/') text ++ '/' :: behind)
      = readBehindScheme? (baseText text ++ '/' :: tidy behind) := by
  rw [List.append_assoc, read?_scheme, tidy_slash, dropWhile_base read]

/-- Without a continuation, an address is read from its base and the slashes at its end, or from its
base without the margin at the end.
-/
theorem read?_base (read : read? ("http:".toList ++ text) = some url)
    : (∃ slashes,
        (∀ c ∈ slashes, c = '/') ∧ readBehindScheme? (baseText text ++ slashes) = some url)
      ∨ ∃ front margin, baseText text = front ++ margin ∧ (∀ c ∈ margin, isMargin c)
          ∧ readBehindScheme? front = some url := by
  obtain ⟨slashes, parts, areSlashes⟩ := Text.dropTrailing_dropped (· == '/') text
  have whole := read
  rw [read?_scheme] at whole
  rcases List.eq_nil_or_concat slashes with rfl | ⟨others, last, rfl⟩
  · right
    rw [List.append_nil] at parts
    obtain ⟨margin, cut, areMargins⟩ := Text.dropTrailing_dropped isMargin text
    have some : (tidy text).dropWhile isSlash ≠ [] := by
      intro none
      rw [none, readBehindScheme?_nil] at whole
      cases whole
    refine ⟨(tidy text).dropWhile isSlash, margin.filter (!isDropped ·), ?_,
      fun c member => areMargins c (List.mem_filter.mp member).1, whole⟩
    calc baseText text
      _ = (text.filter (!isDropped ·)).dropWhile isSlash := by rw [baseText, ← parts]
      _ = (tidy text ++ margin.filter (!isDropped ·)).dropWhile isSlash := by
        rw [tidy, ← List.filter_append, ← cut]
      _ = (tidy text).dropWhile isSlash ++ margin.filter (!isDropped ·) := by
        rw [List.dropWhile_append, if_neg (by simpa using some)]
  · left
    rw [List.concat_eq_append] at parts areSlashes
    have last_eq : last = '/' := eq_of_beq (areSlashes last List.mem_concat_self)
    refine ⟨(others ++ [last]).filter (!isDropped ·), fun c member => ?_, ?_⟩
    · exact eq_of_beq (areSlashes c (List.mem_filter.mp member).1)
    · have tidied : tidy text = (Text.dropTrailing (· == '/') text).filter (!isDropped ·)
          ++ (others ++ [last]).filter (!isDropped ·) := by
        rw [← List.filter_append, ← parts]
        conv_lhs => rw [parts, ← List.append_assoc, last_eq]
        rw [tidy_slash]
        conv_rhs => rw [parts, ← List.append_assoc, last_eq, List.filter_append]
        rfl
      rw [← dropWhile_base read, ← tidied, whole]

/-- An address without a mark before its slashes has neither a query nor a fragment. -/
theorem read?_unmarked (read : read? ("http:".toList ++ text) = some url)
    (unmarked : ∀ c ∈ baseText text, endsPath c = false)
    : url.query = none ∧ url.fragment = none := by
  have plain {behind : List Char} (clear : ∀ c ∈ behind, endsPath c = false)
      (whole : readBehindScheme? behind = some url) : url.query = none ∧ url.fragment = none := by
    rw [← List.append_nil behind, readBehindScheme?_slashes clear (List.forall_mem_nil _)] at whole
    obtain ⟨authority, -, rfl⟩ := Option.map_eq_some_iff.mp whole
    exact ⟨rfl, rfl⟩
  rcases read?_base read with ⟨slashes, areSlashes, whole⟩ | ⟨front, margin, parts, -, whole⟩
  · refine plain (List.forall_mem_append.mpr ⟨unmarked, fun c member => ?_⟩) whole
    rw [areSlashes c member]
    rfl
  · rw [parts] at unmarked
    exact plain (fun c member => unmarked c (List.mem_append_left _ member)) whole

end Base

end JobWatch.Http.Url
