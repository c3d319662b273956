import JobWatch.Proofs.Http.Bases

/-! Addresses that take paths: whatever plain segments are written behind them, in place of the
slashes at their end, is asked for behind their own path.
-/

namespace JobWatch.Http.Url

variable {text : List Char} {url : Url} {segment : List Char} {others : List (List Char)}
  {query? : Option (List Char)}

theorem not_isDots_nil : ¬IsDots [] := by
  rintro (two | one)
  · cases two
  · cases one

/-- The path without the slashes at its end. -/
def stem (url : Url) : List Char :=
  Text.dropTrailing (· == '/') url.pathText

/-- An address takes paths behind a slash, with which the slashes at the end of its text `base` are
replaced: it has neither a query nor a fragment, and its own path stays in front of the slash.
-/
def TakesPaths (base : List Char) (url : Url) : Prop :=
  url.query = none
  ∧ url.fragment = none
  ∧ ∃ directory, read? (base ++ ['/']) = some directory ∧ directory.pathText = url.stem ++ ['/']

/-- What stands behind a path without slashes at its end is no part of the path. -/
theorem ne_stem_append (url : Url) {c : Char} (plain : IsUnreserved c) (behind : List Char)
    (query? : Option (List Char))
    : url.pathText ++ marked '?' query? ≠ url.stem ++ '/' :: c :: behind := by
  intro same
  have noSlash : c ≠ '/' := by
    rintro rfl
    exact absurd plain (by decide)
  have noMark : c ≠ '?' := by
    rintro rfl
    exact absurd plain (by decide)
  obtain ⟨slashes, parts, areSlashes⟩ := Text.dropTrailing_dropped (· == '/') url.pathText
  rw [parts, List.append_assoc, stem] at same
  have rest := List.append_cancel_left same
  cases slashes with
  | nil => cases query? <;> simp [marked] at rest
  | cons slash slashes =>
      obtain ⟨-, rest⟩ := List.cons.inj rest
      cases slashes with
      | nil =>
          cases query? with
          | none => cases rest
          | some query => exact noMark (List.cons.inj rest).1.symm
      | cons next slashes =>
          have isSlash := areSlashes next (List.mem_cons_of_mem _ List.mem_cons_self)
          exact noSlash ((List.cons.inj rest).1 ▸ eq_of_beq isSlash)

/-- Behind an address without a mark, plain segments and a query are taken as they are, and stand
where a slash alone leaves an empty segment.
-/
theorem read?_behind_base (read : read? ("http:".toList ++ text) = some url)
    (unmarked : ∀ c ∈ baseText text, endsPath c = false)
    (plain : ∀ s ∈ segment :: others, IsPlainSegment s)
    (kept : ∀ query ∈ query?, ∀ c ∈ query, keepsInQuery c)
    : let base := "http:".toList ++ Text.dropTrailing (· == '/') text
      ∃ (authority? : Option (List Char × Host × Option Nat)) (front : List (List Char)),
        read? (base ++ ['/'])
            = authority?.map (fun (userinfo, host, port) =>
              { userinfo, host, port, path := front ++ [[]], query := none, fragment := none })
        ∧ read? (base ++ pathOf (segment :: others) ++ marked '?' query?)
            = authority?.map fun (userinfo, host, port) =>
              { userinfo, host, port
                path := front ++ segment :: others
                query := query?
                fragment := none } := by
  intro base
  obtain ⟨done, same⟩ := readBehindScheme?_slash unmarked
  refine ⟨readAuthority? ((baseText text).takeWhile (!endsAuthority ·)), done.reverse, ?_, ?_⟩
  · have segments : resolve done (Text.split isSlash []) = done.reverse ++ [[]] :=
      resolve_of_no_dots (List.forall_mem_singleton.mpr not_isDots_nil) done
    have directory := same [] none (List.forall_mem_nil _) (fun _ none => nomatch none)
    rw [segments] at directory
    rw [read?_continued read]
    exact directory
  · have whole : base ++ pathOf (segment :: others) ++ marked '?' query?
        = base ++ '/' :: (segment ++ pathOf others ++ marked '?' query?) := by
      rw [pathOf_cons, List.append_assoc base, List.cons_append, List.cons_append]
    have transparent := fun s member => (plain s member).isTransparent
    have unmarkedPath : ∀ c ∈ segment ++ pathOf others, endsPath c = false := fun c member =>
      (isClear_of_unmarked (fun s member => (transparent s member).unmarked) c member).2
    have visiblePath : ∀ c ∈ segment ++ pathOf others, 0x20 < c.toNat := fun c member =>
      pathOf_visible plain c (List.mem_cons_of_mem '/' member)
    have segments : resolve done (Text.split isSlash (segment ++ pathOf others))
        = done.reverse ++ segment :: others := by
      rw [split_unmarked fun s member => (transparent s member).unmarked,
        resolve_of_no_dots fun s member => not_isDots (transparent s member), encode_plain plain]
    have all : tidy (segment ++ pathOf others ++ marked '?' query?)
        = segment ++ pathOf others ++ marked '?' query? := by
      refine tidy_visible (List.forall_mem_append.mpr ⟨visiblePath, ?_⟩)
      cases query? with
      | none => exact List.forall_mem_nil _
      | some query =>
          refine List.forall_mem_cons.mpr ⟨by decide, fun c member => ?_⟩
          exact keepsInQuery_past (kept query rfl c member)
    rw [whole, read?_continued read, all, same _ query? unmarkedPath kept, segments]

/-- Behind an address with a mark nothing is written to the path. -/
theorem read?_behind_mark (read : read? ("http:".toList ++ text) = some url)
    (mark : ∃ c ∈ baseText text, endsPath c)
    : ¬(url.query = none ∧ url.fragment = none)
      ∧ ∀ behind full,
        read? ("http:".toList ++ Text.dropTrailing (· == '/') text ++ '/' :: behind) = some full
          → full.path = url.path := by
  rcases read?_base read with ⟨slashes, -, whole⟩ | ⟨front, margin, parts, areMargins, whole⟩
  · obtain ⟨path, same⟩ := readBehindScheme?_marked mark
    obtain ⟨isPath, mark⟩ := same slashes url whole
    refine ⟨mark, fun behind full isFull => ?_⟩
    rw [read?_continued read] at isFull
    rw [isPath, (same _ full isFull).1]
  · -- the mark is no margin, so it stands in front of the margin
    have inFront : ∃ c ∈ front, endsPath c := by
      obtain ⟨c, member, ends⟩ := mark
      rw [parts] at member
      refine ⟨c, (List.mem_append.mp member).resolve_right fun isLast => ?_, ends⟩
      have margin := areMargins c isLast
      rcases (Bool.or_eq_true _ _).mp ends with question | number
      · rw [eq_of_beq question] at margin
        exact absurd margin (by decide)
      · rw [eq_of_beq number] at margin
        exact absurd margin (by decide)
    obtain ⟨path, same⟩ := readBehindScheme?_marked inFront
    rw [← List.append_nil front] at whole
    obtain ⟨isPath, mark⟩ := same [] url whole
    refine ⟨mark, fun behind full isFull => ?_⟩
    rw [read?_continued read, parts, List.append_assoc] at isFull
    rw [isPath, (same _ full isFull).1]

theorem unmarked_of_read? (read : read? ("http:".toList ++ text) = some url)
    (plain : url.query = none ∧ url.fragment = none)
    : ∀ c ∈ baseText text, endsPath c = false := by
  by_contra marked
  push Not at marked
  obtain ⟨c, member, ends⟩ := marked
  exact (read?_behind_mark read ⟨c, member, by simpa using ends⟩).1 plain

/-- Plain segments and a query behind an address are asked for behind its own path exactly if it
takes paths.
-/
theorem target_iff_takesPaths (read : read? ("http:".toList ++ text) = some url)
    (plain : ∀ s ∈ segment :: others, IsPlainSegment s) (nonempty : segment ≠ [])
    (kept : ∀ query ∈ query?, ∀ c ∈ query, keepsInQuery c) {full : Url}
    (isFull : read? ("http:".toList ++ Text.dropTrailing (· == '/') text
      ++ pathOf (segment :: others) ++ marked '?' query?) = some full)
    : full.target = url.stem ++ pathOf (segment :: others) ++ marked '?' query?
      ↔ TakesPaths ("http:".toList ++ Text.dropTrailing (· == '/') text) url := by
  by_cases mark : ∃ c ∈ baseText text, endsPath c
  case pos =>
    obtain ⟨isMarked, same⟩ := read?_behind_mark read mark
    refine iff_of_false (fun isTarget => ?_) fun takes => isMarked ⟨takes.1, takes.2.1⟩
    obtain ⟨c, rest, rfl⟩ := List.exists_cons_of_ne_nil nonempty
    have unreserved := (plain (c :: rest) List.mem_cons_self).unreserved c List.mem_cons_self
    rw [pathOf_cons, List.append_assoc, List.append_assoc, List.cons_append] at isFull
    rw [target, pathText, same _ full isFull, pathOf_cons, List.append_assoc, List.append_assoc]
      at isTarget
    exact ne_stem_append url unreserved _ full.query isTarget
  case neg =>
    have unmarked : ∀ c ∈ baseText text, endsPath c = false := fun c member =>
      Bool.eq_false_iff.mpr fun ends => mark ⟨c, member, ends⟩
    obtain ⟨authority?, front, directory, behind⟩ := read?_behind_base read unmarked plain kept
    rw [behind] at isFull
    obtain ⟨authority, isAuthority, rfl⟩ := Option.map_eq_some_iff.mp isFull
    obtain ⟨noQuery, noFragment⟩ := read?_unmarked read unmarked
    have isTarget : target
          { userinfo := authority.1, host := authority.2.1, port := authority.2.2
            path := front ++ segment :: others, query := query?, fragment := none }
        = pathOf front ++ pathOf (segment :: others) ++ marked '?' query? := by
      rw [← pathOf_append]
      rfl
    have isPath : (front ++ [[]]).flatMap ('/' :: ·) = pathOf front ++ ['/'] :=
      pathOf_append front [[]]
    rw [isTarget, List.append_cancel_right_eq, List.append_cancel_right_eq]
    rw [isAuthority] at directory
    constructor
    · intro same
      exact ⟨noQuery, noFragment, _, directory, by rw [← same]; exact isPath⟩
    · rintro ⟨-, -, found, isDirectory, same⟩
      rw [Option.some.inj (isDirectory.symm.trans directory)] at same
      exact List.append_cancel_right (isPath.symm.trans same)

/-- An address that takes paths is read with any plain segments behind it, and names the host that
it names with a slash behind it.
-/
theorem TakesPaths.reads (read : read? ("http:".toList ++ text) = some url)
    (takes : TakesPaths ("http:".toList ++ Text.dropTrailing (· == '/') text) url)
    (plain : ∀ s ∈ segment :: others, IsPlainSegment s)
    (kept : ∀ query ∈ query?, ∀ c ∈ query, keepsInQuery c)
    : ∃ full directory,
        read? ("http:".toList ++ Text.dropTrailing (· == '/') text
            ++ pathOf (segment :: others) ++ marked '?' query?)
          = some full
        ∧ read? ("http:".toList ++ Text.dropTrailing (· == '/') text ++ ['/']) = some directory
        ∧ full = { directory with path := full.path, query := full.query } := by
  obtain ⟨noQuery, noFragment, found, isDirectory, -⟩ := takes
  have unmarked := unmarked_of_read? read ⟨noQuery, noFragment⟩
  obtain ⟨authority?, front, directory, behind⟩ := read?_behind_base read unmarked plain kept
  rw [directory] at isDirectory
  obtain ⟨authority, isAuthority, rfl⟩ := Option.map_eq_some_iff.mp isDirectory
  rw [isAuthority] at directory behind
  exact ⟨_, _, behind, directory, rfl⟩

-----------------------------------------------------------------------
-- Addresses that are read as they are written
-----------------------------------------------------------------------

/-- Slashes behind a text cut as many empty segments off. -/
theorem split_slashes (text : List Char) {slashes : List Char} (areSlashes : ∀ c ∈ slashes, c = '/')
    : Text.split isSlash (text ++ slashes)
      = Text.split isSlash text ++ List.replicate slashes.length [] := by
  induction slashes generalizing text with
  | nil => rw [List.append_nil, List.length_nil, List.replicate_zero, List.append_nil]
  | cons slash slashes ih =>
      have others := ih [] fun c member => areSlashes c (List.mem_cons_of_mem _ member)
      rw [List.nil_append] at others
      rw [areSlashes slash List.mem_cons_self, Text.split_separator rfl, others]
      rfl

theorem pathOf_empty (count : Nat)
    : pathOf (List.replicate count []) = List.replicate count '/' := by
  induction count with
  | zero => rfl
  | succ count ih => rw [List.replicate_succ, pathOf_cons, ih, List.replicate_succ]; rfl

theorem resolve_slashes (done : List (List Char)) {last : List Char} (noDots : ¬IsDots last)
    (count : Nat)
    : pathOf (resolve done (last :: List.replicate count []))
      = pathOf done.reverse ++ '/' :: Percent.encode keepsInPath last
        ++ List.replicate count '/' := by
  have none : ∀ s ∈ last :: List.replicate count [], ¬IsDots s := by
    refine List.forall_mem_cons.mpr ⟨noDots, fun s member => ?_⟩
    rw [List.eq_of_mem_replicate member]
    exact not_isDots_nil
  rw [resolve_of_no_dots none, List.map_cons, List.map_replicate, pathOf_append, pathOf_cons,
    List.append_assoc]
  exact congrArg (fun slashes => _ ++ (_ ++ slashes)) (pathOf_empty count)

/-- The path behind a host, before the slashes at its end: it ends with neither a slash nor dots. -/
structure EndsPlainly (path : List Char) : Prop where
  starts : ∀ c ∈ path.head?, c = '/'
  ends : ∀ c ∈ path.getLast?, isSlash c = false
  noDots : ∀ last ∈ (Text.split isSlash path).getLast?, ¬IsDots last

/-- Slashes behind such a path are sent as they are; without a path one is sent in any case. -/
theorem EndsPlainly.pathOf_readPath {path : List Char} (plain : EndsPlainly path)
    : ∃ front, (∀ c ∈ front.getLast?, (c == '/') = false) ∧ ∀ slashes, (∀ c ∈ slashes, c = '/')
      → pathOf (readPath (path ++ slashes)) = front ++ slashes
        ∨ slashes = [] ∧ front = [] ∧ pathOf (readPath (path ++ slashes)) = ['/'] := by
  cases path with
  | nil =>
      refine ⟨[], fun c none => (nomatch none), fun slashes areSlashes => ?_⟩
      cases slashes with
      | nil => exact .inr ⟨rfl, rfl, by decide⟩
      | cons slash slashes =>
          have others : ∀ c ∈ slashes, c = '/' := fun c member =>
            areSlashes c (List.mem_cons_of_mem _ member)
          have parts := split_slashes [] others
          left
          rw [List.nil_append, readPath, List.drop_one, List.tail_cons, ← List.nil_append slashes,
            parts, areSlashes slash List.mem_cons_self]
          refine (resolve_slashes [] not_isDots_nil slashes.length).trans ?_
          rw [← List.eq_replicate_of_mem others]
          rfl
  | cons first path =>
      obtain rfl := plain.starts first rfl
      obtain ⟨c, isLast⟩ : ∃ c, c ∈ path.getLast? := by
        cases path with
        | nil => exact absurd (plain.ends '/' rfl) (by decide)
        | cons next path => exact ⟨_, List.getLast?_eq_some_getLast (List.cons_ne_nil _ _)⟩
      have whole := plain.ends c (by rw [List.getLast?_cons, Option.mem_def.mp isLast]; rfl)
      obtain ⟨init, last, parts, lastOf⟩ := Text.getLast?_split isLast whole
      have noDots := plain.noDots last <| by
        rw [← List.nil_append ('/' :: path), Text.getLast?_split_separator rfl, parts]
        exact List.getLast?_concat
      obtain ⟨done, same⟩ := resolve_append [] init
      have some : Percent.encode keepsInPath last ≠ [] := by
        intro none
        have octets := Percent.octets_encode percent_keptInPath hex_keptInPath last
        rw [none] at octets
        refine octets_ne_nil ?_ octets.symm
        rintro rfl
        cases lastOf
      refine ⟨pathOf done.reverse ++ '/' :: Percent.encode keepsInPath last, ?_, ?_⟩
      · intro d ends
        rw [List.append_cons] at ends
        have inside := Text.mem_getLast?_append some ends
        have segment : ∀ c ∈ last, isSlash c = false :=
          Text.split_whole (by rw [parts]; exact List.mem_concat_self)
        exact beq_eq_false_iff_ne.mpr (encode_whole segment d inside).1
      · intro slashes areSlashes
        left
        rw [List.cons_append, readPath, List.drop_one, List.tail_cons,
          split_slashes path areSlashes, parts, List.append_assoc, List.singleton_append,
          same _ (List.cons_ne_nil _ _), resolve_slashes done noDots,
          ← List.eq_replicate_of_mem areSlashes]

/-- A character that is read as it is written, and ends a part of an address only if it is a slash.
-/
def IsWritten (c : Char) : Prop :=
  0x20 < c.toNat ∧ c ≠ '\\' ∧ endsPath c = false

instance : DecidablePred IsWritten := fun c =>
  inferInstanceAs (Decidable (0x20 < c.toNat ∧ c ≠ '\\' ∧ endsPath c = false))

theorem endsPlainly_of_written {before path : List Char}
    (written : ∀ c ∈ before ++ path, IsWritten c) (starts : ∀ c ∈ path.head?, endsAuthority c)
    (ends : ∀ c ∈ (before ++ path).getLast?, (c == '/') = false)
    (noDots : ∀ last ∈ (Text.split isSlash (before ++ path)).getLast?, ¬IsDots last)
    : EndsPlainly path := by
  have straight : ∀ c ∈ path, c ≠ '\\' ∧ endsPath c = false := fun c member =>
    (written c (List.mem_append_right _ member)).2
  cases path with
  | nil =>
      refine ⟨fun c none => (nomatch none), fun c none => (nomatch none), fun last isLast => ?_⟩
      rw [← Option.some.inj isLast]
      exact not_isDots_nil
  | cons slash path =>
      have isFirst : slash = '/' := by
        obtain ⟨noBackslash, noMark⟩ := straight slash List.mem_cons_self
        have authority := starts slash rfl
        rw [endsAuthority, noMark, Bool.or_false] at authority
        exact eq_of_beq (((Bool.or_eq_true _ _).mp authority).resolve_right fun backslash =>
          noBackslash (eq_of_beq backslash))
      obtain rfl := isFirst
      refine ⟨fun c same => (Option.some.inj same).symm, fun c isLast => ?_, fun last isLast => ?_⟩
      · have inWhole : c ∈ (before ++ '/' :: path).getLast? := by
          rw [List.getLast?_append, Option.mem_def.mp isLast]
          rfl
        have noBackslash := (straight c (List.mem_of_mem_getLast? isLast)).1
        rw [isSlash, ends c inWhole, beq_false_of_ne noBackslash]
        rfl
      · refine noDots last ?_
        rw [← List.nil_append ('/' :: path), Text.getLast?_split_separator rfl] at isLast
        rwa [Text.getLast?_split_separator rfl]

theorem baseText_written (written : ∀ c ∈ text, IsWritten c)
    : baseText text = (Text.dropTrailing (· == '/') text).dropWhile isSlash := by
  have stay : ∀ c ∈ Text.dropTrailing (· == '/') text, !isDropped c := fun c member => by
    rw [(visible (written c ((List.rdropWhile_prefix _ text).sublist.mem member)).1).2]
    rfl
  rw [baseText, List.filter_eq_self.mpr stay]

theorem mem_baseText (written : ∀ c ∈ text, IsWritten c) {c : Char} (member : c ∈ baseText text)
    : c ∈ text := by
  rw [baseText_written written] at member
  exact (List.rdropWhile_prefix _ text).sublist.mem ((List.dropWhile_suffix _).sublist.mem member)

/-- Visible characters are no margin, so such an address is read from its base and its slashes. -/
theorem read?_written (read : read? ("http:".toList ++ text) = some url)
    (written : ∀ c ∈ text, IsWritten c)
    : ∃ slashes,
        (∀ c ∈ slashes, c = '/')
        ∧ readBehindScheme? (baseText text ++ slashes) = some url := by
  rcases read?_base read with found | ⟨front, margin, parts, areMargins, whole⟩
  · exact found
  · cases margin with
    | nil => exact ⟨[], List.forall_mem_nil _, by rwa [parts, List.append_nil, List.append_nil]⟩
    | cons c margin =>
        have inside : c ∈ baseText text := by
          rw [parts]
          exact List.mem_append_right _ List.mem_cons_self
        have isMargin := areMargins c List.mem_cons_self
        rw [(visible (written c (mem_baseText written inside)).1).1] at isMargin
        cases isMargin

theorem endsPlainly_base (written : ∀ c ∈ text, IsWritten c)
    (noDots
      : ∀ last ∈ (Text.split isSlash
          ("http:".toList ++ Text.dropTrailing (· == '/') text)).getLast?,
        ¬IsDots last)
    : EndsPlainly ((baseText text).dropWhile (!endsAuthority ·)) := by
  obtain ⟨before, parts⟩ : (baseText text).dropWhile (!endsAuthority ·)
      <:+ "http:".toList ++ Text.dropTrailing (· == '/') text := by
    rw [baseText_written written]
    exact ((List.dropWhile_suffix _).trans (List.dropWhile_suffix _)).trans
      (List.suffix_append _ _)
  rw [← parts] at noDots
  refine endsPlainly_of_written (fun c member => ?_) (fun c isFirst => ?_) (fun c isLast => ?_)
    noDots
  · rw [parts] at member
    rcases List.mem_append.mp member with scheme | behind
    · have all : "http:".toList.all (IsWritten ·) = true := by decide
      exact List.all_iff_forall_prop.mp all c scheme
    · exact written c ((List.rdropWhile_prefix _ text).sublist.mem behind)
  · have fails := List.head?_dropWhile_not (!endsAuthority ·) (baseText text)
    rw [Option.mem_def.mp isFirst] at fails
    simpa using fails
  · rw [parts, ← dropTrailing_http] at isLast
    have all : Text.dropTrailing (· == '/') (Text.dropTrailing (· == '/') ("http:".toList ++ text))
        = Text.dropTrailing (· == '/') ("http:".toList ++ text) := List.rdropWhile_idempotent _ _
    have fails := Text.fails_at_end all isLast
    exact fails

/-- An address of visible characters, without backslashes, a query and a fragment, takes paths if it
does not end with dots in front of its last slashes. With a slash behind it, it differs in its path
only.
-/
theorem takesPaths_of_written (read : read? ("http:".toList ++ text) = some url)
    (written : ∀ c ∈ text, IsWritten c)
    (noDots
      : ∀ last ∈ (Text.split isSlash
          ("http:".toList ++ Text.dropTrailing (· == '/') text)).getLast?,
        ¬IsDots last)
    : let base := "http:".toList ++ Text.dropTrailing (· == '/') text
      TakesPaths base url ∧ ∃ path, read? (base ++ ['/']) = some { url with path } := by
  intro base
  have unmarked : ∀ c ∈ baseText text, endsPath c = false := fun c member =>
    (written c (mem_baseText written member)).2.2
  have isSlash : ∀ c ∈ ['/'], c = '/' := List.forall_mem_singleton.mpr rfl
  obtain ⟨slashes, areSlashes, whole⟩ := read?_written read written
  have directory : read? (base ++ ['/']) = readBehindScheme? (baseText text ++ ['/']) :=
    read?_continued read []
  rw [readBehindScheme?_slashes unmarked areSlashes] at whole
  rw [readBehindScheme?_slashes unmarked isSlash] at directory
  obtain ⟨authority, isAuthority, rfl⟩ := Option.map_eq_some_iff.mp whole
  rw [isAuthority] at directory
  obtain ⟨front, ends, paths⟩ := (endsPlainly_base written noDots).pathOf_readPath
  have isStem : Text.dropTrailing (· == '/')
      (pathOf (readPath ((baseText text).dropWhile (!endsAuthority ·) ++ slashes))) = front := by
    rcases paths slashes areSlashes with same | ⟨-, rfl, same⟩
    · rw [same]
      refine Text.dropTrailing_append (fun c member => ?_) ends
      rw [areSlashes c member]
      rfl
    · rw [same]
      rfl
  have isPath : pathOf (readPath ((baseText text).dropWhile (!endsAuthority ·) ++ ['/']))
      = front ++ ['/'] :=
    (paths ['/'] isSlash).resolve_right fun none => nomatch none.1
  rw [← isStem] at isPath
  exact ⟨⟨rfl, rfl, _, directory, isPath⟩, _, directory⟩

end JobWatch.Http.Url
