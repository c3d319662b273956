import JobWatch.Proofs.Http.Bases

/-! The credentials in an address: they stand before its host, so that they are the same whatever is
written behind it.
-/

namespace JobWatch.Http.Url

/-- Credentials are read off what stands before the host. -/
theorem credentials?_of_userinfo {url other : Url} (same : url.userinfo = other.userinfo)
    : url.credentials? = other.credentials? := by
  unfold credentials? name password
  rw [same]

theorem credentials?_none {url : Url} (absent : url.userinfo = []) : url.credentials? = none := by
  unfold credentials? name password
  rw [absent]
  decide

/-- Without an at sign nothing stands before a host. -/
theorem splitUserinfo_none {text : List Char} (noAt : '@' ∉ text)
    : (splitUserinfo text).1 = [] := by
  have all : text.reverse.takeWhile (· != '@') = text.reverse := by
    refine List.takeWhile_eq_self_iff.mpr fun c member => bne_iff_ne.mpr ?_
    rintro rfl
    exact noAt (List.mem_reverse.mp member)
  rw [splitUserinfo, all]
  simp

/-- What stands before the host of an address is split off in front of the first character that ends
the host.
-/
theorem userinfo_of_readBehindScheme? {text : List Char} {url : Url}
    (read : readBehindScheme? text = some url)
    : url.userinfo = (splitUserinfo (text.takeWhile (!endsAuthority ·))).1 := by
  obtain ⟨⟨userinfo, host, port⟩, isAuthority, rfl⟩ := Option.map_eq_some_iff.mp read
  simp only [readAuthority?] at isAuthority
  split at isAuthority
  · exact (congrArg Prod.fst (Option.some.inj isAuthority)).symm
  · cases isAuthority

/-- Texts with the same beginning up to the end of a host have the same credentials. -/
theorem credentials?_of_takeWhile {text other : List Char} {url : Url}
    (same : text.takeWhile (!endsAuthority ·) = other.takeWhile (!endsAuthority ·))
    (read : readBehindScheme? text = some url)
    : url.credentials? = (readBehindScheme? other).bind credentials? := by
  have userinfo := userinfo_of_readBehindScheme? read
  obtain ⟨authority, isAuthority, -⟩ := Option.map_eq_some_iff.mp read
  rw [same] at isAuthority userinfo
  obtain ⟨found, isFound⟩ : ∃ found, readBehindScheme? other = some found :=
    ⟨_, Option.map_eq_some_iff.mpr ⟨authority, isAuthority, rfl⟩⟩
  rw [isFound, Option.bind_some]
  exact credentials?_of_userinfo (userinfo.trans (userinfo_of_readBehindScheme? isFound).symm)

/-- An address without an at sign has no credentials. -/
theorem no_credentials {text : List Char} (noAt : '@' ∉ text)
    : (read? ("http:".toList ++ text)).bind credentials? = none := by
  rw [read?_scheme]
  cases read : readBehindScheme? ((tidy text).dropWhile isSlash) with
  | none => rfl
  | some url =>
      have inside : (((tidy text).dropWhile isSlash).takeWhile (!endsAuthority ·)).Sublist text :=
        ((List.takeWhile_sublist _).trans (List.dropWhile_sublist _)).trans
          (List.filter_sublist.trans (List.rdropWhile_prefix _ _).sublist)
      refine credentials?_none ((userinfo_of_readBehindScheme? read).trans ?_)
      exact splitUserinfo_none fun member => noAt (inside.mem member)

/-- An address with something behind it has the credentials of the address with a slash behind it.
If there is nothing but slashes in the address, then its host is read from what is behind it.
-/
theorem credentials?_continued {text behind : List Char} {url : Url}
    (read : read? ("http:".toList ++ Text.dropTrailing (· == '/') text
      ++ '/' :: ("api".toList ++ '/' :: behind)) = some url)
    : url.credentials? = (read? ("http:".toList ++ text ++ ['/'])).bind credentials? := by
  obtain ⟨slashes, parts, areSlashes⟩ := Text.dropTrailing_dropped (· == '/') text
  have ends : tidy (text ++ ['/']) = (text ++ ['/']).filter (!isDropped ·) := by
    rw [tidy_slash, List.filter_append]
    rfl
  have whole : text ++ ['/'] = Text.dropTrailing (· == '/') text ++ (slashes ++ ['/']) := by
    rw [← List.append_assoc, ← parts]
  have all : ∀ c ∈ slashes ++ ['/'], c = '/' :=
    List.forall_mem_append.mpr
      ⟨fun c member => eq_of_beq (areSlashes c member), List.forall_mem_singleton.mpr rfl⟩
  have stay : (slashes ++ ['/']).filter (!isDropped ·) = slashes ++ ['/'] :=
    List.filter_eq_self.mpr fun c member => by rw [all c member]; rfl
  rw [List.append_assoc, read?_scheme, tidy_slash, tidy_slash] at read
  rw [List.append_assoc, read?_scheme, ends, whole, List.filter_append, stay]
  by_cases none : ((Text.dropTrailing (· == '/') text).filter (!isDropped ·)).dropWhile isSlash = []
  · have nothing : (slashes ++ ['/']).dropWhile isSlash = [] :=
      List.dropWhile_eq_nil_iff.mpr fun c member => by rw [all c member]; rfl
    have root
        : ('/' :: ("api".toList.filter (!isDropped ·) ++ '/' :: tidy behind)).dropWhile isSlash
          = "api".toList ++ '/' :: tidy behind := rfl
    rw [List.dropWhile_append, if_pos (by rw [none]; rfl), root] at read
    rw [List.dropWhile_append, if_pos (by rw [none]; rfl), nothing, readBehindScheme?_nil]
    refine credentials?_none ((userinfo_of_readBehindScheme? read).trans ?_)
    rw [Text.takeWhile_stop rfl]
    decide
  · rw [List.dropWhile_append, if_neg (by simpa using none)] at read ⊢
    refine credentials?_of_takeWhile ?_ read
    rw [Text.takeWhile_stop rfl]
    cases slashes with
    | nil => exact (Text.takeWhile_stop rfl _ _).symm
    | cons slash slashes =>
        obtain rfl := all slash List.mem_cons_self
        exact (Text.takeWhile_stop rfl _ _).symm

end JobWatch.Http.Url
