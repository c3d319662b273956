import JobWatch.Listing.Paging
import Mathlib.Data.Int.Order.Basic
import Mathlib.Data.List.Basic

/-! Walking through a listing page by page: from the first item on, every next page starts where the
one before it ends, until a page says that the listing does not go on. If the pages are as full as
they can be, the walk has as many pages as the listing, in the order of their numbers, and shows
every item once.
-/

namespace JobWatch.Listing

-----------------------------------------------------------------------
-- Walks
-----------------------------------------------------------------------

/-- The page that shows a listing of some length from an offset on: as many items as a page may
have, or as there are.
-/
structure Paging.Shows (page : Paging) (total size : Int64) (offset : Int) : Prop where
  total_eq : page.total = total
  max_eq : page.max = size
  offset_eq : page.offset.toInt = offset
  count_eq : page.count.toInt = Min.min size.toInt (total.toInt - offset)

/-- The pages of a walk from an offset on. It goes on at the next offset as long as a page has more
behind it.
-/
inductive Walk (total size : Int64) : Int → List Paging → Prop
  | last {offset page} (shown : page.Shows total size offset) (ends : page.hasMore = false)
    : Walk total size offset [page]
  | next {offset page pages} (shown : page.Shows total size offset) (goesOn : page.hasMore = true)
    (rest : Walk total size page.nextOffset pages)
    : Walk total size offset (page :: pages)

/-- Where a page of a walk may start: behind some full pages, and within the listing unless it is
the first page.
-/
structure Starts (total size : Int64) (before : Nat) (offset : Int) : Prop where
  offset_eq : offset = before * size.toInt
  inside : offset < total.toInt ∨ before = 0

/-- The places of the items on a page. -/
def Paging.indices (page : Paging) : List Int :=
  (List.range page.count.toInt.toNat).map fun (index : Nat) => page.offset.toInt + index

/-- What is computed for a page is what words of 64 bits compute. -/
structure Paging.InWords (page : Paging) : Prop where
  nextOffset : (page.offset + page.count).toInt = page.nextOffset
  number : (Max.max page.offset 0 / page.max + 1).toInt = page.number
  lastNumber : (Max.max ((page.total + page.max - 1) / page.max) 1).toInt = page.lastNumber

/-- All pages of a listing: as many as each page says, in the order of their numbers, each item on
one of them, all but the last one full. A page has more behind it if it is not the last one by its
number, and no number is too great for its word.
-/
structure Covers (total size : Int64) (pages : List Paging) : Prop where
  length : ∀ page ∈ pages, (pages.length : Int) = page.lastNumber
  numbered : ∀ (index : Nat) page, pages[index]? = some page → page.number = index + 1
  indices : pages.flatMap Paging.indices
    = (List.range total.toInt.toNat).map fun (index : Nat) => (index : Int)
  full : ∀ page ∈ pages.dropLast, page.count = size
  hasMore : ∀ page ∈ pages, page.hasMore = true ↔ page.number < page.lastNumber
  inWords : ∀ page ∈ pages, page.InWords

variable {total size : Int64} {offset : Int} {before : Nat} {page : Paging} {pages : List Paging}

-----------------------------------------------------------------------
-- Single pages
-----------------------------------------------------------------------

namespace Paging.Shows

theorem nextOffset_eq (shown : page.Shows total size offset)
    : page.nextOffset = Min.min (offset + size.toInt) total.toInt := by
  rw [nextOffset, shown.offset_eq, shown.count_eq]
  omega

theorem hasMore_iff (shown : page.Shows total size offset)
    : page.hasMore = true ↔ offset + size.toInt < total.toInt := by
  rw [hasMore, decide_eq_true_iff, shown.nextOffset_eq, shown.total_eq]
  omega

/-- A page with more behind it is full. -/
theorem full (shown : page.Shows total size offset) (goesOn : page.hasMore = true)
    : page.count = size := by
  have more := shown.hasMore_iff.mp goesOn
  refine Int64.toInt_inj.mp ?_
  rw [shown.count_eq]
  omega

/-- The same page is shown from the same offset. -/
theorem unique {other : Paging} (shown : page.Shows total size offset)
    (otherShown : other.Shows total size offset)
    : page = other := by
  have count : page.count = other.count :=
    Int64.toInt_inj.mp (shown.count_eq.trans otherShown.count_eq.symm)
  have offset : page.offset = other.offset :=
    Int64.toInt_inj.mp (shown.offset_eq.trans otherShown.offset_eq.symm)
  have total : page.total = other.total := shown.total_eq.trans otherShown.total_eq.symm
  have max : page.max = other.max := shown.max_eq.trans otherShown.max_eq.symm
  cases page
  cases other
  simp_all

/-- All pages of a listing have the same last number. -/
theorem lastNumber_eq {other : Paging} {place : Int} (shown : page.Shows total size offset)
    (otherShown : other.Shows total size place)
    : page.lastNumber = other.lastNumber := by
  rw [lastNumber, lastNumber, shown.total_eq, shown.max_eq, otherShown.total_eq, otherShown.max_eq]

/-- Every offset within the listing has a page. -/
theorem exists_of_bounds (positive : 0 < size.toInt) (low : 0 ≤ offset)
    (high : offset ≤ total.toInt)
    : ∃ page : Paging, page.Shows total size offset := by
  have least : Int64.minValue.toInt = -2 ^ 63 := rfl
  have most := total.toInt_lt
  refine ⟨⟨.ofInt (Min.min size.toInt (total.toInt - offset)), total, size, .ofInt offset⟩, rfl,
    rfl, ?_, ?_⟩
  · exact Int64.toInt_ofInt_of_le (by omega) (by omega)
  · exact Int64.toInt_ofInt_of_le (by omega) (by omega)

end Paging.Shows

/-- A start lies within the listing. -/
theorem Starts.bounds (starts : Starts total size before offset) (nonneg : 0 ≤ total.toInt)
    (positive : 0 < size.toInt)
    : 0 ≤ offset ∧ offset ≤ total.toInt := by
  have low : 0 ≤ (before : Int) * size.toInt :=
    Int.mul_nonneg (Int.natCast_nonneg before) (Int.le_of_lt positive)
  obtain ⟨rfl, inside⟩ := starts
  refine ⟨low, ?_⟩
  rcases inside with inside | rfl
  · exact Int.le_of_lt inside
  · simpa using nonneg

/-- The walk starts at the first item. -/
theorem Starts.first : Starts total size 0 0 :=
  ⟨by simp, .inr rfl⟩

/-- Behind a page with more there is one more full page. -/
theorem Starts.next (starts : Starts total size before offset)
    (shown : page.Shows total size offset) (goesOn : page.hasMore = true)
    : Starts total size (before + 1) page.nextOffset := by
  have more := shown.hasMore_iff.mp goesOn
  rw [shown.nextOffset_eq, Int.min_eq_left (Int.le_of_lt more)]
  refine ⟨?_, .inl more⟩
  rw [starts.offset_eq, Int.natCast_add, Int.add_mul, Int.natCast_one, Int.one_mul]

-----------------------------------------------------------------------
-- Numbers of pages
-----------------------------------------------------------------------

section Numbers

variable (starts : Starts total size before offset) (shown : page.Shows total size offset)
  (nonneg : 0 ≤ total.toInt) (positive : 0 < size.toInt)

include starts shown positive

/-- The number of a page tells how many full pages are before it. -/
theorem Starts.number_eq : page.number = before + 1 := by
  have low : 0 ≤ (before : Int) * size.toInt :=
    Int.mul_nonneg (Int.natCast_nonneg before) (Int.le_of_lt positive)
  rw [Paging.number, shown.max_eq, shown.offset_eq, starts.offset_eq, if_neg (by omega),
    Int.max_eq_left low, Int.tdiv_eq_ediv_of_nonneg low,
    Int.mul_ediv_cancel _ (Int.ne_of_gt positive)]

include nonneg

/-- A page has more behind it if its number is not the last one: both say that one more full page
does not reach the end of the listing.
-/
theorem Starts.hasMore_iff : page.hasMore = true ↔ page.number < page.lastNumber := by
  have number := starts.number_eq shown positive
  have reaches : (before : Int) + 2 ≤ (total.toInt + size.toInt - 1) / size.toInt
      ↔ (before + 2) * size.toInt ≤ total.toInt + size.toInt - 1 :=
    Int.le_ediv_iff_mul_le positive
  rw [Int.add_mul, ← starts.offset_eq] at reaches
  rw [shown.hasMore_iff, number, Paging.lastNumber, shown.max_eq, shown.total_eq, if_neg (by omega),
    Int.tdiv_eq_ediv_of_nonneg (by omega)]
  omega

/-- A page without more behind it is the last one by its number. -/
theorem Starts.number_eq_last (ends : page.hasMore = false) : page.number = page.lastNumber := by
  have notBefore : ¬page.number < page.lastNumber := by
    rw [← starts.hasMore_iff shown nonneg positive, ends]
    exact Bool.false_ne_true
  have reaches : (before : Int) + 1 ≤ (total.toInt + size.toInt - 1) / size.toInt
      ↔ (before + 1) * size.toInt ≤ total.toInt + size.toInt - 1 :=
    Int.le_ediv_iff_mul_le positive
  rw [Int.add_mul, Int.one_mul, ← starts.offset_eq] at reaches
  have inside := starts.inside
  refine Int.le_antisymm ?_ (Int.not_lt.mp notBefore)
  rw [starts.number_eq shown positive, Paging.lastNumber, shown.max_eq, shown.total_eq,
    if_neg (by omega), Int.tdiv_eq_ediv_of_nonneg (by omega)]
  omega

end Numbers

-----------------------------------------------------------------------
-- Numbers in words
-----------------------------------------------------------------------

/-- A sum of words is their sum as integers if that does not leave the words. -/
theorem toInt_add_of_fits {left right : Int64}
    (low : Int64.minValue.toInt ≤ left.toInt + right.toInt)
    (high : left.toInt + right.toInt ≤ Int64.maxValue.toInt)
    : (left + right).toInt = left.toInt + right.toInt := by
  have least : Int64.minValue.toInt = -2 ^ 63 := rfl
  have most : Int64.maxValue.toInt = 2 ^ 63 - 1 := rfl
  rw [Int64.toInt_add, Int.bmod_eq_of_le (by omega) (by omega)]

/-- The greater of two words is the greater one as integer, by cases of their order. -/
theorem toInt_max (left right : Int64)
    : (Max.max left right).toInt = Max.max left.toInt right.toInt := by
  rw [show Max.max left right = if left ≤ right then right else left from rfl]
  split
  case isTrue order => exact (Int.max_eq_right (Int64.le_iff_toInt_le.mp order)).symm
  case isFalse order =>
    have order := mt Int64.le_iff_toInt_le.mpr order
    exact (Int.max_eq_left (by omega)).symm

/-- No sum that is computed for a page leaves the words if the length of the listing and the size of
a page together do not leave them.
-/
theorem Starts.inWords (starts : Starts total size before offset)
    (shown : page.Shows total size offset) (nonneg : 0 ≤ total.toInt) (positive : 0 < size.toInt)
    (fits : total.toInt + size.toInt ≤ Int64.maxValue.toInt)
    : page.InWords := by
  have least : Int64.minValue.toInt = -2 ^ 63 := rfl
  have most : Int64.maxValue.toInt = 2 ^ 63 - 1 := rfl
  have zero : (0 : Int64).toInt = 0 := rfl
  have one : (1 : Int64).toInt = 1 := rfl
  obtain ⟨low, high⟩ := starts.bounds nonneg positive
  have divided (word : Int64) : (word / page.max).toInt = word.toInt.tdiv size.toInt := by
    rw [shown.max_eq]
    refine Int64.toInt_div_of_ne_right _ _ fun minusOne => ?_
    rw [minusOne] at positive
    exact absurd positive (by decide)
  constructor
  · have within := shown.nextOffset_eq
    rw [Paging.nextOffset] at within ⊢
    exact toInt_add_of_fits (by omega) (by omega)
  · have quotient : (Max.max page.offset 0 / page.max).toInt = offset.tdiv size.toInt := by
      rw [divided, toInt_max, shown.offset_eq, zero, Int.max_eq_left low]
    have notNegative : 0 ≤ offset.tdiv size.toInt := Int.tdiv_nonneg low (Int.le_of_lt positive)
    have small : offset.tdiv size.toInt ≤ offset := by
      rw [Int.tdiv_eq_ediv_of_nonneg low]
      exact Int.ediv_le_self _ low
    rw [toInt_add_of_fits (by omega) (by omega), quotient, one, Paging.number, shown.max_eq,
      shown.offset_eq, if_neg (by omega), Int.max_eq_left low]
  · have added : (page.total + page.max).toInt = total.toInt + size.toInt := by
      rw [shown.total_eq, shown.max_eq]
      exact toInt_add_of_fits (by omega) (by omega)
    have sum : (page.total + page.max - 1).toInt = total.toInt + size.toInt - 1 := by
      rw [Int64.toInt_sub, added, one, Int.bmod_eq_of_le (by omega) (by omega)]
    rw [toInt_max, divided, sum, one, Paging.lastNumber, shown.total_eq, shown.max_eq,
      if_neg (by omega)]

-----------------------------------------------------------------------
-- Whole walks
-----------------------------------------------------------------------

/-- The page in some place of a walk starts behind as many full pages, by induction on the walk. -/
theorem Walk.starts (walk : Walk total size offset pages) (starts : Starts total size before offset)
    {index : Nat} (found : pages[index]? = some page)
    : ∃ offset, page.Shows total size offset ∧ Starts total size (before + index) offset := by
  induction walk generalizing before index with
  | last shown ends =>
      cases index with
      | zero =>
          obtain rfl := Option.some.inj found
          exact ⟨_, shown, starts⟩
      | succ index => cases found
  | next shown goesOn rest ih =>
      cases index with
      | zero =>
          obtain rfl := Option.some.inj found
          exact ⟨_, shown, starts⟩
      | succ index =>
          obtain ⟨offset, shownHere, startsHere⟩ := ih (starts.next shown goesOn) found
          exact ⟨offset, shownHere, by rwa [Nat.add_right_comm, Nat.add_assoc] at startsHere⟩

/-- A walk has as many pages as its last number says, less those before it. Witness: induction on
the walk, which ends with the page of the last number.
-/
theorem Walk.length_eq (walk : Walk total size offset pages)
    (starts : Starts total size before offset) (nonneg : 0 ≤ total.toInt)
    (positive : 0 < size.toInt) {page : Paging} {place : Int}
    (shown : page.Shows total size place)
    : (before : Int) + pages.length = page.lastNumber := by
  induction walk generalizing before with
  | last shownLast ends =>
      rw [shown.lastNumber_eq shownLast, ← starts.number_eq_last shownLast nonneg positive ends,
        starts.number_eq shownLast positive]
      rfl
  | next shownHere goesOn rest ih =>
      rw [← ih (starts.next shownHere goesOn), List.length_cons]
      omega

/-- A walk shows all places from its offset on, each of them once and in order. Witness: induction
on the walk; a page with more behind it has a full range of places, and the last one has those that
are left.
-/
theorem Walk.indices_eq (walk : Walk total size offset pages)
    (positive : 0 < size.toInt)
    : pages.flatMap Paging.indices
      = (List.range (total.toInt - offset).toNat).map fun (index : Nat) => offset + index := by
  induction walk with
  | @last offset page shown ends =>
      have reached : ¬offset + size.toInt < total.toInt := by
        rw [← shown.hasMore_iff, ends]
        exact Bool.false_ne_true
      have count : page.count.toInt = total.toInt - offset := by
        rw [shown.count_eq]
        omega
      rw [List.flatMap_singleton, Paging.indices, shown.offset_eq, count]
  | @next offset page pages shown goesOn rest ih =>
      have more := shown.hasMore_iff.mp goesOn
      have next : page.nextOffset = offset + size.toInt := by
        rw [shown.nextOffset_eq]
        omega
      have parts : (total.toInt - offset).toNat
          = size.toInt.toNat + (total.toInt - page.nextOffset).toNat := by
        omega
      rw [List.flatMap_cons, ih, Paging.indices, shown.offset_eq, shown.full goesOn, parts,
        List.range_add, List.map_append, List.map_map]
      congr 1
      refine List.map_congr_left fun index _ => ?_
      change page.nextOffset + index = offset + (size.toInt.toNat + index : Nat)
      omega

/-- All pages of a walk but the last one are full, by induction on the walk. -/
theorem Walk.full (walk : Walk total size offset pages)
    : ∀ page ∈ pages.dropLast, page.count = size := by
  induction walk with
  | last => exact nofun
  | @next offset page pages shown goesOn rest ih =>
      have notEmpty : pages ≠ [] := by cases rest <;> exact List.cons_ne_nil _ _
      rw [List.dropLast_cons_of_ne_nil notEmpty, List.forall_mem_cons]
      exact ⟨shown.full goesOn, ih⟩

/-- There is one walk at most, by induction on it. -/
theorem Walk.unique {walked : List Paging} (walk : Walk total size offset pages)
    (other : Walk total size offset walked)
    : walked = pages := by
  induction walk generalizing walked with
  | last shown ends =>
      cases other with
      | last shownOther => rw [shown.unique shownOther]
      | next shownOther goesOn =>
          rw [← shown.unique shownOther, ends] at goesOn
          cases goesOn
  | next shown goesOn rest ih =>
      cases other with
      | last shownOther ends =>
          rw [← shown.unique shownOther, goesOn] at ends
          cases ends
      | next shownOther _ restOther =>
          obtain rfl := shown.unique shownOther
          rw [ih restOther]

/-- The walk comes to an end: every page with more behind it leaves fewer items for the rest. -/
theorem Starts.exists_walk {before : Nat} {offset : Int}
    (starts : Starts total size before offset) (nonneg : 0 ≤ total.toInt)
    (positive : 0 < size.toInt)
    : ∃ pages, Walk total size offset pages := by
  obtain ⟨low, high⟩ := starts.bounds nonneg positive
  obtain ⟨page, shown⟩ := Paging.Shows.exists_of_bounds positive low high
  cases more : page.hasMore with
  | false => exact ⟨[page], .last shown more⟩
  | true =>
      have fewer : (total.toInt - page.nextOffset).toNat < (total.toInt - offset).toNat := by
        have reached := shown.hasMore_iff.mp more
        rw [shown.nextOffset_eq]
        omega
      obtain ⟨pages, rest⟩ := exists_walk (starts.next shown more) nonneg positive
      exact ⟨page :: pages, .next shown more rest⟩
termination_by (total.toInt - offset).toNat

/-- Walking a listing from its first item on comes to an end, in one way only, and covers the
listing.
-/
theorem walk_covers_listing (nonneg : 0 ≤ total.toInt) (positive : 1 ≤ size.toInt)
    (fits : total.toInt + size.toInt ≤ Int64.maxValue.toInt)
    : ∃ pages, (∀ walked, Walk total size 0 walked ↔ walked = pages) ∧ Covers total size pages := by
  obtain ⟨pages, walk⟩ := Starts.first.exists_walk nonneg positive
  have standing {page : Paging} (member : page ∈ pages)
      : ∃ before offset, page.Shows total size offset ∧ Starts total size before offset := by
    obtain ⟨index, found⟩ := List.mem_iff_getElem?.mp member
    obtain ⟨offset, shown, starts⟩ := walk.starts .first found
    exact ⟨_, offset, shown, starts⟩
  refine ⟨pages, fun walked => ⟨walk.unique, fun same => same ▸ walk⟩, ?_, ?_, ?_, walk.full, ?_,
    ?_⟩
  · intro page member
    obtain ⟨_, _, shown, _⟩ := standing member
    simpa using walk.length_eq .first nonneg positive shown
  · intro index page found
    obtain ⟨offset, shown, starts⟩ := walk.starts .first found
    simpa using starts.number_eq shown positive
  · simpa using walk.indices_eq positive
  · intro page member
    obtain ⟨_, _, shown, starts⟩ := standing member
    exact starts.hasMore_iff shown nonneg positive
  · intro page member
    obtain ⟨_, _, shown, starts⟩ := standing member
    exact starts.inWords shown nonneg positive fits

/-- Twenty-five items on pages of ten are shown on three pages, the last of them half full. -/
theorem three_pages_cover_listing
    : let pages : List Paging := [⟨10, 25, 10, 0⟩, ⟨10, 25, 10, 10⟩, ⟨5, 25, 10, 20⟩]
      (0 ≤ (25 : Int64).toInt ∧ 1 ≤ (10 : Int64).toInt
        ∧ (25 : Int64).toInt + (10 : Int64).toInt ≤ Int64.maxValue.toInt)
      ∧ Walk 25 10 0 pages ∧ Covers 25 10 pages := by
  intro pages
  have nonneg : 0 ≤ (25 : Int64).toInt := by decide
  have positive : 1 ≤ (10 : Int64).toInt := by decide
  have fits : (25 : Int64).toInt + (10 : Int64).toInt ≤ Int64.maxValue.toInt := by decide
  obtain ⟨covering, isWalk, covers⟩ := walk_covers_listing nonneg positive fits
  have third : Walk 25 10 20 [⟨5, 25, 10, 20⟩] := .last ⟨rfl, rfl, rfl, rfl⟩ rfl
  have second : Walk 25 10 10 [⟨10, 25, 10, 10⟩, ⟨5, 25, 10, 20⟩] :=
    .next ⟨rfl, rfl, rfl, rfl⟩ rfl third
  have walk : Walk 25 10 0 pages := .next ⟨rfl, rfl, rfl, rfl⟩ rfl second
  obtain rfl := (isWalk pages).mp walk
  exact ⟨⟨nonneg, positive, fits⟩, walk, covers⟩

end JobWatch.Listing
