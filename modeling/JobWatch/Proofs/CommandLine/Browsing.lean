import JobWatch.CommandLine.Program
import JobWatch.Proofs.Client.Sending
import JobWatch.Proofs.Client.ServedAnswers
import JobWatch.Proofs.CommandLine.Effects
import JobWatch.Proofs.CommandLine.Offsets
import JobWatch.Proofs.Wire.RoundTrips

/-! Browsing a listing: the command that lists is repeated with the offset that the last line of its
output hints at, until there is no hint. On an honest server every hint leads one page forward, and
the runs show what the listing has from the first offset on. Pages of no size lead nowhere: each run
hints at its own offset, as long as there is something behind it.
-/

namespace JobWatch

-----------------------------------------------------------------------
-- Honest pages
-----------------------------------------------------------------------

/-- A page that shows as much of a listing as was asked for, or as there is behind its offset. -/
structure Execution.Page.Honest (page : Execution.Page) (listing : List Execution)
    (max offset : UInt32) : Prop where
  count_eq : page.paging.count.toInt = (Min.min max.toNat (listing.length - offset.toNat) : Nat)
  total_eq : page.paging.total.toInt = listing.length
  max_eq : page.paging.max.toInt = max.toNat
  offset_eq : page.paging.offset.toInt = offset.toNat
  executions_eq : page.executions = (listing.drop offset.toNat).take max.toNat

namespace Execution.Page.Honest

variable {page : Execution.Page} {listing : List Execution} {max offset : UInt32}

/-- A page has more behind it if the listing reaches beyond a full page. -/
theorem hasMore_iff (honest : page.Honest listing max offset)
    : page.paging.hasMore = true ↔ offset.toNat + max.toNat < listing.length := by
  rw [Listing.Paging.hasMore, decide_eq_true_iff, Listing.Paging.nextOffset, honest.count_eq,
    honest.total_eq, honest.offset_eq]
  omega

/-- A page with more behind it is full, so that the next one starts behind a full page. -/
theorem nextOffset_eq (honest : page.Honest listing max offset)
    (more : page.paging.hasMore = true)
    : page.paging.nextOffset = (offset.toNat + max.toNat : Nat) := by
  have inside := honest.hasMore_iff.mp more
  rw [Listing.Paging.nextOffset, honest.count_eq, honest.offset_eq]
  omega

end Execution.Page.Honest

namespace Execution.Page

variable {listing : List Execution} {max offset : UInt32}

/-- The honest page at an offset. -/
def slice (listing : List Execution) (max offset : UInt32) : Page where
  paging :=
    { count := .ofNat (Min.min max.toNat (listing.length - offset.toNat))
      total := .ofNat listing.length
      max := .ofNat max.toNat
      offset := .ofNat offset.toNat }
  executions := (listing.drop offset.toNat).take max.toNat

/-- There are no numbers on the page that its words cannot hold. -/
theorem slice_honest (small : listing.length ≤ 4294967295)
    : (slice listing max offset).Honest listing max offset := by
  have isMax := max.toNat_lt
  have isOffset := offset.toNat_lt
  constructor
  · exact Int64.toInt_ofNat_of_lt (by omega)
  · exact Int64.toInt_ofNat_of_lt (by omega)
  · exact Int64.toInt_ofNat_of_lt (by omega)
  · exact Int64.toInt_ofNat_of_lt (by omega)
  · rfl

/-- The answer of an honest server. -/
def served (listing : List Execution) (max offset : UInt32) : Client.ServedAnswer decode :=
  .document (slice listing max offset).encode.render (slice listing max offset)
    ((Wire.ReadsBack.of_sent decode_encode encode_complete fun _ => rfl).value_kept _)

end Execution.Page

namespace CommandLine

open Execution (Page)

-----------------------------------------------------------------------
-- Runs
-----------------------------------------------------------------------

/-- A command line that lists, without its offset: what it asks for, what it is run with, the
listing on the server, and the replies to a run with some offset.
-/
structure Browsing where
  environment : Environment
  storage : Storage
  resolver : Http.Resolver
  settings : Settings
  project : String
  max : UInt32
  listing : List Execution
  replies : UInt32 → List Http.Reply

namespace Browsing

variable (browsing : Browsing)

def palette : Palette :=
  .choose browsing.environment false

def connection : Client.Connection :=
  browsing.settings.connection browsing.resolver

/-- The request for the page at an offset. -/
def request? (offset : UInt32) : Option Http.Request :=
  browsing.connection.request? (.executions browsing.project browsing.max offset)

/-- A command line asks for the page at an offset. -/
def Accepts (words : List String) (offset : UInt32) : Prop :=
  Invocation.read words browsing.environment
    = .ok ⟨browsing.settings, .list browsing.project browsing.max offset⟩

/-- The page at an offset can be asked for, and the honest page is the answer. -/
structure Serves (offset : UInt32) (page : Page) : Prop where
  sent : (browsing.request? offset).isSome
  answered : ∃ reply ∈ (browsing.replies offset).head?,
    Client.document Page.decode reply = .ok page
  honest : page.Honest browsing.listing browsing.max offset

/-- The offsets that lie some full pages behind the first one, within the listing. -/
def Visits (first offset : UInt32) : Prop :=
  ∃ pages, offset.toNat = first.toNat + pages * browsing.max.toNat
    ∧ (pages = 0 ∨ offset.toNat < browsing.listing.length)

/-- A run of the program with the replies to its offset. -/
def Runs (words : List String) (report : Report) : Prop :=
  ∃ offset,
    browsing.Accepts words offset
    ∧ run words browsing.environment browsing.storage browsing.resolver (browsing.replies offset)
        none
      = .ok report

/-- The line that hints at an offset. -/
def hint (next : Int) : Effect :=
  .line (browsing.palette.paint .dim ("More results: --offset " ++ integerText next))

/-- The last line of a report hints at an offset. -/
def Hints (report : Report) (next : Int) : Prop :=
  report.effects.getLast? = some (browsing.hint next)

/-- The reports of a command that is repeated with the offset that is hinted at, until there is no
hint.
-/
inductive Browses : List String → List Report → Prop
  | last {words report} (runs : browsing.Runs words report)
    (ends : ∀ next, ¬browsing.Hints report next)
    : Browses words [report]
  | next {words report next reports} (runs : browsing.Runs words report)
    (hints : browsing.Hints report next)
    (behind : Browses (offsetSwitch.withValue (integerText next) words) reports)
    : Browses words (report :: reports)

/-- What a page shows of its executions. -/
def body (executions : List Execution) : List Effect :=
  if executions.isEmpty then
    [.line
      (browsing.palette.paint .yellow
        ("No executions found for project " ++ browsing.project ++ "."))]
  else
    .line (browsing.palette.paint .bold ("Executions of project " ++ browsing.project ++ ":"))
      :: .line "" :: executions.flatMap (summary browsing.palette)

/-- The report of a run that asks for a page and shows it. -/
def shown (offset : UInt32) (page : Page) : Report :=
  .success
    ((browsing.request? offset).toList.map .request
      ++ (browsing.body page.executions ++ footer browsing.palette page.paging))

/-- A report shows an honest page. -/
def Shows (report : Report) (page : Page) : Prop :=
  ∃ offset, browsing.Serves offset page ∧ report = browsing.shown offset page

/-- What repeating a command from an offset on leads to. A run shows the page at its offset, and
hints at the next page if there is one. The hint is accepted, and lies ahead unless pages have no
size. Then the runs come to an end, in one way only, and what they show is the listing from the
offset on. Pages of no size come to no end before that of the listing.
-/
structure LeadsThrough (words : List String) (offset : UInt32) : Prop where
  shows : ∃ report page,
    browsing.Shows report page ∧ ∀ other, browsing.Runs words other ↔ other = report
  hints_iff : ∀ report next, browsing.Runs words report
    → (browsing.Hints report next
      ↔ next = (offset.toNat + browsing.max.toNat : Nat)
        ∧ offset.toNat + browsing.max.toNat < browsing.listing.length)
  accepted : ∀ report next, browsing.Runs words report → browsing.Hints report next
    → ∃ later : UInt32, next = later.toNat
      ∧ browsing.Accepts (offsetSwitch.withValue (integerText next) words) later
  forward_iff : ∀ report next, browsing.Runs words report → browsing.Hints report next
    → (offset.toNat < next ↔ browsing.max ≠ 0)
  ends : browsing.max ≠ 0 ∨ browsing.listing.length ≤ offset.toNat
    → ∃ reports pages,
      (∀ walked, browsing.Browses words walked ↔ walked = reports)
      ∧ List.Forall₂ browsing.Shows reports pages
      ∧ pages.flatMap Page.executions = browsing.listing.drop offset.toNat
  stalls : browsing.max = 0 → offset.toNat < browsing.listing.length
    → ∀ reports, ¬browsing.Browses words reports

variable {browsing : Browsing} {words : List String} {first offset later : UInt32} {page : Page}
  {report : Report} {next : Int}

-----------------------------------------------------------------------
-- Hints
-----------------------------------------------------------------------

/-- Integers turn no styles on or off. -/
theorem escape_not_mem (value : Int) : '\x1b' ∉ Number.signed value := by
  intro member
  rcases Number.isDigit_of_mem_signed member with isDigit | isMinus
  · exact absurd isDigit (by decide)
  · exact absurd isMinus (by decide)

theorem hintText_toList (value : Int)
    : ("More results: --offset " ++ integerText value).toList
      = "More results: --offset ".toList ++ Number.signed value := by
  rw [String.toList_append, integerText]
  exact congrArg _ String.toList_ofList

/-- No style is turned off in a hint. -/
theorem hintText_unstyled (value : Int)
    : '\x1b' ∉ ("More results: --offset " ++ integerText value).toList := by
  rw [hintText_toList, List.mem_append, not_or]
  exact ⟨by decide, escape_not_mem value⟩

/-- A hint is told by its offset. -/
theorem hint_injective {other : Int} (same : browsing.hint next = browsing.hint other)
    : next = other := by
  have lines := (String.append_left_inj _).mp (Effect.out.inj same)
  have texts := Palette.paint_injective (hintText_unstyled next) (hintText_unstyled other) lines
  exact Number.signed_injective (String.ofList_injective ((String.append_right_inj _).mp texts))

/-- A hint is told from the place of a page, by its first letter. -/
theorem hint_ne_place (paging : Listing.Paging)
    : browsing.hint next ≠ .line (browsing.palette.paint .dim paging.summary) := by
  intro same
  have unstyled : '\x1b' ∉ paging.summary.toList := by
    simp [Listing.Paging.summary, escape_not_mem]
  have lines := (String.append_left_inj _).mp (Effect.out.inj same)
  have texts := Palette.paint_injective (hintText_unstyled next) unstyled lines
  have letters := congrArg String.toList texts
  rw [hintText_toList] at letters
  simp [Listing.Paging.summary] at letters

/-- A report hints at the next page if there is one: the hint is its last line. -/
theorem hints_shown_iff
    : browsing.Hints (browsing.shown offset page) next
      ↔ page.paging.hasMore = true ∧ next = page.paging.nextOffset := by
  rw [Hints, shown, Report.success, ← List.append_assoc, footer]
  cases page.paging.hasMore with
  | false =>
      rw [if_neg Bool.false_ne_true, List.getLast?_concat]
      refine ⟨fun same => ?_, fun hinted => absurd hinted.1 Bool.false_ne_true⟩
      exact absurd (Option.some.inj same).symm (hint_ne_place _)
  | true =>
      rw [if_pos rfl, List.append_cons, List.getLast?_concat]
      refine ⟨fun same => ⟨rfl, ?_⟩, fun hinted => ?_⟩
      · exact (hint_injective (Option.some.inj same)).symm
      · rw [hinted.2]
        rfl

-----------------------------------------------------------------------
-- Single runs
-----------------------------------------------------------------------

/-- A list is reported as its page is shown. -/
theorem listReport_served (serves : browsing.Serves offset page)
    : listReport browsing.palette browsing.connection browsing.project browsing.max offset
        (browsing.replies offset)
      = browsing.shown offset page := by
  have fails : Client.document Page.decode .dropped ≠ .ok page := nofun
  have result
      : (browsing.connection.executions browsing.project browsing.max offset
          (browsing.replies offset)).result
        = .ok page :=
    (Client.Connection.call_ok_iff fails).mpr ⟨serves.sent, serves.answered⟩
  have request
      : (browsing.connection.executions browsing.project browsing.max offset
          (browsing.replies offset)).request
        = browsing.request? offset :=
    Client.Connection.call_request
  rw [listReport, singleReport, result, request]
  rfl

section Served

variable (usable : browsing.settings.fault? = none)

include usable

/-- The only report of a run whose offset is served shows its page. -/
theorem runs_iff (accepted : browsing.Accepts words offset) (serves : browsing.Serves offset page)
    : browsing.Runs words report ↔ report = browsing.shown offset page := by
  have ran
      : run words browsing.environment browsing.storage browsing.resolver (browsing.replies offset)
          none
        = .ok (browsing.shown offset page) := by
    rw [run, accepted, Except.map, Invocation.report, usable]
    exact congrArg Except.ok (listReport_served serves)
  constructor
  · rintro ⟨other, otherAccepted, otherRan⟩
    have same := Except.ok.inj (accepted.symm.trans otherAccepted)
    obtain rfl : offset = other := (Command.list.inj (Invocation.mk.inj same).2).2.2
    exact (Except.ok.inj (ran.symm.trans otherRan)).symm
  · rintro rfl
    exact ⟨offset, accepted, ran⟩

/-- A run hints at the offset behind its page if that page is full and not the last one. -/
theorem hints_iff_of_serves (accepted : browsing.Accepts words offset)
    (serves : browsing.Serves offset page) (runs : browsing.Runs words report) (next : Int)
    : browsing.Hints report next
      ↔ next = (offset.toNat + browsing.max.toNat : Nat)
        ∧ offset.toNat + browsing.max.toNat < browsing.listing.length := by
  obtain rfl := (runs_iff usable accepted serves).mp runs
  rw [hints_shown_iff, serves.honest.hasMore_iff]
  constructor
  · rintro ⟨more, rfl⟩
    exact ⟨serves.honest.nextOffset_eq (serves.honest.hasMore_iff.mpr more), more⟩
  · rintro ⟨rfl, more⟩
    exact ⟨more, (serves.honest.nextOffset_eq (serves.honest.hasMore_iff.mpr more)).symm⟩

end Served

-----------------------------------------------------------------------
-- The next run
-----------------------------------------------------------------------

/-- The offset behind a full page is a word if the listing reaches beyond it. -/
theorem exists_next (small : browsing.listing.length ≤ 4294967295)
    (inside : offset.toNat + browsing.max.toNat < browsing.listing.length)
    : ∃ later : UInt32, later.toNat = offset.toNat + browsing.max.toNat :=
  ⟨.ofNat _, UInt32.toNat_ofNat_of_lt' (by rw [UInt32.size]; omega)⟩

/-- Every offset is accepted in the place of the one before. -/
theorem Accepts.withValue (accepted : browsing.Accepts words offset) (later : UInt32)
    : browsing.Accepts (offsetSwitch.withValue (integerText later.toNat) words) later :=
  Invocation.read_withValue (of_integerText _) (number?_integerText later) accepted

/-- The first offset is visited, and every offset that is visited from the next one on. -/
theorem visits_first : browsing.Visits offset offset :=
  ⟨0, by omega, .inl rfl⟩

theorem Visits.behind (visits : browsing.Visits later offset)
    (isLater : later.toNat = first.toNat + browsing.max.toNat)
    (inside : later.toNat < browsing.listing.length)
    : browsing.Visits first offset := by
  obtain ⟨pages, isOffset, within⟩ := visits
  refine ⟨pages + 1, ?_, .inr ?_⟩
  · rw [isOffset, isLater, Nat.succ_mul]
    omega
  · rcases within with rfl | within
    · omega
    · exact within

-----------------------------------------------------------------------
-- All runs
-----------------------------------------------------------------------

section All

variable (usable : browsing.settings.fault? = none)
  (small : browsing.listing.length ≤ 4294967295)

include usable small

/-- The runs from an offset on come to an end, in one way only, and show all that is behind it: a
run that is not the last one leaves fewer executions for the others.
-/
theorem exists_browses {words : List String} {offset : UInt32}
    (moves : browsing.max ≠ 0 ∨ browsing.listing.length ≤ offset.toNat)
    (accepted : browsing.Accepts words offset)
    (served : ∀ visited, browsing.Visits offset visited → ∃ page, browsing.Serves visited page)
    : ∃ reports pages,
        (∀ walked, browsing.Browses words walked ↔ walked = reports)
        ∧ List.Forall₂ browsing.Shows reports pages
        ∧ pages.flatMap Page.executions = browsing.listing.drop offset.toNat := by
  obtain ⟨page, serves⟩ := served offset visits_first
  have only {report : Report} (runs : browsing.Runs words report)
      : report = browsing.shown offset page :=
    (runs_iff usable accepted serves).mp runs
  have runs : browsing.Runs words (browsing.shown offset page) :=
    (runs_iff usable accepted serves).mpr rfl
  have hints := hints_iff_of_serves usable accepted serves runs
  have shows : browsing.Shows (browsing.shown offset page) page := ⟨offset, serves, rfl⟩
  by_cases inside : offset.toNat + browsing.max.toNat < browsing.listing.length
  case pos =>
    obtain ⟨later, isLater⟩ := exists_next small inside
    have nonzero : browsing.max ≠ 0 := moves.resolve_right (by omega)
    have positive : browsing.max.toNat ≠ 0 := fun zero => nonzero (UInt32.toNat_inj.mp zero)
    have fewer
        : browsing.listing.length - later.toNat < browsing.listing.length - offset.toNat := by
      omega
    obtain ⟨reports, pages, unique, shown, executions⟩ :=
      exists_browses (.inl nonzero) (accepted.withValue later) fun visited visits =>
        served visited (visits.behind isLater (by omega))
    have hinted : browsing.Hints (browsing.shown offset page) later.toNat :=
      (hints _).mpr ⟨congrArg _ isLater, inside⟩
    refine ⟨browsing.shown offset page :: reports, page :: pages,
      fun walked => ⟨fun walk => ?_, ?_⟩, .cons shows shown, ?_⟩
    · cases walk with
      | last otherRuns ends =>
          rw [only otherRuns] at ends
          exact absurd hinted (ends _)
      | next otherRuns otherHints behind =>
          obtain rfl := only otherRuns
          rw [((hints _).mp otherHints).1, ← isLater] at behind
          rw [(unique _).mp behind]
    · rintro rfl
      exact .next runs hinted ((unique _).mpr rfl)
    · rw [List.flatMap_cons, executions, serves.honest.executions_eq, isLater, ← List.drop_drop,
        List.take_append_drop]
  case neg =>
    have ends (next : Int) : ¬browsing.Hints (browsing.shown offset page) next := fun hinted =>
      inside ((hints next).mp hinted).2
    refine ⟨[browsing.shown offset page], [page], fun walked => ⟨fun walk => ?_, ?_⟩,
      .cons shows .nil, ?_⟩
    · cases walk with
      | last otherRuns => rw [only otherRuns]
      | next otherRuns otherHints =>
          rw [only otherRuns] at otherHints
          exact absurd otherHints (ends _)
    · rintro rfl
      exact .last runs ends
    · rw [List.flatMap_singleton, serves.honest.executions_eq]
      exact List.take_of_length_le (by rw [List.length_drop]; omega)
termination_by browsing.listing.length - offset.toNat

omit small in
/-- Pages of no size within the listing lead back to themselves, by induction on the runs. -/
theorem not_browses {reports : List Report} (zero : browsing.max = 0)
    (inside : offset.toNat < browsing.listing.length) (serves : browsing.Serves offset page)
    (accepted : browsing.Accepts words offset)
    : ¬browsing.Browses words reports := by
  intro walk
  have stays : offset.toNat + browsing.max.toNat = offset.toNat := by rw [zero]; rfl
  induction walk with
  | last runs ends =>
      refine ends offset.toNat ((hints_iff_of_serves usable accepted serves runs _).mpr ?_)
      rw [stays]
      exact ⟨rfl, inside⟩
  | next runs hints behind ih =>
      obtain ⟨rfl, -⟩ := (hints_iff_of_serves usable accepted serves runs _).mp hints
      rw [stays] at ih
      exact ih (accepted.withValue offset)

end All

/-- On an honest server the hints lead through the listing, whatever the offset of the first run and
the size of a page are.
-/
theorem hints_lead_through_listing (usable : browsing.settings.fault? = none)
    (small : browsing.listing.length ≤ 4294967295) (accepted : browsing.Accepts words offset)
    (served : ∀ visited, browsing.Visits offset visited → ∃ page, browsing.Serves visited page)
    : browsing.LeadsThrough words offset := by
  obtain ⟨page, serves⟩ := served offset visits_first
  have hints {report : Report} (runs : browsing.Runs words report) :=
    hints_iff_of_serves usable accepted serves runs
  constructor
  · exact ⟨_, page, ⟨offset, serves, rfl⟩, fun other => runs_iff usable accepted serves⟩
  · exact fun report next runs => hints runs next
  · intro report next runs hinted
    obtain ⟨rfl, inside⟩ := (hints runs next).mp hinted
    obtain ⟨later, isLater⟩ := exists_next small inside
    rw [← isLater]
    exact ⟨later, rfl, accepted.withValue later⟩
  · intro report next runs hinted
    obtain ⟨rfl, -⟩ := (hints runs next).mp hinted
    rw [ne_eq, ← UInt32.toNat_inj]
    simp only [UInt32.toNat_zero]
    omega
  · exact fun moves => exists_browses usable small moves accepted served
  · exact fun zero inside reports => not_browses usable zero inside serves accepted

-----------------------------------------------------------------------
-- Three executions
-----------------------------------------------------------------------

/-- A listing of three executions on pages of some size, on a server on the machine itself. -/
def ofThree (max : UInt32) : Browsing :=
  let listing : List Execution :=
    [3, 2, 1].map fun id =>
      ⟨id, .succeeded, "ops", none, none, none, none, none, none, none⟩
  { environment := fun _ => none
    storage := fun _ => none
    resolver := .offline
    settings := ⟨"http://[::1]", none, 2000, .none⟩
    project := "ops"
    max := max
    listing := listing
    replies := fun offset => [(Page.served listing max offset).reply] }

/-- The honest page is served if it can be asked for. -/
theorem ofThree_serves {max : UInt32} (sent : ((ofThree max).request? offset).isSome)
    : ∃ page, (ofThree max).Serves offset page :=
  ⟨_, sent, ⟨_, rfl, Client.ServedAnswer.document_reply _⟩, Page.slice_honest (by decide)⟩

/-- Three executions stand on two pages of two. -/
theorem three_executions_on_two_pages
    : let browsing := ofThree 2
      let words := ["--url", "http://[::1]", "executions", "list", "-p", "ops", "--max", "2"]
      (browsing.settings.fault? = none
        ∧ browsing.listing.length ≤ 4294967295
        ∧ browsing.Accepts words 0
        ∧ ∀ visited, browsing.Visits 0 visited → ∃ page, browsing.Serves visited page)
      ∧ browsing.LeadsThrough words 0 := by
  intro browsing words
  have usable : browsing.settings.fault? = none := by decide
  have small : browsing.listing.length ≤ 4294967295 := by decide
  have accepted : browsing.Accepts words 0 := rfl
  have served : ∀ visited, browsing.Visits 0 visited → ∃ page, browsing.Serves visited page := by
    rintro visited ⟨pages, isVisited, within⟩
    change visited.toNat = 0 + pages * 2 at isVisited
    change pages = 0 ∨ visited.toNat < 3 at within
    have places : visited.toNat = (0 : UInt32).toNat ∨ visited.toNat = (2 : UInt32).toNat := by
      simp only [UInt32.toNat_zero, show (2 : UInt32).toNat = 2 from rfl]
      omega
    rcases places with first | second
    · obtain rfl := UInt32.toNat_inj.mp first
      exact ofThree_serves (by decide +kernel)
    · obtain rfl := UInt32.toNat_inj.mp second
      exact ofThree_serves (by decide +kernel)
  exact ⟨⟨usable, small, accepted, served⟩,
    hints_lead_through_listing usable small accepted served⟩

/-- A page of no size hints at its own offset, and the same page is shown again and again. -/
theorem empty_page_hints_at_itself
    : let browsing := ofThree 0
      let words := ["--url", "http://[::1]", "executions", "list", "-p", "ops", "--max", "0"]
      (browsing.settings.fault? = none
        ∧ browsing.listing.length ≤ 4294967295
        ∧ browsing.Accepts words 0
        ∧ ∀ visited, browsing.Visits 0 visited → ∃ page, browsing.Serves visited page)
      ∧ (∃ report, browsing.Runs words report ∧ browsing.Hints report 0)
      ∧ ∀ reports, ¬browsing.Browses words reports := by
  intro browsing words
  have usable : browsing.settings.fault? = none := by decide
  have small : browsing.listing.length ≤ 4294967295 := by decide
  have accepted : browsing.Accepts words 0 := rfl
  have served : ∀ visited, browsing.Visits 0 visited → ∃ page, browsing.Serves visited page := by
    rintro visited ⟨pages, isVisited, -⟩
    obtain rfl : visited = 0 := UInt32.toNat_inj.mp (isVisited.trans (Nat.zero_add _))
    exact ofThree_serves (by decide +kernel)
  obtain ⟨page, serves⟩ := served 0 visits_first
  have runs : browsing.Runs words (browsing.shown 0 page) :=
    (runs_iff usable accepted serves).mpr rfl
  have hinted : browsing.Hints (browsing.shown 0 page) 0 :=
    (hints_iff_of_serves usable accepted serves runs 0).mpr ⟨rfl, by decide⟩
  exact ⟨⟨usable, small, accepted, served⟩, ⟨_, runs, hinted⟩,
    fun reports => not_browses usable rfl (by decide) serves accepted⟩

end Browsing

end CommandLine

end JobWatch
