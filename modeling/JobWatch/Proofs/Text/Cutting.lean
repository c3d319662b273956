import JobWatch.Text.Blank
import Mathlib.Data.List.DropRight

/-! Where a text is cut: at its separators, and in front of what is dropped at its ends. -/

namespace JobWatch.Text

variable {α : Type}

/-- A text without separators is its only part. -/
theorem split_of_none {isSeparator : Char → Bool} {part : List Char}
    (whole : ∀ c ∈ part, isSeparator c = false)
    : split isSeparator part = [part] := by
  induction part with
  | nil => rfl
  | cons c rest ih =>
      rw [split, whole c List.mem_cons_self,
        ih fun d member => whole d (List.mem_cons_of_mem _ member)]
      rfl

theorem split_ne_nil (isSeparator : Char → Bool) (text : List Char)
    : split isSeparator text ≠ [] := by
  cases text with
  | nil => exact List.cons_ne_nil _ _
  | cons c rest =>
      rw [split]
      split
      · exact List.cons_ne_nil _ _
      · split <;> exact List.cons_ne_nil _ _

/-- A text is cut on both sides of a separator, by induction on what stands before it. -/
theorem split_separator {isSeparator : Char → Bool} {separator : Char}
    (separates : isSeparator separator) (before behind : List Char)
    : split isSeparator (before ++ separator :: behind)
      = split isSeparator before ++ split isSeparator behind := by
  induction before with
  | nil => simp [split, separates]
  | cons c rest ih =>
      rw [List.cons_append, split, split, ih]
      split
      · rfl
      · cases parts : split isSeparator rest with
        | nil => exact absurd parts (split_ne_nil isSeparator rest)
        | cons part parts => rfl

/-- The last part of a text stands behind any separator that is written in front of it. -/
theorem getLast?_split_separator {isSeparator : Char → Bool} {separator : Char}
    (separates : isSeparator separator) (before behind : List Char)
    : (split isSeparator (before ++ separator :: behind)).getLast?
      = (split isSeparator behind).getLast? := by
  rw [split_separator separates, List.getLast?_append,
    List.getLast?_eq_some_getLast (split_ne_nil isSeparator behind), Option.some_or]

/-- A text is cut at its first separator. -/
theorem split_append {isSeparator : Char → Bool} {part : List Char} {separator : Char}
    (whole : ∀ c ∈ part, isSeparator c = false) (separates : isSeparator separator)
    (rest : List Char)
    : split isSeparator (part ++ separator :: rest) = part :: split isSeparator rest := by
  rw [split_separator separates, split_of_none whole, List.singleton_append]

/-- Parts behind separators are what a text is cut into, by induction on them. -/
theorem split_joined {isSeparator : Char → Bool} (separator : Char)
    (separates : isSeparator separator) {part : List Char} {rest : List (List Char)}
    (whole : ∀ p ∈ part :: rest, ∀ c ∈ p, isSeparator c = false)
    : split isSeparator (part ++ rest.flatMap (separator :: ·)) = part :: rest := by
  have first := whole part List.mem_cons_self
  induction rest generalizing part with
  | nil => rw [List.flatMap_nil, List.append_nil, split_of_none first]
  | cons next rest ih =>
      have others : ∀ p ∈ next :: rest, ∀ c ∈ p, isSeparator c = false := fun p member =>
        whole p (List.mem_cons_of_mem _ member)
      rw [List.flatMap_cons, List.cons_append, split_append first separates,
        ih others (others next List.mem_cons_self)]

/-- The parts of a text are its characters that separate nothing. -/
theorem flatten_split (isSeparator : Char → Bool) (text : List Char)
    : (split isSeparator text).flatten = text.filter (!isSeparator ·) := by
  induction text with
  | nil => rfl
  | cons c rest ih =>
      rw [split]
      cases separates : isSeparator c with
      | true => simp [separates, ih]
      | false =>
          cases parts : split isSeparator rest with
          | nil => exact absurd parts (split_ne_nil isSeparator rest)
          | cons part parts =>
              rw [parts] at ih
              simp [separates, ← ih]

theorem split_whole {isSeparator : Char → Bool} {text part : List Char}
    (isPart : part ∈ split isSeparator text) (c : Char) (member : c ∈ part)
    : isSeparator c = false := by
  have inside : c ∈ (split isSeparator text).flatten := List.mem_flatten.mpr ⟨part, isPart, member⟩
  rw [flatten_split, List.mem_filter, Bool.not_eq_true'] at inside
  exact inside.2

/-- A text that ends with no separator ends as its last part does, by induction on the text. -/
theorem getLast?_split {isSeparator : Char → Bool} {text : List Char} {c : Char}
    (isLast : c ∈ text.getLast?) (whole : isSeparator c = false)
    : ∃ init last, split isSeparator text = init ++ [last] ∧ c ∈ last.getLast? := by
  induction text with
  | nil => cases isLast
  | cons first rest ih =>
      rw [split]
      cases rest with
      | nil =>
          have same : first = c := Option.some.inj isLast
          rw [same, whole]
          exact ⟨[], [c], rfl, rfl⟩
      | cons next rest =>
          obtain ⟨init, last, parts, isLast⟩ := ih isLast
          split
          · exact ⟨[] :: init, last, by rw [parts, List.cons_append], isLast⟩
          · rw [parts]
            cases init with
            | nil =>
                refine ⟨[], first :: last, rfl, ?_⟩
                rw [List.getLast?_cons, Option.mem_def.mp isLast]
                rfl
            | cons part init => exact ⟨(first :: part) :: init, last, rfl, isLast⟩

/-- What stands in front of the first item that fails a test, and what is left from there. -/
theorem cut_at {test : α → Bool} {before : List α} {stop : α}
    (passes : ∀ item ∈ before, test item) (fails : test stop = false) (rest : List α)
    : (before ++ stop :: rest).takeWhile test = before
      ∧ (before ++ stop :: rest).dropWhile test = stop :: rest := by
  have stops : ¬test stop := by
    rw [fails]
    exact Bool.false_ne_true
  rw [List.takeWhile_append_of_pos passes, List.dropWhile_append_of_pos passes,
    List.takeWhile_cons_of_neg stops, List.dropWhile_cons_of_neg stops, List.append_nil]
  exact ⟨rfl, rfl⟩

theorem takeWhile_stop {test : α → Bool} {stop : α} (fails : test stop = false)
    (before rest : List α)
    : (before ++ stop :: rest).takeWhile test = before.takeWhile test := by
  induction before with
  | nil => simp [fails]
  | cons item before ih => rw [List.cons_append, List.takeWhile_cons, List.takeWhile_cons, ih]

theorem dropWhile_stop {test : α → Bool} {stop : α} (fails : test stop = false)
    (before rest : List α)
    : (before ++ stop :: rest).dropWhile test = before.dropWhile test ++ stop :: rest := by
  induction before with
  | nil => simp [fails]
  | cons item before ih =>
      rw [List.cons_append, List.dropWhile_cons, List.dropWhile_cons, ih]
      split <;> rfl

/-- What begins with a stop is cut off with what is cut off before it. -/
theorem cut_behind {test : α → Bool} {rest : List α}
    (stops : ∀ stop ∈ rest.head?, test stop = false) (before : List α)
    : (before ++ rest).takeWhile test = before.takeWhile test
      ∧ (before ++ rest).dropWhile test = before.dropWhile test ++ rest := by
  cases rest with
  | nil =>
      rw [List.append_nil, List.append_nil]
      exact ⟨rfl, rfl⟩
  | cons stop rest =>
      have stops := stops stop rfl
      exact ⟨takeWhile_stop stops before rest, dropWhile_stop stops before rest⟩

/-- A text with a stop is cut at the first one. -/
theorem exists_stop {test : α → Bool} {text : List α} (stop : ∃ item ∈ text, test item = false)
    : ∃ front first rest,
        text = front ++ first :: rest ∧ (∀ item ∈ front, test item) ∧ test first = false := by
  cases parts : text.dropWhile test with
  | nil =>
      obtain ⟨item, member, fails⟩ := stop
      rw [List.dropWhile_eq_nil_iff.mp parts item member] at fails
      cases fails
  | cons first rest =>
      have whole := List.takeWhile_append_dropWhile (p := test) (l := text)
      have fails := List.head?_dropWhile_not test text
      rw [parts] at whole fails
      exact ⟨_, first, rest, whole.symm, fun item inside => List.mem_takeWhile_imp inside, fails⟩

/-- The last item stands in the last part that has any. -/
theorem mem_getLast?_append {front back : List α} (nonempty : back ≠ []) {item : α}
    (isLast : item ∈ (front ++ back).getLast?)
    : item ∈ back := by
  rw [List.getLast?_append, List.getLast?_eq_some_getLast nonempty, Option.some_or] at isLast
  rw [← Option.some.inj isLast]
  exact List.getLast_mem nonempty

/-- What is dropped stands behind the last item that is kept. -/
theorem dropTrailing_append {test : α → Bool} {kept dropped : List α}
    (drops : ∀ item ∈ dropped, test item)
    (keeps : ∀ item ∈ kept.getLast?, test item = false)
    : dropTrailing test (kept ++ dropped) = kept := by
  rw [dropTrailing, List.reverse_append,
    List.dropWhile_append_of_pos fun item member => drops item (List.mem_reverse.mp member)]
  have ends : kept.reverse.dropWhile test = kept.reverse := by
    cases reversed : kept.reverse with
    | nil => rfl
    | cons last others =>
        refine List.dropWhile_cons_of_neg ?_
        have isLast : kept.getLast? = some last := by rw [← List.head?_reverse, reversed]; rfl
        rw [keeps last isLast]
        exact Bool.false_ne_true
  rw [ends, List.reverse_reverse]

theorem dropTrailing_eq_self {test : α → Bool} {items : List α}
    (keeps : ∀ item ∈ items.getLast?, test item = false)
    : dropTrailing test items = items := by
  have none_dropped : ∀ item ∈ ([] : List α), test item := List.forall_mem_nil _
  have same := dropTrailing_append none_dropped keeps
  rwa [List.append_nil] at same

/-- What passes the test at the end is dropped, and nothing in front of an item that fails it. -/
theorem dropTrailing_past {test : α → Bool} {stop : α} (fails : test stop = false)
    (front rest : List α)
    : dropTrailing test (front ++ stop :: rest) = front ++ stop :: dropTrailing test rest := by
  have stops : ¬test stop := by
    rw [fails]
    exact Bool.false_ne_true
  rw [dropTrailing, dropTrailing, List.reverse_append, List.reverse_cons, List.append_assoc,
    List.singleton_append, List.dropWhile_append]
  split
  case isTrue all =>
    rw [List.dropWhile_cons_of_neg stops, List.isEmpty_iff.mp all]
    simp
  case isFalse => simp

theorem dropTrailing_dropped (test : α → Bool) (items : List α)
    : ∃ dropped, items = dropTrailing test items ++ dropped ∧ ∀ item ∈ dropped, test item :=
  ⟨items.rtakeWhile test, List.rdropWhile_append_rtakeWhile.symm,
    fun _ member => List.mem_rtakeWhile_imp member⟩

theorem fails_at_end {test : α → Bool} {items : List α} (all : dropTrailing test items = items)
    {item : α} (isLast : item ∈ items.getLast?)
    : test item = false := by
  have nonempty : items ≠ [] := by
    rintro rfl
    cases isLast
  have fails := List.rdropWhile_eq_self_iff.mp all nonempty
  rw [List.getLast?_eq_some_getLast nonempty] at isLast
  rw [← Option.some.inj isLast]
  exact Bool.eq_false_iff.mpr fails

/-- A text without blanks at its ends is what trimming leaves of it between blanks. -/
theorem trim_between {left core right : List Char} (leftBlank : ∀ c ∈ left, isBlank c)
    (rightBlank : ∀ c ∈ right, isBlank c) (first : ∀ c ∈ core.head?, isBlank c = false)
    (last : ∀ c ∈ core.getLast?, isBlank c = false) (nonempty : core ≠ [])
    : trim (left ++ core ++ right) = core := by
  have starts : trimStart (left ++ core ++ right) = core ++ right := by
    rw [trimStart, List.append_assoc, List.dropWhile_append_of_pos leftBlank]
    cases core with
    | nil => exact absurd rfl nonempty
    | cons c rest =>
        refine List.dropWhile_cons_of_neg ?_
        rw [first c rfl]
        exact Bool.false_ne_true
  rw [trim, starts, trimEnd, dropTrailing_append rightBlank last]

/-- Trimming leaves nothing of a blank text. -/
theorem trim_blank {text : List Char} (blank : ∀ c ∈ text, isBlank c) : trim text = [] := by
  have starts : trimStart text = [] := by
    rw [trimStart, ← List.append_nil text, List.dropWhile_append_of_pos blank]
    rfl
  rw [trim, starts]
  rfl

end JobWatch.Text
