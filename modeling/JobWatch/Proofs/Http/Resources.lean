import JobWatch.Proofs.Http.Paths

/-! Resources: what a target names when it is read back, segment by segment and parameter by
parameter.
-/

namespace JobWatch.Http

-----------------------------------------------------------------------
-- Reading targets
-----------------------------------------------------------------------

/-- What a target names: the segments of its path, and the parameters of its query with their
values.
-/
structure Resource where
  segments : List (List Char)
  parameters : List (List Char × List Char)
  deriving DecidableEq, Repr

namespace Resource

/-- The text that a segment stands for, if it is UTF-8. -/
def readSegment? (text : List Char) : Option (List Char) :=
  Text.Utf8.decode? (Url.octets text)

/-- The segments of a path, each behind a slash. -/
def readSegments? : List Char → Option (List (List Char))
  | '/' :: path => (Text.split (· == '/') path).mapM readSegment?
  | _ => none

/-- A parameter and its value. -/
def readParameter (text : List Char) : List Char × List Char :=
  (text.takeWhile (· != '='), (text.dropWhile (· != '=')).drop 1)

/-- The parameters of a query. -/
def readParameters (query : List Char) : List (List Char × List Char) :=
  if query.isEmpty then [] else (Text.split (· == '&') query).map readParameter

/-- The resource that a target names. -/
def ofTarget? (target : List Char) : Option Resource :=
  (readSegments? (target.takeWhile (· != '?'))).map fun segments =>
    ⟨segments, readParameters ((target.dropWhile (· != '?')).drop 1)⟩

-----------------------------------------------------------------------
-- Paths
-----------------------------------------------------------------------

/-- A path is read segment by segment if none of them has a slash. -/
theorem readSegments?_pathOf {path segments : List (List Char)} (nonempty : path ≠ [])
    (whole : ∀ s ∈ path, ∀ c ∈ s, c ≠ '/')
    : readSegments? (pathOf path) = some segments
      ↔ path.map Url.octets = segments.map Text.Utf8.encode := by
  have each (path : List (List Char)) : path.mapM readSegment? = some segments
      ↔ path.map Url.octets = segments.map Text.Utf8.encode := by
    induction path generalizing segments with
    | nil => cases segments <;> simp
    | cons segment path ih =>
        rw [List.mapM_cons, List.map_cons]
        simp only [Option.bind_eq_bind, Option.bind_eq_some_iff, Option.pure_def,
          Option.some.injEq]
        constructor
        · rintro ⟨text, isText, others, areOthers, rfl⟩
          rw [List.map_cons, ← Text.Utf8.decode?_eq_some.mp isText, ← ih.mp areOthers]
        · intro same
          cases segments with
          | nil => cases same
          | cons text others =>
              obtain ⟨first, rest⟩ := List.cons.inj same
              exact ⟨text, Text.Utf8.decode?_eq_some.mpr first, others, ih.mpr rest, rfl⟩
  cases path with
  | nil => exact absurd rfl nonempty
  | cons segment rest =>
      rw [pathOf_cons, List.cons_append, readSegments?,
        Url.split_pathOf rfl fun s member c inside =>
          beq_eq_false_iff_ne.mpr (whole s member c inside)]
      exact each _

-----------------------------------------------------------------------
-- Queries
-----------------------------------------------------------------------

/-- A character that stands for itself in a parameter. -/
def isParameterChar (c : Char) : Bool :=
  Url.keepsInQuery c && c != '=' && c != '&'

/-- Names and values, all of characters that stand for themselves. -/
def ArePlain (parameters : List (List Char × List Char)) : Prop :=
  ∀ parameter ∈ parameters, ∀ c ∈ parameter.1 ++ parameter.2, isParameterChar c

/-- A parameter with its value. -/
def parameterText (parameter : List Char × List Char) : List Char :=
  parameter.1 ++ '=' :: parameter.2

/-- Parameters with their values, as a query. -/
def queryOf : List (List Char × List Char) → List Char
  | [] => []
  | first :: rest => parameterText first ++ (rest.map parameterText).flatMap ('&' :: ·)

theorem isParameterChar_iff {c : Char}
    : isParameterChar c ↔ Url.keepsInQuery c ∧ c ≠ '=' ∧ c ≠ '&' := by
  simp [isParameterChar, and_assoc]

theorem readParameter_parameterText {parameter : List Char × List Char}
    (plain : ∀ c ∈ parameter.1 ++ parameter.2, isParameterChar c)
    : readParameter (parameterText parameter) = parameter := by
  have passes : ∀ c ∈ parameter.1, c != '=' := fun c member =>
    bne_iff_ne.mpr (isParameterChar_iff.mp (plain c (List.mem_append_left _ member))).2.1
  obtain ⟨before, behind⟩ := Text.cut_at passes (bne_self_eq_false '=') parameter.2
  rw [readParameter, parameterText, before, behind]
  rfl

theorem mem_parameterText {parameter : List Char × List Char} {c : Char}
    (member : c ∈ parameterText parameter)
    : c ∈ parameter.1 ++ parameter.2 ∨ c = '=' := by
  rcases List.mem_append.mp member with name | member
  · exact .inl (List.mem_append_left _ name)
  · exact (List.mem_cons.mp member).symm.imp_left (List.mem_append_right _)

theorem queryOf_kept {parameters : List (List Char × List Char)} (plain : ArePlain parameters)
    : ∀ c ∈ queryOf parameters, Url.keepsInQuery c := by
  have kept {parameter : List Char × List Char} (isOne : parameter ∈ parameters)
      : ∀ c ∈ parameterText parameter, Url.keepsInQuery c := fun c member => by
    rcases mem_parameterText member with own | rfl
    · exact (isParameterChar_iff.mp (plain parameter isOne c own)).1
    · rfl
  cases parameters with
  | nil => exact List.forall_mem_nil _
  | cons first rest =>
      intro c member
      rcases List.mem_append.mp member with inFirst | member
      · exact kept List.mem_cons_self c inFirst
      · obtain ⟨text, isText, inside⟩ := List.mem_flatMap.mp member
        obtain ⟨parameter, isOne, rfl⟩ := List.mem_map.mp isText
        rcases List.mem_cons.mp inside with rfl | inside
        · rfl
        · exact kept (List.mem_cons_of_mem _ isOne) c inside

theorem readParameters_queryOf {parameters : List (List Char × List Char)}
    (plain : ArePlain parameters)
    : readParameters (queryOf parameters) = parameters := by
  cases parameters with
  | nil => rfl
  | cons first rest =>
      have whole : ∀ text ∈ (first :: rest).map parameterText, ∀ c ∈ text, (c == '&') = false := by
        intro text isText c member
        obtain ⟨parameter, isOne, rfl⟩ := List.mem_map.mp isText
        refine beq_eq_false_iff_ne.mpr ?_
        rcases mem_parameterText member with own | rfl
        · exact (isParameterChar_iff.mp (plain parameter isOne c own)).2.2
        · decide
      have some : (queryOf (first :: rest)).isEmpty = false := by
        simp [queryOf, parameterText]
      have parts := Text.split_joined '&' rfl whole
      rw [readParameters, some, if_neg Bool.false_ne_true, queryOf, parts, ← List.map_cons,
        List.map_map]
      refine (List.map_congr_left fun parameter isOne => ?_).trans (List.map_id _)
      exact readParameter_parameterText (plain parameter isOne)

/-- The query of a resource, if it has parameters. -/
def query? (resource : Resource) : Option (List Char) :=
  if resource.parameters.isEmpty then none else some (queryOf resource.parameters)

theorem query?_getD (resource : Resource)
    : resource.query?.getD [] = queryOf resource.parameters := by
  rw [query?]
  split
  case isTrue none => rw [List.isEmpty_iff.mp none]; rfl
  case isFalse => rfl

theorem query?_kept {resource : Resource} (plain : ArePlain resource.parameters)
    : ∀ query ∈ resource.query?, ∀ c ∈ query, Url.keepsInQuery c := by
  intro query isQuery
  rw [query?] at isQuery
  split at isQuery
  · cases isQuery
  · rw [← Option.some.inj isQuery]
    exact queryOf_kept plain

end Resource

end JobWatch.Http
