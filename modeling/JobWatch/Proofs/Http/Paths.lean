import JobWatch.Proofs.Http.Percent
import JobWatch.Proofs.Http.Targets

/-! What becomes of the segments of a path: how many octets they stand for before and after dots are
resolved, and which segments come through unchanged.
-/

namespace JobWatch.Http

/-- The characters that end a segment of a path or are dropped from it. -/
def marks : List Char :=
  ['/', '\\', '?', '#', '\t', '\n', '\r']

/-- A segment that an address takes as it is: nothing ends it, nothing of it is dropped, and it
stands for nothing else.
-/
structure IsTransparent (segment : List Char) : Prop where
  unmarked : ∀ c ∈ segment, c ∉ marks
  noEscape : ¬Percent.HasEscape segment
  notDot : segment ≠ ['.']
  notDots : segment ≠ ['.', '.']

theorem noEscape_of_noPercent {text : List Char} (noPercent : '%' ∉ text)
    : ¬Percent.HasEscape text :=
  fun ⟨_, _, _, _, inside⟩ => noPercent (inside.sublist.mem List.mem_cons_self)

theorem IsPlainSegment.isTransparent {segment : List Char} (plain : IsPlainSegment segment)
    : IsTransparent segment where
  unmarked := fun c member => (plain.unreserved c member).not_mem (by decide)
  noEscape := noEscape_of_noPercent fun percent =>
    absurd (plain.unreserved '%' percent) (by decide)
  notDot := plain.notDot
  notDots := plain.notDots

namespace Url

theorem percent_keptInPath : keepsInPath '%' := by
  decide

theorem hex_keptInPath (c : Char) (hex : Percent.isHex c) : keepsInPath c := by
  refine keepsInPath_of (.inl ((Bool.or_eq_true _ _).mpr ?_))
  rcases Percent.isHex_range hex with digit | lower | upper
  · refine .inr ((Bool.and_eq_true _ _).mpr ⟨decide_eq_true digit.1, decide_eq_true digit.2⟩)
  · refine .inl ((Bool.or_eq_true _ _).mpr (.inr ((Bool.and_eq_true _ _).mpr ?_)))
    exact ⟨decide_eq_true lower.1, decide_eq_true (lower.2.trans (by decide))⟩
  · refine .inl ((Bool.or_eq_true _ _).mpr (.inl ?_))
    exact decide_eq_true ⟨upper.1, upper.2.trans (by decide)⟩

-----------------------------------------------------------------------
-- Dots
-----------------------------------------------------------------------

/-- Without escapes no dot is encoded. -/
theorem plainDots_of_no_escape {segment : List Char} (noEscape : ¬Percent.HasEscape segment)
    : plainDots segment = segment := by
  induction segment using plainDots.induct with
  | case1 rest ih => exact absurd ⟨'2', 'e', by decide, by decide, [], rest, rfl⟩ noEscape
  | case2 rest ih => exact absurd ⟨'2', 'E', by decide, by decide, [], rest, rfl⟩ noEscape
  | case3 c rest lower upper ih =>
      rw [plainDots, ih fun ⟨high, low, isHigh, isLow, inside⟩ =>
        noEscape ⟨high, low, isHigh, isLow, List.infix_cons inside⟩]
      · exact lower
      · exact upper
  | case4 => rfl

/-- Without escapes a segment is dots only if it is written with dots. -/
theorem isDots_of_no_escape {segment : List Char} (noEscape : ¬Percent.HasEscape segment)
    : IsDots segment ↔ segment = ['.', '.'] ∨ segment = ['.'] := by
  rw [IsDots, plainDots_of_no_escape noEscape]

@[simp]
theorem octets_nil : octets [] = [] :=
  rfl

theorem octets_ne_nil {text : List Char} (nonempty : text ≠ []) : octets text ≠ [] := by
  induction text using Percent.escape_induction with
  | nil => exact absurd rfl nonempty
  | escape high low rest isHigh isLow =>
      obtain ⟨octet, escaped⟩ := Percent.octets_escape isHigh isLow
      rw [escaped]
      exact List.cons_ne_nil _ _
  | stray rest stray =>
      rw [Percent.octets_stray stray]
      exact List.cons_ne_nil _ _
  | other c rest other =>
      rw [Percent.octets_other other]
      exact List.append_ne_nil_of_left_ne_nil (Text.Utf8.encodeChar_ne_nil c) _

theorem isDots_octets {segment : List Char} (dots : IsDots segment)
    : 0 < (octets segment).length := by
  refine List.length_pos_iff.mpr (octets_ne_nil ?_)
  rintro rfl
  rcases dots with two | one
  · cases two
  · cases one

/-- The octets that a path stands for, one segment after the other. -/
def pathOctets (path : List (List Char)) : List UInt8 :=
  path.flatMap octets

@[simp]
theorem pathOctets_nil : pathOctets [] = [] :=
  rfl

@[simp]
theorem pathOctets_cons (segment : List Char) (path : List (List Char))
    : pathOctets (segment :: path) = octets segment ++ pathOctets path :=
  rfl

/-- A path stands for as many octets as its segments have, and for fewer if any of them is escaped.
-/
theorem length_pathOctets (path : List (List Char))
    : (pathOctets path).length ≤ (Text.Utf8.encode path.flatten).length
      ∧ ((pathOctets path).length = (Text.Utf8.encode path.flatten).length
        → ∀ segment ∈ path, ¬Percent.HasEscape segment) := by
  induction path with
  | nil => exact ⟨Nat.le_refl _, fun _ => List.forall_mem_nil _⟩
  | cons segment path ih =>
      obtain ⟨less, same⟩ := Percent.length_octets segment
      rw [pathOctets_cons, List.flatten_cons, Text.Utf8.encode_append, List.length_append,
        List.length_append]
      exact ⟨by omega, fun all => List.forall_mem_cons.mpr ⟨same (by omega), ih.2 (by omega)⟩⟩

theorem length_pathOctets_parent (path : List (List Char))
    : (pathOctets (parent path)).length ≤ (pathOctets path).length := by
  cases path with
  | nil => exact Nat.le_refl _
  | cons segment path =>
      rw [parent]
      split
      · exact Nat.le_refl _
      · rw [pathOctets_cons, List.length_append]
        omega

/-- Resolving a path loses octets exactly if there are dots to resolve. -/
theorem length_pathOctets_resolve (path segments : List (List Char))
    : (pathOctets (resolve path segments)).length
        ≤ (pathOctets path).length + (pathOctets segments).length
      ∧ ((pathOctets (resolve path segments)).length
          = (pathOctets path).length + (pathOctets segments).length
        → ∀ segment ∈ segments, ¬IsDots segment) := by
  induction segments generalizing path with
  | nil =>
      rw [resolve]
      refine ⟨?_, fun _ => List.forall_mem_nil _⟩
      simp [pathOctets, List.length_flatMap, List.map_reverse, List.sum_reverse]
  | cons segment rest ih =>
      rw [resolve, pathOctets_cons, List.length_append]
      have shorter := length_pathOctets_parent path
      split
      case isTrue two =>
        -- the dots themselves have octets, and the parent has no more than the path
        have some := isDots_octets (.inl two)
        have bound : (pathOctets (if rest.isEmpty then [] :: parent path else parent path)).length
            ≤ (pathOctets path).length := by
          split <;> simpa using shorter
        have less := (ih (if rest.isEmpty then [] :: parent path else parent path)).1
        omega
      case isFalse notTwo =>
        split
        case isTrue one =>
          have some := isDots_octets (.inr one)
          have bound : (pathOctets (if rest.isEmpty then [] :: path else path)).length
              ≤ (pathOctets path).length := by
            split <;> simp
          have less := (ih (if rest.isEmpty then [] :: path else path)).1
          omega
        case isFalse notOne =>
          obtain ⟨less, same⟩ := ih (Percent.encode keepsInPath segment :: path)
          rw [pathOctets_cons, List.length_append,
            Percent.octets_encode percent_keptInPath hex_keptInPath] at less same
          refine ⟨by omega, fun all => List.forall_mem_cons.mpr ⟨?_, same (by omega)⟩⟩
          exact not_or.mpr ⟨notTwo, notOne⟩

/-- Every segment of a resolved path is one of the path, an encoded one, or empty. -/
theorem mem_resolve {path segments : List (List Char)} {segment : List Char}
    (member : segment ∈ resolve path segments)
    : segment ∈ path ∨ segment = []
      ∨ ∃ raw ∈ segments, segment = Percent.encode keepsInPath raw := by
  have inParent {path : List (List Char)} (member : segment ∈ parent path) : segment ∈ path := by
    cases path with
    | nil => exact member
    | cons first others =>
        rw [parent] at member
        split at member
        · exact member
        · exact List.mem_cons_of_mem _ member
  induction segments generalizing path with
  | nil =>
      rw [resolve, List.mem_reverse] at member
      exact .inl member
  | cons first rest ih =>
      have behind {path : List (List Char)} (member : segment ∈ resolve path rest)
          : segment ∈ path ∨ segment = []
            ∨ ∃ raw ∈ first :: rest, segment = Percent.encode keepsInPath raw :=
        (ih member).imp_right (.imp_right fun encoded =>
          encoded.imp fun _ => And.imp_left (List.mem_cons_of_mem _))
      rw [resolve] at member
      split at member
      · rcases behind member with inPath | others
        · split at inPath
          · rcases List.mem_cons.mp inPath with empty | inPath
            · exact .inr (.inl empty)
            · exact .inl (inParent inPath)
          · exact .inl (inParent inPath)
        · exact .inr others
      · split at member
        · rcases behind member with inPath | others
          · split at inPath
            · exact (List.mem_cons.mp inPath).symm.imp_right .inl
            · exact .inl inPath
          · exact .inr others
        · rcases behind member with inPath | others
          · rcases List.mem_cons.mp inPath with encoded | inPath
            · exact .inr (.inr ⟨first, List.mem_cons_self, encoded⟩)
            · exact .inl inPath
          · exact .inr others

theorem resolve_ne_nil {path segments : List (List Char)} (nonempty : segments ≠ [])
    : resolve path segments ≠ [] := by
  induction segments generalizing path with
  | nil => exact absurd rfl nonempty
  | cons first rest ih =>
      cases rest with
      | nil => rw [resolve]; split <;> [skip; split] <;> simp [resolve]
      | cons next rest =>
          have behind (path : List (List Char)) : resolve path (next :: rest) ≠ [] :=
            ih (List.cons_ne_nil _ _)
          rw [resolve]
          split
          · exact behind _
          · split <;> exact behind _

end Url

end JobWatch.Http
