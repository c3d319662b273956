import JobWatch.Text.Utf8
import Mathlib.Data.List.Flatten

/-! Reading UTF-8 takes back writing it: the octets of a text are read as its characters, and no
other octets are read as this text.
-/

namespace JobWatch.Text.Utf8

-----------------------------------------------------------------------
-- Writing, then reading
-----------------------------------------------------------------------

@[simp]
theorem encode_nil : encode [] = [] :=
  rfl

@[simp]
theorem encode_cons (c : Char) (rest : List Char)
    : encode (c :: rest) = String.utf8EncodeChar c ++ encode rest :=
  rfl

@[simp]
theorem encode_append (before behind : List Char)
    : encode (before ++ behind) = encode before ++ encode behind :=
  List.flatMap_append

theorem toNat_octet {value : Nat} (small : value < 256) : (UInt8.ofNat value).toNat = value := by
  rw [UInt8.toNat_ofNat']
  exact Nat.mod_eq_of_lt small

/-- An octet that continues a character adds six bits to its value. -/
theorem take_middle {low high owed value bits : Nat} (small : bits < 64)
    (above : low ≤ bits + 0x80) (below : bits + 0x80 ≤ high)
    : (Pending.mk (owed + 2) low high value).take (UInt8.ofNat (bits + 0x80))
      = .more ⟨owed + 1, 0x80, 0xBF, value * 64 + bits⟩ := by
  rw [Pending.take, toNat_octet (by omega), if_pos ⟨above, below⟩, if_neg (by simp),
    Nat.add_sub_cancel]
  rfl

theorem take_last {low high value bits : Nat} (small : bits < 64) (above : low ≤ bits + 0x80)
    (below : bits + 0x80 ≤ high)
    : (Pending.mk 1 low high value).take (UInt8.ofNat (bits + 0x80))
      = .whole (Char.ofNat (value * 64 + bits)) := by
  rw [Pending.take, toNat_octet (by omega), if_pos ⟨above, below⟩, if_pos rfl, Nat.add_sub_cancel]

theorem lead_of_two {bits : Nat} (low : 2 ≤ bits) (small : bits < 32)
    : lead (UInt8.ofNat (bits + 0xC0)) = .more ⟨1, 0x80, 0xBF, bits⟩ := by
  rw [lead, toNat_octet (by omega), if_neg (by omega), if_neg (by omega), if_pos (by omega),
    Nat.add_sub_cancel]

/-- The first of three octets. Its bounds on the second one leave out overlong forms and
surrogates.
-/
theorem lead_of_three {bits : Nat} (small : bits < 16)
    : lead (UInt8.ofNat (bits + 0xE0))
      = .more ⟨2, if bits = 0 then 0xA0 else 0x80, if bits = 13 then 0x9F else 0xBF, bits⟩ := by
  rw [lead, toNat_octet (by omega), if_neg (by omega), if_neg (by omega), if_neg (by omega),
    if_pos (by omega), Nat.add_sub_cancel]
  simp

/-- The first of four octets. Its bounds on the second one leave out overlong forms and values past
the last character.
-/
theorem lead_of_four {bits : Nat} (small : bits < 5)
    : lead (UInt8.ofNat (bits + 0xF0))
      = .more ⟨3, if bits = 0 then 0x90 else 0x80, if bits = 4 then 0x8F else 0xBF, bits⟩ := by
  rw [lead, toNat_octet (by omega), if_neg (by omega), if_neg (by omega), if_neg (by omega),
    if_neg (by omega), if_pos (by omega), Nat.add_sub_cancel]
  simp

/-- An octet that finishes a character is followed by whatever is behind it. -/
theorem pieces_last {pending : Pending} {octet : UInt8} {c : Char} (rest : List UInt8)
    (last : pending.take octet = .whole c)
    : pieces (some pending) (octet :: rest) = some c :: pieces none rest := by
  rw [pieces, last]
  rfl

/-- An octet in the middle of a character leaves less of it to be read. -/
theorem pieces_middle {pending later : Pending} {octet : UInt8} (rest : List UInt8)
    (middle : pending.take octet = .more later)
    : pieces (some pending) (octet :: rest) = pieces (some later) rest := by
  rw [pieces, middle]
  rfl

theorem toNat_valid (c : Char)
    : c.toNat < 0xD800 ∨ 0xDFFF < c.toNat ∧ c.toNat < 0x110000 :=
  c.valid

/-- The octets of a character are read as this character. Witness: by the number of its octets; the
bounds on the second octet hold because it is no surrogate and not too large.
-/
theorem pieces_encodeChar (c : Char) (rest : List UInt8)
    : pieces none (String.utf8EncodeChar c ++ rest) = some c :: pieces none rest := by
  have valid := toNat_valid c
  have bits : c.toNat % 0x40 < 64 := Nat.mod_lt _ (by decide)
  have middleBits : c.toNat / 64 % 0x40 < 64 := Nat.mod_lt _ (by decide)
  rw [String.utf8EncodeChar]
  rw [show c.val.toNat = c.toNat from rfl]
  split
  case isTrue one =>
    rw [List.singleton_append, pieces, lead, toNat_octet (by omega), if_pos (by omega),
      Char.ofNat_toNat]
    rfl
  case isFalse one =>
    split
    case isTrue two =>
      rw [List.cons_append, List.singleton_append, pieces,
        lead_of_two (by omega) (Nat.mod_lt _ (by decide)), Lead.resume]
      refine pieces_last rest ?_
      rw [take_last bits (by omega) (by omega),
        show c.toNat / 64 % 0x20 * 64 + c.toNat % 0x40 = c.toNat by omega, Char.ofNat_toNat]
    case isFalse two =>
      split
      case isTrue three =>
        have above : (if c.toNat / 4096 % 0x10 = 0 then 0xA0 else 0x80)
            ≤ c.toNat / 64 % 0x40 + 0x80 := by
          split <;> omega
        have below : c.toNat / 64 % 0x40 + 0x80
            ≤ if c.toNat / 4096 % 0x10 = 13 then 0x9F else 0xBF := by
          split <;> omega
        rw [List.cons_append, List.cons_append, List.singleton_append, pieces,
          lead_of_three (Nat.mod_lt _ (by decide)), Lead.resume,
          pieces_middle _ (take_middle middleBits above below)]
        refine pieces_last rest ?_
        rw [take_last bits (by omega) (by omega),
          show (c.toNat / 4096 % 0x10 * 64 + c.toNat / 64 % 0x40) * 64 + c.toNat % 0x40
            = c.toNat by omega,
          Char.ofNat_toNat]
      case isFalse three =>
        have highBits : c.toNat / 4096 % 0x40 < 64 := Nat.mod_lt _ (by decide)
        have above : (if c.toNat / 262144 % 0x08 = 0 then 0x90 else 0x80)
            ≤ c.toNat / 4096 % 0x40 + 0x80 := by
          split <;> omega
        have below : c.toNat / 4096 % 0x40 + 0x80
            ≤ if c.toNat / 262144 % 0x08 = 4 then 0x8F else 0xBF := by
          split <;> omega
        rw [List.cons_append, List.cons_append, List.cons_append, List.singleton_append, pieces,
          lead_of_four (by omega), Lead.resume,
          pieces_middle _ (take_middle highBits above below),
          pieces_middle _ (take_middle middleBits (by omega) (by omega))]
        refine pieces_last rest ?_
        rw [take_last bits (by omega) (by omega),
          show ((c.toNat / 262144 % 0x08 * 64 + c.toNat / 4096 % 0x40) * 64
            + c.toNat / 64 % 0x40) * 64 + c.toNat % 0x40 = c.toNat by omega,
          Char.ofNat_toNat]

/-- The octets of a text are read as its characters, by induction on the text. -/
theorem decode_encode (text : List Char) : decode (encode text) = text.map some := by
  induction text with
  | nil => rfl
  | cons c rest ih =>
      rw [decode] at ih
      rw [decode, encode_cons, pieces_encodeChar, ih, List.map_cons]

theorem encodeChar_ascii {c : Char} (ascii : c.toNat < 0x80)
    : String.utf8EncodeChar c = [UInt8.ofNat c.toNat] := by
  rw [String.utf8EncodeChar, show c.val.toNat = c.toNat from rfl, if_pos (by omega)]

theorem encodeChar_ne_nil (c : Char) : String.utf8EncodeChar c ≠ [] := by
  rw [String.utf8EncodeChar]
  split
  · exact List.cons_ne_nil _ _
  · split
    · exact List.cons_ne_nil _ _
    · split <;> exact List.cons_ne_nil _ _

/-- All octets of a character past ASCII are past it. -/
theorem encodeChar_wide {c : Char} (wide : 0x80 ≤ c.toNat)
    : ∀ octet ∈ String.utf8EncodeChar c, 0x80 ≤ octet.toNat := by
  have valid := toNat_valid c
  rw [String.utf8EncodeChar, show c.val.toNat = c.toNat from rfl, if_neg (by omega)]
  split
  · simp only [List.forall_mem_cons, List.not_mem_nil, false_imp_iff, implies_true, and_true]
    rw [toNat_octet (by omega), toNat_octet (by omega)]
    omega
  · split
    · simp only [List.forall_mem_cons, List.not_mem_nil, false_imp_iff, implies_true, and_true]
      rw [toNat_octet (by omega), toNat_octet (by omega), toNat_octet (by omega)]
      omega
    · simp only [List.forall_mem_cons, List.not_mem_nil, false_imp_iff, implies_true, and_true]
      rw [toNat_octet (by omega), toNat_octet (by omega), toNat_octet (by omega),
        toNat_octet (by omega)]
      omega

/-- A part of a text with as many octets is the whole text, by induction on what is left out. -/
theorem eq_of_sublist {part text : List Char} (inside : part.Sublist text)
    (all : (encode text).length ≤ (encode part).length)
    : part = text := by
  induction inside with
  | slnil => rfl
  | @cons part text c inside ih =>
      have less : (encode part).length ≤ (encode text).length :=
        (inside.flatMap String.utf8EncodeChar).length_le
      have some := List.length_pos_iff.mpr (encodeChar_ne_nil c)
      rw [encode_cons, List.length_append] at all
      omega
  | @cons_cons part text c inside ih =>
      rw [encode_cons, encode_cons, List.length_append, List.length_append] at all
      rw [ih (by omega)]

-----------------------------------------------------------------------
-- Reading, then writing
-----------------------------------------------------------------------

theorem toNat_scalar {value : Nat} (valid : value.isValidChar)
    : (Char.ofNat value).val.toNat = value := by
  rw [Char.ofNat, dif_pos valid]
  rfl

theorem take_more {pending later : Pending} {octet : UInt8}
    (taken : pending.take octet = .more later)
    : pending.low ≤ octet.toNat
      ∧ octet.toNat ≤ pending.high
      ∧ pending.owed ≠ 1
      ∧ later = ⟨pending.owed - 1, 0x80, 0xBF, pending.value * 64 + (octet.toNat - 0x80)⟩ := by
  rw [Pending.take] at taken
  split at taken
  case isTrue bounds =>
    split at taken
    case isTrue => cases taken
    case isFalse owes => exact ⟨bounds.1, bounds.2, owes, (Lead.more.inj taken).symm⟩
  case isFalse => cases taken

theorem take_whole {pending : Pending} {octet : UInt8} {c : Char}
    (taken : pending.take octet = .whole c)
    : pending.low ≤ octet.toNat
      ∧ octet.toNat ≤ pending.high
      ∧ pending.owed = 1
      ∧ c = Char.ofNat (pending.value * 64 + (octet.toNat - 0x80)) := by
  rw [Pending.take] at taken
  split at taken
  case isTrue bounds =>
    split at taken
    case isTrue owes => exact ⟨bounds.1, bounds.2, owes, (Lead.whole.inj taken).symm⟩
    case isFalse => cases taken
  case isFalse => cases taken

theorem pieces_pending {pending : Pending} {octets : List UInt8} {c : Char}
    {more : List (Option Char)} (read : pieces (some pending) octets = some c :: more)
    : ∃ octet rest,
        octets = octet :: rest
        ∧ (pending.take octet = .whole c ∧ pieces none rest = more
          ∨ ∃ later, pending.take octet = .more later
            ∧ pieces (some later) rest = some c :: more) := by
  cases octets with
  | nil => cases read
  | cons octet rest =>
      refine ⟨octet, rest, rfl, ?_⟩
      rw [pieces] at read
      cases taken : pending.take octet with
      | whole other =>
          rw [taken] at read
          obtain ⟨same, behind⟩ := List.cons.inj read
          exact .inl ⟨by rw [Option.some.inj same], behind⟩
      | more later =>
          rw [taken] at read
          exact .inr ⟨later, rfl, read⟩
      | bad =>
          rw [taken] at read
          cases read

theorem pieces_owing_one {low high value : Nat} {octets : List UInt8} {c : Char}
    {more : List (Option Char)}
    (read : pieces (some ⟨1, low, high, value⟩) octets = some c :: more)
    : ∃ octet rest,
        octets = octet :: rest
        ∧ low ≤ octet.toNat
        ∧ octet.toNat ≤ high
        ∧ c = Char.ofNat (value * 64 + (octet.toNat - 0x80))
        ∧ pieces none rest = more := by
  obtain ⟨octet, rest, rfl, ⟨last, behind⟩ | ⟨later, middle, -⟩⟩ := pieces_pending read
  · obtain ⟨above, below, -, isChar⟩ := take_whole last
    exact ⟨octet, rest, rfl, above, below, isChar, behind⟩
  · exact ((take_more middle).2.2.1 rfl).elim

theorem pieces_owing_more {owed low high value : Nat} {octets : List UInt8} {c : Char}
    {more : List (Option Char)}
    (read : pieces (some ⟨owed + 2, low, high, value⟩) octets = some c :: more)
    : ∃ octet rest,
        octets = octet :: rest
        ∧ low ≤ octet.toNat
        ∧ octet.toNat ≤ high
        ∧ pieces (some ⟨owed + 1, 0x80, 0xBF, value * 64 + (octet.toNat - 0x80)⟩) rest
          = some c :: more := by
  obtain ⟨octet, rest, rfl, ⟨last, -⟩ | ⟨later, middle, behind⟩⟩ := pieces_pending read
  · exact (by simp : owed + 2 ≠ 1) (take_whole last).2.2.1 |>.elim
  · obtain ⟨above, below, -, rfl⟩ := take_more middle
    exact ⟨octet, rest, rfl, above, below, behind⟩

theorem octet_of_value (octet : UInt8) {value : Nat} (same : value = octet.toNat)
    : UInt8.ofNat value = octet := by
  rw [same, UInt8.ofNat_toNat]

/-- Two octets are those of the character that they are read as. -/
theorem encodeChar_of_two {first second : UInt8} (low : 0xC2 ≤ first.toNat)
    (high : first.toNat < 0xE0) (above : 0x80 ≤ second.toNat) (below : second.toNat ≤ 0xBF)
    : String.utf8EncodeChar (Char.ofNat ((first.toNat - 0xC0) * 64 + (second.toNat - 0x80)))
      = [first, second] := by
  rw [String.utf8EncodeChar, toNat_scalar (.inl (by omega)), if_neg (by omega),
    if_pos (by omega), octet_of_value first (by omega), octet_of_value second (by omega)]

/-- Three octets are those of the character that they are read as: the bounds on the second one
leave out overlong forms and surrogates.
-/
theorem encodeChar_of_three {first second third : UInt8} (low : 0xE0 ≤ first.toNat)
    (high : first.toNat < 0xF0)
    (above : (if first.toNat = 0xE0 then 0xA0 else 0x80) ≤ second.toNat)
    (below : second.toNat ≤ if first.toNat = 0xED then 0x9F else 0xBF)
    (thirdAbove : 0x80 ≤ third.toNat) (thirdBelow : third.toNat ≤ 0xBF)
    : String.utf8EncodeChar
        (Char.ofNat
          (((first.toNat - 0xE0) * 64 + (second.toNat - 0x80)) * 64 + (third.toNat - 0x80)))
      = [first, second, third] := by
  have valid : (((first.toNat - 0xE0) * 64 + (second.toNat - 0x80)) * 64
      + (third.toNat - 0x80)).isValidChar := by
    simp only [Nat.isValidChar]
    split at above <;> split at below <;> omega
  have size : 0x7FF < ((first.toNat - 0xE0) * 64 + (second.toNat - 0x80)) * 64
      + (third.toNat - 0x80) := by
    split at above <;> omega
  have bound : second.toNat ≤ 0xBF := by split at below <;> omega
  have start : 0x80 ≤ second.toNat := by split at above <;> omega
  rw [String.utf8EncodeChar, toNat_scalar valid, if_neg (by omega), if_neg (by omega),
    if_pos (by omega), octet_of_value first (by omega), octet_of_value second (by omega),
    octet_of_value third (by omega)]

/-- Four octets are those of the character that they are read as: the bounds on the second one
leave out overlong forms and values past the last character.
-/
theorem encodeChar_of_four {first second third fourth : UInt8} (low : 0xF0 ≤ first.toNat)
    (high : first.toNat < 0xF5)
    (above : (if first.toNat = 0xF0 then 0x90 else 0x80) ≤ second.toNat)
    (below : second.toNat ≤ if first.toNat = 0xF4 then 0x8F else 0xBF)
    (thirdAbove : 0x80 ≤ third.toNat) (thirdBelow : third.toNat ≤ 0xBF)
    (fourthAbove : 0x80 ≤ fourth.toNat) (fourthBelow : fourth.toNat ≤ 0xBF)
    : String.utf8EncodeChar
        (Char.ofNat
          ((((first.toNat - 0xF0) * 64 + (second.toNat - 0x80)) * 64 + (third.toNat - 0x80)) * 64
            + (fourth.toNat - 0x80)))
      = [first, second, third, fourth] := by
  have bound : second.toNat ≤ 0xBF := by split at below <;> omega
  have start : 0x80 ≤ second.toNat := by split at above <;> omega
  have size : 0x10 ≤ (first.toNat - 0xF0) * 64 + (second.toNat - 0x80) := by
    split at above <;> omega
  have most : (first.toNat - 0xF0) * 64 + (second.toNat - 0x80) < 0x110 := by
    split at below <;> omega
  rw [String.utf8EncodeChar, toNat_scalar (.inr (by omega)), if_neg (by omega),
    if_neg (by omega), if_neg (by omega), octet_of_value first (by omega),
    octet_of_value second (by omega), octet_of_value third (by omega),
    octet_of_value fourth (by omega)]

/-- What is read as a character is its octets. Witness: by the number of octets that the first one
asks for.
-/
theorem pieces_char {octets : List UInt8} {c : Char} {more : List (Option Char)}
    (read : pieces none octets = some c :: more)
    : ∃ rest, octets = String.utf8EncodeChar c ++ rest ∧ pieces none rest = more := by
  cases octets with
  | nil => cases read
  | cons first octets =>
      rw [pieces, lead] at read
      split at read
      case isTrue one =>
        obtain ⟨same, behind⟩ := List.cons.inj read
        refine ⟨octets, ?_, behind⟩
        rw [← Option.some.inj same, String.utf8EncodeChar, toNat_scalar (.inl (by omega)),
          if_pos (by omega), UInt8.ofNat_toNat]
        rfl
      case isFalse one =>
        split at read
        case isTrue => cases read
        case isFalse low =>
          split at read
          case isTrue two =>
            rw [Lead.resume] at read
            obtain ⟨second, rest, rfl, above, below, isChar, behind⟩ := pieces_owing_one read
            refine ⟨rest, ?_, behind⟩
            rw [isChar, encodeChar_of_two (by omega) two above below]
            rfl
          case isFalse two =>
            split at read
            case isTrue three =>
              rw [Lead.resume] at read
              obtain ⟨second, octets, rfl, above, below, read⟩ := pieces_owing_more read
              obtain ⟨third, rest, rfl, thirdAbove, thirdBelow, isChar, behind⟩ :=
                pieces_owing_one read
              refine ⟨rest, ?_, behind⟩
              rw [isChar, encodeChar_of_three (by omega) three above below thirdAbove thirdBelow]
              rfl
            case isFalse three =>
              split at read
              case isTrue four =>
                rw [Lead.resume] at read
                obtain ⟨second, octets, rfl, above, below, read⟩ := pieces_owing_more read
                obtain ⟨third, octets, rfl, thirdAbove, thirdBelow, read⟩ :=
                  pieces_owing_more read
                obtain ⟨fourth, rest, rfl, fourthAbove, fourthBelow, isChar, behind⟩ :=
                  pieces_owing_one read
                refine ⟨rest, ?_, behind⟩
                rw [isChar, encodeChar_of_four (by omega) four above below thirdAbove thirdBelow
                  fourthAbove fourthBelow]
                rfl
              case isFalse => cases read

/-- Some octets are some pieces: a character begun is finished or ends as a bad piece. -/
theorem pieces_ne_nil {pending : Option Pending} {octets : List UInt8}
    (some : pending ≠ none ∨ octets ≠ [])
    : pieces pending octets ≠ [] := by
  induction octets generalizing pending with
  | nil =>
      cases pending with
      | none => simp at some
      | some pending => exact List.cons_ne_nil _ _
  | cons b rest ih =>
      have resumed (taken : Lead) : taken.resume (pieces · rest) ≠ [] := by
        cases taken with
        | whole c => exact List.cons_ne_nil _ _
        | more later => exact ih (.inl (Option.some_ne_none later))
        | bad => exact List.cons_ne_nil _ _
      cases pending with
      | none => exact resumed (lead b)
      | some pending =>
          rw [pieces]
          cases pending.take b with
          | bad => exact List.cons_ne_nil _ _
          | whole c => exact resumed (.whole c)
          | more later => exact resumed (.more later)

/-- Octets that are read as a text without a bad piece are its octets, by induction on the text. -/
theorem eq_encode {octets : List UInt8} {text : List Char}
    (read : decode octets = text.map some)
    : octets = encode text := by
  induction text generalizing octets with
  | nil =>
      cases octets with
      | nil => rfl
      | cons b rest => exact absurd read (pieces_ne_nil (.inr (List.cons_ne_nil b rest)))
  | cons c rest ih =>
      obtain ⟨behind, rfl, others⟩ := pieces_char read
      rw [ih others]
      rfl

theorem mapM_id_eq_some {α : Type} {items : List (Option α)} {values : List α}
    : items.mapM id = some values ↔ items = values.map some := by
  induction items generalizing values with
  | nil => cases values <;> simp
  | cons item rest ih =>
      rw [List.mapM_cons]
      simp only [Option.bind_eq_bind, Option.bind_eq_some_iff, Option.pure_def, Option.some.injEq]
      constructor
      · rintro ⟨value, rfl, others, isRest, rfl⟩
        rw [ih.mp isRest]
        rfl
      · intro same
        cases values with
        | nil => cases same
        | cons value others =>
            obtain ⟨rfl, isRest⟩ := List.cons.inj same
            exact ⟨value, rfl, others, ih.mpr isRest, rfl⟩

/-- Octets are read as a text exactly if they are its octets. -/
theorem decode?_eq_some {octets : List UInt8} {text : List Char}
    : decode? octets = some text ↔ octets = encode text := by
  rw [decode?, mapM_id_eq_some]
  constructor
  · exact eq_encode
  · rintro rfl
    exact decode_encode text

end JobWatch.Text.Utf8
