import JobWatch.Http.Url
import JobWatch.Proofs.Text.Utf8

/-! Percent-encoding and its escapes: what an encoded text stands for is what the text itself stands
for, and that is the text exactly if it has no escapes of its own.
-/

namespace JobWatch.Http.Percent

open JobWatch.Text

-----------------------------------------------------------------------
-- Hexadecimal digits
-----------------------------------------------------------------------

/-- A hexadecimal digit in either case. -/
def isHex (c : Char) : Bool :=
  (Number.digitIn? 16 c).isSome

theorem isHex_range {c : Char} (hex : isHex c)
    : 48 ≤ c.toNat ∧ c.toNat ≤ 57 ∨ 97 ≤ c.toNat ∧ c.toNat ≤ 102
      ∨ 65 ≤ c.toNat ∧ c.toNat ≤ 70 := by
  rw [isHex, Number.digitIn?] at hex
  split at hex
  case isTrue digit => exact .inl digit
  case isFalse =>
    split at hex
    case isTrue lower => exact .inr (.inl lower)
    case isFalse =>
      split at hex
      case isTrue upper => exact .inr (.inr upper)
      case isFalse => cases hex

theorem isHex_ascii {c : Char} (hex : isHex c) : c.toNat < 0x80 := by
  have range := isHex_range hex
  omega

theorem isHex_hexDigit {value : Nat} (small : value < 16) : isHex (hexDigit value) := by
  have all : ∀ digit : Fin 16, isHex (hexDigit digit) := by decide
  exact all ⟨value, small⟩

theorem hexValue?_hexDigit {value : Nat} (small : value < 16)
    : hexValue? (UInt8.ofNat (hexDigit value).toNat) = some value := by
  have all : ∀ digit : Fin 16,
      hexValue? (UInt8.ofNat (hexDigit digit).toNat) = some digit.val := by decide
  exact all ⟨value, small⟩

/-- The text begins with two hexadecimal digits. -/
def startsHex : List Char → Bool
  | high :: low :: _ => isHex high && isHex low
  | _ => false

-----------------------------------------------------------------------
-- Octets
-----------------------------------------------------------------------

theorem decode_other {octet : UInt8} (other : octet ≠ 0x25) (behind : List UInt8)
    : decode (octet :: behind) = octet :: decode behind := by
  rw [decode]
  rintro _ _ _ rfl
  exact absurd rfl other

theorem decode_escape {high low : UInt8} {h l : Nat} (isHigh : hexValue? high = some h)
    (isLow : hexValue? low = some l) (behind : List UInt8)
    : decode (0x25 :: high :: low :: behind) = UInt8.ofNat (16 * h + l) :: decode behind := by
  rw [decode, isHigh, isLow]

/-- A percent sign stands for itself where the next two octets are not both hexadecimal digits. -/
theorem decode_stray {behind : List UInt8}
    (stray : ∀ high low rest, behind = high :: low :: rest →
      hexValue? high = none ∨ hexValue? low = none)
    : decode (0x25 :: behind) = 0x25 :: decode behind := by
  match behind with
  | [] => rfl
  | [octet] => rfl
  | high :: low :: rest =>
      rcases stray high low rest rfl with none | none
      · rw [decode, none]
      · rw [decode, none]
        cases hexValue? high <;> rfl

theorem decode_octet (octet : UInt8) (behind : List UInt8)
    : decode (Utf8.encode (Percent.octet octet) ++ behind) = octet :: decode behind := by
  have high : octet.toNat / 16 < 16 := by have := octet.toNat_lt; omega
  have low : octet.toNat % 16 < 16 := Nat.mod_lt _ (by decide)
  have ascii {value : Nat} (small : value < 16)
      : String.utf8EncodeChar (hexDigit value) = [UInt8.ofNat (hexDigit value).toNat] :=
    Utf8.encodeChar_ascii (isHex_ascii (isHex_hexDigit small))
  have written : Utf8.encode (Percent.octet octet)
      = [0x25, UInt8.ofNat (hexDigit (octet.toNat / 16)).toNat,
        UInt8.ofNat (hexDigit (octet.toNat % 16)).toNat] := by
    rw [Percent.octet, Utf8.encode_cons, Utf8.encode_cons, Utf8.encode_cons, ascii high, ascii low]
    rfl
  rw [written, List.cons_append, List.cons_append, List.cons_append, List.nil_append,
    decode_escape (hexValue?_hexDigit high) (hexValue?_hexDigit low), Nat.div_add_mod,
    UInt8.ofNat_toNat]

theorem decode_append {octets : List UInt8} (others : ∀ octet ∈ octets, octet ≠ 0x25)
    (behind : List UInt8)
    : decode (octets ++ behind) = octets ++ decode behind := by
  induction octets with
  | nil => rfl
  | cons octet rest ih =>
      rw [List.cons_append, decode_other (others octet List.mem_cons_self),
        ih fun next member => others next (List.mem_cons_of_mem _ member)]
      rfl

-----------------------------------------------------------------------
-- Characters
-----------------------------------------------------------------------

theorem hexValue?_ascii {c : Char} (ascii : c.toNat < 0x80)
    : hexValue? (UInt8.ofNat c.toNat) = Number.digitIn? 16 c := by
  rw [hexValue?, Utf8.toNat_octet (by omega), Char.ofNat_toNat]

theorem hexValue?_wide {octet : UInt8} (wide : 0x80 ≤ octet.toNat) : hexValue? octet = none := by
  have bound := octet.toNat_lt
  have value : (Char.ofNat octet.toNat).toNat = octet.toNat :=
    Utf8.toNat_scalar (.inl (by omega))
  cases found : hexValue? octet with
  | none => rfl
  | some digit =>
      have hex : isHex (Char.ofNat octet.toNat) := by
        rw [isHex, ← hexValue?, found]
        rfl
      have range := isHex_range hex
      omega

/-- The first octet of a character is a hexadecimal digit only if the character is one. -/
theorem hexValue?_head {c : Char} {rest : List Char} {octet : UInt8} {behind : List UInt8}
    (other : isHex c = false) (written : Utf8.encode (c :: rest) = octet :: behind)
    : hexValue? octet = none := by
  rw [Utf8.encode_cons] at written
  by_cases ascii : c.toNat < 0x80
  · rw [Utf8.encodeChar_ascii ascii] at written
    obtain ⟨rfl, -⟩ := List.cons.inj written
    rw [hexValue?_ascii ascii]
    simpa [isHex] using other
  · have wide := Utf8.encodeChar_wide (Nat.not_lt.mp ascii)
    cases octets : String.utf8EncodeChar c with
    | nil => exact absurd octets (Utf8.encodeChar_ne_nil c)
    | cons first others =>
        rw [octets] at written wide
        obtain ⟨rfl, -⟩ := List.cons.inj written
        exact hexValue?_wide (wide first List.mem_cons_self)

theorem octets_other {c : Char} (other : c ≠ '%') (rest : List Char)
    : Url.octets (c :: rest) = String.utf8EncodeChar c ++ Url.octets rest := by
  refine decode_append ?_ _
  rintro octet member rfl
  by_cases ascii : c.toNat < 0x80
  · rw [Utf8.encodeChar_ascii ascii, List.mem_singleton] at member
    have value : c.toNat = 0x25 := by
      rw [← Utf8.toNat_octet (show c.toNat < 256 by omega), ← member]
      rfl
    exact other (by rw [← Char.ofNat_toNat c, value])
  · exact absurd (Utf8.encodeChar_wide (Nat.not_lt.mp ascii) _ member) (by decide)

theorem octets_escape {high low : Char} (isHigh : isHex high) (isLow : isHex low)
    : ∃ octet, ∀ rest, Url.octets ('%' :: high :: low :: rest) = octet :: Url.octets rest := by
  obtain ⟨h, highValue⟩ := Option.isSome_iff_exists.mp isHigh
  obtain ⟨l, lowValue⟩ := Option.isSome_iff_exists.mp isLow
  refine ⟨UInt8.ofNat (16 * h + l), fun rest => ?_⟩
  rw [← hexValue?_ascii (isHex_ascii isHigh)] at highValue
  rw [← hexValue?_ascii (isHex_ascii isLow)] at lowValue
  have written : Utf8.encode ('%' :: high :: low :: rest)
      = 0x25 :: UInt8.ofNat high.toNat :: UInt8.ofNat low.toNat :: Utf8.encode rest := by
    rw [Utf8.encode_cons, Utf8.encode_cons, Utf8.encode_cons,
      Utf8.encodeChar_ascii (isHex_ascii isHigh),
      Utf8.encodeChar_ascii (isHex_ascii isLow)]
    rfl
  rw [Url.octets, written, decode_escape highValue lowValue]
  rfl

theorem octets_stray {rest : List Char} (stray : startsHex rest = false)
    : Url.octets ('%' :: rest) = 0x25 :: Url.octets rest := by
  have written : Url.octets ('%' :: rest) = decode (0x25 :: Utf8.encode rest) := rfl
  rw [written, Url.octets]
  refine decode_stray fun high low behind written => ?_
  cases rest with
  | nil => cases written
  | cons c rest =>
      cases hex : isHex c with
      | false => exact .inl (hexValue?_head hex written)
      | true =>
          rw [Utf8.encode_cons, Utf8.encodeChar_ascii (isHex_ascii hex)] at written
          obtain ⟨-, others⟩ := List.cons.inj written
          cases rest with
          | nil => cases others
          | cons d rest =>
              have other : isHex d = false := by simpa [startsHex, hex] using stray
              exact .inr (hexValue?_head other others)

/-- What holds of a text may be shown along its escapes: two hexadecimal digits behind a percent
sign are taken with it.
-/
@[elab_as_elim]
theorem escape_induction {motive : List Char → Prop} (nil : motive [])
    (escape : ∀ high low rest, isHex high → isHex low → motive rest →
      motive ('%' :: high :: low :: rest))
    (stray : ∀ rest, startsHex rest = false → motive rest → motive ('%' :: rest))
    (other : ∀ c rest, c ≠ '%' → motive rest → motive (c :: rest))
    : ∀ text, motive text
  | [] => nil
  | c :: rest => by
      have shorter := escape_induction nil escape stray other rest
      by_cases percent : c = '%'
      · subst percent
        match rest with
        | high :: low :: behind =>
            cases hex : isHex high && isHex low with
            | true =>
                obtain ⟨isHigh, isLow⟩ := (Bool.and_eq_true _ _).mp hex
                exact escape high low behind isHigh isLow
                  (escape_induction nil escape stray other behind)
            | false => exact stray _ hex shorter
        | [d] => exact stray _ rfl shorter
        | [] => exact stray _ rfl shorter
      · exact other c rest percent shorter

-----------------------------------------------------------------------
-- Encoding
-----------------------------------------------------------------------

theorem encode_kept {keep : Char → Bool} {c : Char} (kept : keep c) (rest : List Char)
    : encode keep (c :: rest) = c :: encode keep rest := by
  rw [encode, List.flatMap_cons, if_pos kept]
  rfl

theorem encode_escaped {keep : Char → Bool} {c : Char} (escaped : keep c = false)
    (rest : List Char)
    : encode keep (c :: rest) = (String.utf8EncodeChar c).flatMap octet ++ encode keep rest := by
  rw [encode, List.flatMap_cons, escaped]
  rfl

theorem octets_escaped (octets : List UInt8) (rest : List Char)
    : Url.octets (octets.flatMap octet ++ rest) = octets ++ Url.octets rest := by
  induction octets with
  | nil => rfl
  | cons octet others ih =>
      rw [Url.octets] at ih ⊢
      rw [List.flatMap_cons, List.append_assoc, Utf8.encode_append, decode_octet, ih]
      rfl

/-- An encoded text is made of what is kept of the text, of percent signs and of digits. -/
theorem mem_encode {keep : Char → Bool} {text : List Char} {c : Char}
    (member : c ∈ encode keep text)
    : keep c ∧ c ∈ text ∨ c = '%' ∨ isHex c := by
  obtain ⟨d, inText, inside⟩ := List.mem_flatMap.mp member
  cases kept : keep d with
  | true =>
      rw [if_pos kept, List.mem_singleton] at inside
      rw [inside]
      exact .inl ⟨kept, inText⟩
  | false =>
      rw [kept] at inside
      obtain ⟨byte, -, inOctet⟩ := List.mem_flatMap.mp inside
      have bound := byte.toNat_lt
      simp only [octet, List.mem_cons, List.not_mem_nil, or_false] at inOctet
      rcases inOctet with percent | high | low
      · exact .inr (.inl percent)
      · exact .inr (.inr (high ▸ isHex_hexDigit (by omega)))
      · exact .inr (.inr (low ▸ isHex_hexDigit (by omega)))

/-- A hexadecimal digit in front of an encoded text is that of the text: an escape begins with a
percent sign.
-/
theorem encode_eq_hex {keep : Char → Bool} {text others : List Char} {c : Char} (hex : isHex c)
    (written : encode keep text = c :: others)
    : ∃ rest, text = c :: rest ∧ encode keep rest = others := by
  cases text with
  | nil => cases written
  | cons d rest =>
      cases kept : keep d with
      | true =>
          rw [encode_kept kept] at written
          obtain ⟨rfl, behind⟩ := List.cons.inj written
          exact ⟨rest, rfl, behind⟩
      | false =>
          rw [encode_escaped kept] at written
          cases octets : String.utf8EncodeChar d with
          | nil => exact absurd octets (Utf8.encodeChar_ne_nil d)
          | cons first last =>
              rw [octets] at written
              obtain ⟨rfl, -⟩ := List.cons.inj written
              exact absurd hex (by decide)

/-- Encoding leaves the digits of an escape where they are, and makes no new ones. -/
theorem startsHex_encode {keep : Char → Bool} {text : List Char}
    (stray : startsHex text = false)
    : startsHex (encode keep text) = false := by
  match written : encode keep text with
  | [] => rfl
  | [c] => rfl
  | high :: low :: behind =>
      refine Bool.eq_false_iff.mpr fun hex => ?_
      obtain ⟨isHigh, isLow⟩ := (Bool.and_eq_true _ _).mp hex
      obtain ⟨rest, rfl, others⟩ := encode_eq_hex isHigh written
      obtain ⟨last, rfl, -⟩ := encode_eq_hex isLow others
      rw [startsHex, isHigh, isLow] at stray
      cases stray

/-- An encoded text stands for what the text stands for, by induction along its escapes. -/
theorem octets_encode {keep : Char → Bool} (percentKept : keep '%')
    (hexKept : ∀ c, isHex c → keep c) (text : List Char)
    : Url.octets (encode keep text) = Url.octets text := by
  induction text using escape_induction with
  | nil => rfl
  | escape high low rest isHigh isLow ih =>
      rw [encode_kept percentKept, encode_kept (hexKept high isHigh),
        encode_kept (hexKept low isLow)]
      obtain ⟨octet, escaped⟩ := octets_escape isHigh isLow
      rw [escaped, escaped, ih]
  | stray rest stray ih =>
      rw [encode_kept percentKept, octets_stray (startsHex_encode stray), octets_stray stray, ih]
  | other c rest other ih =>
      cases kept : keep c with
      | true => rw [encode_kept kept, octets_other other, octets_other other, ih]
      | false => rw [encode_escaped kept, octets_escaped, octets_other other, ih]

-----------------------------------------------------------------------
-- Escapes
-----------------------------------------------------------------------

/-- A percent sign in the text stands before two hexadecimal digits. -/
def HasEscape (text : List Char) : Prop :=
  ∃ high low, isHex high ∧ isHex low ∧ ['%', high, low] <:+: text

/-- Behind a character that begins no escape, the escapes of a text are those of its rest. -/
theorem hasEscape_cons {c : Char} {rest : List Char} (stray : c = '%' → startsHex rest = false)
    : HasEscape (c :: rest) ↔ HasEscape rest := by
  constructor
  · rintro ⟨high, low, isHigh, isLow, inside⟩
    refine ⟨high, low, isHigh, isLow, ?_⟩
    rcases List.infix_cons_iff.mp inside with ⟨behind, begins⟩ | inside
    · obtain ⟨percent, rfl⟩ := List.cons.inj begins
      have none : (isHex high && isHex low) = false := stray percent.symm
      rw [isHigh, isLow] at none
      cases none
    · exact inside
  · rintro ⟨high, low, isHigh, isLow, inside⟩
    exact ⟨high, low, isHigh, isLow, List.infix_cons inside⟩

/-- A text stands for as many octets as it has, and for fewer exactly if one of them is escaped. -/
theorem length_octets (text : List Char)
    : (Url.octets text).length ≤ (Utf8.encode text).length
      ∧ ((Url.octets text).length = (Utf8.encode text).length → ¬HasEscape text) := by
  induction text using escape_induction with
  | nil =>
      refine ⟨Nat.le_refl _, fun _ => ?_⟩
      rintro ⟨high, low, -, -, inside⟩
      exact absurd (List.eq_nil_of_infix_nil inside) (List.cons_ne_nil _ _)
  | escape high low rest isHigh isLow ih =>
      obtain ⟨octet, escaped⟩ := octets_escape isHigh isLow
      rw [escaped, Utf8.encode_cons, Utf8.encode_cons, Utf8.encode_cons,
        Utf8.encodeChar_ascii (isHex_ascii isHigh), Utf8.encodeChar_ascii (isHex_ascii isLow)]
      simp only [List.length_cons, List.length_append, List.length_nil]
      omega
  | stray rest stray ih =>
      have one : String.utf8EncodeChar '%' = [0x25] := by decide
      rw [octets_stray stray, Utf8.encode_cons, one, hasEscape_cons fun _ => stray]
      simpa using ih
  | other c rest other ih =>
      rw [octets_other other, Utf8.encode_cons, hasEscape_cons fun percent => absurd percent other]
      simpa using ih

/-- A text without escapes stands for itself. -/
theorem octets_eq_encode {text : List Char} (plain : ¬HasEscape text)
    : Url.octets text = Utf8.encode text := by
  induction text using escape_induction with
  | nil => rfl
  | escape high low rest isHigh isLow ih =>
      exact absurd ⟨high, low, isHigh, isLow, [], rest, rfl⟩ plain
  | stray rest stray ih =>
      rw [hasEscape_cons fun _ => stray] at plain
      rw [octets_stray stray, ih plain]
      rfl
  | other c rest other ih =>
      rw [hasEscape_cons fun percent => absurd percent other] at plain
      rw [octets_other other, ih plain]
      rfl

end JobWatch.Http.Percent
