import JobWatch.Number.Decimal
import JobWatch.Number.Radix
import JobWatch.Text.Split

/-! Addresses of machines. One of 32 bits is written as four octets, and one of 128 as eight groups
of sixteen bits, of which a run of zeros may be left out.
-/

namespace JobWatch.Http

/-- An address. -/
inductive Address where
  | v4 (bits : BitVec 32)
  | v6 (bits : BitVec 128)
  deriving DecidableEq, Repr

namespace Address

-----------------------------------------------------------------------
-- Parts
-----------------------------------------------------------------------

/-- The number that parts below a base make up, the first one on top. -/
def join (base : Nat) (parts : List Nat) : Nat :=
  parts.foldl (fun value part => base * value + part) 0

/-- So many parts of a number, each below a base, the first one from the top. -/
def parts (base : Nat) : Nat → Nat → List Nat
  | 0, _ => []
  | count + 1, value => parts base count (value / base) ++ [value % base]

/-- The address of four octets. -/
def ofOctets (octets : List Nat) : Address :=
  .v4 (.ofNat 32 (join 256 octets))

/-- The address of eight groups. -/
def ofGroups (groups : List Nat) : Address :=
  .v6 (.ofNat 128 (join 65536 groups))

-----------------------------------------------------------------------
-- Reading
-----------------------------------------------------------------------

/-- Four octets in decimal, without leading zeros. -/
def octets? (text : List Char) : Option (List Nat) :=
  let octet? (part : List Char) :=
    (Number.natural? part).filter fun value => value < 256 && part == Number.natural value
  ((Text.split (· == '.') text).mapM octet?).filter (·.length == 4)

/-- A group of one to four hexadecimal digits. -/
def group? (text : List Char) : Option Nat :=
  if text.isEmpty || 4 < text.length then none else Number.naturalIn? 16 text

/-- The groups between colons. The last two groups of an address may be written as four octets. -/
def groups? (atEnd : Bool) (text : List Char) : Option (List Nat) :=
  let tail? (part : List Char) : Option (List Nat) :=
    ((group? part).map fun group => [group])
      <|> if atEnd then (octets? part).map fun octets => parts 65536 2 (join 256 octets) else none
  match text.isEmpty, (Text.split (· == ':') text).reverse with
  | false, last :: others =>
    match others.reverse.mapM group?, tail? last with
    | some groups, some tail => some (groups ++ tail)
    | _, _ => none
  | _, _ => some []

/-- What stands before and behind the first two colons in a row. -/
def aroundGap? : List Char → Option (List Char × List Char)
  | ':' :: ':' :: rest => some ([], rest)
  | c :: rest => (aroundGap? rest).map fun (before, behind) => (c :: before, behind)
  | [] => none

/-- Eight groups. Two colons in a row stand for one or more groups that are zero. -/
def allGroups? (text : List Char) : Option (List Nat) :=
  match aroundGap? text with
  | some (before, behind) =>
    match groups? false before, groups? true behind with
    | some before, some behind =>
      let given := before.length + behind.length
      if given < 8 then some (before ++ List.replicate (8 - given) 0 ++ behind) else none
    | _, _ => none
  | none => (groups? true text).filter (·.length == 8)

/-- The address that is written. -/
def read? (text : List Char) : Option Address :=
  ((octets? text).map ofOctets) <|> ((allGroups? text).map ofGroups)

-----------------------------------------------------------------------
-- Writing
-----------------------------------------------------------------------

/-- Where the first of the longest runs of zeros begins, and how long it is. -/
def longestGap (groups : List Nat) : Nat × Nat :=
  (List.range groups.length).foldl
    (fun longest start =>
      let size := ((groups.drop start).takeWhile (· == 0)).length
      if longest.2 < size then (start, size) else longest)
    (0, 0)

/-- Groups with colons between them. -/
def groupsText (groups : List Nat) : List Char :=
  [':'].intercalate (groups.map Number.hexadecimal)

/-- An address as it is written. Two or more zeros in a row are left out once. -/
def text : Address → List Char
  | .v4 bits => ['.'].intercalate ((parts 256 4 bits.toNat).map Number.natural)
  | .v6 bits =>
    let groups := parts 65536 8 bits.toNat
    let (start, size) := longestGap groups
    if size < 2 then groupsText groups
    else
      groupsText (groups.take start) ++ [':', ':'] ++ groupsText (groups.drop (start + size))

end Address

-----------------------------------------------------------------------
-- Networks
-----------------------------------------------------------------------

/-- All addresses that begin with the same bits as one of them. -/
structure Network where
  address : Address
  size : Nat
  deriving DecidableEq, Repr

namespace Network

/-- The number of bits of an address. -/
def width : Address → Nat
  | .v4 _ => 32
  | .v6 _ => 128

/-- The network that is written: an address, and behind a slash the number of bits. An address
alone is a network of its own.
-/
def read? (text : List Char) : Option Network :=
  let size := text.dropWhile (· != '/')
  (Address.read? (text.takeWhile (· != '/'))).bind fun address =>
    if size.isEmpty then some ⟨address, width address⟩
    else
      let digits := size.drop 1
      (Number.natural? digits).bind fun size =>
        if size ≤ width address && digits.length ≤ (Number.natural (width address)).length then
          some ⟨address, size⟩
        else none

/-- An address belongs to a network. -/
def contains (network : Network) (address : Address) : Bool :=
  match network.address, address with
  | .v4 bits, .v4 other => bits >>> (32 - network.size) == other >>> (32 - network.size)
  | .v6 bits, .v6 other => bits >>> (128 - network.size) == other >>> (128 - network.size)
  | _, _ => false

end Network

end JobWatch.Http
