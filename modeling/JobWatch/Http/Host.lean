import JobWatch.Domain.Name
import JobWatch.Http.Address
import JobWatch.Http.Percent

/-! Hosts: an address in brackets, an address in up to four numbers, or a name. -/

namespace JobWatch.Http

/-- A host. -/
inductive Host where
  | name (text : List Char)
  | address (address : Address)
  deriving DecidableEq, Repr

namespace Host

-----------------------------------------------------------------------
-- Addresses in numbers
-----------------------------------------------------------------------

/-- A number: hexadecimal behind 0x, octal behind any other zero, and else decimal. -/
def number? : List Char → Option Nat
  | [] => none
  | '0' :: 'x' :: digits | '0' :: 'X' :: digits => Number.naturalIn? 16 digits
  | '0' :: digit :: digits => Number.naturalIn? 8 (digit :: digits)
  | digits => Number.naturalIn? 10 digits

/-- The parts of a name between its dots. One dot may stand at the end. -/
def labels (name : List Char) : List (List Char) :=
  match (Text.split (· == '.') name).reverse with
  | [] :: label :: labels => (label :: labels).reverse
  | labels => labels.reverse

/-- The name ends like an address: with a number. -/
def endsInNumber (name : List Char) : Bool :=
  match (labels name).getLast? with
  | some label => !label.isEmpty && label.all Char.isDigit || (number? label).isSome
  | none => false

/-- The address of up to four numbers, of which the last fills all remaining octets. -/
def ofNumbers? : List Nat → Option Address
  | [] => none
  | numbers =>
    let others := numbers.dropLast
    let last := numbers.getLastD 0
    if others.length < 4 && others.all (· < 256) && last < Nat.pow 256 (4 - others.length) then
      some (.ofOctets (others ++ Address.parts 256 (4 - others.length) last))
    else none

-----------------------------------------------------------------------
-- Names
-----------------------------------------------------------------------

/-- The characters that no name has. -/
def isForbidden (c : Char) : Bool :=
  c.toNat ≤ 0x20 || c.toNat == 0x7F || "\"#%/:<>?@[\\]^\x60\x7b|\x7d".toList.contains c

/-- The host of a name without encoded octets. -/
def ofName? (text : List Char) : Option Host :=
  (Domain.plain? text).bind fun name =>
    if name.isEmpty || name.any isForbidden then none
    else if endsInNumber name then
      (((labels name).mapM number?).bind ofNumbers?).map .address
    else some (.name name)

-----------------------------------------------------------------------
-- Hosts
-----------------------------------------------------------------------

/-- The host that a text stands for. -/
def read? : List Char → Option Host
  | '[' :: rest =>
    match rest.reverse with
    | ']' :: text => ((Address.allGroups? text.reverse).map Address.ofGroups).map .address
    | _ => none
  | text => (Text.Utf8.decode? (Percent.decode (Text.Utf8.encode text))).bind ofName?

/-- A host as it is written. -/
def text : Host → List Char
  | .name text => text
  | .address (.v4 bits) => (Address.v4 bits).text
  | .address (.v6 bits) => '[' :: (Address.v6 bits).text ++ [']']

end Host

end JobWatch.Http
