import JobWatch.Http.Message
import JobWatch.Number.Decimal
import JobWatch.Text.Split
import JobWatch.Text.Utf8

/-! The head of a response: lines up to an empty one, with a status and headers. -/

namespace JobWatch.Http

-----------------------------------------------------------------------
-- Lines
-----------------------------------------------------------------------

/-- The octets up to a line feed, and those behind it. -/
def takeLine? : List UInt8 → Option (List UInt8 × List UInt8)
  | 10 :: rest => some ([], rest)
  | octet :: rest => (takeLine? rest).map fun (line, behind) => (octet :: line, behind)
  | [] => none

/-- A line as text. A carriage return may stand at its end. -/
def lineText (line : List UInt8) : List Char :=
  Text.Utf8.decodeLossy (if line.getLast? = some 13 then line.dropLast else line)

/-- The lines up to an empty one, and the octets behind it. There are at most so many lines. -/
def takeLines? : Nat → List UInt8 → Option (List (List Char) × List UInt8)
  | 0, _ => none
  | most + 1, octets =>
    match takeLine? octets with
    | some (line, behind) =>
      if (lineText line).isEmpty then some ([], behind)
      else
        (takeLines? most behind).map fun (lines, behind) => (lineText line :: lines, behind)
    | none => none

/-- The octets behind the empty lines at their start. -/
def skipEmptyLines : List UInt8 → List UInt8
  | 13 :: 10 :: rest => skipEmptyLines rest
  | 10 :: rest => skipEmptyLines rest
  | octets => octets

/-- A space or a tab. -/
def isSpace (c : Char) : Bool :=
  c == ' ' || c == '\t'

/-- The text without the spaces and tabs at its two ends. -/
def bare (text : List Char) : List Char :=
  Text.dropTrailing isSpace (text.dropWhile isSpace)

-----------------------------------------------------------------------
-- Heads
-----------------------------------------------------------------------

/-- The head of a response: whether it is of the latest version, its status, and its headers with
their names in lower case.
-/
structure Head where
  isLatest : Bool
  status : Nat
  headers : List (List Char × List Char)

/-- A character of the name of a header. -/
def isNameChar (c : Char) : Bool :=
  c.isAlphanum || "!#$%&'*+-.^_\x60|~".toList.contains c

/-- A header, in a line of its own. -/
def header? (line : List Char) : Option (List Char × List Char) :=
  let name := line.takeWhile (· != ':')
  match line.dropWhile (· != ':') with
  | ':' :: value =>
    if !name.isEmpty && name.all isNameChar && isHeaderValue value then
      some (name.map Char.toLower, bare value)
    else none
  | _ => none

/-- The version and the status, in the first line of a response. -/
def statusLine? (line : List Char) : Option (Bool × Nat) :=
  let version := line.take 9
  let status := (line.drop 9).take 3
  let reason := line.drop 12
  let isLatest := version == "HTTP/1.1 ".toList
  if (isLatest || version == "HTTP/1.0 ".toList) && status.length == 3
      && (reason.isEmpty || reason.head? == some ' ') && isHeaderValue reason then
    (Number.natural? status).map fun status => (isLatest, status)
  else none

/-- The head of a response, and the octets behind it. -/
def takeHead? (octets : List UInt8) : Option (Head × List UInt8) :=
  match takeLines? octets.length (skipEmptyLines octets) with
  | some (first :: lines, behind) =>
    match statusLine? first, lines.mapM header? with
    | some (isLatest, status), some headers => some (⟨isLatest, status, headers⟩, behind)
    | _, _ => none
  | _ => none

/-- All values of a header, by its name in lower case. -/
def Head.values (head : Head) (name : String) : List (List Char) :=
  (head.headers.filter (·.1 == name.toList)).map (·.2)

end JobWatch.Http
