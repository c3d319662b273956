import JobWatch.Http.Host
import JobWatch.Text.Base64

/-! Absolute addresses on the web, as browsers read them: generous with blanks and slashes, with
dot segments resolved and unusual characters percent-encoded. Only the scheme http is taken.
-/

namespace JobWatch.Http

/-- An address: what stands before the host, the host, its port if that is given, the segments of
the path, the query and the fragment, these three encoded.
-/
structure Url where
  userinfo : List Char
  host : Host
  port : Option Nat
  path : List (List Char)
  query : Option (List Char)
  fragment : Option (List Char)
  deriving DecidableEq, Repr

namespace Url

-----------------------------------------------------------------------
-- Cleaning and splitting
-----------------------------------------------------------------------

/-- A control character or a space. -/
def isMargin (c : Char) : Bool :=
  c.toNat ≤ 0x20

/-- A character that is dropped wherever it stands. -/
def isDropped (c : Char) : Bool :=
  c == '\t' || c == '\n' || c == '\r'

/-- The text without its margins and without dropped characters. -/
def clean (text : List Char) : List Char :=
  (Text.dropTrailing isMargin (text.dropWhile isMargin)).filter (!isDropped ·)

/-- What follows the scheme http and its colon. -/
def afterScheme? : List Char → Option (List Char)
  | h :: t :: t' :: p :: ':' :: rest =>
    if [h, t, t', p].map Char.toLower = ['h', 't', 't', 'p'] then some rest else none
  | _ => none

/-- A slash of either kind. -/
def isSlash (c : Char) : Bool :=
  c == '/' || c == '\\'

/-- A character that ends a path. -/
def endsPath (c : Char) : Bool :=
  c == '?' || c == '#'

/-- A character that ends the part with the host. -/
def endsAuthority (c : Char) : Bool :=
  isSlash c || endsPath c

/-- What stands before and behind the last at sign, which is not there in most addresses. -/
def splitUserinfo (authority : List Char) : List Char × List Char :=
  let behind := authority.reverse.takeWhile (· != '@')
  let before := authority.take (authority.length - behind.length - 1)
  (before, behind.reverse)

/-- The host, up to the first colon outside brackets, and the rest. -/
def splitHost (inside : Bool) : List Char → List Char × List Char
  | [] => ([], [])
  | c :: rest =>
    if c = ':' ∧ !inside then ([], c :: rest)
    else
      let inside := if c = '[' then true else if c = ']' then false else inside
      let (host, behind) := splitHost inside rest
      (c :: host, behind)

/-- The port behind a host: none, or digits behind a colon that need not be there. -/
def port? : List Char → Option (Option Nat)
  | [] | [':'] => some none
  | ':' :: digits =>
    match Number.natural? digits with
    | some port => if port < 65536 then some (some port) else none
    | none => none
  | _ :: _ => none

-----------------------------------------------------------------------
-- Paths, queries and fragments
-----------------------------------------------------------------------

/-- A character that stands for itself in a path. -/
def keepsInPath (c : Char) : Bool :=
  0x20 < c.toNat && c.toNat < 0x7F && !"\"#<>?\x60\x7b\x7d".toList.contains c

/-- A character that stands for itself in a query. -/
def keepsInQuery (c : Char) : Bool :=
  0x20 < c.toNat && c.toNat < 0x7F && !"\"#<>'".toList.contains c

/-- A character that stands for itself in a fragment. -/
def keepsInFragment (c : Char) : Bool :=
  0x20 < c.toNat && c.toNat < 0x7F && !"\"<>\x60".toList.contains c

/-- A character that stands for itself before the host. -/
def keepsInUserinfo (c : Char) : Bool :=
  keepsInPath c && !"/:;=@[\\]^|".toList.contains c

/-- The segment with every encoded dot as a dot. -/
def plainDots : List Char → List Char
  | '%' :: '2' :: 'e' :: rest | '%' :: '2' :: 'E' :: rest => '.' :: plainDots rest
  | c :: rest => c :: plainDots rest
  | [] => []

/-- The segment names a drive: a letter, and a colon or a bar. -/
def isDrive : List Char → Bool
  | [letter, mark] => letter.isAlpha && (mark == ':' || mark == '|')
  | _ => false

/-- A path in reverse without its last segment. A drive stays. -/
def parent : List (List Char) → List (List Char)
  | [] => []
  | segment :: path => if isDrive segment then segment :: path else path

/-- A path, its segments in reverse, after the remaining segments. One dot is no segment, and two
dots take the last one back; at the end either leaves an empty segment.
-/
def resolve (path : List (List Char)) : List (List Char) → List (List Char)
  | [] => path.reverse
  | segment :: rest =>
    if plainDots segment = ['.', '.'] then
      resolve (if rest.isEmpty then [] :: parent path else parent path) rest
    else if plainDots segment = ['.'] then
      resolve (if rest.isEmpty then [] :: path else path) rest
    else resolve (Percent.encode keepsInPath segment :: path) rest

/-- The segments of a path that begins with a slash, or of no path. -/
def readPath (text : List Char) : List (List Char) :=
  resolve [] (Text.split isSlash (text.drop 1))

/-- The query behind a question mark. -/
def readQuery? : List Char → Option (List Char)
  | '?' :: text => some (Percent.encode keepsInQuery (text.takeWhile (· != '#')))
  | _ => none

/-- The fragment behind a number sign. -/
def readFragment? : List Char → Option (List Char)
  | '#' :: text => some (Percent.encode keepsInFragment text)
  | _ => none

-----------------------------------------------------------------------
-- Addresses
-----------------------------------------------------------------------

/-- The address that a text stands for. -/
def read? (text : List Char) : Option Url :=
  match afterScheme? (clean text) with
  | some rest =>
    let rest := rest.dropWhile isSlash
    let (userinfo, hostAndPort) := splitUserinfo (rest.takeWhile (!endsAuthority ·))
    let (host, port) := splitHost false hostAndPort
    let behind := rest.dropWhile (!endsAuthority ·)
    match Host.read? host, port? port with
    | some host, some port =>
      some
        { userinfo, host, port
          path := readPath (behind.takeWhile (!endsPath ·))
          query := readQuery? (behind.dropWhile (!endsPath ·))
          fragment := readFragment? (behind.dropWhile (· != '#')) }
    | _, _ => none
  | none => none

/-- A part behind its mark, if it is there. -/
def marked (mark : Char) (part? : Option (List Char)) : List Char :=
  match part? with
  | some part => mark :: part
  | none => []

/-- The path as it is sent: every segment behind a slash. -/
def pathText (url : Url) : List Char :=
  url.path.flatMap ('/' :: ·)

/-- The path and the query as they are sent. -/
def target (url : Url) : List Char :=
  url.pathText ++ marked '?' url.query

-----------------------------------------------------------------------
-- Credentials
-----------------------------------------------------------------------

/-- The name before the host. -/
def name (url : Url) : List Char :=
  url.userinfo.takeWhile (· != ':')

/-- The password behind the name, which is empty if there is none. -/
def password (url : Url) : List Char :=
  (url.userinfo.dropWhile (· != ':')).drop 1

/-- The octets that a text with encoded octets stands for. -/
def octets (text : List Char) : List UInt8 :=
  Percent.decode (Text.Utf8.encode text)

/-- The name and the password, encoded for the authorization of a request. A name that is no text
stands for no credentials, and such a password for none.
-/
def credentials? (url : Url) : Option String :=
  let name := octets url.name
  let given := octets url.password
  let password := if (Text.Utf8.decode? given).isSome then given else []
  if (Text.Utf8.decode? name).isNone || name.isEmpty && password.isEmpty then none
  else some (String.ofList (Text.Base64.encode (name ++ 0x3A :: password)))

-----------------------------------------------------------------------
-- Whole addresses
-----------------------------------------------------------------------

/-- The name and the password as they remain in the address when they are no credentials. -/
def strayUserinfo (url : Url) : List Char :=
  if url.credentials?.isSome || url.name.isEmpty && url.password.isEmpty then []
  else
    Percent.encode keepsInUserinfo url.name
      ++ (if url.password.isEmpty then []
        else ':' :: Percent.encode keepsInUserinfo url.password)
      ++ ['@']

/-- The port when none is given. -/
def standardPort : Nat :=
  80

/-- The host, and its port if that is not the standard one. -/
def authority (url : Url) : List Char :=
  url.host.text ++ marked ':' ((url.port.filter (· != standardPort)).map Number.natural)

/-- The whole address without its fragment and without credentials. -/
def absoluteTarget (url : Url) : List Char :=
  "http://".toList ++ url.strayUserinfo ++ url.authority ++ url.target

/-- The size of the longest address that can be asked for. -/
def maxSize : Nat :=
  65534

/-- The address can be asked for, its fragment counted. -/
def fits (url : Url) : Bool :=
  (url.absoluteTarget ++ marked '#' url.fragment).length ≤ maxSize

end Url

end JobWatch.Http
