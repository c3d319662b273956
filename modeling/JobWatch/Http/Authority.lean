/-! Which texts are the part of an address with the host in it, before any name is looked up. -/

namespace JobWatch.Http

/-- What was seen of an authority since its last at sign or bracket: how many colons, and whether
there was a percent sign. Of the whole authority, which brackets there were.
-/
structure AuthorityScan where
  colons : Nat
  percent : Bool
  opened : Bool
  closed : Bool

namespace AuthorityScan

/-- The scan before the first character. -/
def start : AuthorityScan :=
  ⟨0, false, false, false⟩

/-- A character without a meaning of its own. -/
def isOrdinary (c : Char) : Bool :=
  c.isAlphanum || "!$&'()*+,-.;=_~".toList.contains c

/-- The most colons in a row of parts. -/
def maxColons : Nat :=
  8

/-- The scan after one more character, if that may stand there. -/
def step? (scan : AuthorityScan) (c : Char) : Option AuthorityScan :=
  match c with
  | ':' => if scan.colons < maxColons then some { scan with colons := scan.colons + 1 } else none
  | '[' => if scan.percent || scan.opened then none else some { scan with opened := true }
  | ']' =>
    if scan.opened && !scan.closed then
      some { scan with colons := 0, percent := false, closed := true }
    else none
  | '@' => some { scan with colons := 0, percent := false }
  | '%' => some { scan with percent := true }
  | c => if isOrdinary c then some scan else none

/-- The scan may end here. -/
def mayEnd (scan : AuthorityScan) : Bool :=
  scan.opened == scan.closed && scan.colons ≤ 1 && !scan.percent

end AuthorityScan

/-- The text is a host, with a port behind it or not, and with something before an at sign or not.
-/
def isAuthority (text : List Char) : Bool :=
  !text.isEmpty && text.getLast? != some '@'
    && (text.foldlM AuthorityScan.step? .start).any AuthorityScan.mayEnd

end JobWatch.Http
