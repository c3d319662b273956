import JobWatch.Http.Host

/-! Which hosts can be found. An address needs no looking up, and a name has to be known. -/

namespace JobWatch.Http

/-- The names that are known: all of them, or only some. -/
inductive Resolver where
  | all
  | only (names : List (List Char))
  deriving DecidableEq, Repr

/-- The name of the machine itself. -/
def localName : List Char :=
  "localhost".toList

namespace Resolver

/-- A machine without a network, which knows nothing but its own name. -/
def offline : Resolver :=
  .only [localName]

/-- A host can be found. -/
def finds (resolver : Resolver) : Host → Bool
  | .address _ => true
  | .name name =>
    match resolver with
    | .all => true
    | .only names => names.contains name

end Resolver

end JobWatch.Http
