import JobWatch.Number.Shortest

/-! What can be wrong with a document: the four faults that are reported in words, and all others,
which are not told apart.
-/

namespace JobWatch.Wire

/-- Why a value does not decode. -/
inductive Fault where
  | malformed
  | notWhole (value : Number.Binary64)
  | notInteger (text : String)
  | missingField (name : String)
  | duplicateField (name : String)
  deriving DecidableEq, Repr

/-- The words for a fault, if it has words of its own. -/
def Fault.message? : Fault → Option String
  | .malformed => none
  | .notWhole value => some ("cursor value " ++ value.text ++ " is not an integer")
  | .notInteger text => some ("invalid integer: " ++ text)
  | .missingField name => some ("missing field \x60" ++ name ++ "\x60")
  | .duplicateField name => some ("duplicate field \x60" ++ name ++ "\x60")

end JobWatch.Wire
