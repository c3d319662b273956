import JobWatch.Domain.Direction
import JobWatch.Domain.Joining
import JobWatch.Domain.Mapping
import JobWatch.Domain.Punycode

/-! Names of hosts in any script, and the plain form in which they are looked up. A label with other
than plain characters is written in punycode behind a mark.
-/

namespace JobWatch.Domain

/-- The mark of a label that is written in punycode. -/
def punycodeMark : List Char :=
  "xn--".toList

/-- The label begins with no mark, and invisible characters fit in. -/
def isSound (label : List Char) : Bool :=
  !(label.head?).any Text.Composition.isMark && joinersFit [] label

/-- What a label stands for. In punycode a label is written as it would be spelled, and never for
plain characters alone.
-/
def meaning? (label : List Char) : Option (List Char) :=
  if punycodeMark.isPrefixOf label then
    (Punycode.decode? (label.drop punycodeMark.length)).filter fun text =>
      label.all Punycode.isPlain
        && !text.all Punycode.isPlain
        && text.all isKept
        && Text.Composition.normalize text == text
        && !punycodeMark.isPrefixOf text
        && isSound text
  else if isSound label then some label
  else none

/-- A label in its plain form. -/
def plainLabel (label : List Char) : List Char :=
  if label.all Punycode.isPlain then label else punycodeMark ++ Punycode.encode label

/-- A name in its plain form, if it is one. -/
def plain? (name : List Char) : Option (List Char) :=
  (spell? name).bind fun spelled =>
    let labels := Text.split (· == '.') (Text.Composition.normalize spelled)
    (labels.mapM meaning?).bind fun meanings =>
      if Direction.fit meanings then
        some (['.'].intercalate (labels.map plainLabel))
      else none

end JobWatch.Domain
