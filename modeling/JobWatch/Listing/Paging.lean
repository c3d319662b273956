import JobWatch.Json.Writer
import JobWatch.Wire.Scalar

/-! Where a page stands in a listing. A page says where it starts, how many items it has, how many
were asked for, and how long the listing is.
-/

namespace JobWatch.Listing

/-- A page of a listing. -/
structure Paging where
  count : Int64
  total : Int64
  max : Int64
  offset : Int64
  deriving DecidableEq, Repr

namespace Paging

/-- Where the next page starts. -/
def nextOffset (paging : Paging) : Int :=
  paging.offset.toInt + paging.count.toInt

/-- The listing goes on behind this page. -/
def hasMore (paging : Paging) : Bool :=
  paging.nextOffset < paging.total.toInt

/-- The number of this page, from one. Without a page size there is one page. -/
def number (paging : Paging) : Int :=
  if paging.max.toInt < 1 then 1
  else (Max.max paging.offset.toInt 0).tdiv paging.max.toInt + 1

/-- The number of the last page. An empty listing has one page. -/
def lastNumber (paging : Paging) : Int :=
  if paging.max.toInt < 1 then 1
  else Max.max ((paging.total.toInt + paging.max.toInt - 1).tdiv paging.max.toInt) 1

/-- The place of this page in words. -/
def summary (paging : Paging) : String :=
  let word (value : Int) := String.ofList (Number.signed value)
  "page " ++ word paging.number ++ "/" ++ word paging.lastNumber
    ++ " (" ++ word paging.count.toInt ++ " of " ++ word paging.total.toInt ++ " results)"

/-- The fields of a page, in the order of declaration. -/
def fieldNames : List String :=
  ["count", "total", "max", "offset"]

/-- A page as it is sent. -/
def decode : Wire.Reader Paging :=
  Wire.record fieldNames fun field =>
    Paging.mk
      <$> (field "count").required Wire.int64
      <*> (field "total").required Wire.int64
      <*> (field "max").required Wire.int64
      <*> (field "offset").required Wire.int64

/-- A page to send. -/
def encode (paging : Paging) : Json :=
  Json.record
    [("count", .ofInt paging.count.toInt), ("total", .ofInt paging.total.toInt),
      ("max", .ofInt paging.max.toInt), ("offset", .ofInt paging.offset.toInt)]

end Paging

end JobWatch.Listing
