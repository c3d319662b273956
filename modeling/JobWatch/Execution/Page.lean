import JobWatch.Execution.Basic
import JobWatch.Listing.Paging

/-! One page of the executions of a project. -/

namespace JobWatch

/-- A page of executions, and its place in the listing. -/
structure Execution.Page where
  paging : Listing.Paging
  executions : List Execution
  deriving DecidableEq, Repr

namespace Execution.Page

/-- The fields of a page, in the order of declaration. -/
def fieldNames : List String :=
  ["paging", "executions"]

/-- A page as it is sent. -/
def decode : Wire.Reader Page :=
  Wire.record fieldNames fun field =>
    Page.mk
      <$> (field "paging").required Listing.Paging.decode
      <*> (field "executions").orElse [] (Wire.list Execution.decode)

/-- A page to send. -/
def encode (page : Page) : Json :=
  Json.record
    [("paging", page.paging.encode),
      ("executions", .array (page.executions.map Execution.encode) true)]

end Execution.Page

end JobWatch
