import JobWatch.Json.Writer
import JobWatch.Wire.Scalar

/-! How far the server is with packing a project for export. -/

namespace JobWatch.Export

/-- The status of an export. Its token is the name by which the server knows the export. -/
structure Status where
  token : String
  ready : Bool
  percentage : UInt32
  deriving DecidableEq, Repr

namespace Status

/-- The fields of a status, in the order of declaration. -/
def fieldNames : List String :=
  ["token", "ready", "percentage"]

/-- A status as it is sent. Only the token has to be there, and nothing may be null. -/
def decode : Wire.Reader Status :=
  Wire.record fieldNames fun field =>
    Status.mk
      <$> (field "token").required Wire.text
      <*> (field "ready").orElse false Wire.bool
      <*> (field "percentage").orElse 0 Wire.uint32

/-- A status to send. -/
def encode (status : Status) : Json :=
  Json.record
    [("token", .string status.token), ("ready", .bool status.ready),
      ("percentage", .ofInt status.percentage.toNat)]

end Status

end JobWatch.Export
