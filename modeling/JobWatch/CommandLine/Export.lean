import JobWatch.Client.Connection
import JobWatch.CommandLine.Effect

/-! The command that exports a project: it starts the export, tracks it until it is ready, and
keeps the archive.
-/

namespace JobWatch.CommandLine

/-- Where a file can be written: why it cannot, by its path. -/
abbrev Storage := String → Option String

/-- The export of a project into a file. -/
structure ExportOptions where
  project : String
  file : String
  deriving DecidableEq, Repr

namespace ExportOptions

/-- What is shown when the export is started. -/
def opening (palette : Palette) (options : ExportOptions) : Effect :=
  .out (palette.paint .bold ("Exporting " ++ options.project ++ ": "))

/-- What is shown of a percentage. -/
def shown (palette : Palette) (percentage : UInt32) : Effect :=
  .out (palette.paint .dim (String.ofList (Number.natural percentage.toNat) ++ "% "))

/-- The failure to start the export. -/
def startFailure (options : ExportOptions) (error : Client.Error) : Failure :=
  .ofError ("Failed to start export of project " ++ options.project) error

/-- What is shown when tracking ended without an archive to fetch; nothing if there is one. -/
def stopped? (palette : Palette) (options : ExportOptions)
    (result : Except Client.Error Poll.Outcome) : Option Report :=
  match result with
  | .ok (.completed _) => none
  | .ok .cancelled =>
    some
      (.success
        [.line
          (palette.paint .yellow
            ("Stopped waiting for export of " ++ options.project ++ " (best effort)"))])
  | .error error =>
    some (.failure [] (.ofError ("Failed to track export of project " ++ options.project) error))

/-- What becomes of the archive. -/
def ending (palette : Palette) (options : ExportOptions) (storage : Storage)
    (result : Except Client.Error (List UInt8)) : Report :=
  match result with
  | .ok archive =>
    match storage options.file with
    | some fault => .failure [] ⟨"Failed to write archive to " ++ options.file, [fault]⟩
    | none =>
      .success
        [.store options.file archive,
          .line
            (palette.paint .green
              ("✓ Exported " ++ options.project
                ++ " (" ++ String.ofList (Number.natural archive.length) ++ " bytes) to "
                ++ options.file))]
  | .error error =>
    .failure [] (.ofError ("Failed to download export of project " ++ options.project) error)

/-- The command from the moment the export is started. -/
def trackReport (palette : Palette) (connection : Client.Connection) (options : ExportOptions)
    (storage : Storage) (initial : Export.Status) (replies : List Http.Reply)
    (waits : List Bool) : Report :=
  let run := Poll.track (connection.statusService options.project) initial replies waits
  let told :=
    Effect.ofSteps (fun token => connection.request? (.exportStatus options.project token))
      (shown palette) run.steps
  let report :=
    match stopped? palette options run.result with
    | some report => report
    | none =>
      let download := connection.downloadExport options.project initial.token run.unread
      (ending palette options storage download.result).after
        (download.request.toList.map .request)
  report.after (opening palette options :: told ++ [.out "\n"])

/-- The whole command, on a script of replies and the results of its waits. -/
def report (palette : Palette) (connection : Client.Connection) (options : ExportOptions)
    (storage : Storage) (replies : List Http.Reply) (waits : List Bool) : Report :=
  let start := connection.startExport options.project replies
  let report :=
    match start.result with
    | .ok initial =>
      trackReport palette connection options storage initial start.unread waits
    | .error error => .failure [] (startFailure options error)
  report.after (start.request.toList.map .request)

end ExportOptions

end JobWatch.CommandLine
