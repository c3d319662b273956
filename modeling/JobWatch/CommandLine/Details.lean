import JobWatch.Client.Connection
import JobWatch.CommandLine.Effect

/-! The commands that show executions: one in all its details, or a page of them. -/

namespace JobWatch.CommandLine

-----------------------------------------------------------------------
-- Single executions
-----------------------------------------------------------------------

/-- A state in its color. -/
def statusText (palette : Palette) (status : Execution.Status) : String :=
  let style : Style :=
    match status with
    | .running | .scheduled => .cyan
    | .succeeded => .green
    | .failed | .failedWithRetry | .timedOut => .red
    | .aborted | .other => .dim
  palette.paint style status.label

/-- An integer in decimal. -/
def integerText (value : Int) : String :=
  String.ofList (Number.signed value)

/-- The name of a job behind the group it is in. -/
def jobText (job : Execution.Job) : String :=
  match job.group with
  | some group => group ++ "/" ++ job.name
  | none => job.name

/-- A line for a value that may be absent. -/
def optionalLine (label : String) (text : Option String) : List Effect :=
  (text.map fun text => .line (label ++ text)).toList

/-- All that is known of an execution. -/
def details (palette : Palette) (execution : Execution) : List Effect :=
  let date (stamp : Execution.DateStamp) := Calendar.Timestamp.display stamp.date
  [.line (palette.paint .bold "Execution Details:"),
    .line ("  ID:          " ++ palette.paint .cyan (integerText execution.id.toInt)),
    .line ("  Project:     " ++ execution.project),
    .line ("  Status:      " ++ statusText palette execution.status)]
    ++ optionalLine "  Job:         " (execution.job.map jobText)
    ++ optionalLine "  User:        " execution.user
    ++ optionalLine "  Description: " (execution.description.map (palette.paint .dim))
    ++ optionalLine "  Started:     " (execution.dateStarted.map date)
    ++ optionalLine "  Ended:       " (execution.dateEnded.map date)
    ++ optionalLine "  Duration:    "
      (execution.duration?.map fun duration =>
        integerText (Execution.wholeSeconds duration) ++ "s")
    ++ optionalLine "  Link:        " (execution.permalink.map (palette.paint .dim))

/-- What is shown of an execution that was fetched, or why it was not. -/
def infoEnding (palette : Palette) (id : String) (result : Except Client.Error Execution)
    : Report :=
  match result with
  | .ok execution =>
    .success
      (details palette execution
        ++ if execution.status.isTerminal then []
          else
            [.line "",
              .line
                (palette.paint .dim
                  ("Still " ++ execution.status.label
                    ++ "; follow it with: executions follow " ++ id))])
  | .error error => .failure [] (.ofError ("Failed to fetch execution " ++ id) error)

-----------------------------------------------------------------------
-- Pages
-----------------------------------------------------------------------

/-- What a page shows of an execution. -/
def summary (palette : Palette) (execution : Execution) : List Effect :=
  [.line
      ("  " ++ palette.paint .cyan "▸" ++ " Execution "
        ++ palette.paint .bold (integerText execution.id.toInt)),
    .line ("    Status:   " ++ statusText palette execution.status)]
    ++ optionalLine "    Job:      "
      (execution.job.map fun job => palette.paint .dim job.name)
    ++ optionalLine "    Started:  "
      (execution.dateStarted.map fun stamp =>
        palette.paint .dim (Calendar.Timestamp.display stamp.date))
    ++ [.line ""]

/-- The place of a page, and how to see the next one. -/
def footer (palette : Palette) (paging : Listing.Paging) : List Effect :=
  .line (palette.paint .dim paging.summary)
    :: if paging.hasMore then
      [.line (palette.paint .dim ("More results: --offset " ++ integerText paging.nextOffset))]
    else []

/-- What is shown of a page that was fetched, or why it was not. -/
def listEnding (palette : Palette) (project : String)
    (result : Except Client.Error Execution.Page) : Report :=
  match result with
  | .ok page =>
    .success
      ((if page.executions.isEmpty then
          [.line (palette.paint .yellow ("No executions found for project " ++ project ++ "."))]
        else
          .line (palette.paint .bold ("Executions of project " ++ project ++ ":")) :: .line ""
            :: page.executions.flatMap (summary palette))
        ++ footer palette page.paging)
  | .error error =>
    .failure [] (.ofError ("Failed to list executions of project " ++ project) error)

-----------------------------------------------------------------------
-- Commands
-----------------------------------------------------------------------

/-- A command of a single request. -/
def singleReport (exchange : Client.Exchange α) (ending : Except Client.Error α → Report)
    : Report :=
  (ending exchange.result).after (exchange.request.toList.map .request)

/-- The command that shows an execution. -/
def infoReport (palette : Palette) (connection : Client.Connection) (id : String)
    (replies : List Http.Reply) : Report :=
  singleReport (connection.execution id replies) (infoEnding palette id)

/-- The command that lists executions. -/
def listReport (palette : Palette) (connection : Client.Connection) (project : String)
    (max offset : UInt32) (replies : List Http.Reply) : Report :=
  singleReport (connection.executions project max offset replies) (listEnding palette project)

end JobWatch.CommandLine
