/-! What the program says about itself. -/

namespace JobWatch.CommandLine

/-- The commands and their options. -/
def usage : String :=
  String.join
    ["Usage: dispatch [--url URL] [--token TOKEN] [--poll-interval-ms MS] COMMAND\n",
      "\n",
      "Commands:\n",
      "  executions follow [-r | -t N] [--max-lines N] [--progress] [-q] [--outformat TEXT] ID\n",
      "  executions info ID\n",
      "  executions list -p PROJECT [--max N] [--offset N]\n",
      "  projects export -p PROJECT -f FILE\n"]

end JobWatch.CommandLine
