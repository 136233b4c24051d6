import Muster.CommandLine.Help
import Muster.Settings
/-!
# The command line of the launcher

The options that come before a command, and the commands with their own options.
-/

namespace Muster.Launcher

open CommandLine

/-- The name by which the launcher is called. -/
def callName : String := "cli"

/-- An option that enables profiles. -/
def profileOption : Opt where
  long := "profile"
  value := some "TEXT"
  help := "Enable services carrying this profile"

/-- What comes before a command. -/
def front : Grammar where
  name := callName
  help := [
    "stackup - compose-style service launcher.",
    "Starts services in dependency order, waits for their health checks and restarts them "
      ++ "according to their restart policy."]
  options := [
    { long := "file", short := some 'f', value := some "TEXT"
      help := "Descriptor path [default: docker-compose.yml]" },
    { long := "project-name", short := some 'p', value := some "TEXT"
      help := "Project name [default: descriptor directory]" },
    { long := "runtime", value := some "[docker|process]"
      choices := [HostKind.docker.name, HostKind.process.name]
      help := "Run services as containers or host processes" },
    { long := "log-level", value := some "TEXT", help := "Log level [default: INFO]" },
    { long := "json-logs", help := "Emit JSON log lines" }]
  operands := some "COMMAND [ARGS]..."

/-- What the launcher can be told to do. -/
inductive Task where
  | up
  | down
  | ps
  | config
deriving Repr, DecidableEq

namespace Task

/-- All tasks. -/
def all : List Task := [up, down, ps, config]

/-- The grammar of the command for a task. -/
def grammar : Task → Grammar
  | up => {
    name := "up"
    help := ["Start services defined in the descriptor."]
    options := [
      profileOption,
      { long := "detach", short := some 'd', help := "Return once services are up" }]
    operands := some "[SERVICES]..." }
  | down => {
    name := "down"
    help := ["Stop and remove the project's services."]
    options := [] }
  | ps => {
    name := "ps"
    help := ["List service status."]
    options := [] }
  | config => {
    name := "config"
    help := ["Validate the descriptor and print it normalized."]
    options := [
      { long := "services", help := "Only print service names in start order" },
      profileOption] }

/-- The task with a name. -/
def ofName? (name : String) : Option Task :=
  all.find? (·.grammar.name = name)

end Task

/-- The commands for all tasks. -/
def commands : List Grammar :=
  Task.all.map Task.grammar

/-- How the command for a task is called. -/
def path (t : Task) : String :=
  callName ++ " " ++ t.grammar.name

end Muster.Launcher
