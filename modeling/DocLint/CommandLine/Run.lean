import DocLint.CommandLine.Command
import DocLint.CommandLine.Help
import DocLint.Configuration.Reading
import DocLint.Validation

/-!
# Running commands

A command reads files, and may run a program for version control; what it writes and how it ends is
a value.  A run that is blocked by its report and a command that fails both end with status 1, and a
command line that asks for nothing with status 2.  A failure is told with its causes.
-/
namespace DocLint.CommandLine

/-- What a command works with: files, a way to run programs, and the time. -/
structure Machine where
  files : FileTree
  runner : ProgramRunner
  now : Calendar.Instant

inductive CommandError where
  | configUnread (path : String) (error : IoError)
  | configNotJson (path : String) (fault : ConfigFault)
  | configNotYaml (path : String) (fault : ConfigFault)
  | setup (error : SetupError)
  | documentUnread (path : String) (error : LoadError)
  | unwritten (error : WriteError)

namespace CommandError

/-- What failed, in front of the reason where the reason is not a cause of its own. -/
def heading : CommandError → String
  | configUnread path _ => "Failed to read config file " ++ Path.shown path
  | configNotJson path _ => "Failed to parse JSON config " ++ Path.shown path
  | configNotYaml path _ => "Failed to parse YAML config " ++ Path.shown path ++ ": "
  | setup error => error.message
  | documentUnread path _ => "Failed to read document " ++ Path.shown path
  | unwritten error => error.message

def message (e : CommandError) : String :=
  match e with
  | configNotYaml _ fault => e.heading ++ fault.message
  | _ => e.heading

def setupCauses : SetupError → List String
  | .invalidPattern _ _ reason => [reason.message]
  | .scope (.spawn program source) => [VcsError.message (.spawn program source), source]
  | .scope error => [error.message]
  | _ => []

/-- The causes of a failure, the nearest first. -/
def causes : CommandError → List String
  | configUnread _ error => [error.message]
  | configNotJson _ fault => [fault.message]
  | configNotYaml _ _ => []
  | setup error => setupCauses error
  | documentUnread _ (.io error) => [(LoadError.io error).message, error.message]
  | documentUnread _ error => [error.message]
  | unwritten _ => []

/-- A failure and its causes on one line. -/
def text (e : CommandError) : String :=
  ": ".intercalate (e.message :: e.causes)

end CommandError

def isYamlName (path : String) : Bool :=
  match Path.extension? path with
  | some extension => ["yaml", "yml"].contains (extension.map Char.toLower)
  | none => false

def loadConfiguration (files : FileTree) (path : String) : Except CommandError Configuration := do
  let text ← (files.readText path).mapError (CommandError.configUnread path)
  if isYamlName path then
    (Configuration.ofYaml text).mapError (CommandError.configNotYaml path)
  else
    (Configuration.ofJson text).mapError (CommandError.configNotJson path)

/-- Headers of documents are read as YAML. -/
def readHeader (text : String) : Except String Json :=
  (Yaml.read text).mapError (·.message)

/-- The report of a run under the configuration in a file; a given path replaces the base. -/
def validateFiles (m : Machine) (config : String) (path : Option String) :
    Except CommandError Report := do
  let configuration ← loadConfiguration m.files config
  let configuration :=
    { configuration with baseDirectory := path.getD configuration.baseDirectory }
  let run := validateWithGit ⟨m.files, readHeader⟩ m.runner (Registry.builtin m.now) configuration
  run.2.mapError CommandError.setup

def readDocument (m : Machine) (file : String) : Except CommandError Document :=
  (Document.load readHeader m.files file).mapError (CommandError.documentUnread file)

def colourOf : Severity → String
  | .success => "32"
  | .info => "36"
  | .warn => "33"
  | .error => "1;31"
  | .failure => "1;31"

/-- The name of a status, in its colour if colours are wanted. -/
def statusText (coloured : Bool) (status : Severity) : String :=
  if coloured then
    String.join ["\x1b[", colourOf status, "m", status.name, "\x1b[0m"]
  else status.name

def statusLine (coloured : Bool) (report : Report) : String :=
  let s := report.summary
  String.join [programName, ": ", statusText coloured report.status, " (", toString s.fileCount,
    " files, ", toString s.failures, " failures, ", toString s.errors, " errors, ",
    toString s.warnings, " warnings)"]

/-- What a command writes, and the status with which it ends. -/
structure Finish where
  exit : Nat
  stdout : String
  stderr : String
deriving DecidableEq, Repr

def Finish.ofError (e : CommandError) : Finish :=
  ⟨1, "", "Error: " ++ e.text ++ "\n"⟩

def Finish.ofDeparture : Departure → Finish
  | .help topic => ⟨0, helpText topic, ""⟩
  | .version => ⟨0, versionText, ""⟩
  | .usage error => ⟨2, "", "error: " ++ error.message ++ "\n"⟩

/-- The end of a command that found something, which is written first. -/
def Finish.ofWritten (written : Except WriteError String) (exit : Nat) (stderr : String) : Finish :=
  match written with
  | .error e => .ofError (.unwritten e)
  | .ok text => ⟨exit, text, stderr⟩

def Command.run (m : Machine) (coloured : Bool) : Command → Finish
  | .validate config path format =>
    match validateFiles m config path with
    | .error e => .ofError e
    | .ok report =>
      .ofWritten (format.write report) (if report.isOk then 0 else 1)
        (statusLine coloured report ++ "\n")
  | .parse file format =>
    match readDocument m file with
    | .error e => .ofError e
    | .ok document => .ofWritten (format.write document) 0 ""

/-- Do what the words of a command line ask for. -/
def run (m : Machine) (coloured : Bool) (words : List String) : Finish :=
  match Invocation.ofWords words with
  | .error departure => .ofDeparture departure
  | .ok invocation => invocation.command.run m coloured

end DocLint.CommandLine
