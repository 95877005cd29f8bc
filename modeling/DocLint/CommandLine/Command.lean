import DocLint.CommandLine.Switch
import DocLint.Report.Format

/-!
# Commands

What the command line asks for: to validate files under a configuration and write a report, or to
parse one document and write it.  Options stand before the name of the command or after it; those of
a command stand after it.
-/
namespace DocLint

def ReportFormat.names : List (String × ReportFormat) :=
  [("json", .json), ("yaml", .yaml), ("csv", .csv), ("text", .text)]

def ReportFormat.ofName? (name : String) : Option ReportFormat :=
  (names.find? fun entry => entry.1 == name).map (·.2)

def DocumentFormat.names : List (String × DocumentFormat) :=
  [("json", .json), ("yaml", .yaml)]

def DocumentFormat.ofName? (name : String) : Option DocumentFormat :=
  (names.find? fun entry => entry.1 == name).map (·.2)

namespace CommandLine

inductive Command where
  | validate (config : String) (path : Option String) (format : ReportFormat)
  | parse (file : String) (format : DocumentFormat)
deriving DecidableEq, Repr

/-- A command and whether it was asked to tell more. -/
structure Invocation where
  verbose : Bool
  command : Command
deriving DecidableEq, Repr

def Invocation.logLevel (i : Invocation) : String :=
  if i.verbose then "debug" else "warn"

/-- The flag that stands before or after the name of a command. -/
def verboseSwitch : Switch := ⟨"verbose", some 'v', .flag⟩

def helpSwitch (topic : Topic) : Switch := ⟨"help", some 'h', .leave (.help topic)⟩

def pathSwitch (name : String) (letter : Option Char) : Switch :=
  ⟨name, letter, .value fun value => value != ""⟩

/-- Options before the name of a command. -/
def programSwitches : List Switch :=
  [verboseSwitch, helpSwitch .program, ⟨"version", some 'V', .leave .version⟩]

def validateSwitches : List Switch :=
  [pathSwitch "config" (some 'c'), pathSwitch "path" (some 'p'),
    ⟨"format", some 'f', .value fun value => (ReportFormat.ofName? value).isSome⟩, verboseSwitch,
    helpSwitch .validate]

def parseSwitches : List Switch :=
  [pathSwitch "file" none,
    ⟨"format", some 'f', .value fun value => (DocumentFormat.ofName? value).isSome⟩, verboseSwitch,
    helpSwitch .parse]

def required (p : Progress) (name : String) : Except Departure String :=
  match p.value? name with
  | some value => .ok value
  | none => .error (.usage (.missingOption name))

def validateCommand (p : Progress) : Except Departure Command := do
  let config ← required p "config"
  return .validate config (p.value? "path")
    (((p.value? "format").bind ReportFormat.ofName?).getD .json)

def parseCommand (p : Progress) : Except Departure Command := do
  let file ← required p "file"
  return .parse file (((p.value? "format").bind DocumentFormat.ofName?).getD .json)

/-- The topic that help was asked for by name. -/
def helpFor : List String → Departure
  | [] => .help .program
  | ["validate"] => .help .validate
  | ["parse"] => .help .parse
  | ["help"] => .help .help
  | word :: rest =>
    if ["validate", "parse", "help"].contains word then .usage (.unknownCommand (rest.headD word))
    else .usage (.unknownCommand word)

/-- Whether the flag was given before the name of a command or after it. -/
def isVerbose (before after : Progress) : Bool :=
  (before.value? verboseSwitch.name).isSome || (after.value? verboseSwitch.name).isSome

def noCommand (p : Progress) : UsageError :=
  if p.given.isEmpty then .nothingGiven else .missingCommand

/-- Read the words of a command line, after those that were read before. -/
def readWords : Progress → List String → Except Departure Invocation
  | p, [] => .error (.usage (noCommand p))
  | p, word :: rest =>
    match word with
    | "validate" => do
      let options ← Progress.takeAll validateSwitches {} rest
      return ⟨isVerbose p options, ← validateCommand options⟩
    | "parse" => do
      let options ← Progress.takeAll parseSwitches {} rest
      return ⟨isVerbose p options, ← parseCommand options⟩
    | "help" => .error (helpFor rest)
    | "--" =>
      .error (.usage (match rest with
        | [] => noCommand p
        | word :: _ =>
          if ["validate", "parse", "help"].contains word then .unknownArgument word
          else .unknownCommand word))
    | word =>
      match p.take programSwitches word with
      | .error e => .error e
      | .ok none => .error (.usage (.unknownCommand word))
      | .ok (some p) => readWords p rest

/-- What the words of a command line, without the name of the program, ask for. -/
def Invocation.ofWords (words : List String) : Except Departure Invocation :=
  readWords {} words

end CommandLine
end DocLint
