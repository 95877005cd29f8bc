/-!
# Options of a command line

An option has a long name and may have a letter.  It is a flag, takes a value, or ends the reading
of the command line.  A value stands in the same word (`--name=value`, `-n=value`, `-nvalue`) or is
the next word; letters of flags may share a word.  A value that is the next word is looked at only
when the following option is met or the words end, so that an unknown option is reported before
it.
-/
namespace DocLint.CommandLine

/-- Why a command line asks for nothing that can be done. -/
inductive UsageError where
  | nothingGiven
  | missingCommand
  | unknownCommand (word : String)
  | unknownArgument (word : String)
  | missingValue (option : String)
  | invalidValue (option value : String)
  | surplusValue (option : String)
  | repeatedOption (option : String)
  | missingOption (option : String)
deriving DecidableEq, Repr

def UsageError.message : UsageError → String
  | .nothingGiven => "a command is required"
  | .missingCommand => "a command is required but none was provided"
  | .unknownCommand word => "unrecognized command '" ++ word ++ "'"
  | .unknownArgument word => "unexpected argument '" ++ word ++ "' found"
  | .missingValue option => "a value is required for '--" ++ option ++ "' but none was supplied"
  | .invalidValue option value => "invalid value '" ++ value ++ "' for '--" ++ option ++ "'"
  | .surplusValue option => "'--" ++ option ++ "' takes no value"
  | .repeatedOption option => "'--" ++ option ++ "' cannot be used multiple times"
  | .missingOption option => "'--" ++ option ++ "' is required but was not provided"

inductive Topic where
  | program
  | validate
  | parse
  | help
deriving DecidableEq, Repr

/-- Why the reading of a command line ends without a command. -/
inductive Departure where
  | help (topic : Topic)
  | version
  | usage (error : UsageError)
deriving DecidableEq, Repr

inductive SwitchKind where
  | flag
  | value (allowed : String → Bool)
  | leave (departure : Departure)

structure Switch where
  name : String
  letter : Option Char
  kind : SwitchKind

/-- What has been read of the options of a command: the values given so far, and an option whose
value is the next word or has just been read. -/
structure Progress where
  given : List (String × String) := []
  awaiting : Option (Switch × Option String) := none

namespace Progress

def value? (p : Progress) (name : String) : Option String :=
  (p.given.find? fun entry => entry.1 == name).map (·.2)

/-- Enter the value of an option, which may be given once. -/
def record (p : Progress) (switch : Switch) (value : String) : Except UsageError Progress :=
  if (p.value? switch.name).isSome then .error (.repeatedOption switch.name)
  else
    let entered := { p with given := p.given ++ [(switch.name, value)] }
    match switch.kind with
    | .value allowed =>
      if allowed value then .ok entered else .error (.invalidValue switch.name value)
    | _ => .ok entered

/-- Enter the value of the option that awaits one. -/
def settle (p : Progress) : Except UsageError Progress :=
  match p.awaiting with
  | none => .ok p
  | some (switch, none) => .error (.missingValue switch.name)
  | some (switch, some value) => { p with awaiting := none }.record switch value

/-- An option together with a value in the same word. -/
def attach (p : Progress) (switch : Switch) (value : String) : Except Departure Progress :=
  (do (← p.settle).record switch value).mapError Departure.usage

/-- An option without a value in the same word. -/
def meet (p : Progress) (switch : Switch) : Except Departure Progress :=
  match p.settle with
  | .error e => .error (.usage e)
  | .ok p =>
    match switch.kind with
    | .flag => (p.record switch "").mapError Departure.usage
    | .value _ => .ok { p with awaiting := some (switch, none) }
    | .leave departure => .error departure

/-- A word with a long name, after the dashes. -/
def takeLong (switches : List Switch) (p : Progress) (body : List Char) :
    Except Departure Progress :=
  let name := String.ofList (body.takeWhile (· != '='))
  match switches.find? (fun switch => switch.name == name), body.dropWhile (· != '=') with
  | none, _ => .error (.usage (.unknownArgument ("--" ++ name)))
  | some switch, [] => p.meet switch
  | some switch, _ :: value =>
    match switch.kind with
    | .value _ => p.attach switch (String.ofList value)
    | _ => .error (.usage (.surplusValue name))

def takeLetters (switches : List Switch) : Progress → List Char → Except Departure Progress
  | p, [] => .ok p
  | p, c :: rest =>
    match switches.find? fun switch => switch.letter == some c with
    | none => .error (.usage (.unknownArgument ("-" ++ String.ofList [c])))
    | some switch =>
      match switch.kind, rest with
      | .value _, [] => p.meet switch
      | .value _, '=' :: value => p.attach switch (String.ofList value)
      | .value _, value => p.attach switch (String.ofList value)
      | _, rest =>
        match p.meet switch with
        | .error e => .error e
        | .ok p => takeLetters switches p rest

/-- Take a word in; none if it is no option and no option awaits a value. -/
def take (switches : List Switch) (p : Progress) (word : String) :
    Except Departure (Option Progress) :=
  match word.toList with
  | '-' :: '-' :: body => (takeLong switches p body).map some
  | '-' :: c :: rest => (takeLetters switches p (c :: rest)).map some
  | _ =>
    match p.awaiting with
    | some (switch, none) => .ok (some { p with awaiting := some (switch, some word) })
    | _ => .ok none

/-- Read words that are options only.  After a word of two dashes no options follow. -/
def takeAll (switches : List Switch) : Progress → List String → Except Departure Progress
  | p, [] => p.settle.mapError Departure.usage
  | p, "--" :: [] => p.settle.mapError Departure.usage
  | _, "--" :: word :: _ => .error (.usage (.unknownArgument word))
  | p, word :: rest =>
    match p.take switches word with
    | .error e => .error e
    | .ok none => .error (.usage (.unknownArgument word))
    | .ok (some p) => takeAll switches p rest

end Progress
end DocLint.CommandLine
