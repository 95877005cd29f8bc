import DocLint.CommandLine.Command
import DocLint.Checks.Spelling
import DocLint.Configuration

/-!
# Paths of a command

The paths that a command may read from: those on the command line, and those that its configuration
mentions.  Below a directory everything may be read.
-/
namespace DocLint

mutual
def Json.texts : Json → List String
  | .string s => [s]
  | .array items => textsOfItems items
  | .object fields => textsOfFields fields
  | _ => []

def textsOfItems : List Json → List String
  | [] => []
  | item :: rest => item.texts ++ textsOfItems rest

def textsOfFields : Fields → List String
  | [] => []
  | (_, value) :: rest => value.texts ++ textsOfFields rest
end

/-- The paths that a configuration mentions; which of the settings are paths is up to the rules. -/
def Configuration.paths (c : Configuration) : List String :=
  c.baseDirectory :: Checks.Spelling.defaultDictionary ::
    c.checks.flatMap fun check => (check.settings.getD .null).texts

def CommandLine.Command.paths : CommandLine.Command → List String
  | .validate config path _ => config :: path.toList
  | .parse file _ => [file]

end DocLint
