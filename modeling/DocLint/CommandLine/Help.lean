import DocLint.CommandLine.Switch

/-!
# Help

What is shown when help or the version is asked for.
-/
namespace DocLint.CommandLine

def programName : String := "docval"

def versionText : String := programName ++ " 0.1.0\n"

def helpLines : Topic → List String
  | .program => [
    "Validate markdown documents against configured rules",
    "",
    "Usage: " ++ programName ++ " [OPTIONS] <COMMAND>",
    "",
    "Commands:",
    "  validate  Run the configured checks and print the report",
    "  parse     Parse a single document and print its properties and text",
    "  help      Print this message or the help of the given subcommand(s)",
    "",
    "Options:",
    "  -v, --verbose  Log debug events to stderr",
    "  -h, --help     Print help",
    "  -V, --version  Print version"]
  | .validate => [
    "Run the configured checks and print the report",
    "",
    "Usage: " ++ programName ++ " validate [OPTIONS] --config <CONFIG>",
    "",
    "Options:",
    "  -c, --config <CONFIG>  Configuration file (JSON, or YAML when named *.yaml / *.yml)",
    "  -v, --verbose          Log debug events to stderr",
    "  -p, --path <PATH>      Directory or file to validate, overriding \x60baseDirectory\x60",
    "  -f, --format <FORMAT>  [default: json] [possible values: json, yaml, csv, text]",
    "  -h, --help             Print help"]
  | .parse => [
    "Parse a single document and print its properties and text",
    "",
    "Usage: " ++ programName ++ " parse [OPTIONS] --file <FILE>",
    "",
    "Options:",
    "      --file <FILE>      ",
    "  -v, --verbose          Log debug events to stderr",
    "  -f, --format <FORMAT>  [default: json] [possible values: json, yaml]",
    "  -h, --help             Print help"]
  | .help => [
    "Print this message or the help of the given subcommand(s)",
    "",
    "Usage: " ++ programName ++ " help [COMMAND]...",
    "",
    "Arguments:",
    "  [COMMAND]...  Print help for the subcommand(s)"]

def helpText (topic : Topic) : String :=
  String.join ((helpLines topic).map (· ++ "\n"))

end DocLint.CommandLine
