-- What to do about the arguments: stop at once, or run with some settings.

import Tiff.CommandLine.Report

namespace Tiff.CommandLine

def versionText : String := "tiffwalk 0.1.0\n"

/-- How to call the program. -/
def helpText : String := unlines [
  "Walk the directories of a TIFF or BigTIFF file",
  "",
  "Usage: tiffwalk [OPTIONS] [PATH]",
  "",
  "Arguments:",
  "  [PATH]  File to read, or \"-\" for standard input [default: -]",
  "",
  "Options:",
  "  -f, --full                   Print every value instead of a shortened preview",
  "      --exif                   Also print the Exif, GPS and Interoperability directories",
  "      --image                  Also print the image configuration",
  "      --max-directories <N>    Maximum number of directories to walk",
  "      --max-entries <N>        Maximum number of entries in one directory",
  "      --max-value-size <N>     Maximum size in bytes of one field value",
  "      --unicode-size <N>       Byte size of the UNICODE field type (14)",
  "      --complex-size <N>       Byte size of the COMPLEX field type (15)",
  "      --tiff85                 Accept the TIFF85 version code (0x55)",
  "  -v, --verbose                Enable verbose logging",
  "  -h, --help                   Print help",
  "  -V, --version                Print version"]

/-- What is wrong with the arguments, if something is. -/
def Stop.complaint? : Stop → Option String
  | help | version => none
  | unknownArgument => some "unexpected argument"
  | missingValue => some "a value is required for an option"
  | badFlag => some "invalid value for a flag"
  | badNumber => some "invalid value for a number"
  | repeated => some "an option cannot be used multiple times"
  | unwantedValue => some "unexpected value for a flag"

/-- How a run ends that stops at its arguments. Help and version are no errors. -/
def Stop.outcome : Stop → Outcome
  | help => { exit := 0, output := helpText }
  | version => { exit := 0, output := versionText }
  | stop => { exit := 2, complaint? := stop.complaint? }

inductive Plan where
  | finish (outcome : Outcome)
  | walk (settings : Settings)

/-- The plan for arguments whose settings are found to be sound, or the outcome otherwise. -/
def Plan.make (arguments : List String) (env : String → Option String) : Plan :=
  match Settings.read arguments env with
  | .error stop => .finish stop.outcome
  | .ok settings =>
    match settings.fault? with
    | some fault => .finish { exit := 1, errors := [s!"Configuration error: {fault}"] }
    | none => .walk settings

end Tiff.CommandLine
