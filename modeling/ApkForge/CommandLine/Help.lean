-- What a line that is not run is answered with: the help, the version, or what is wrong with it.
import ApkForge.CommandLine.Switches

namespace ApkForge.CommandLine

/-- The name of the program with its version. -/
def versionText : String := "yailbuild 0.1.0\n"

/-- How the program is used. -/
def helpText : String := String.join (["Usage: yailbuild [OPTIONS] [COMMAND]", "", "Commands:",
  "  build [PROJECT]    Build a project into a signed archive",
  "      -c, --component TYPE, --components-file FILE, --companion, --keystore FILE,",
  "      --ram MB, --dex-cache DIR, --no-dex-cache",
  "  inspect [PROJECT]  Show what a project uses and needs",
  "      -c, --component TYPE, --components-file FILE, --companion, --manifest",
  "  doctor             Check the host",
  "  config show        Show the configuration",
  "  config init        Write a configuration with all defaults",
  "      -f, --force",
  "  clean [PROJECT]    Remove what a build made",
  "", "Options:", "  -v, --verbose", "  -q, --quiet", "      --json", "      --config FILE",
  "  -h, --help", "  -V, --version"].map fun line => line ++ "\n")

namespace Usage

/-- What is wrong with a line. -/
def complaint : Usage → String
  | .help => ""
  | .version => ""
  | .helpOnMissing => "a command is missing"
  | .missingCommand => "a command is missing"
  | .unknownCommand => "unrecognized command"
  | .unknownArgument => "unexpected argument"
  | .badValue => "a value is not a number in range"
  | .missingValue => "a value is missing"
  | .conflict => "arguments cannot be used together"
  | .unwantedValue => "a value is not expected"

/-- What a line that is not run writes on the two streams. -/
def streams : Usage → String × String
  | .help => (helpText, "")
  | .version => (versionText, "")
  | .helpOnMissing => ("", helpText)
  | other => ("", "error: " ++ other.complaint ++ "\n\n" ++ helpText)

end Usage

end ApkForge.CommandLine
