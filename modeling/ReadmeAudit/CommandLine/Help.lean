/-!
# The help text

The fixed texts of the command line.
-/

namespace ReadmeAudit.CommandLine

/-- The name of the program. -/
def programName : String := "readme-validator"

/-- The version of the program. -/
def versionText : String := programName ++ ", version 0.1.0"

/-- The line on the usage. -/
def usageLine : String := "Usage: " ++ programName ++ " [OPTIONS]"

/-- The hint at the help text. -/
def hintLine : String := "Try '" ++ programName ++ " --help' for help."

/-- The lines of the help text. -/
def helpLines : List String := [
  usageLine,
  "",
  "  Check that a Terraform module README documents the module's code.",
  "",
  "  Compares resources, data sources, variables, and outputs declared in the",
  "  module with those listed in the README, and checks required sections, files,",
  "  and links.",
  "",
  "  EXAMPLES:",
  "      # Validate a module README",
  "      readme-validator --readme modules/network/README.md --provider-prefix azurerm_",
  "",
  "      # Table-style README, skip network checks     readme-validator --readme",
  "      README.md --format table --skip-urls",
  "",
  "      # Use README_PATH from the environment     README_PATH=README.md readme-",
  "      validator --provider-prefix azurerm_",
  "",
  "Options:",
  "  --readme PATH                   README to validate.",
  "  --module-path PATH              Module directory (default: README dir).",
  "  --format [document|table|auto]  Documentation layout (default: auto).",
  "  --provider-prefix TEXT          Resource prefix to recognize, e.g. azurerm_.",
  "                                  Repeatable.",
  "  --section TEXT                  Additional required section.",
  "  --file TEXT                     Additional required file.",
  "  --scan-mode [module|caller]     Terraform layout: module directory or caller",
  "                                  workspace.",
  "  --config PATH                   TOML config file.",
  "  --skip-sections                 Skip section checks.",
  "  --skip-files                    Skip required file checks.",
  "  --skip-urls                     Skip URL reachability checks.",
  "  --skip-resources                Skip resource checks.",
  "  --skip-variables                Skip variable checks.",
  "  --skip-outputs                  Skip output checks.",
  "  --fail-fast                     Stop at the first error.",
  "  -v, --verbose                   Enable debug logging.",
  "  --version                       Show the version and exit.",
  "  --help                          Show this message and exit."]

end ReadmeAudit.CommandLine
