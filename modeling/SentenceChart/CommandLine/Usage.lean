import SentenceChart.CommandLine.Request

/-!
# Usage texts

The texts of the help and of wrong arguments.
-/

namespace SentenceChart.CommandLine

/-- The options and arguments at a glance. -/
def usageText : String :=
  "usage: main.py [-h] [--data_file DATA_FILE] [--examples] " ++
    "[--show_grammar]\n" ++
  "               [--json] [--max_tokens MAX_TOKENS] [--log_dir LOG_DIR]\n" ++
  "               [--verbose]\n" ++
  "               [sentences ...]\n"

def helpText : String :=
  usageText ++ "\n" ++
  "Check sentences against the toy grammar with a CYK parser.\n" ++ "\n" ++
  "positional arguments:\n" ++
  "  sentences\n" ++ "\n" ++
  "options:\n" ++
  "  -h, --help            show this help message and exit\n" ++
  "  --data_file DATA_FILE\n" ++
  "  --examples\n" ++
  "  --show_grammar\n" ++
  "  --json\n" ++
  "  --max_tokens MAX_TOKENS\n" ++
  "  --log_dir LOG_DIR\n" ++
  "  --verbose\n"

/-- The text about wrong arguments. -/
def UsageError.report (error : UsageError) : String :=
  usageText ++ "main.py: error: " ++ error.message ++ "\n"

end SentenceChart.CommandLine
