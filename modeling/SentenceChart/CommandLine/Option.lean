/-!
# Options

Some options are switches and some take a value.  `Choice.all` lists them in
the order in which the help text and the messages name them.
-/

namespace SentenceChart.CommandLine

/-- The options without a value. -/
inductive Switch where
  | help
  | examples
  | showGrammar
  | json
  | verbose
deriving DecidableEq

/-- The options with a value. -/
inductive Setting where
  | dataFile
  | maxTokens
  | logDir
deriving DecidableEq

/-- An option of either kind. -/
inductive Choice where
  | switch (switch : Switch)
  | setting (setting : Setting)
deriving DecidableEq

namespace Choice

def longName : Choice → String
  | .switch .help => "--help"
  | .setting .dataFile => "--data_file"
  | .switch .examples => "--examples"
  | .switch .showGrammar => "--show_grammar"
  | .switch .json => "--json"
  | .setting .maxTokens => "--max_tokens"
  | .setting .logDir => "--log_dir"
  | .switch .verbose => "--verbose"

/-- The name of an option in messages about it: help has a short name too. -/
def name : Choice → String
  | .switch .help => "-h/--help"
  | choice => choice.longName

def all : List Choice :=
  [.switch .help, .setting .dataFile, .switch .examples,
    .switch .showGrammar, .switch .json, .setting .maxTokens,
    .setting .logDir, .switch .verbose]

/-- The option with a long name. -/
def named? (text : List Char) : Option Choice :=
  all.find? (·.longName.toList == text)

/-- The options whose long names begin with a text. -/
def beginning (text : List Char) : List Choice :=
  all.filter (text.isPrefixOf ·.longName.toList)

end Choice

end SentenceChart.CommandLine
