import MigrationDbml.Text.ControlSequence

/-!
# Help

The texts that the command prints about itself. The help shows the setting that
switches colours off, in the column of the descriptions. Its headings are bold and
underlined, and the names of options are bold. Where styles are not wanted, it is
printed without control sequences, also those of the setting: one that the setting
leaves open ends at the next name in bold.
-/

namespace MigrationDbml.Command

/-- The name and the version of the command. -/
def versionText : Text := "rails-dbml 0.1.0".toList

/-- The setting that switches colours off, with its lines in a column. -/
def shownSetting (column : Nat) (value : Text) : Text :=
  "[env: NO_COLOR=".toList
    ++ (value.flatMap fun c => if c = '\n' then c :: List.replicate column ' ' else [c]) ++ [']']

/-- A line that starts with a heading. -/
def headingLine (heading rest : String) : Text :=
  ControlSequence.styled [['1'], ['4']] heading.toList ++ rest.toList

/-- A line with names of an option, between a margin and the rest of the line. -/
def optionLine (margin : String) (names : List String) (rest : String) : Text :=
  margin.toList
    ++ ", ".toList.intercalate (names.map fun n => ControlSequence.styled [['1']] n.toList)
    ++ rest.toList

/-- The lines of the full help, up to the setting. -/
def fullHelpStart : List Text :=
  ["Convert a Rails migration schema into DBML.".toList,
   [],
   ("Reads `create_table` blocks and `t.<type>` column declarations from the source "
     ++ "file and writes the equivalent DBML tables to the target file. Everything else "
     ++ "in the source is skipped.").toList,
   [],
   headingLine "Usage:" " rails-dbml [OPTIONS] <SRC_FILE> <TGT_FILE>",
   [],
   headingLine "Arguments:" "",
   "  [SRC_FILE]".toList,
   "          Migration schema to read, e.g. db/schema.rb".toList,
   [],
   "  [TGT_FILE]".toList,
   "          DBML file to write".toList,
   [],
   headingLine "Options:" "",
   optionLine "      " ["--format"] " <FORMAT>",
   "          Output format: human (default), json, plain".toList,
   "          ".toList,
   "          [default: human]".toList,
   "          [possible values: human, json, plain]".toList,
   [],
   optionLine "  " ["-v", "--verbose"] "...",
   "          Increase verbosity (-v, -vv, -vvv)".toList,
   [],
   optionLine "  " ["-q", "--quiet"] "",
   "          Suppress all non-error output".toList,
   [],
   optionLine "      " ["--no-color"] "",
   "          Disable colored output [env: NO_COLOR]".toList,
   "          ".toList]

/-- The lines of the full help, after the setting. -/
def fullHelpEnd : List Text :=
  [[],
   optionLine "  " ["-h", "--help"] "",
   "          Print help (see a summary with '-h')".toList,
   [],
   optionLine "  " ["-V", "--version"] "",
   "          Print version".toList,
   [],
   "Example: rails-dbml db/schema.rb schema.dbml".toList]

/-- The lines of the full help. -/
def fullHelp (setting : Text) : List Text :=
  fullHelpStart ++ (List.replicate 10 ' ' ++ shownSetting 10 setting) :: fullHelpEnd

/-- The lines of the brief help, up to the setting. -/
def briefHelpStart : List Text :=
  ["Convert a Rails migration schema into DBML".toList,
   [],
   headingLine "Usage:" " rails-dbml [OPTIONS] <SRC_FILE> <TGT_FILE>",
   [],
   headingLine "Arguments:" "",
   "  [SRC_FILE]  Migration schema to read, e.g. db/schema.rb".toList,
   "  [TGT_FILE]  DBML file to write".toList,
   [],
   headingLine "Options:" "",
   optionLine "      " ["--format"] (" <FORMAT>  Output format: human (default), json, plain "
     ++ "[default: human] [possible values: human, json, plain]"),
   optionLine "  " ["-v", "--verbose"] "...       Increase verbosity (-v, -vv, -vvv)",
   optionLine "  " ["-q", "--quiet"] "            Suppress all non-error output"]

/-- The lines of the brief help, after the setting. -/
def briefHelpEnd : List Text :=
  [optionLine "  " ["-h", "--help"] "             Print help (see more with '--help')",
   optionLine "  " ["-V", "--version"] "          Print version",
   [],
   "Example: rails-dbml db/schema.rb schema.dbml".toList]

/-- The lines of the brief help. -/
def briefHelp (setting : Text) : List Text :=
  briefHelpStart
    ++ (optionLine "      " ["--no-color"] "         Disable colored output [env: NO_COLOR] "
      ++ shownSetting 25 setting) :: briefHelpEnd

/-- The help under a setting that switches colours off, without a line feed at its end. -/
def helpText (full styles : Bool) (setting : Option Text) : Text :=
  let value := setting.getD []
  let text := ['\n'].intercalate (if full then fullHelp value else briefHelp value)
  if styles then text else ControlSequence.strip text

end MigrationDbml.Command
