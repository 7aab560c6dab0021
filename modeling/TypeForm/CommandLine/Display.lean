import TypeForm.Report
import TypeForm.Tag

/-!
# What a run shows

Texts for the terminal, with or without colours.
-/
namespace TypeForm.Display

/-- Text in a style, given by its codes, if colours are on. -/
def styled (colours : Bool) (codes text : String) : String :=
  if colours then "\x1b[" ++ codes ++ "m" ++ text ++ "\x1b[0m" else text

def bold : String := "1"
def red : String := "31"
def green : String := "32"
def yellow : String := "33"
def cyan : String := "36"
def brightBlue : String := "94"

/-- Several styles at once. -/
def styles (codes : List String) : String :=
  ";".intercalate codes

/-- Text with spaces after it up to a width. -/
def padRight (width : Nat) (text : String) : String :=
  text ++ String.ofList (List.replicate (width - text.length) ' ')

def lines (texts : List String) : String :=
  String.join (texts.map (· ++ "\n"))

/-- A tag with its range, if it has one. -/
def tagLine (colours : Bool) (tag : TypeTag) : String :=
  match tag.intType? with
  | some type => "  " ++ styled colours green (padRight 10 tag.name) ++ " " ++ type.range.text
  | none => "  " ++ styled colours green tag.name

/-- The list of tags. -/
def tags (colours : Bool) : String :=
  lines (styled colours bold "Type tags:" :: TypeTag.all.map (tagLine colours))

/-- A count, in one style if there is any and else in green. -/
def countText (colours : Bool) (codes : String) (count : Nat) : String :=
  styled colours (if count = 0 then green else codes) (toString count)

def severityText (colours : Bool) : Severity → String
  | .error => styled colours (styles [bold, red]) "ERROR"
  | .warn => styled colours (styles [bold, yellow]) "WARN"
  | .info => styled colours cyan "INFO"

/-- A diagnostic with what is known about it, each on a line. -/
def diagnosticLines (colours : Bool) (diagnostic : Diagnostic) : List String :=
  ["  [" ++ severityText colours diagnostic.severity ++ "] " ++ diagnostic.code.name ++ ": "
    ++ diagnostic.message]
  ++ (diagnostic.location.map fun location => "    at " ++ location.text).toList
  ++ (diagnostic.expected.map ("    Expected: " ++ ·)).toList
  ++ (diagnostic.actual.map ("    Actual:   " ++ ·)).toList

/-- The diagnostics of a report, or that there are none. -/
def findingLines (colours : Bool) (diagnostics : List Diagnostic) : List String :=
  if diagnostics.isEmpty then [styled colours (styles [bold, green]) "✓ No issues found!"]
  else styled colours bold "Diagnostics:" :: diagnostics.flatMap (diagnosticLines colours)

/-- A report as the end of a run shows it. -/
def report (colours : Bool) (report : Report) : String :=
  let rule := styled colours brightBlue (String.ofList (List.replicate 60 '='))
  let summary := report.summary
  lines <|
    ["", rule, styled colours (styles [bold, brightBlue]) "Validation Report", rule, "",
      "Version: " ++ report.version.text, "Timestamp: " ++ report.timestamp, "",
      styled colours bold "Summary:",
      s!"  Documents: {summary.documentsChecked} checked, {summary.documentsValid} valid",
      s!"  Total diagnostics: {summary.total}",
      "  Errors:   " ++ countText colours (styles [bold, red]) summary.errors,
      "  Warnings: " ++ countText colours yellow summary.warnings,
      s!"  Info:     {summary.info}", ""]
    ++ findingLines colours report.diagnostics

/-- The version of the program. -/
def version : String := "jtdc 0.1.0\n"

/-- How to call the program. -/
def help : String :=
  lines
    ["JSON Type Definition `type` keyword compiler",
      "",
      "Usage: jtdc [OPTIONS] <COMMAND>",
      "",
      "Commands:",
      "  compile   Print the generated validator source for a schema",
      "  validate  Validate JSON documents against a schema",
      "  tags      List the supported type tags",
      "",
      "Options:",
      "  -c, --config <CONFIG>  Path to config file (default: jtdc.toml)",
      "  -v, --verbose          Enable verbose output",
      "      --fields           Treat the schema as an object of field name to schema node",
      "  -o, --output <OUTPUT>  Write the source or the report to a file",
      "  -h, --help             Print help",
      "  -V, --version          Print version"]

end TypeForm.Display
