import BlazorBridge.CommandLine.Arguments
import BlazorBridge.Template
import BlazorBridge.Text.Fill

/-!
# Help

The usage line and the help text, built from the list of options. Help on an option stands in a column
of its own, and begins on a new line if the spellings of the option reach into that column. Help on the
namespace is a template: it shows the namespace used when none is given, and directives in that namespace
are expanded.
-/

namespace BlazorBridge.CommandLine

/-- The name of the program. -/
def programName : Text := "jsinterop".toList

/-- What the program does. -/
def purpose : Text :=
  "Blazor JS Interop Generator - Generate C# wrappers for JavaScript modules".toList

/-- The width of the help text. -/
def helpWidth : Nat := 78

/-- The column in which help on options stands. -/
def helpColumn : Nat := 24

namespace Flag

/-- What stands for the value of an option. -/
def valueText : Flag → Text
  | .input => " INPUT".toList
  | .space => " NAMESPACE".toList
  | _ => []

/-- An option in the usage line; brackets mark those that may be left out. -/
def usage (f : Flag) : Text :=
  match f with
  | .input => f.shortText ++ f.valueText
  | _ => "[".toList ++ f.shortText ++ f.valueText ++ "]".toList

/-- The help on the namespace, as a template; `space` is the namespace used when none is given. -/
def spaceTemplate (space : Text) : Text :=
  "C# namespace for the generated wrapper (default: ".toList ++ space ++ ")".toList

/-- What the keys in the help on the namespace stand for. -/
def spaceFields (space : Text) : List (Text × Template.Value) :=
  [("option_strings".toList, .list [Flag.space.shortText, Flag.space.longText]),
   ("dest".toList, .text Flag.space.long),
   ("nargs".toList, .unset),
   ("const".toList, .unset),
   ("default".toList, .text space),
   ("type".toList, .unset),
   ("choices".toList, .unset),
   ("required".toList, .truth false),
   ("help".toList, .text (spaceTemplate space)),
   ("metavar".toList, .unset),
   ("container".toList, .other "_ArgumentGroup".toList
     "<argparse._ArgumentGroup object at 0x7f0000000000>".toList),
   ("prog".toList, .text programName)]

/-- What an option does; `space` is the namespace used when none is given. -/
def meaning (space : Text) : Flag → Except Template.Fault Text
  | .help => .ok "show this help message and exit".toList
  | .input => .ok "Input JavaScript file pattern (supports wildcards like '**/*.js')".toList
  | .watch => .ok "Watch for file changes and regenerate automatically".toList
  | .space => Template.expand (spaceFields space) (spaceTemplate space)
  | .verbose => .ok "Enable debug logging".toList

/-- The lines of help on an option that does what `meaning` says. -/
def helpLines (f : Flag) (meaning : Text) : List Text :=
  let spellings :=
    "  ".toList ++ f.shortText ++ f.valueText ++ ", ".toList ++ f.longText ++ f.valueText
  let column := List.replicate helpColumn ' '
  let lines := Text.fill (helpWidth - helpColumn) meaning
  if spellings.length + 2 ≤ helpColumn then
    match lines with
    | [] => [spellings]
    | line :: more =>
      (spellings ++ List.replicate (helpColumn - spellings.length) ' ' ++ line) ::
        more.map (column ++ ·)
  else spellings :: lines.map (column ++ ·)

end Flag

/-- The usage line. -/
def usageLine : Text :=
  "usage: ".toList ++ programName ++ " ".toList ++ Text.join [' '] (Flag.all.map Flag.usage)

/-- The help text. -/
def helpText (space : Text) : Except Template.Fault Text :=
  (Flag.all.mapM fun (f : Flag) => (f.meaning space).map f.helpLines).map fun helps =>
    ([usageLine, [], purpose, [], "options:".toList] ++ helps.flatten).flatMap (· ++ ['\n'])

/-- What is printed for a usage fault. -/
def UsageFault.report (fault : UsageFault) : Text :=
  usageLine ++ ['\n'] ++ programName ++ ": error: ".toList ++ fault.message ++ ['\n']

end BlazorBridge.CommandLine
