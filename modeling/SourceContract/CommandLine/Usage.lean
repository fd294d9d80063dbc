import SourceContract.CommandLine.Run

/-!
# Help and refusals

What is shown instead of a run: the help, the version, or why the arguments are
refused.
-/

namespace SourceContract.CommandLine

def usageLine : String := "Usage: contractlint [OPTIONS] [ROOT]"

def optionLines : List (String × String) :=
  [("-c, --contract <CONTRACT>", "Path to contract YAML file (default: auto-discover in the root)"),
   ("-t, --template <TEMPLATE>", "Built-in contract template to run"),
   ("-o, --output <OUTPUT>",
    "Report document path (default: from the contract, relative to the root)"),
   ("-f, --format <FORMAT>", "Output format: pretty or json [default: pretty]"),
   ("    --no-report", "Do not write the report document"),
   ("-j, --parallel", "Evaluate checks in parallel"),
   ("    --list-templates", "List built-in contract templates"),
   ("-v, --verbose...", "Increase log verbosity (-v info, -vv debug, -vvv trace)"),
   ("-h, --help", "Print help"),
   ("-V, --version", "Print version")]

def helpText : String :=
  "\n".intercalate (["Contract verification engine", "", usageLine, "", "Arguments:",
    "  [ROOT]  Project root to verify [default: the current working directory]", "", "Options:"]
    ++ optionLines.map fun (name, meaning) => "  " ++ Console.padRight 27 name ++ meaning) ++ "\n"

def Refusal.reason : Refusal → String
  | .help => ""
  | .version => ""
  | .unknownArgument => "unexpected argument found"
  | .invalidValue => "a value is required"
  | .conflict => "an argument cannot be used together with another one, or more than once"
  | .tooManyValues => "unexpected value for a flag"

def Refusal.outcome (r : Refusal) : Outcome :=
  match r with
  | .help => ⟨r.exitCode, helpText, ""⟩
  | .version => ⟨r.exitCode, "contractlint " ++ CommandLine.version ++ "\n", ""⟩
  | _ => ⟨r.exitCode, "", "error: " ++ r.reason ++ "\n\n" ++ usageLine ++
      "\n\nFor more information, try '--help'.\n"⟩

/-! ## Colour -/

structure ColourWishes where
  colour : Option String
  noColour : Option String
  forced : Option String

/-- Any value but zero switches on.  What is forced comes first, then what is forbidden; otherwise
colour is shown on a terminal. -/
def ColourWishes.decide (w : ColourWishes) (terminal : Bool) : Bool :=
  let on (value : String) : Bool := value != "0"
  if w.forced.any on then true
  else if w.noColour.isSome then false
  else (w.colour.all on) && terminal

end SourceContract.CommandLine
