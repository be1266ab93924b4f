import TableForge.CommandLine.Command
import TableForge.Dataset.Validation
import TableForge.Report.Check

/-!
# Executing a command line

What a call prints and the code that it exits with: 0 when all is well, 1 when the inputs cannot be
loaded, the disk fails, a pass is aborted or a check finds errors, and 2 when the command line is
wrong. Failures other than those a report tells of are shown on a page of their own.
-/
namespace TableForge.CommandLine

/-- A failure that is no part of a report. -/
inductive Failure where
  | misuse
  | load (error : LoadError)
  | generate (error : GenerateError)
deriving DecidableEq, Repr

structure Execution where
  code : UInt32
  printed : Printed := {}
  failure : Option Failure := none
deriving DecidableEq, Repr

/-- How the program is called. -/
def usage : String :=
  "\n".intercalate
    ["Generate data classes from TOML datasets and language templates",
     "",
     "Usage: tableforge [-v] <command> [options]",
     "",
     "Commands:",
     "  generate     Generate source files from a dataset and a template package",
     "  check        Check a dataset against a template package without writing anything",
     "  completions  Generate shell completions",
     "",
     "Options:",
     "  -d, --dataset <path>    The dataset [default: data.toml]",
     "  -t, --templates <path>  The template package [default: .]",
     "  -o, --output <path>     The output directory; every file in it is deleted first",
     "  -p, --package <name>    Override the package name of the dataset",
     "      --dry-run           Print everything and write nothing",
     "      --json              Print the report as JSON",
     "  -v, --verbose           Say more",
     "  -h, --help              Print help",
     "  -V, --version           Print the version",
     ""]

def version : String := "tableforge 0.3.0\n"

/-- A script that makes a shell offer the commands. -/
def completionScript : Shell → String
  | .bash => "complete -W 'generate check completions help' tableforge\n"
  | .zsh => "compdef '_arguments 1:command:(generate check completions help)' tableforge\n"
  | .fish => "complete -c tableforge -f -a 'generate check completions help'\n"
  | .powershell =>
    "Register-ArgumentCompleter -CommandName tableforge -ScriptBlock \x7b "
      ++ "'generate', 'check', 'completions', 'help' \x7d\n"
  | .elvish =>
    "set edit:completion:arg-completer[tableforge] = \x7b|@a| "
      ++ "put generate check completions help \x7d\n"

namespace Failure

/-- What the page says. -/
def page : Failure → String
  | misuse => "error: the command line is not understood\n\n" ++ usage
  | load error =>
    "Error: " ++ error.code ++ "\n\n  × " ++ error.message ++ "\n"
      ++ error.fault?.elim "" (fun fault => "  ╰─▶ " ++ fault.message ++ "\n")
      ++ error.help.elim "" fun help => "  help: " ++ help ++ "\n"
  | generate error =>
    "Error: " ++ error.message ++ "\n"
      ++ error.cause?.elim "" fun cause =>
        "  " ++ cause.message ++ ": " ++ cause.fault.message ++ "\n"

def exitCode : Failure → UInt32
  | misuse => 2
  | _ => 1

end Failure

def failed (failure : Failure) : Execution where
  code := failure.exitCode
  failure := some failure

/-- A report that was printed; `ok` is what it says about the run. -/
def reported (ok : Bool) (printed : Printed) : Execution where
  code := if ok then 0 else 1
  printed

/-- Prints a report for people or for programs. -/
def printReport (json : Bool) (document : Json) (lines : List OutputLine) : Printed :=
  if json then { out := document.print ++ "\n" } else OutputLine.printAll lines

variable {m : Type → Type} [Monad m] [Disk m]

/-- Loads the inputs, the dataset first. -/
def loadInputs (inputs : Inputs) : m (Except LoadError (Dataset × TemplatePackage)) := do
  match ← Dataset.load inputs.dataset with
  | .error error => return .error error
  | .ok dataset =>
    match ← TemplatePackage.load inputs.templates with
    | .error error => return .error error
    | .ok package => return .ok (dataset, package)

def executeCommand (clock : Clock) : Command → m Execution
  | .completions shell => return reported true { out := completionScript shell }
  | .check inputs => do
    match ← loadInputs inputs with
    | .error error => return failed (.load error)
    | .ok (dataset, package) =>
      let report := check dataset package inputs.dataset
      return reported report.isValid (printReport inputs.json report.json report.lines)
  | .generate inputs options => do
    match ← loadInputs inputs with
    | .error error => return failed (.load error)
    | .ok (dataset, package) =>
      match ← generate dataset package options with
      | .error error => return failed (.generate error)
      | .ok report =>
        return reported report.isSuccess
          (printReport inputs.json (report.json clock) (report.lines clock))

/-- Executes a command line. -/
def execute (clock : Clock) (arguments : List String) : m Execution :=
  match read arguments with
  | .ok command => executeCommand clock command
  | .error .help => return reported true { out := usage }
  | .error .version => return reported true { out := version }
  | .error .misuse => return failed .misuse

end TableForge.CommandLine
