import TableForge.CommandLine.Arguments
import TableForge.Report.Generation

/-!
# Commands

Three commands: `generate` renders templates into a folder, `check` lints without writing, and
`completions` prints a script for a shell. Options of all commands may stand before the command.
-/
namespace TableForge.CommandLine

inductive Shell where
  | bash
  | elvish
  | fish
  | powershell
  | zsh
deriving DecidableEq, Repr

def Shell.name : Shell → String
  | bash => "bash"
  | elvish => "elvish"
  | fish => "fish"
  | powershell => "powershell"
  | zsh => "zsh"

def Shell.all : List Shell := [bash, elvish, fish, powershell, zsh]

/-- The shell with the given name. -/
def Shell.named? (name : String) : Option Shell :=
  Shell.all.find? fun shell => shell.name = name

/-- Where the inputs are and how the report is printed. -/
structure Inputs where
  dataset : Path
  templates : Path
  json : Bool
deriving DecidableEq, Repr

inductive Command where
  | generate (inputs : Inputs) (options : GenerateOptions)
  | check (inputs : Inputs)
  | completions (shell : Shell)
deriving DecidableEq, Repr

/-- Options that every command has. -/
def sharedOptions : List OptionSpec := [.verbose, .help]

def noPositional (_ : String) : Bool := false

def generateGrammar : Grammar where
  options := sharedOptions ++ [.dataset, .templates, .output, .package, .dryRun, .json]
  acceptsPositional := noPositional

def checkGrammar : Grammar where
  options := sharedOptions ++ [.dataset, .templates, .json]
  acceptsPositional := noPositional

def completionsGrammar : Grammar where
  options := sharedOptions
  acceptsPositional name := (Shell.named? name).isSome

/-- What may stand before the command. -/
def topGrammar : Grammar where
  options := sharedOptions ++ [.version]
  acceptsPositional := noPositional

def inputs (g : Given) : Inputs where
  dataset := ⟨(g.value? .dataset).getD "data.toml"⟩
  templates := ⟨(g.value? .templates).getD "."⟩
  json := g.has .json

def generateOptions (g : Given) : GenerateOptions where
  output := (g.value? .output).map Path.mk
  package := g.value? .package
  dryRun := g.has .dryRun

/-- Reads the arguments behind the name of a command. An output folder is needed unless nothing is
written. -/
def readCommand (name : String) (arguments : List String) : Except Stop Command := do
  if name = "generate" then
    let g ← readArguments generateGrammar arguments
    if g.has .output ∨ g.has .dryRun then .ok (.generate (inputs g) (generateOptions g))
    else .error .misuse
  else if name = "check" then
    let g ← readArguments checkGrammar arguments
    .ok (.check (inputs g))
  else if name = "completions" then
    let g ← readArguments completionsGrammar arguments
    match g.positional.findSome? Shell.named? with
    | some shell => .ok (.completions shell)
    | none => .error .misuse
  else if name = "help" then
    match arguments with
    | [] => .error .help
    | [topic] =>
      .error (if topic ∈ ["generate", "check", "completions", "help"] then .help else .misuse)
    | _ => .error .misuse
  else .error .misuse

/-- Reads a whole command line. -/
def read : List String → Except Stop Command
  | [] => .error .misuse
  | argument :: rest =>
    match dashed? argument with
    | none => readCommand argument rest
    | some options => do
      let _ ← readDashed topGrammar {} options
      read rest

end TableForge.CommandLine
