import TableForge.Path

/-!
# Command-line arguments

Arguments are read from left to right, and the first that settles the matter does: a call for help,
a call for the version, or a mistake. Options have a long name and mostly a letter; letters of
options without a value may be written together, and a value is attached, put behind an equals sign
or given as the next argument. An option is given once, except for the verbosity, which is counted.
Paths are never empty. Behind `--` nothing is an option.
-/
namespace TableForge.CommandLine

/-- What an option takes. -/
inductive Arity where
  /-- Nothing; given at most once. -/
  | flag
  /-- Nothing; given any number of times. -/
  | counter
  /-- A text that may be empty. -/
  | text
  /-- A text that may not be empty. -/
  | path
deriving DecidableEq, Repr

structure OptionSpec where
  long : String
  short : Option Char
  arity : Arity
deriving DecidableEq, Repr

namespace OptionSpec

def takesValue (o : OptionSpec) : Bool :=
  o.arity = .text || o.arity = .path

def verbose : OptionSpec := ⟨"verbose", some 'v', .counter⟩
def help : OptionSpec := ⟨"help", some 'h', .flag⟩
def version : OptionSpec := ⟨"version", some 'V', .flag⟩
def dataset : OptionSpec := ⟨"dataset", some 'd', .path⟩
def templates : OptionSpec := ⟨"templates", some 't', .path⟩
def output : OptionSpec := ⟨"output", some 'o', .path⟩
def package : OptionSpec := ⟨"package", some 'p', .text⟩
def dryRun : OptionSpec := ⟨"dry-run", none, .flag⟩
def json : OptionSpec := ⟨"json", none, .flag⟩

end OptionSpec

/-- The options of a command and the test for what may stand beside them, of which there is at most
one. -/
structure Grammar where
  options : List OptionSpec
  acceptsPositional : String → Bool

/-- What was read so far: options with their values, and the arguments that are no options. -/
structure Given where
  options : List (String × String) := []
  positional : List String := []
deriving DecidableEq, Repr

/-- Why reading stops early. -/
inductive Stop where
  | help
  | version
  | misuse
deriving DecidableEq, Repr

namespace Given

def value? (g : Given) (o : OptionSpec) : Option String :=
  g.options.lookup o.long

def has (g : Given) (o : OptionSpec) : Bool :=
  (g.value? o).isSome

/-- Notes an option with its value. -/
def note (g : Given) (o : OptionSpec) (value : String) : Except Stop Given :=
  if o = .help then .error .help
  else if o = .version then .error .version
  else if o.arity ≠ .counter ∧ g.has o then .error .misuse
  else if o.arity = .path ∧ value = "" then .error .misuse
  else .ok { g with options := (o.long, value) :: g.options }

def notePositional (grammar : Grammar) (g : Given) (argument : String) : Except Stop Given :=
  if g.positional = [] ∧ grammar.acceptsPositional argument then
    .ok { g with positional := [argument] }
  else .error .misuse

end Given

/-- The parts of an argument that begins with a dash and is more than a dash. -/
inductive Dashed where
  | long (name : List Char) (value : Option (List Char))
  | letters (letters : List Char)
deriving DecidableEq, Repr

/-- Reads an argument as options, if it looks like some. -/
def dashed? (argument : String) : Option Dashed :=
  match argument.toList with
  | '-' :: '-' :: rest =>
    match Text.cut? ['='] rest with
    | some (name, value) => some (.long name (some value))
    | none => some (.long rest none)
  | '-' :: c :: rest => some (.letters (c :: rest))
  | _ => none

/-- An option that still waits for its value, and what was read before it. -/
abbrev Pending := Given × Option OptionSpec

/-- Reads letters that are written together. The first that takes a value takes all that follows. -/
def readLetters (grammar : Grammar) (g : Given) : List Char → Except Stop Pending
  | [] => .ok (g, none)
  | c :: rest =>
    match grammar.options.find? fun o => o.short = some c with
    | none => .error .misuse
    | some o =>
      if o.takesValue then
        match rest with
        | [] => .ok (g, some o)
        | '=' :: value => (g.note o (String.ofList value)).map fun g => (g, none)
        | value => (g.note o (String.ofList value)).map fun g => (g, none)
      else (g.note o "").bind fun g => readLetters grammar g rest

def readDashed (grammar : Grammar) (g : Given) : Dashed → Except Stop Pending
  | .letters letters => readLetters grammar g letters
  | .long name value =>
    match grammar.options.find? fun o => o.long.toList = name, value with
    | none, _ => .error .misuse
    | some o, some value =>
      if o.takesValue then (g.note o (String.ofList value)).map fun g => (g, none)
      else .error .misuse
    | some o, none =>
      if o.takesValue then .ok (g, some o) else (g.note o "").map fun g => (g, none)

/-- Reads arguments from left to right; an option that waits takes the first of them. -/
def readFrom (grammar : Grammar) : Pending → List String → Except Stop Given
  | (g, none), [] => .ok g
  | (_, some _), [] => .error .misuse
  | (g, some o), value :: rest =>
    if (dashed? value).isSome then .error .misuse
    else do
      let g ← g.note o value
      readFrom grammar (g, none) rest
  | (g, none), argument :: rest =>
    if argument = "--" then rest.foldlM (Given.notePositional grammar) g
    else
      match dashed? argument with
      | none => do
        let g ← Given.notePositional grammar g argument
        readFrom grammar (g, none) rest
      | some options => do
        let pending ← readDashed grammar g options
        readFrom grammar pending rest

/-- Reads the arguments of a command. -/
def readArguments (grammar : Grammar) (arguments : List String) : Except Stop Given :=
  readFrom grammar ({}, none) arguments

end TableForge.CommandLine
