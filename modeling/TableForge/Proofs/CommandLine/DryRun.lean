import TableForge.CommandLine.Execution
import TableForge.Proofs.Generation.Run

/-!
# Checking and dry runs on the same inputs

The command line of a check becomes that of a dry run when the command is exchanged and the call for
a dry run is put behind it. Both read their inputs alike: either both are misunderstood, or they
load the same dataset and the same templates.
-/
namespace TableForge.CommandLine

/-- The arguments that say where the inputs are, as far as they are given. -/
def inputArguments (dataset templates : Option String) : List String :=
  dataset.elim [] (fun path => ["-d", path]) ++ templates.elim [] (fun path => ["-t", path])

/-- What was read, behind a call for a dry run. -/
def Given.dry (g : Given) : Given :=
  { g with options := g.options ++ [(OptionSpec.dryRun.long, "")] }

namespace Given

theorem value?_dry {g : Given} {o : OptionSpec} (h : o.long ≠ OptionSpec.dryRun.long) :
    g.dry.value? o = g.value? o := by
  simp [value?, dry, List.lookup_append, lookup_cons_eq_ite, h]

theorem note_dry {g : Given} {o : OptionSpec} (h : o.long ≠ OptionSpec.dryRun.long)
    (value : String) : g.dry.note o value = (g.note o value).map dry := by
  unfold note
  rw [has, value?_dry h, ← has]
  simp only [apply_ite (Except.map dry)]
  rfl

theorem inputs_dry (g : Given) : inputs g.dry = inputs g := by
  simp only [inputs, has]
  rw [value?_dry (by decide), value?_dry (by decide), value?_dry (by decide)]

theorem has_dryRun_dry (g : Given) : g.dry.has .dryRun = true := by
  simp only [has, value?, dry, List.lookup_append]
  cases g.options.lookup OptionSpec.dryRun.long <;> rfl

end Given

/-- An option that is given by its letter takes the next argument, unless that looks like an option
itself. -/
theorem readFrom_letter {grammar : Grammar} {flag : String} {c : Char} {o : OptionSpec}
    (hflag : dashed? flag = some (.letters [c]))
    (ho : (grammar.options.find? fun o => o.short = some c) = some o) (hv : o.takesValue = true)
    (g : Given) (value : String) (rest : List String) :
    readFrom grammar (g, none) (flag :: value :: rest) =
      if (dashed? value).isSome then .error .misuse
      else (g.note o value).bind fun g => readFrom grammar (g, none) rest := by
  have hdashes : flag ≠ "--" := by
    rintro rfl
    have hlong : dashed? "--" = some (.long [] none) := by decide
    rw [hlong] at hflag
    cases hflag
  have hletters : readDashed grammar g (.letters [c]) = .ok (g, some o) := by
    simp [readDashed, readLetters, ho, hv]
  rw [readFrom, if_neg hdashes, hflag]
  simp only [hletters]
  rfl

/-- An option with a value that both grammars know is read by both alike. -/
theorem readFrom_letter_dry {flag : String} {c : Char} {o : OptionSpec}
    (hflag : dashed? flag = some (.letters [c]))
    (hcheck : (checkGrammar.options.find? fun o => o.short = some c) = some o)
    (hgenerate : (generateGrammar.options.find? fun o => o.short = some c) = some o)
    (hv : o.takesValue = true) (ho : o.long ≠ OptionSpec.dryRun.long) {rest : List String}
    (hrest : ∀ g : Given, readFrom generateGrammar (g.dry, none) rest =
      (readFrom checkGrammar (g, none) rest).map Given.dry) (g : Given) (value : String) :
    readFrom generateGrammar (g.dry, none) (flag :: value :: rest) =
      (readFrom checkGrammar (g, none) (flag :: value :: rest)).map Given.dry := by
  rw [readFrom_letter hflag hgenerate hv, readFrom_letter hflag hcheck hv,
    Given.note_dry ho]
  split
  · rfl
  · cases g.note o value with
    | error stop => rfl
    | ok noted => exact hrest noted

/-- The places of the inputs are read by both commands alike. -/
theorem readFrom_inputArguments_dry (dataset templates : Option String) (g : Given) :
    readFrom generateGrammar (g.dry, none) (inputArguments dataset templates) =
      (readFrom checkGrammar (g, none) (inputArguments dataset templates)).map Given.dry := by
  have hnone (g : Given) : readFrom generateGrammar (g.dry, none) [] =
      (readFrom checkGrammar (g, none) []).map Given.dry := rfl
  have htemplates (g : Given) :
      readFrom generateGrammar (g.dry, none) (templates.elim [] fun path => ["-t", path]) =
        (readFrom checkGrammar (g, none) (templates.elim [] fun path => ["-t", path])).map
          Given.dry := by
    cases templates with
    | none => exact hnone g
    | some path =>
      exact readFrom_letter_dry (c := 't') (o := .templates) (by decide) (by decide) (by decide)
        (by decide) (by decide) hnone g path
  cases dataset with
  | none => exact htemplates g
  | some path =>
    exact readFrom_letter_dry (c := 'd') (o := .dataset) (by decide) (by decide) (by decide)
      (by decide) (by decide) htemplates g path

theorem read_check (arguments : List String) :
    read ("check" :: arguments) =
      (readArguments checkGrammar arguments).map fun g => .check (inputs g) := by
  have hname : dashed? "check" = none := by decide
  rw [read, hname]
  rfl

/-- A call for a dry run stands behind the command and needs no output folder. -/
theorem read_dryRun (dataset templates : Option String) :
    read ("generate" :: "--dry-run" :: inputArguments dataset templates) =
      (readArguments checkGrammar (inputArguments dataset templates)).map fun g =>
        .generate (inputs g) (generateOptions g.dry) := by
  have hname : dashed? "generate" = none := by decide
  have hdry : readArguments generateGrammar ("--dry-run" :: inputArguments dataset templates) =
      (readArguments checkGrammar (inputArguments dataset templates)).map Given.dry :=
    readFrom_inputArguments_dry dataset templates {}
  rw [read, hname]
  simp only [readCommand, hdry]
  cases readArguments checkGrammar (inputArguments dataset templates) with
  | error stop => rfl
  | ok g =>
    have hdryRun : g.dry.has .output = true ∨ g.dry.has .dryRun = true :=
      Or.inr g.has_dryRun_dry
    have hinputs : inputs g.dry = inputs g := g.inputs_dry
    simp only [if_true, Except.map, bind, Except.bind, hdryRun, hinputs]

end TableForge.CommandLine
