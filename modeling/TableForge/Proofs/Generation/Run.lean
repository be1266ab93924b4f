import TableForge.Generation.Generator

/-!
# How a run ends

A disk is any state on which the four requests are answered. What a run hands to it is made visible
by a disk that notes every file it is asked to write and passes the request on. A run can end in
five ways, and each tells how far it came: without a path, without a folder, with a folder that
could not be cleared, at a file that could not be written, or with everything written. The states in
between are named here, so that what a run guarantees follows from what the single requests do.
-/
namespace TableForge

/-- The files that were asked for, each with its text, in the order of the requests. -/
abbrev WriteRequests := List (Path × String)

/-- Requests to a disk under notes of what is to be written. -/
def Noted (m : Type → Type) : Type → Type := StateT WriteRequests m

namespace Noted

variable {m : Type → Type} [Monad m]

instance : Monad (Noted m) := inferInstanceAs (Monad (StateT WriteRequests m))

/-- A disk that notes what it is asked to write and passes every request on. -/
instance [Disk m] : Disk (Noted m) where
  isFolder path := StateT.lift (Disk.isFolder path)
  readText path := StateT.lift (Disk.readText path)
  clear path := StateT.lift (Disk.clear path)
  write path text := fun notes => do
    let answer ← Disk.write path text
    return (answer, notes ++ [(path, text)])

/-- What a run does from a state on: its result and the notes, and the state behind it. -/
def start {σ α : Type} (run : Noted (StateM σ) α) (s : σ) : (α × WriteRequests) × σ :=
  run [] s

end Noted

namespace Generator

/-! ## A run step by step -/

/-- A request is answered in a state and hands the state behind it to the rest of the run. -/
theorem bind_apply {σ α β : Type} (request : StateM σ α) (rest : α → StateM σ β) (s : σ) :
    (request >>= rest) s = rest (request s).1 (request s).2 := rfl

theorem exists_state {σ α : Type} {run : α × σ} {result : α} (h : run.1 = result) :
    ∃ s, run = (result, s) := ⟨run.2, Prod.ext h rfl⟩

variable {σ : Type} [Disk (StateM σ)]

theorem writeFiles_cons (root : Path) (f : GeneratedFile) (rest : List GeneratedFile) (s : σ) :
    (writeFiles root (f :: rest) : StateM σ _) s =
      match (Disk.write (root.join f.path) f.content : StateM σ _) s with
      | (.error fault, s₁) => (.error (.write (root.join f.path) fault), s₁)
      | (.ok (), s₁) => (writeFiles root rest : StateM σ _) s₁ := by
  rw [writeFiles, bind_apply]
  rcases (Disk.write (root.join f.path) f.content : StateM σ _) s with ⟨_ | _, s₁⟩ <;> rfl

/-- Writing a list of files succeeds if every single write does, one after another. -/
theorem writeFiles_ok_cons {root : Path} {f : GeneratedFile} {rest : List GeneratedFile} {s s' : σ}
    (h : (writeFiles root (f :: rest) : StateM σ _) s = (.ok (), s')) :
    ∃ s₁, (Disk.write (root.join f.path) f.content : StateM σ _) s = (.ok (), s₁) ∧
      (writeFiles root rest : StateM σ _) s₁ = (.ok (), s') := by
  rw [writeFiles_cons] at h
  rcases hw : (Disk.write (root.join f.path) f.content : StateM σ _) s with ⟨_ | _, s₁⟩
  · rw [hw] at h
    cases h
  · rw [hw] at h
    exact ⟨s₁, rfl, h⟩

theorem writeTo_eq (g : Generator) (output : Path) (s : σ) :
    (g.writeTo output : StateM σ _) s =
      if output.text = "" then (.ok (refused "No output directory set"), s)
      else
        match (Disk.isFolder output : StateM σ _) s with
        | (false, s₁) => (.ok (refused "Output path does not exist."), s₁)
        | (true, s₁) =>
          match (Disk.clear output : StateM σ _) s₁ with
          | (.error fault, s₂) => (.error (.clear output fault), s₂)
          | (.ok _, s₂) =>
            match (writeFiles (g.config.outputRoot output) g.files : StateM σ _) s₂ with
            | (.error error, s₃) => (.error error, s₃)
            | (.ok (), s₃) => (.ok (g.completed (g.config.outputRoot output)), s₃) := by
  unfold writeTo
  split
  · rfl
  · rw [bind_apply]
    rcases (Disk.isFolder output : StateM σ _) s with ⟨_ | _, s₁⟩
    · rfl
    · simp only [Bool.not_true, Bool.false_eq_true, if_false, bind_apply]
      rcases (Disk.clear output : StateM σ _) s₁ with ⟨_ | _, s₂⟩
      · rfl
      · simp only [bind_apply]
        rcases (writeFiles (g.config.outputRoot output) g.files : StateM σ _) s₂ with ⟨_ | _, s₃⟩ <;>
          rfl

/-! ## Runs under notes -/

/-- What a file asks of the disk. -/
def request (root : Path) (f : GeneratedFile) : Path × String := (root.join f.path, f.content)

theorem noted_bind_apply {σ α β : Type} (request : Noted (StateM σ) α)
    (rest : α → Noted (StateM σ) β) (notes : WriteRequests) (s : σ) :
    (request >>= rest) notes s =
      rest (request notes s).1.1 (request notes s).1.2 (request notes s).2 := rfl

theorem isFolder_noted (path : Path) (notes : WriteRequests) (s : σ) :
    (Disk.isFolder path : Noted (StateM σ) _) notes s =
      ((((Disk.isFolder path : StateM σ _) s).1, notes),
        ((Disk.isFolder path : StateM σ _) s).2) := rfl

theorem clear_noted (path : Path) (notes : WriteRequests) (s : σ) :
    (Disk.clear path : Noted (StateM σ) _) notes s =
      ((((Disk.clear path : StateM σ _) s).1, notes), ((Disk.clear path : StateM σ _) s).2) := rfl

theorem write_noted (path : Path) (text : String) (notes : WriteRequests) (s : σ) :
    (Disk.write path text : Noted (StateM σ) _) notes s =
      ((((Disk.write path text : StateM σ _) s).1, notes ++ [(path, text)]),
        ((Disk.write path text : StateM σ _) s).2) := rfl

theorem writeFiles_noted {root : Path} {files : List GeneratedFile} {s s' : σ}
    (h : (writeFiles root files : StateM σ _) s = (.ok (), s')) (notes : WriteRequests) :
    (writeFiles root files : Noted (StateM σ) _) notes s =
      ((.ok (), notes ++ files.map fun f => (root.join f.path, f.content)), s') := by
  induction files generalizing s notes with
  | nil =>
    cases h
    rw [List.map_nil, List.append_nil]
    rfl
  | cons f rest ih =>
    obtain ⟨s₁, hw, hrest⟩ := writeFiles_ok_cons h
    simp only [writeFiles, noted_bind_apply, write_noted, hw]
    rw [ih hrest, List.append_assoc]
    rfl

variable {g : Generator} {output root : Path} {s s' : σ} {files : List GeneratedFile}
  {result : Except RunError WriteReport}

/-! ## The ways to end -/

/-- Writing stops at the first file that cannot be written; those before it were written, and no
file behind it is asked for. -/
theorem writeFiles_stopped {error : RunError}
    (h : (writeFiles root files : StateM σ _) s = (.error error, s')) (notes : WriteRequests) :
    ∃ done f rest fault s₁, files = done ++ f :: rest ∧
      error = .write (root.join f.path) fault ∧
      (writeFiles root done : StateM σ _) s = (.ok (), s₁) ∧
      (Disk.write (root.join f.path) f.content : StateM σ _) s₁ = (.error fault, s') ∧
      (writeFiles root files : Noted (StateM σ) _) notes s =
        ((.error error, notes ++ (done ++ [f]).map (request root)), s') := by
  induction files generalizing s notes with
  | nil => cases h
  | cons f rest ih =>
    rw [writeFiles_cons] at h
    rcases hw : (Disk.write (root.join f.path) f.content : StateM σ _) s with ⟨fault | u, s₁⟩
    · rw [hw] at h
      cases h
      refine ⟨[], f, rest, fault, s, rfl, rfl, rfl, hw, ?_⟩
      simp only [writeFiles, noted_bind_apply, write_noted, hw]
      rfl
    · rw [hw] at h
      obtain ⟨done, f', rest', fault, s₂, rfl, rfl, hdone, hfail, hnoted⟩ :=
        ih h (notes ++ [request root f])
      refine ⟨f :: done, f', rest', fault, s₂, rfl, rfl, ?_, hfail, ?_⟩
      · rw [writeFiles_cons, hw]
        exact hdone
      · simp only [writeFiles, noted_bind_apply, write_noted, hw]
        rw [request] at hnoted
        rw [hnoted]
        simp [request]

/-- The ways in which a run ends: its result, what it has asked to be written, and the state that it
leaves. -/
inductive Ending (g : Generator) (output : Path) (s : σ) :
    Except RunError WriteReport → WriteRequests → σ → Prop
  | pathless (hempty : output.text = "") :
    Ending g output s (.ok (refused "No output directory set")) [] s
  | notFolder {s' : σ} (hisFolder : (Disk.isFolder output : StateM σ _) s = (false, s')) :
    Ending g output s (.ok (refused "Output path does not exist.")) [] s'
  | notCleared {s₁ s' : σ} {fault : FileFault} (hpath : output.text ≠ "")
    (hisFolder : (Disk.isFolder output : StateM σ _) s = (true, s₁))
    (hclear : (Disk.clear output : StateM σ _) s₁ = (.error fault, s')) :
    Ending g output s (.error (.clear output fault)) [] s'
  | stopped {s₁ s₂ s₃ s' : σ} {removed : Nat} {done rest : List GeneratedFile} {f : GeneratedFile}
    {fault : FileFault} (hpath : output.text ≠ "")
    (hisFolder : (Disk.isFolder output : StateM σ _) s = (true, s₁))
    (hclear : (Disk.clear output : StateM σ _) s₁ = (.ok removed, s₂))
    (hfiles : g.files = done ++ f :: rest)
    (hdone : (writeFiles (g.config.outputRoot output) done : StateM σ _) s₂ = (.ok (), s₃))
    (hfail : (Disk.write ((g.config.outputRoot output).join f.path) f.content : StateM σ _) s₃ =
      (.error fault, s')) :
    Ending g output s (.error (.write ((g.config.outputRoot output).join f.path) fault))
      ((done ++ [f]).map (request (g.config.outputRoot output))) s'
  | completed {s₁ s₂ s' : σ} {removed : Nat} (hpath : output.text ≠ "")
    (hisFolder : (Disk.isFolder output : StateM σ _) s = (true, s₁))
    (hclear : (Disk.clear output : StateM σ _) s₁ = (.ok removed, s₂))
    (hdone : (writeFiles (g.config.outputRoot output) g.files : StateM σ _) s₂ = (.ok (), s')) :
    Ending g output s (.ok (g.completed (g.config.outputRoot output)))
      (g.files.map (request (g.config.outputRoot output))) s'

/-- Every run ends in one of these ways, and under notes in the same one. -/
theorem ending_of_writeTo (h : (g.writeTo output : StateM σ _) s = (result, s')) :
    ∃ requests, (g.writeTo output : Noted (StateM σ) _).start s = ((result, requests), s') ∧
      Ending g output s result requests s' := by
  rw [writeTo_eq] at h
  unfold writeTo Noted.start
  split at h
  · next hempty =>
    cases h
    rw [if_pos hempty]
    exact ⟨[], rfl, .pathless hempty⟩
  · next hpath =>
    rw [if_neg hpath]
    rcases hf : (Disk.isFolder output : StateM σ _) s with ⟨_ | _, s₁⟩
    · rw [hf] at h
      cases h
      simp only [noted_bind_apply, isFolder_noted, hf, Bool.not_false, if_true]
      exact ⟨[], rfl, .notFolder hf⟩
    · rw [hf] at h
      simp only [noted_bind_apply, isFolder_noted, hf, Bool.not_true, Bool.false_eq_true, if_false,
        clear_noted]
      rcases hc : (Disk.clear output : StateM σ _) s₁ with ⟨fault | removed, s₂⟩
      · simp only [hc] at h
        cases h
        exact ⟨[], rfl, .notCleared hpath hf hc⟩
      · simp only [hc] at h
        rcases hw : (writeFiles (g.config.outputRoot output) g.files : StateM σ _) s₂ with
          ⟨error | u, s₃⟩
        · simp only [hw] at h
          cases h
          obtain ⟨done, f, rest, fault, s₄, hfiles, rfl, hdone, hfail, hnoted⟩ :=
            writeFiles_stopped hw []
          simp only [noted_bind_apply, hnoted]
          exact ⟨_, rfl, .stopped hpath hf hc hfiles hdone hfail⟩
        · simp only [hw] at h
          cases h
          simp only [noted_bind_apply, writeFiles_noted hw []]
          exact ⟨_, rfl, .completed hpath hf hc hw⟩

/-- A completed run has found a folder, cleared it and written every file, and its report is the one
that tells so. -/
theorem writeTo_completed {report : WriteReport}
    (h : (g.writeTo output : StateM σ _) s = (.ok report, s')) (hc : report.status = .completed) :
    output.text ≠ "" ∧ report = g.completed (g.config.outputRoot output) ∧
      ∃ s₁ s₂ removed, (Disk.isFolder output : StateM σ _) s = (true, s₁) ∧
        (Disk.clear output : StateM σ _) s₁ = (.ok removed, s₂) ∧
        (writeFiles (g.config.outputRoot output) g.files : StateM σ _) s₂ = (.ok (), s') := by
  obtain ⟨requests, -, hending⟩ := ending_of_writeTo h
  cases hending with
  | pathless => cases hc
  | notFolder => cases hc
  | completed hpath hisFolder hclear hdone =>
    exact ⟨hpath, rfl, _, _, _, hisFolder, hclear, hdone⟩

/-- A completed run under notes ends as the run itself does, and has asked for every file. -/
theorem writeTo_noted {report : WriteReport}
    (h : (g.writeTo output : StateM σ _) s = (.ok report, s')) (hc : report.status = .completed) :
    (g.writeTo output : Noted (StateM σ) _).start s =
      ((.ok report, g.files.map fun f =>
        ((g.config.outputRoot output).join f.path, f.content)), s') := by
  obtain ⟨requests, hnoted, hending⟩ := ending_of_writeTo h
  rw [hnoted]
  cases hending with
  | pathless => cases hc
  | notFolder => cases hc
  | completed => rfl

end Generator

end TableForge
