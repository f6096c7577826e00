import LogosHooks.Proofs.CommandLine.Effect

/-!
Runs that fail. A run fails before it writes anything, or it has opened its output file and finds
that there are no headers to read. In the second case the preamble is written, and what the output
file held before is gone unless text is appended.
-/
namespace LogosHooks.CommandLine

open FileTree (Updated)

def Job.front (job : Job) (tree : FileTree) (output : Path) : Bytes :=
  (if job.append then (tree.read? output).getD [] else []) ++ Utf8.encode job.preamble.text

def configOf (tree : FileTree) (a : Arguments) : Config :=
  (Config.ofFile tree ((a.value? .config).getD Config.fileName)).1

variable {tree : FileTree} {a : Arguments}

theorem Job.run_of_openOutput?_none {job : Job}
    (hopen : openOutput? tree job.output job.append = none) :
    (job.run tree).exitCode = 1 ∧ (job.run tree).tree = tree := by
  simp only [run, hopen, and_self]

/-- A run that generates hooks writes nothing, or all that it writes goes to an output file that can
be opened. -/
theorem runGenerate_cases (tree : FileTree) (a : Arguments) (config : Config) :
    ((runGenerate tree a config).exitCode = 1 ∧ (runGenerate tree a config).tree = tree) ∨
      ∃ job output, Job.make a config = .ok job ∧ tree.resolve? job.output = some output ∧
        ¬ tree.isDir output ∧ runGenerate tree a config = job.run tree := by
  unfold runGenerate
  cases hmake : Job.make a config with
  | error note => exact Or.inl ⟨rfl, rfl⟩
  | ok job =>
    cases hname : tree.resolve? job.output with
    | none =>
      have hopen : openOutput? tree job.output job.append = none := by
        rw [openOutput?, hname]
      exact Or.inl (Job.run_of_openOutput?_none hopen)
    | some output =>
      by_cases hdir : tree.isDir output
      · have hopen : openOutput? tree job.output job.append = none := by
          rw [openOutput?, hname]
          exact if_pos hdir
        exact Or.inl (Job.run_of_openOutput?_none hopen)
      · exact Or.inr ⟨job, output, rfl, hname, hdir, rfl⟩

/-- A run without headers has written the preamble when it fails. -/
theorem runGenerate_failed {config : Config} (hfailed : (runGenerate tree a config).exitCode ≠ 0) :
    (runGenerate tree a config).tree = tree ∨
      ∃ job output, Job.make a config = .ok job ∧ tree.resolve? job.output = some output ∧
        ¬ tree.isDir output ∧ findHeaders tree job.search job.targets = [] ∧
        Updated tree (runGenerate tree a config).tree output (job.front tree output) := by
  rcases runGenerate_cases tree a config with ⟨-, hkept⟩ | ⟨job, output, hmake, hname, hdir, hrun⟩
  · exact Or.inl hkept
  · obtain ⟨hnone, hsome⟩ := job.run_effect hname hdir
    rw [hrun] at hfailed ⊢
    have hempty : findHeaders tree job.search job.targets = [] := by
      by_contra hfound
      exact hfailed (hsome hfound).1
    exact Or.inr ⟨job, output, hmake, hname, hdir, hempty, (hnone hempty).2⟩

theorem run_of_parse {args : List Text} (hparse : Arguments.parse args = .ok a) :
    (run tree args).exitCode = (runCommand tree a (configOf tree a)).exitCode ∧
      (run tree args).tree = (runCommand tree a (configOf tree a)).tree := by
  rw [run, hparse]
  exact ⟨rfl, rfl⟩

theorem tree_runInspect (tree : FileTree) (a : Arguments) (config : Config) :
    (runInspect tree a config).tree = tree := by
  unfold runInspect
  split
  · rfl
  · split <;> rfl

/-- A run that fails leaves all files as they were, unless there are no headers to read, and nothing
else is wrong. Such a run has opened its output file, which holds what it held before if text is
appended, and behind it the preamble. -/
theorem files_of_failed_run {args : List Text} (hfailed : (run tree args).exitCode ≠ 0) :
    (run tree args).tree = tree ∨
      ∃ a job output, Arguments.parse args = .ok a ∧ a.command = .generate ∧
        Job.make a (configOf tree a) = .ok job ∧ tree.resolve? job.output = some output ∧
        ¬ tree.isDir output ∧ findHeaders tree job.search job.targets = [] ∧
        Updated tree (run tree args).tree output (job.front tree output) := by
  cases hparse : Arguments.parse args with
  | error stop =>
    refine Or.inl ?_
    rw [run, hparse]
    cases stop <;> rfl
  | ok a =>
    obtain ⟨hexit, htree⟩ : (run tree args).exitCode = _ ∧ (run tree args).tree = _ :=
      run_of_parse hparse
    rw [hexit] at hfailed
    rw [htree]
    cases hcommand : a.command with
    | generate =>
      have hrun : runCommand tree a (configOf tree a) = runGenerate tree a (configOf tree a) := by
        rw [runCommand, hcommand]
      rw [hrun] at hfailed ⊢
      refine (runGenerate_failed hfailed).imp_right ?_
      rintro ⟨job, output, hmake, hrest⟩
      exact ⟨a, job, output, rfl, hcommand, hmake, hrest⟩
    | inspect =>
      rw [runCommand, hcommand]
      exact Or.inl (tree_runInspect tree a _)
    | completions =>
      rw [runCommand, hcommand]
      exact Or.inl rfl

/-- The target is mistyped, and the hooks of an earlier run are gone. -/
theorem run_without_headers_truncates :
    let hooks := Utf8.encode "%hook Door\n%end\n".toList
    let tree : FileTree := ⟨[(["Tweak.xm".toList], hooks)], [], by decide, by decide⟩
    let outcome := run tree ["-t".toList, "Dor.h".toList]
    outcome.exitCode = 1 ∧ tree.read? ["Tweak.xm".toList] = some hooks ∧
      outcome.tree.read? ["Tweak.xm".toList] = some [] := by
  decide +kernel

/-- The same run with a preamble. -/
theorem files_of_failed_run_preamble :
    let hooks := Utf8.encode "%hook Door\n%end\n".toList
    let tree : FileTree := ⟨[(["Tweak.xm".toList], hooks)], [], by decide, by decide⟩
    let args := ["-l".toList, "-t".toList, "Dor.h".toList]
    (run tree args).exitCode ≠ 0 ∧
      ∃ (job : Job) (output : Path), findHeaders tree job.search job.targets = [] ∧
        Updated tree (run tree args).tree output (job.front tree output) := by
  intro hooks tree args
  have hfailed : (run tree args).exitCode ≠ 0 := by decide +kernel
  refine ⟨hfailed, ?_⟩
  rcases files_of_failed_run hfailed with hkept | ⟨-, job, output, -, -, -, -, -, hnone, hupdated⟩
  · have hchanged : (run tree args).tree.read? ["Tweak.xm".toList] ≠
        tree.read? ["Tweak.xm".toList] := by decide +kernel
    rw [hkept] at hchanged
    exact absurd rfl hchanged
  · exact ⟨job, output, hnone, hupdated⟩

end LogosHooks.CommandLine
