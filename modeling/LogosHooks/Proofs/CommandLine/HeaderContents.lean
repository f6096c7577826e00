import LogosHooks.Proofs.CommandLine.Failure

/-!
The headers of a run that succeeds. They are read as they were before the run, and they are left as
they are, but for one: a header that is the output file too is read once it has been opened and the
preamble stands in it, and the hooks are written to it.
-/
namespace LogosHooks.CommandLine

open FileTree (Updated)

variable {tree : FileTree} {a : Arguments} {config : Config}

def Job.contentRead (job : Job) (tree : FileTree) (output p : Path) : Bytes :=
  if p = output then job.front tree output else (tree.read? p).getD []

namespace Job

variable (job : Job) {output : Path} {headers : List Path}

/-- As long as the output file is no header, or holds what it held before, the headers are read as
they were. -/
theorem units_contentRead (hfiles : ∀ p ∈ headers, tree.isFile p)
    (houtput : output ∉ headers ∨ tree.read? output = some (job.front tree output)) :
    headers.map (fun p => .ofFile p (job.contentRead tree output p)) =
      (readUnits tree headers).1 := by
  rw [readUnits_of_isFile hfiles]
  refine List.map_congr_left fun p hp => ?_
  by_cases hsame : p = output
  · rcases houtput with hother | hold
    · exact absurd (hsame ▸ hp) hother
    · rw [contentRead, if_pos hsame, hsame, hold, Option.getD_some]
  · rw [contentRead, if_neg hsame]

end Job

/-- A run that generates hooks and succeeds writes the hooks of its headers behind the old content,
if text is appended, and the preamble. Each header but the output file is read as it was before the
run, and is left so. The output file, if it is a header too, is read with the preamble in it and
without the hooks. -/
theorem runGenerate_headers (hok : (runGenerate tree a config).exitCode = 0) :
    ∃ job output, Job.make a config = .ok job ∧ tree.resolve? job.output = some output ∧
      let headers := findHeaders tree job.search job.targets
      let units := headers.map fun p => .ofFile p (job.contentRead tree output p)
      let outcome := runGenerate tree a config
      outcome.tree.read? output =
          some (job.front tree output ++ Utf8.encode (batchReport job.request units).text) ∧
        (∀ p, p ≠ output → outcome.tree.read? p = tree.read? p) ∧
        (output ∉ headers ∨ tree.read? output = some (job.front tree output) →
          units = (readUnits tree headers).1) := by
  rcases runGenerate_cases tree a config with ⟨hexit, -⟩ | ⟨job, output, hmake, hname, hdir, hrun⟩
  · rw [hok] at hexit
    exact absurd hexit (by decide)
  · obtain ⟨hnone, hsome⟩ := job.run_effect hname hdir
    rw [hrun] at hok
    have hfound : findHeaders tree job.search job.targets ≠ [] := by
      intro hempty
      rw [(hnone hempty).1] at hok
      exact absurd hok (by decide)
    obtain ⟨-, hupdated, -⟩ := hsome hfound
    refine ⟨job, output, hmake, hname, ?_⟩
    intro headers units outcome
    have houtcome : outcome = job.run tree := hrun
    have htext : (batchReport job.request units).text =
        job.request.hooksOfAll (headers.map (job.contentRead tree output)) :=
      text_batchReport_ofFile job.request (job.contentRead tree output) headers
    rw [houtcome, htext]
    exact ⟨hupdated.self, hupdated.others,
      job.units_contentRead fun p => isFile_of_mem_findHeaders⟩

/-- A header that hooks are appended to is read with the preamble behind its last line, and one that
they are written to is read empty. -/
theorem runGenerate_reads_output :
    let door := Utf8.encode "@interface Door : Wall\n- (void)open".toList
    let wall := Utf8.encode "@interface Wall : Room\n@end\n".toList
    let tree : FileTree :=
      ⟨[(["Door.h".toList], door), (["Wall.h".toList], wall)], [], by decide, by decide⟩
    let appending : Arguments :=
      { targets := ["Door.h".toList], settings := [(.output, "Door.h".toList)]
        switches := [.append, .loadHook] }
    let truncating : Arguments :=
      { targets := ["Wall.h".toList], settings := [(.output, "Wall.h".toList)] }
    let appended := runGenerate tree appending {}
    let truncated := runGenerate tree truncating {}
    appended.exitCode = 0 ∧
      appended.tree.read? ["Door.h".toList] =
        some (door ++ Utf8.encode (Preamble.text ⟨false, true⟩)) ∧
      (batchReport {} (readUnits tree [["Door.h".toList]]).1).text ≠ [] ∧
      truncated.exitCode = 0 ∧ truncated.tree.read? ["Wall.h".toList] = some [] := by
  decide +kernel

theorem runGenerate_headers_door :
    let door := Utf8.encode "@interface Door : Wall\n- (void)open;\n@end\n".toList
    let tree : FileTree := ⟨[(["Door.h".toList], door)], [], by decide, by decide⟩
    let a : Arguments := { targets := ["Door.h".toList] }
    let outcome := runGenerate tree a {}
    outcome.exitCode = 0 ∧ outcome.tree.read? ["Door.h".toList] = some door ∧
      outcome.tree.read? ["Tweak.xm".toList] =
        some (Utf8.encode (batchReport {} (readUnits tree [["Door.h".toList]]).1).text) := by
  intro door tree a outcome
  have hok : outcome.exitCode = 0 := by decide +kernel
  obtain ⟨job, output, hmake, hname, hall, hothers, hunits⟩ := runGenerate_headers hok
  cases hmake
  have houtput : output = ["Tweak.xm".toList] :=
    Option.some.inj (hname.symm.trans (by decide +kernel))
  subst houtput
  refine ⟨hok, (hothers _ (by decide)).trans rfl, ?_⟩
  rw [hall, hunits (Or.inl (by decide +kernel))]
  decide +kernel

end LogosHooks.CommandLine
