import LogosHooks.CommandLine.Run
import LogosHooks.Proofs.Files.Updates
import LogosHooks.Proofs.Hooks.BatchSum

/-!
What a run that generates hooks leaves behind. It writes to its output file three times: when it
opens the file, with the preamble, and with the hooks. The headers are found before the first of
these writes and read after the second, so what is read of the output file, if it is a header too,
is what it holds up to the preamble.
-/
namespace LogosHooks

def Request.hooksOfAll (request : Request) (contents : List Bytes) : Text :=
  (contents.filterMap fun content =>
    (request.hookHeader (Utf8.decodeLossy content)).toOption).flatMap (·.text)

theorem text_batchReport_ofFile (request : Request) (content : Path → Bytes)
    (headers : List Path) :
    (batchReport request (headers.map fun p => .ofFile p (content p))).text =
      request.hooksOfAll (headers.map content) := by
  rw [(accounts_batchReport request _).text_eq, Request.hooksOfAll, List.filterMap_map,
    List.filterMap_map]
  rfl

namespace CommandLine

open FileTree (Updated)

/-- The number of bytes that a run reports, in its summary or in its last note. -/
def Outcome.bytes? (o : Outcome) : Option Nat :=
  match o.printed with
  | .summary s => some s.bytes
  | _ =>
    match o.notes.getLast? with
    | some (.written _ bytes) => some bytes
    | _ => none

variable {tree opened : FileTree} {output : Path} {base : Bytes}

theorem updated_appendText (h : Updated tree opened output base) (t : Text) :
    Updated tree (appendText opened output t) output (base ++ Utf8.encode t) := by
  rw [appendText, h.self, Option.getD_some]
  exact h.write _

namespace Job

variable (job : Job) (notes : List Note)

/-- Without headers a run stops behind the preamble. -/
theorem runOpened_nil (hopened : Updated tree opened output base) :
    let outcome := job.runOpened [] notes output opened
    outcome.exitCode = 1 ∧
      Updated tree outcome.tree output (base ++ Utf8.encode job.preamble.text) :=
  ⟨rfl, updated_appendText hopened job.preamble.text⟩

/-- With headers it writes the report's text too, and reports the length of the file that is then
there. -/
theorem runOpened_cons (p : Path) (rest : List Path) :
    let afterHead := appendText opened output job.preamble.text
    let outcome := job.runOpened (p :: rest) notes output opened
    outcome.exitCode = 0 ∧
      outcome.tree = appendText afterHead output
        (batchReport job.request (readUnits afterHead (p :: rest)).1).text ∧
      outcome.bytes? = some ((outcome.tree.read? output).getD []).length := by
  intro afterHead outcome
  have houtcome : outcome = job.runOpened (p :: rest) notes output opened := rfl
  simp only [runOpened, List.isEmpty_cons, Bool.false_eq_true, if_false] at houtcome
  cases hjson : job.json with
  | true =>
    rw [houtcome, if_pos hjson]
    exact ⟨rfl, rfl, rfl⟩
  | false =>
    rw [houtcome, if_neg (Bool.eq_false_iff.mp hjson)]
    refine ⟨rfl, rfl, ?_⟩
    simp [Outcome.bytes?, countUnreadable]

/-- The hooks of the headers stand behind the preamble, and the length of the whole is reported. -/
theorem runOpened_of_ne_nil {headers : List Path} (hopened : Updated tree opened output base)
    (hfound : headers ≠ []) (hfiles : ∀ p ∈ headers, tree.isFile p) :
    let head := base ++ Utf8.encode job.preamble.text
    let content := fun p => if p = output then head else (tree.read? p).getD []
    let all := head ++ Utf8.encode (job.request.hooksOfAll (headers.map content))
    let outcome := job.runOpened headers notes output opened
    outcome.exitCode = 0 ∧ Updated tree outcome.tree output all ∧
      outcome.bytes? = some all.length := by
  intro head content all outcome
  let afterHead := appendText opened output job.preamble.text
  have hhead : Updated tree afterHead output head := updated_appendText hopened _
  have hunits : (readUnits afterHead headers).1 =
      headers.map fun p => .ofFile p (content p) := by
    rw [readUnits_of_isFile fun p hp => hhead.isFile_of_isFile (hfiles p hp)]
    simp only [hhead.getD_read?, content]
  obtain ⟨p, rest, rfl⟩ := List.exists_cons_of_ne_nil hfound
  obtain ⟨hexit, htree, hbytes⟩ :
      outcome.exitCode = 0 ∧ outcome.tree = _ ∧ outcome.bytes? = _ :=
    job.runOpened_cons notes p rest
  have hall : Updated tree outcome.tree output all := by
    rw [htree, hunits, text_batchReport_ofFile]
    exact updated_appendText hhead _
  refine ⟨hexit, hall, ?_⟩
  rw [hbytes, hall.self, Option.getD_some]

theorem exists_run_eq_runOpened (hname : tree.resolve? job.output = some output)
    (hfile : ¬ tree.isDir output) :
    let base := if job.append then (tree.read? output).getD [] else []
    ∃ notes, job.run tree =
      job.runOpened (findHeaders tree job.search job.targets) notes output
        (tree.write output base) := by
  intro base
  have hopen : openOutput? tree job.output job.append = some (output, tree.write output base) := by
    rw [openOutput?, hname]
    exact if_neg hfile
  rw [run, hopen]
  exact ⟨_, rfl⟩

/-- A run of a job whose output file can be opened. -/
theorem run_effect (hname : tree.resolve? job.output = some output) (hfile : ¬ tree.isDir output) :
    let headers := findHeaders tree job.search job.targets
    let base := if job.append then (tree.read? output).getD [] else []
    let head := base ++ Utf8.encode job.preamble.text
    let content := fun p => if p = output then head else (tree.read? p).getD []
    let all := head ++ Utf8.encode (job.request.hooksOfAll (headers.map content))
    let outcome := job.run tree
    (headers = [] → outcome.exitCode = 1 ∧ Updated tree outcome.tree output head) ∧
      (headers ≠ [] → outcome.exitCode = 0 ∧ Updated tree outcome.tree output all ∧
        outcome.bytes? = some all.length) := by
  intro headers base head content all outcome
  obtain ⟨notes, hrun⟩ := job.exists_run_eq_runOpened hname hfile
  have houtcome : outcome = job.runOpened headers notes output (tree.write output base) := hrun
  have hopened : Updated tree (tree.write output base) output base :=
    FileTree.updated_write (FileTree.hasRoom_of_resolve? hname hfile) base
  have hfiles : ∀ p ∈ headers, tree.isFile p := fun p => isFile_of_mem_findHeaders
  rw [houtcome]
  refine ⟨fun hempty => ?_, fun hfound => job.runOpened_of_ne_nil notes hopened hfound hfiles⟩
  rw [hempty]
  exact job.runOpened_nil notes hopened

end Job

/-- Only the output file is changed. It holds its old content if text is appended to it, then the
preamble, then the hooks of the headers that were found, each read once the preamble was written.
Without headers the run fails, with the preamble written. -/
theorem runGenerate_effect {a : Arguments} {config : Config}
    {methodFilter nameFilter : Option NamePattern} (htargets : a.targets ≠ [])
    (hmethods : compilePattern (a.value? .methodRegex <|> config.methodRegex) = .ok methodFilter)
    (hnames : compilePattern (a.value? .fileRegex) = .ok nameFilter)
    (houtput : tree.resolve? ((a.value? .output <|> config.output).getD defaultOutput) =
      some output)
    (hfile : ¬ tree.isDir output) :
    let request : Request := {
      policy := {
        registry := Registry.builtin.extend config.addedTypes
        dropUnknown := config.dropUnknownTypes && !a.has .unknownTypes }
      filter := methodFilter
      options := {
        properties := true
        getters := a.has .getters || config.getters
        setters := a.has .setters || config.setters
        logArguments := a.has .params || config.params
        logEntry := a.has .debug || config.debug } }
    let preamble : Preamble :=
      { includes := a.has .includes || config.includes
        loadHook := a.has .loadHook || config.loadHook }
    let search : HeaderSearch :=
      { withFrameworks := a.has .nextStep
        recursive := a.has .recursive
        nameFilter := nameFilter }
    let headers := findHeaders tree search a.targets
    let base := if a.has .append then (tree.read? output).getD [] else []
    let head := base ++ Utf8.encode preamble.text
    let content := fun p => if p = output then head else (tree.read? p).getD []
    let all := head ++ Utf8.encode (request.hooksOfAll (headers.map content))
    let outcome := runGenerate tree a config
    (∀ p, p ≠ output → outcome.tree.read? p = tree.read? p) ∧
      outcome.tree.madeDirs = tree.madeDirs ∧
      (headers = [] → outcome.exitCode = 1 ∧ outcome.tree.read? output = some head) ∧
      (headers ≠ [] → outcome.exitCode = 0 ∧ outcome.tree.read? output = some all ∧
        outcome.bytes? = some all.length) := by
  intro request preamble search headers base head content all outcome
  let job : Job :=
    { targets := a.targets, request, preamble, search
      output := (a.value? .output <|> config.output).getD defaultOutput
      append := a.has .append, json := a.has .json, verbose := a.has .verbose }
  have hmake : Job.make a config = .ok job := by
    have htargets' : a.targets.isEmpty = false := by simpa using htargets
    rw [Job.make, htargets', hmethods, hnames]
    rfl
  have houtcome : outcome = job.run tree := by
    simp only [outcome, runGenerate, hmake]
  obtain ⟨hnone, hsome⟩ := job.run_effect houtput hfile
  rw [houtcome]
  by_cases hfound : headers = []
  · obtain ⟨hexit, hupdated⟩ := hnone hfound
    exact ⟨hupdated.others, hupdated.dirs, fun _ => ⟨hexit, hupdated.self⟩,
      fun h => absurd hfound h⟩
  · obtain ⟨hexit, hupdated, hbytes⟩ := hsome hfound
    exact ⟨hupdated.others, hupdated.dirs, fun h => absurd h hfound,
      fun _ => ⟨hexit, hupdated.self, hbytes⟩⟩

/-- The second header is the output file, and no class is left in it when it is read. -/
theorem runGenerate_effect_door :
    let door := Utf8.encode "@interface Door : Wall\n- (void)open;\n@end\n".toList
    let hall := Utf8.encode "@interface Hall : Room\n- (void)enter;\n@end\n".toList
    let tree : FileTree :=
      ⟨[(["Door.h".toList], door), (["Hall.h".toList], hall)], [], by decide, by decide⟩
    let a : Arguments :=
      { targets := ["Door.h".toList, "Hall.h".toList], settings := [(.output, "Hall.h".toList)] }
    let config : Config := { loadHook := true }
    let all := Utf8.encode (Preamble.text ⟨false, true⟩ ++
      ("/*======\n  Door  \n======*/\n\n%hook Door\n\n/* Instance Methods */\n" ++
        "-(void) open \x7b\n    %log;\n    %orig;\n\x7d\n\n\n%end\n\n\n").toList)
    let outcome := runGenerate tree a config
    outcome.exitCode = 0 ∧ outcome.tree.read? ["Hall.h".toList] = some all ∧
      outcome.bytes? = some 198 ∧ outcome.tree.read? ["Door.h".toList] = some door := by
  intro door hall tree a config all outcome
  obtain ⟨hothers, -, -, hfound⟩ := runGenerate_effect (by decide : a.targets ≠ [])
    (rfl : compilePattern (a.value? .methodRegex <|> config.methodRegex) = .ok none)
    (rfl : compilePattern (a.value? .fileRegex) = .ok none)
    (by decide +kernel : tree.resolve? ((a.value? .output <|> config.output).getD defaultOutput) =
      some ["Hall.h".toList])
    (by decide +kernel)
  obtain ⟨hexit, hall, hbytes⟩ := hfound (by decide +kernel)
  refine ⟨hexit, hall.trans ?_, hbytes.trans ?_, (hothers _ (by decide)).trans rfl⟩
  · decide +kernel
  · decide +kernel

end CommandLine
end LogosHooks
