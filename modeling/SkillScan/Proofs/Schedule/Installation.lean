import SkillScan.Proofs.FileTree.Writing
import SkillScan.Schedule.Setup

/-!
# What a setup leaves

In a tree without links a setup that nothing has stopped leaves the directory of the logs, the script and, on
macOS, the document of the launch agent, and tells which files it has written. Everything else that was in the tree
is still there. Such a tree is as the same setup wants it, so that carrying it out once more shows and writes the
same and changes nothing.
-/

namespace SkillScan

namespace Setup

open FileTree

/-- The files that are written if nothing stops the setup. -/
def outputs (setup : Setup) : List Path :=
  match setup.platform with
  | .macOS => [setup.scriptPath, setup.agentPath]
  | .linux | .other => [setup.scriptPath]

/-- The schedule options that are shown if nothing stops the setup. -/
def options (setup : Setup) : List String :=
  match setup.platform with
  | .macOS => setup.macOSOptions
  | .linux => setup.linuxOptions
  | .other => setup.otherOptions

/-- A run that nothing has stopped, from the tree that it leaves. -/
def finished (setup : Setup) (tree : FileTree) : SetupRun :=
  ⟨tree, setup.opening ++ setup.options ++ setup.closing, setup.outputs, setup.outputs.map record, none⟩

/-- The script is at a location, and the directories for it and for the logs are there. -/
structure ScriptInstalled (setup : Setup) (tree : FileTree) (location : Location) : Prop where
  logDir : tree.isDirectory setup.configuration.logDir = .ok true
  installDir : tree.isDirectory setup.installDir = .ok true
  held : ∃ access, tree.Leads setup.scriptPath.text
    (.found location (.file (Text.encode setup.script.text) executableMode access))

/-- The document of the launch agent is at a location, and the directory for it is there. -/
structure AgentInstalled (setup : Setup) (tree : FileTree) (location : Location) : Prop where
  directory : tree.isDirectory setup.agentPath.parent = .ok true
  held : ∃ document mode access, setup.agent.document = .ok document ∧ tree.Leads setup.agentPath.text
    (.found location (.file (Text.encode document) mode access))

/-- A tree is as a setup wants it. -/
structure Installed (setup : Setup) (tree : FileTree) : Prop where
  script : ∃ location, ScriptInstalled setup tree location
  agent : setup.platform = .macOS → ∃ location, AgentInstalled setup tree location

/-- A location to which one of the files leads that a setup writes. -/
def IsOutput (setup : Setup) (tree : FileTree) (location : Location) : Prop :=
  ∃ path ∈ setup.outputs, ∃ node, tree.lookup path.text = .ok (location, node)

section Steps

variable {setup : Setup} {tree before after : FileTree} {location : Location}
  {changed : Location → Prop}

theorem endsIn_scriptPath (setup : Setup) : EndsIn setup.scriptPath DailyScript.fileName :=
  endsIn_child setup.installDir (by decide) (by decide)

theorem endsIn_agentPath (setup : Setup) : EndsIn setup.agentPath (LaunchAgent.label ++ ".plist") :=
  endsIn_child ((setup.home.child "Library").child "LaunchAgents") (by decide) (by decide)

theorem ScriptInstalled.grown (installed : ScriptInstalled setup before location)
    (grown : Grown changed before after) (linkFree : before.LinkFree) (untouched : ¬changed location) :
    ScriptInstalled setup after location := by
  rcases installed.held with ⟨access, leads⟩
  exact ⟨grown.isDirectory linkFree installed.logDir, grown.isDirectory linkFree installed.installDir,
    access, leads.grown_file grown untouched⟩

theorem scriptInstalled_of_writeScript (linkFree : tree.LinkFree)
    (finished : (setup.writeScript tree).error = none) :
    ∃ location, Grown (· = location) tree (setup.writeScript tree).tree ∧
      ScriptInstalled setup (setup.writeScript tree).tree location := by
  simp only [writeScript] at finished ⊢
  have untilWritten := Change.finished_of_andThen finished
  have untilMade := Change.finished_of_andThen untilWritten
  have first := Change.finished_of_andThen untilMade
  have logs := madeDirectory_of_ensureDirectories linkFree first
  rw [Change.andThen_of_finished first] at untilMade untilWritten finished ⊢
  have logsLinkFree := logs.grown.linkFree linkFree
  have install := madeDirectory_of_ensureDirectories logsLinkFree untilMade
  rw [Change.andThen_of_finished untilMade] at untilWritten finished ⊢
  have installLinkFree := install.grown.linkFree logsLinkFree
  rcases writtenFile_of_write installLinkFree (endsIn_scriptPath setup)
    (Change.eq_ok_of_finished untilWritten) with ⟨location, mode, access, written⟩
  rw [Change.andThen_of_finished untilWritten] at finished ⊢
  have writtenLinkFree := written.grown.linkFree installLinkFree
  have executable := writtenFile_setMode (endsIn_scriptPath setup) written.leads executableMode
  rw [setMode_of_leads writtenLinkFree written.leads]
  have filesGrown := written.grown.trans executable.grown
  refine ⟨location, ?_, ?_, ?_, access, executable.leads⟩
  · have directoriesGrown := logs.grown.trans install.grown
    exact (directoriesGrown.mono (by simp)).trans filesGrown
  · exact filesGrown.isDirectory installLinkFree (install.grown.isDirectory logsLinkFree logs.isDirectory)
  · exact filesGrown.isDirectory installLinkFree install.isDirectory

theorem writeScript_of_installed (linkFree : tree.LinkFree)
    (installed : ScriptInstalled setup tree location) : setup.writeScript tree = ⟨tree, none⟩ := by
  rcases installed.held with ⟨access, leads⟩
  simp [writeScript, ensureDirectories_of_isDirectory linkFree installed.logDir,
    ensureDirectories_of_isDirectory linkFree installed.installDir, Change.andThen, Change.ofStep,
    write_of_held linkFree (endsIn_scriptPath setup) leads, setMode_of_held linkFree leads]

theorem agentInstalled_of_writeAgent (linkFree : tree.LinkFree)
    (directory : tree.isDirectory setup.agentPath.parent = .ok true)
    (wrote : setup.writeAgent tree = (after, none)) :
    ∃ location, Grown (· = location) tree after ∧ AgentInstalled setup after location := by
  -- Only the name is replaced: to derive an equation for it takes long, as the document is worked out.
  delta writeAgent at wrote
  split at wrote
  · simp at wrote
  · next document described =>
      split at wrote
      · simp at wrote
      · next written =>
          cases wrote
          rcases writtenFile_of_write linkFree (endsIn_agentPath setup) written with
            ⟨location, mode, access, file⟩
          refine ⟨location, file.grown, file.grown.isDirectory linkFree directory, ?_⟩
          exact ⟨document, mode, access, described, file.leads⟩

theorem writeAgent_of_installed (linkFree : tree.LinkFree)
    (installed : AgentInstalled setup tree location) : setup.writeAgent tree = (tree, none) := by
  rcases installed.held with ⟨document, mode, access, described, leads⟩
  delta writeAgent
  simp only [described, write_of_held linkFree (endsIn_agentPath setup) leads]

end Steps

section Runs

variable {setup : Setup} {tree : FileTree}

theorem run_of_installed (linkFree : tree.LinkFree) (installed : Installed setup tree) :
    setup.run tree = setup.finished tree := by
  rcases installed.script with ⟨_, script⟩
  cases platform : setup.platform with
  | linux =>
      simp [run, schedule, finished, outputs, options, platform, writeScript_of_installed linkFree script]
  | other =>
      simp [run, schedule, finished, outputs, options, platform, writeScript_of_installed linkFree script]
  | macOS =>
      rcases installed.agent platform with ⟨_, agent⟩
      simp [run, schedule, finished, outputs, options, platform, writeScript_of_installed linkFree script,
        ensureDirectories_of_isDirectory linkFree agent.directory, writeAgent_of_installed linkFree agent]

/-- The steps of a run that nothing has stopped. -/
theorem steps_of_run (completed : (setup.run tree).error = none) :
    (setup.writeScript tree).error = none ∧
      ((setup.platform ≠ .macOS ∧ setup.run tree = setup.finished (setup.writeScript tree).tree) ∨
        (setup.platform = .macOS ∧ ∃ change after,
          change = (setup.writeScript tree).tree.ensureDirectories setup.agentPath.parent ∧
          change.error = none ∧ setup.writeAgent change.tree = (after, none) ∧
          setup.run tree = setup.finished after)) := by
  cases stopped : (setup.writeScript tree).error with
  | some error => simp [run, stopped] at completed
  | none =>
      refine ⟨rfl, ?_⟩
      have scheduled : setup.run tree = setup.schedule (setup.writeScript tree).tree := by
        simp only [run, stopped]
      rw [scheduled] at completed ⊢
      cases platform : setup.platform with
      | linux => simp [schedule, finished, outputs, options, platform]
      | other => simp [schedule, finished, outputs, options, platform]
      | macOS =>
          simp only [schedule, platform] at completed
          split at completed
          · simp at completed
          · next made =>
              split at completed
              · simp at completed
              · next after wrote =>
                  refine Or.inr ⟨rfl, _, after, rfl, made, wrote, ?_⟩
                  simp [schedule, made, wrote, finished, outputs, options, platform]

theorem isOutput_scriptPath {location : Location} {tree : FileTree} (linkFree : tree.LinkFree)
    (installed : ScriptInstalled setup tree location) : IsOutput setup tree location := by
  rcases installed.held with ⟨access, leads⟩
  refine ⟨setup.scriptPath, ?_, _, leads.lookup linkFree⟩
  cases platform : setup.platform <;> simp [outputs, platform]

theorem isOutput_agentPath {location : Location} {tree : FileTree} (linkFree : tree.LinkFree)
    (platform : setup.platform = .macOS) (installed : AgentInstalled setup tree location) :
    IsOutput setup tree location := by
  rcases installed.held with ⟨document, mode, access, _, leads⟩
  exact ⟨setup.agentPath, by simp [outputs, platform], _, leads.lookup linkFree⟩

/-- A run that nothing has stopped leaves the tree as the setup wants it. -/
theorem installed_of_run (linkFree : tree.LinkFree) (completed : (setup.run tree).error = none) :
    setup.run tree = setup.finished (setup.run tree).tree ∧ Installed setup (setup.run tree).tree ∧
      Grown (IsOutput setup (setup.run tree).tree) tree (setup.run tree).tree := by
  rcases steps_of_run completed with ⟨wroteScript, ending⟩
  rcases scriptInstalled_of_writeScript linkFree wroteScript with ⟨location, grown, script⟩
  have scriptLinkFree := grown.linkFree linkFree
  rcases ending with ⟨platform, same⟩ | ⟨platform, change, after, rfl, made, wroteAgent, same⟩
  · rw [same]
    refine ⟨rfl, ⟨⟨location, script⟩, fun isMacOS => absurd isMacOS platform⟩, grown.mono ?_⟩
    rintro _ rfl
    exact isOutput_scriptPath scriptLinkFree script
  · rw [same]
    have directory := madeDirectory_of_ensureDirectories scriptLinkFree made
    have directoryLinkFree := directory.grown.linkFree scriptLinkFree
    rcases agentInstalled_of_writeAgent directoryLinkFree directory.isDirectory wroteAgent with
      ⟨agentLocation, agentGrown, agent⟩
    have afterLinkFree := agentGrown.linkFree directoryLinkFree
    have scriptThere := script.grown directory.grown scriptLinkFree (by simp)
    -- The two files have different names.
    have apart : location ≠ agentLocation := by
      rcases script.held with ⟨access, scriptLeads⟩
      rcases agent.held with ⟨document, mode, agentAccess, _, agentLeads⟩
      exact scriptLeads.location_ne (endsIn_scriptPath setup) agentLeads (endsIn_agentPath setup) (by decide)
    have scriptStill := scriptThere.grown agentGrown directoryLinkFree apart
    refine ⟨rfl, ⟨⟨location, scriptStill⟩, fun _ => ⟨agentLocation, agent⟩⟩, ?_⟩
    have scriptGrown : Grown (IsOutput setup after) tree (setup.writeScript tree).tree := by
      apply grown.mono
      rintro _ rfl
      exact isOutput_scriptPath afterLinkFree scriptStill
    apply (scriptGrown.trans (directory.grown.mono (by simp))).trans
    apply agentGrown.mono
    rintro _ rfl
    exact isOutput_agentPath afterLinkFree platform agent

end Runs

section Platforms

variable {setup : Setup} {name : String}

theorem platform_eq_macOS_iff (named : setup.platform = .ofName name) :
    setup.platform = .macOS ↔ name = "darwin" := by
  rw [named, Platform.ofName]
  split
  · next isDarwin => simp [isDarwin]
  · next notDarwin => split <;> simp [notDarwin]

theorem outputs_eq (named : setup.platform = .ofName name) :
    setup.outputs = setup.installDir.child "daily-check.sh" ::
      if name = "darwin" then [LaunchAgent.location setup.home] else [] := by
  have onMacOS := platform_eq_macOS_iff named
  by_cases isDarwin : name = "darwin"
  · rw [if_pos isDarwin, outputs, onMacOS.mpr isDarwin]
    rfl
  · rw [if_neg isDarwin, outputs]
    cases platform : setup.platform with
    | macOS => exact absurd (onMacOS.mp platform) isDarwin
    | linux => rfl
    | other => rfl

end Platforms

/-- A setup that nothing has stopped writes what it tells, keeps everything else, and may be repeated. -/
theorem run_installs (setup : Setup) (name : String) (tree : FileTree)
    (named : setup.platform = .ofName name) (linkFree : tree.LinkFree)
    (completed : (setup.run tree).error = none) :
    (setup.run tree).written =
        (setup.installDir.child "daily-check.sh" ::
          if name = "darwin" then [LaunchAgent.location setup.home] else []) ∧
      (∃ location access, (setup.run tree).tree.lookup (setup.installDir.child "daily-check.sh").text =
        .ok (location, .file (Text.encode setup.script.text) 0o755 access)) ∧
      (name = "darwin" → ∃ document location mode access, setup.agent.document = .ok document ∧
        (setup.run tree).tree.lookup (LaunchAgent.location setup.home).text =
          .ok (location, .file (Text.encode document) mode access)) ∧
      (setup.run tree).tree.isDirectory setup.configuration.logDir = .ok true ∧
      (∀ location content mode access, tree.root.find? location = some (.file content mode access) →
        (∀ path ∈ (setup.run tree).written, ∀ node,
          (setup.run tree).tree.lookup path.text ≠ .ok (location, node)) →
        (setup.run tree).tree.root.find? location = some (.file content mode access)) ∧
      (∀ location entries access, tree.root.find? location = some (.directory entries access) →
        ∃ others otherAccess,
          (setup.run tree).tree.root.find? location = some (.directory others otherAccess)) ∧
      (∀ location, tree.root.find? location ≠ none →
        (setup.run tree).tree.root.find? location ≠ none) ∧
      setup.run (setup.run tree).tree = setup.run tree := by
  rcases installed_of_run linkFree completed with ⟨same, installed, grown⟩
  have afterLinkFree := grown.linkFree linkFree
  have written : (setup.run tree).written = setup.outputs := congrArg SetupRun.written same
  rcases installed.script with ⟨_, script⟩
  rcases script.held with ⟨access, scriptLeads⟩
  refine ⟨written.trans (outputs_eq named), ⟨_, access, scriptLeads.lookup afterLinkFree⟩, ?_, script.logDir,
    ?_, ?_, ?_, ?_⟩
  · intro isDarwin
    rcases installed.agent ((platform_eq_macOS_iff named).mpr isDarwin) with ⟨location, agent⟩
    rcases agent.held with ⟨document, mode, agentAccess, described, agentLeads⟩
    exact ⟨document, location, mode, agentAccess, described, agentLeads.lookup afterLinkFree⟩
  · intro location content mode fileAccess present noOutput
    apply grown.file ?_ present
    rintro ⟨path, isOutput, node, led⟩
    rw [written] at noOutput
    exact noOutput path isOutput node led
  · intro location entries directoryAccess present
    rcases grown.directory present with ⟨others, otherPresent⟩
    exact ⟨others, _, otherPresent⟩
  · intro location present
    rcases Option.ne_none_iff_exists'.mp present with ⟨node, nodePresent⟩
    rcases grown.kind nodePresent with ⟨later, laterPresent, _⟩
    simp [laterPresent]
  · exact (run_of_installed afterLinkFree installed).trans same.symm

/-- A setup on macOS. -/
def exampleSetup : Setup where
  configuration := ⟨.ofText "/home/skills", .ofText "/home/logs/daily", 9, 30⟩
  installDir := .ofText "/home/bin"
  home := .ofText "/home"
  platform := .macOS
  interpreter := "/usr/bin/interpreter"
  now := ⟨⟨2024, 1, 31⟩, 9, 0, 0, 0, none⟩

/-- A home directory with some notes and an old script. -/
def exampleTree : FileTree where
  root := .directory (.entry "home" (.directory
    (.entry "notes.txt" (.file [104, 105] 0o600 .granted)
      (.entry "bin" (.directory (.entry "daily-check.sh" (.file [10] 0o644 .granted) .empty) .granted)
        .empty)) .granted) .empty) .granted
  workingDirectory := []

theorem run_exampleSetup :
    exampleSetup.platform = .ofName "darwin" ∧ exampleTree.LinkFree ∧
      (exampleSetup.run exampleTree).error = none ∧
      (exampleSetup.run exampleTree).written = [exampleSetup.scriptPath, exampleSetup.agentPath] ∧
      exampleSetup.run (exampleSetup.run exampleTree).tree = exampleSetup.run exampleTree := by
  have linkFree : exampleTree.LinkFree := linkFree_of_linkCount (by decide)
  have completed : (exampleSetup.run exampleTree).error = none :=
    Option.isNone_iff_eq_none.mp (by decide +kernel)
  have installs := run_installs exampleSetup "darwin" exampleTree rfl linkFree completed
  rcases installs with ⟨written, _, _, _, _, _, _, repeated⟩
  exact ⟨rfl, linkFree, completed, written, repeated⟩

end Setup

end SkillScan
