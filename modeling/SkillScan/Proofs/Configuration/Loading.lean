import SkillScan.CommandLine.Run
import SkillScan.Proofs.Configuration.Overlay
import SkillScan.Proofs.FileTree.Descent

/-!
# What loading a configuration may end with

Loading is meant to end with a configuration whose time is one of a day, or with an error about the configuration,
which the program tells in one line before it ends with exit code one. Whatever the file holds and whatever a reader
makes of it, it ends so exactly if the path of the file is not barred, if every scalar of the document fits its tag,
and if what the document names as directories can be taken as directories: a text whose tilde, if it begins with one,
stands for a home directory that is known. In all other cases an error of another kind ends the run. A file that may
not be read is a wrong configuration like any other, but a file behind a directory that may not be searched is not.
-/

namespace SkillScan

open Yaml (Value)

/-! ## Home directories -/

namespace Environment

variable {environment : Environment} {path : Path}

theorem homeDirectory_of_given {home : String} (given : environment.home = some home)
    (nonempty : home ≠ "") : environment.homeDirectory = .ok (.ofText home) := by
  simp only [homeDirectory, given]

/-- Whether a tilde with the name of an account behind it stands for a directory. -/
def KnowsHome (environment : Environment) (name : String) : Prop :=
  ∃ home, environment.homeOf name = .ok home ∧ (withoutEndSlashes home).toList.head? ≠ some '~'

theorem expand_of_account {name : String} (begins : path.account? = some name) :
    (∃ expanded, environment.expand path = .ok expanded) ↔ environment.KnowsHome name := by
  rcases path with ⟨anchor, names⟩
  simp only [Path.account?] at begins
  split at begins
  · next first rest =>
      split at begins
      · next chars tilde =>
          cases begins
          simp only [expand, tilde, KnowsHome]
          cases environment.homeOf (String.ofList chars) with
          | error error => simp [bind, Except.bind]
          | ok home =>
              by_cases nested : (withoutEndSlashes home).toList.head? = some '~' <;>
                simp [nested, bind, Except.bind, pure, Except.pure]
      · cases begins
  · cases begins

theorem exists_expand_iff : (∃ expanded, environment.expand path = .ok expanded) ↔
    ∀ name ∈ path.account?, environment.KnowsHome name := by
  cases begins : path.account? with
  | none => simp [environment.expand_of_noAccount begins]
  | some name => simp [expand_of_account begins]

end Environment

namespace Configuration

variable {environment : Environment} {usual : Configuration} {source : Path} {tree : FileTree}
  {argument : Option String} {entries : List (Value × Value)}

/-! ## Directories -/

/-- Whether what is given as a directory, if anything is, can be taken as one. -/
def NamesDirectory (environment : Environment) (given : Option Value) : Prop :=
  ∀ value ∈ given, value.isGiven = true →
    ∃ text, value = .text text ∧ ∀ name ∈ (Path.ofText text).account?, environment.KnowsHome name

theorem exists_pathOf_iff {value : Value} : (∃ path, pathOf environment value = .ok path) ↔
    ∃ text, value = .text text ∧ ∀ name ∈ (Path.ofText text).account?, environment.KnowsHome name := by
  cases value with
  | text text =>
      have mapped : (∃ path, pathOf environment (.text text) = .ok path) ↔
          ∃ expanded, environment.expand (.ofText text) = .ok expanded := by
        simp only [pathOf]
        cases environment.expand (.ofText text) <;> simp [Except.mapError]
      rw [mapped, Environment.exists_expand_iff]
      simp
  | _ => simp [pathOf]

theorem exists_pathField_iff {name : String} {usual : Path} :
    (∃ path, pathField environment name usual entries = .ok path) ↔
      NamesDirectory environment (Value.field? name entries) := by
  simp only [pathField, NamesDirectory]
  cases Value.field? name entries with
  | none => simp
  | some value =>
      cases isGiven : value.isGiven with
      | false => simp [isGiven]
      | true => simpa [isGiven] using exists_pathOf_iff

/-- With a time of day, a mapping makes a configuration exactly if its directories can be taken as such. -/
theorem exists_overlay_iff (gives : GivesTime usual entries) :
    (∃ made, overlay environment usual source entries = .ok made) ↔
      NamesDirectory environment (Value.field? "skills_root" entries) ∧
        NamesDirectory environment (Value.field? "log_dir" entries) := by
  rw [← @exists_pathField_iff environment entries "skills_root" usual.skillsRoot,
    ← @exists_pathField_iff environment entries "log_dir" usual.logDir]
  simp only [overlay, scheduleOf_of_givesTime gives, Except.mapError, bind, Except.bind]
  cases pathField environment "skills_root" usual.skillsRoot entries with
  | error error => simp
  | ok skillsRoot =>
      cases pathField environment "log_dir" usual.logDir entries with
      | error error => simp
      | ok logDir => simp [pure, Except.pure]

theorem exists_path_error {error : OverlayError} (gives : GivesTime usual entries)
    (failed : overlay environment usual source entries = .error error) :
    ∃ pathError, error = .path pathError := by
  simp only [overlay, scheduleOf_of_givesTime gives, Except.mapError, bind, Except.bind] at failed
  cases skillsRoot : pathField environment "skills_root" usual.skillsRoot entries with
  | error pathError =>
      simp only [skillsRoot] at failed
      cases failed
      exact ⟨pathError, rfl⟩
  | ok path =>
      cases logDir : pathField environment "log_dir" usual.logDir entries with
      | error pathError =>
          simp only [skillsRoot, logDir] at failed
          cases failed
          exact ⟨pathError, rfl⟩
      | ok other => simp [skillsRoot, logDir, pure, Except.pure] at failed

/-! ## The time of day -/

/-- Whether the time of a configuration is one of a day. -/
def InDay (configuration : Configuration) : Prop :=
  (0 ≤ configuration.hour ∧ configuration.hour ≤ 23) ∧
    0 ≤ configuration.minute ∧ configuration.minute ≤ 59

instance (configuration : Configuration) : Decidable configuration.InDay :=
  inferInstanceAs (Decidable (_ ∧ _))

theorem inDay_standard (home : Path) : (standard home).InDay := by
  simp [InDay, standard]

theorem timeNamed_of_accepted {least greatest usual : Int} {given : Option Value}
    (accepted : AcceptsTime least greatest usual given) :
    least ≤ timeNamed usual given ∧ timeNamed usual given ≤ greatest := by
  cases given with
  | none => exact accepted
  | some value =>
      rcases accepted with ⟨number, rfl, inRange⟩
      exact inRange

theorem inDay_of_overlay {made : Configuration}
    (done : overlay environment usual source entries = .ok made) : made.InDay := by
  by_cases gives : GivesTime usual entries
  · have time : made.hour = timeNamed usual.hour (timeSetting? "hour" entries) ∧
        made.minute = timeNamed usual.minute (timeSetting? "minute" entries) := by
      simp only [overlay, scheduleOf_of_givesTime gives, Except.mapError, bind, Except.bind] at done
      split at done
      · cases done
      · split at done
        · cases done
        · cases done
          exact ⟨rfl, rfl⟩
    rw [InDay, time.1, time.2]
    exact ⟨timeNamed_of_accepted gives.hour, timeNamed_of_accepted gives.minute⟩
  · rcases exists_error_of_not_givesTime usual source gives with ⟨error, failed⟩
    rw [overlay_of_schedule_error failed] at done
    cases done

/-! ## Loading -/

/-- Whether loading ends with a configuration whose time is one of a day, or with an error about the
configuration. -/
inductive Settles : Except LoadError Configuration → Prop where
  | made {configuration : Configuration} (inDay : configuration.InDay) : Settles (.ok configuration)
  | blamed (error : ConfigurationError) : Settles (.error (.configuration error))

@[simp]
theorem settles_ok_iff {configuration : Configuration} :
    Settles (.ok configuration) ↔ configuration.InDay := by
  constructor
  · rintro ⟨inDay⟩
    exact inDay
  · exact .made

@[simp]
theorem settles_error_iff {error : LoadError} :
    Settles (.error error) ↔ ∃ reason, error = .configuration reason := by
  constructor
  · rintro ⟨⟩
    exact ⟨_, rfl⟩
  · rintro ⟨reason, rfl⟩
    exact .blamed reason

instance (loaded : Except LoadError Configuration) : Decidable (Settles loaded) :=
  match loaded with
  | .ok _ => decidable_of_iff _ settles_ok_iff.symm
  | .error (.configuration error) => isTrue (.blamed error)
  | .error (.path _) | .error (.conversion _) | .error (.file _) | .error (.home _) => isFalse nofun

/-- The file that a configuration is read from. -/
def fileOf (environment : Environment) (argument : Option String) : Path :=
  .ofText ((requested? environment argument).getD fileName)

theorem settles_ofValue_iff {value : Value} (inDay : usual.InDay) :
    Settles (ofValue environment usual source value) ↔
      ∀ entries, value = .map entries → GivesTime usual entries →
        NamesDirectory environment (Value.field? "skills_root" entries) ∧
          NamesDirectory environment (Value.field? "log_dir" entries) := by
  cases value with
  | null => simpa [ofValue] using inDay
  | map entries =>
      by_cases gives : GivesTime usual entries
      · have made_iff := @exists_overlay_iff environment _ source _ gives
        cases done : overlay environment usual source entries with
        | ok made =>
            have named := made_iff.mp ⟨made, done⟩
            simp [ofValue, done, inDay_of_overlay done, named]
        | error error =>
            have unnamed : ¬(NamesDirectory environment (Value.field? "skills_root" entries) ∧
                NamesDirectory environment (Value.field? "log_dir" entries)) := by
              rw [← made_iff, done]
              rintro ⟨made, ⟨⟩⟩
            rcases exists_path_error gives done with ⟨pathError, rfl⟩
            simp [ofValue, done, gives, unnamed]
      · rcases exists_error_of_not_givesTime usual source gives with ⟨error, failed⟩
        simp [ofValue, overlay_of_schedule_error failed, gives]
  | _ => simp [ofValue]

/-- A document that cannot be read settles the loading unless a scalar does not fit its tag. -/
theorem settles_documentFailure_iff {error : DocumentError} :
    Settles (.error (documentFailure source error)) ↔
      ∀ conversion, error ≠ .document (.conversion conversion) := by
  cases error with
  | file error => simp [documentFailure]
  | document error => cases error <;> simp [documentFailure]

section Reader

variable [Yaml.Reader]

/-- Whether the file and its document can be used, or are wrong in a way that is told. -/
structure Usable (environment : Environment) (usual : Configuration) (tree : FileTree)
    (argument : Option String) : Prop where
  passable : tree.Passable (fileOf environment argument)
  converts : ∀ error, readDocument tree (fileOf environment argument) ≠ .error (.document (.conversion error))
  directories : ∀ entries, readDocument tree (fileOf environment argument) = .ok (.map entries) →
    GivesTime usual entries →
      NamesDirectory environment (Value.field? "skills_root" entries) ∧
        NamesDirectory environment (Value.field? "log_dir" entries)

section Load

variable {home : Path}

theorem load_of_barred (known : environment.homeDirectory = .ok home) {fault : Fault}
    (barred : tree.Barred (fileOf environment argument) fault) :
    load environment tree argument =
      .error (.file (.system fault (some (fileOf environment argument).text))) := by
  have failed : tree.exists (fileOf environment argument) =
      .error (.system fault (some (fileOf environment argument).text)) :=
    FileTree.leadsTo_of_barred barred
  rw [fileOf] at failed
  simp [load, known, failed, fileOf, Except.mapError, bind, Except.bind]

theorem load_of_missing (known : environment.homeDirectory = .ok home)
    (missing : tree.exists (fileOf environment argument) = .ok false) :
    load environment tree argument =
      if (requested? environment argument).isSome then
        .error (.configuration (.notFound (fileOf environment argument)))
      else .ok (standard home) := by
  rw [fileOf] at missing
  simp [load, known, missing, fileOf, Except.mapError, bind, Except.bind, pure, Except.pure, throw,
    throwThe, MonadExceptOf.throw]

theorem load_of_present (known : environment.homeDirectory = .ok home)
    (present : tree.exists (fileOf environment argument) = .ok true) :
    load environment tree argument =
      match readDocument tree (fileOf environment argument) with
      | .ok value => ofValue environment (standard home) (fileOf environment argument) value
      | .error error => .error (documentFailure (fileOf environment argument) error) := by
  rw [fileOf] at present
  simp only [load, known, present, fileOf, Except.mapError, bind, Except.bind, if_true]
  cases readDocument tree (.ofText ((requested? environment argument).getD fileName)) <;> rfl

/-- Loading settles exactly if the file and its document can be used. -/
theorem settles_load_iff (known : environment.homeDirectory = .ok home) :
    Settles (load environment tree argument) ↔ Usable environment (standard home) tree argument := by
  by_cases isBarred : ∃ fault, tree.Barred (fileOf environment argument) fault
  · rcases isBarred with ⟨fault, barred⟩
    rw [load_of_barred known barred]
    constructor
    · intro settles
      simp at settles
    · intro usable
      exact absurd barred (usable.passable fault)
  · have passable : tree.Passable (fileOf environment argument) :=
      fun fault barred => isBarred ⟨fault, barred⟩
    obtain ⟨present, found⟩ : ∃ answer, tree.exists (fileOf environment argument) = .ok answer :=
      FileTree.exists_leadsTo passable
    cases present with
    | false =>
        have empty : readDocument tree (fileOf environment argument) = .ok .null := by
          simp [readDocument, found, Except.mapError, bind, Except.bind, pure, Except.pure]
        have settles : Settles (load environment tree argument) := by
          rw [load_of_missing known found]
          split
          · exact .blamed _
          · exact .made (inDay_standard home)
        have usable : Usable environment (standard home) tree argument :=
          ⟨passable, by simp [empty], by simp [empty]⟩
        exact iff_of_true settles usable
    | true =>
        rw [load_of_present known found]
        cases read : readDocument tree (fileOf environment argument) with
        | error error =>
            rw [settles_documentFailure_iff]
            constructor
            · intro converts
              exact ⟨passable, by simpa [read] using converts, by simp [read]⟩
            · intro usable
              simpa [read] using usable.converts
        | ok value =>
            rw [settles_ofValue_iff (inDay_standard home)]
            constructor
            · intro directories
              exact ⟨passable, by simp [read], by simpa [read] using directories⟩
            · intro usable
              simpa [read] using usable.directories

end Load

end Reader

end Configuration

/-! ## Telling errors -/

/-- Whether a configuration is needed for what is asked for. -/
def Request.NeedsConfiguration (request : Request) : Prop :=
  request.dailyCheck = true ∨ request.command = some .dailyCheck ∨
    ∃ installDir, request.command = some (.setup installDir)

namespace Run

variable [Yaml.Reader] {session : Session} {tree : FileTree} {request : Request}

theorem ofRequest_of_load_error {error : LoadError} (needs : request.NeedsConfiguration)
    (failed : Configuration.load session.environment tree request.configuration = .error error) :
    ofRequest session tree request = Run.failed tree (.load error) := by
  have stops (task : Configuration → Run) :
      configured session tree request task = Run.failed tree (.load error) := by
    simp only [configured, failed]
  rcases needs with asked | asked | ⟨installDir, asked⟩
  · simp [ofRequest, asked, stops]
  · simp [ofRequest, asked, stops]
  · simp [ofRequest, asked, stops]

theorem ofArguments_of_request {arguments : List String}
    (read : Request.ofArguments arguments = .ok request) (needs : request.NeedsConfiguration) :
    ofArguments session tree arguments = (ofRequest session tree request).withErrorTold := by
  cases arguments with
  | nil =>
      -- Without arguments nothing is asked for.
      cases read
      simp [Request.NeedsConfiguration, Request.empty] at needs
  | cons argument arguments => simp [ofArguments, read]

end Run

namespace Configuration

/-- Whatever the configuration file holds and whichever reader reads it, loading ends with a configuration for a time
of day or with an error about the configuration, exactly if the file can be used. The program tells such an error in
one line and ends with exit code one; any other error ends the run. -/
theorem load_settles_iff_usable [Yaml.Reader] {environment : Environment} {home : String}
    (homeGiven : environment.home = some home) (nonempty : home ≠ "") (tree : FileTree)
    (argument : Option String) :
    (Settles (load environment tree argument) ↔
        Usable environment (standard (.ofText home)) tree argument) ∧
      ∀ error, load environment tree argument = .error error →
        ∀ session arguments request, session.environment = environment →
          Request.ofArguments arguments = .ok request → request.configuration = argument →
          request.NeedsConfiguration →
            let run := Run.ofArguments session tree arguments
            run.tree = tree ∧ run.shown = [] ∧
              (∀ reason, error = .configuration reason → run.result = .ok 1 ∧
                ∃ notice, run.notices = [notice] ∧
                  ∀ time, notice.text time = "ERROR: " ++ reason.message) ∧
              ((∀ reason, error ≠ .configuration reason) → run.result = .error (.load error)) := by
  refine ⟨settles_load_iff (Environment.homeDirectory_of_given homeGiven nonempty), ?_⟩
  rintro error failed session arguments request rfl read rfl needs run
  have ran : run = (Run.failed tree (.load error)).withErrorTold := by
    rw [← Run.ofRequest_of_load_error needs failed]
    exact Run.ofArguments_of_request read needs
  cases error with
  | configuration reason =>
      have told : run = ⟨tree, [], [.failure (.load (.configuration reason))], .ok 1⟩ := ran
      rw [told]
      refine ⟨rfl, rfl, ?_, ?_⟩
      · rintro _ ⟨⟩
        exact ⟨rfl, _, rfl, fun _ => rfl⟩
      · intro other
        exact absurd rfl (other reason)
  | _ =>
      rw [ran]
      refine ⟨rfl, rfl, ?_, fun _ => rfl⟩
      rintro _ ⟨⟩

/-- A tree with a configuration file in its working directory. -/
def treeWithConfiguration (text : String) : FileTree :=
  ⟨.directory (.entry fileName (.file (Text.encode text) 0o644 .granted) .empty) .granted, []⟩

/-- A directory in the home directory of the account. -/
theorem load_settles_exampleFile :
    exampleEnvironment.home = some "/home/tester" ∧ "/home/tester" ≠ "" ∧
      (load exampleEnvironment (treeWithConfiguration "log_dir: ~/logs") none).toOption =
        some ⟨.ofText "/home/tester/.openclaw/workspace/.agent/skills", .ofText "/home/proc/logs", 9, 0⟩ ∧
      Usable exampleEnvironment (standard (.ofText "/home/tester"))
        (treeWithConfiguration "log_dir: ~/logs") none := by
  have loaded : (load exampleEnvironment (treeWithConfiguration "log_dir: ~/logs") none).toOption =
      some ⟨.ofText "/home/tester/.openclaw/workspace/.agent/skills", .ofText "/home/proc/logs", 9, 0⟩ := by
    decide +kernel
  have settles : Settles (load exampleEnvironment (treeWithConfiguration "log_dir: ~/logs") none) := by
    cases result : load exampleEnvironment (treeWithConfiguration "log_dir: ~/logs") none with
    | error error => simp [result, Except.toOption] at loaded
    | ok made =>
        rw [result] at loaded
        cases loaded
        exact .made (by decide)
  have homeGiven : exampleEnvironment.home = some "/home/tester" := rfl
  have nonempty : "/home/tester" ≠ "" := by decide
  have usable := (load_settles_iff_usable homeGiven nonempty (treeWithConfiguration "log_dir: ~/logs")
    none).1.mp settles
  exact ⟨homeGiven, nonempty, loaded, usable⟩

/-- A number in place of a directory is not told as an error about the configuration, but ends the run. -/
theorem load_escapes_number :
    exampleEnvironment.home = some "/home/tester" ∧ "/home/tester" ≠ "" ∧
      ¬Settles (load exampleEnvironment (treeWithConfiguration "skills_root: 5") none) ∧
      (Run.ofArguments ⟨exampleEnvironment, .linux, "python3", ⟨⟨2024, 1, 2⟩, 3, 4, 5, 0, none⟩⟩
        (treeWithConfiguration "skills_root: 5") ["daily-check"]).result.toOption = none := by
  decide +kernel

end Configuration

end SkillScan
