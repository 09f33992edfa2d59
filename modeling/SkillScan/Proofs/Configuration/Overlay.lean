import Mathlib.Data.List.Basic
import SkillScan.Configuration.Overlay

/-!
# What a mapping changes in a configuration

Four keys of a mapping say something about a configuration: two name directories, and two more, in the mapping
under `schedule`, name the time. Every field of the configuration that is made depends on its own key only, and
all other keys are passed over. A directory that counts as not given stays as usual, and so does a time without
a key; but the time that is used has to be one of a day even then. A schedule that is no mapping is found wrong
first, then the hour, then the minute.

A text that names a directory is read as a path before a tilde is looked for. So the tilde of `./~name` stands
for a home directory as that of `~name` does, and only a path that does not begin with a tilde is taken as it is.
-/

namespace SkillScan

open Yaml (Value)

/-- The name of the account with whose home directory a path begins: what follows the tilde. -/
def Path.account? (path : Path) : Option String :=
  match path.anchor, path.names with
  | .workingDirectory, first :: _ =>
    match first.toList with
    | '~' :: name => some (String.ofList name)
    | _ => none
  | _, _ => none

theorem Environment.expand_of_noAccount (environment : Environment) {path : Path}
    (noAccount : path.account? = none) : environment.expand path = .ok path := by
  rcases path with ⟨anchor, names⟩
  cases anchor with
  | workingDirectory =>
      cases names with
      | nil => rfl
      | cons first rest =>
          cases chars : first.toList with
          | nil => simp [expand, chars]
          | cons char name =>
              have noTilde : char ≠ '~' := by
                rintro rfl
                simp [Path.account?, chars] at noAccount
              simp [expand, chars, noTilde]
  | root | doubleRoot => rfl

theorem Yaml.Value.field?_insert {name : String} {key : Value} (other : key.isText name = false)
    (before after : List (Value × Value)) (value : Value) :
    field? name (before ++ (key, value) :: after) = field? name (before ++ after) := by
  simp [field?, List.find?_append, other]

namespace Configuration

variable {environment : Environment} {usual : Configuration} {source : Path}
  {entries others : List (Value × Value)}

/-! ## Directories -/

/-- Whether what is given as a directory, if anything is, is a text whose path does not begin with a tilde. -/
def PlainDirectory (given : Option Value) : Prop :=
  ∀ value ∈ given, value.isGiven = true →
    ∃ text, value = .text text ∧ (Path.ofText text).account? = none

/-- The directory that a text names, or the usual one. -/
def directoryNamed (usual : Path) : Option Value → Path
  | some (.text text) => if text = "" then usual else .ofText text
  | _ => usual

theorem directoryNamed_of_not_given {usual : Path} {value : Value} (notGiven : value.isGiven = false) :
    directoryNamed usual (some value) = usual := by
  cases value with
  | text text =>
      have empty : text = "" := by simpa [Value.isGiven] using notGiven
      rw [directoryNamed, if_pos empty]
  | _ => rfl

theorem pathField_of_plain {name : String} {usual : Path}
    (plain : PlainDirectory (Value.field? name entries)) :
    pathField environment name usual entries =
      .ok (directoryNamed usual (Value.field? name entries)) := by
  simp only [pathField]
  generalize Value.field? name entries = given at plain ⊢
  cases given with
  | none => rfl
  | some value =>
      cases isGiven : value.isGiven with
      | false => simp [isGiven, directoryNamed_of_not_given isGiven]
      | true =>
          rcases plain value rfl isGiven with ⟨text, rfl, noAccount⟩
          have nonempty : text ≠ "" := by simpa [Value.isGiven] using isGiven
          simp [isGiven, pathOf, environment.expand_of_noAccount noAccount, directoryNamed, nonempty,
            Except.mapError]

/-! ## Times -/

/-- Whether the number that is given, or the usual one where none is, lies in a range. -/
def AcceptsTime (least greatest usual : Int) : Option Value → Prop
  | none => least ≤ usual ∧ usual ≤ greatest
  | some value => ∃ number, value = .int number ∧ least ≤ number ∧ number ≤ greatest

/-- The number that is given, or the usual one. -/
def timeNamed (usual : Int) : Option Value → Int
  | some (.int number) => number
  | _ => usual

section Times

variable {name label : String} {least greatest usual : Int}

theorem integerField_of_accepted
    (accepted : AcceptsTime least greatest usual (Value.field? name entries)) :
    integerField name label least greatest usual source entries =
      .ok (timeNamed usual (Value.field? name entries)) := by
  simp only [integerField]
  generalize Value.field? name entries = given at accepted ⊢
  cases given with
  | none => simp [timeNamed, accepted.1, accepted.2]
  | some value =>
      rcases accepted with ⟨number, rfl, low, high⟩
      simp [timeNamed, low, high]

theorem integerField_of_refused
    (refused : ¬AcceptsTime least greatest usual (Value.field? name entries)) :
    integerField name label least greatest usual source entries =
      .error (.notInRange label source least greatest) := by
  simp only [integerField]
  generalize Value.field? name entries = given at refused ⊢
  cases given with
  | none =>
      have outside : ¬(least ≤ usual ∧ usual ≤ greatest) := refused
      simp [outside]
  | some value =>
      cases value with
      | int number =>
          have outside : ¬(least ≤ number ∧ number ≤ greatest) := by
            rintro ⟨low, high⟩
            exact refused ⟨number, rfl, low, high⟩
          simp [outside]
      | _ => rfl

end Times

/-! ## The schedule -/

/-- Whether the schedule, if one is given, is a mapping. -/
def SchedulesByMapping (entries : List (Value × Value)) : Prop :=
  ∀ value ∈ Value.field? "schedule" entries, value.isGiven = true → ∃ schedule, value = .map schedule

/-- The value of a key in the schedule. -/
def timeSetting? (name : String) (entries : List (Value × Value)) : Option Value :=
  match Value.field? "schedule" entries with
  | some (.map schedule) => Value.field? name schedule
  | _ => none

theorem scheduleEntries_of_mapping (byMapping : SchedulesByMapping entries) :
    ∃ schedule, scheduleEntries source entries = .ok schedule ∧
      ∀ name, Value.field? name schedule = timeSetting? name entries := by
  simp only [scheduleEntries, SchedulesByMapping, timeSetting?] at byMapping ⊢
  generalize Value.field? "schedule" entries = given at byMapping ⊢
  have withoutEntries : ∀ name, Value.field? name [] = none := fun _ => rfl
  cases given with
  | none => exact ⟨[], rfl, withoutEntries⟩
  | some value =>
      cases value with
      | map schedule => exact ⟨schedule, rfl, fun _ => rfl⟩
      | _ =>
          refine ⟨[], ?_, withoutEntries⟩
          simpa using byMapping _ rfl

theorem scheduleEntries_of_not_mapping (notMapping : ¬SchedulesByMapping entries) :
    scheduleEntries source entries = .error (.scheduleNotMapping source) := by
  simp only [scheduleEntries]
  rw [SchedulesByMapping] at notMapping
  generalize Value.field? "schedule" entries = given at notMapping ⊢
  simp only [Classical.not_forall, not_exists] at notMapping
  rcases notMapping with ⟨value, rfl, isGiven, notMapping⟩
  cases value with
  | map schedule => exact absurd rfl (notMapping schedule)
  | _ => simp [isGiven]

/-- Whether a time of day is given by the keys of the schedule, or by the usual time where they are missing. -/
structure GivesTime (usual : Configuration) (entries : List (Value × Value)) : Prop where
  byMapping : SchedulesByMapping entries
  hour : AcceptsTime 0 23 usual.hour (timeSetting? "hour" entries)
  minute : AcceptsTime 0 59 usual.minute (timeSetting? "minute" entries)

theorem scheduleOf_of_givesTime (gives : GivesTime usual entries) :
    scheduleOf usual source entries =
      .ok (timeNamed usual.hour (timeSetting? "hour" entries),
        timeNamed usual.minute (timeSetting? "minute" entries)) := by
  rcases @scheduleEntries_of_mapping source _ gives.byMapping with ⟨schedule, found, same⟩
  have hour := gives.hour
  have minute := gives.minute
  rw [← same] at hour minute
  simp [scheduleOf, found, integerField_of_accepted hour, integerField_of_accepted minute, same,
    bind, Except.bind, pure, Except.pure]

theorem scheduleOf_of_not_mapping (notMapping : ¬SchedulesByMapping entries) :
    scheduleOf usual source entries = .error (.scheduleNotMapping source) := by
  simp [scheduleOf, scheduleEntries_of_not_mapping notMapping, bind, Except.bind]

theorem scheduleOf_of_wrong_hour (byMapping : SchedulesByMapping entries)
    (refused : ¬AcceptsTime 0 23 usual.hour (timeSetting? "hour" entries)) :
    scheduleOf usual source entries = .error (.notInRange "schedule.hour" source 0 23) := by
  rcases @scheduleEntries_of_mapping source _ byMapping with ⟨schedule, found, same⟩
  rw [← same] at refused
  simp [scheduleOf, found, integerField_of_refused refused, bind, Except.bind]

theorem scheduleOf_of_wrong_minute (byMapping : SchedulesByMapping entries)
    (accepted : AcceptsTime 0 23 usual.hour (timeSetting? "hour" entries))
    (refused : ¬AcceptsTime 0 59 usual.minute (timeSetting? "minute" entries)) :
    scheduleOf usual source entries = .error (.notInRange "schedule.minute" source 0 59) := by
  rcases @scheduleEntries_of_mapping source _ byMapping with ⟨schedule, found, same⟩
  rw [← same] at accepted refused
  simp [scheduleOf, found, integerField_of_accepted accepted, integerField_of_refused refused,
    bind, Except.bind]

/-- Without a time of day there is an error. -/
theorem exists_error_of_not_givesTime (usual : Configuration) (source : Path)
    (gives : ¬GivesTime usual entries) : ∃ error, scheduleOf usual source entries = .error error := by
  by_cases byMapping : SchedulesByMapping entries
  · by_cases accepted : AcceptsTime 0 23 usual.hour (timeSetting? "hour" entries)
    · by_cases acceptedMinute : AcceptsTime 0 59 usual.minute (timeSetting? "minute" entries)
      · exact absurd ⟨byMapping, accepted, acceptedMinute⟩ gives
      · exact ⟨_, scheduleOf_of_wrong_minute byMapping accepted acceptedMinute⟩
    · exact ⟨_, scheduleOf_of_wrong_hour byMapping accepted⟩
  · exact ⟨_, scheduleOf_of_not_mapping byMapping⟩

/-! ## The whole mapping -/

theorem overlay_of_schedule_error {error : ConfigurationError}
    (failed : scheduleOf usual source entries = .error error) :
    overlay environment usual source entries = .error (.configuration error) := by
  simp [overlay, failed, Except.mapError, bind, Except.bind]

theorem overlay_of_plain (gives : GivesTime usual entries)
    (skillsPlain : PlainDirectory (Value.field? "skills_root" entries))
    (logPlain : PlainDirectory (Value.field? "log_dir" entries)) :
    overlay environment usual source entries =
      .ok ⟨directoryNamed usual.skillsRoot (Value.field? "skills_root" entries),
        directoryNamed usual.logDir (Value.field? "log_dir" entries),
        timeNamed usual.hour (timeSetting? "hour" entries),
        timeNamed usual.minute (timeSetting? "minute" entries)⟩ := by
  simp [overlay, scheduleOf_of_givesTime gives, pathField_of_plain skillsPlain,
    pathField_of_plain logPlain, Except.mapError, bind, Except.bind, pure, Except.pure]

/-- Two mappings that agree in three keys make the same of any configuration. -/
theorem overlay_congr (schedule : scheduleOf usual source entries = scheduleOf usual source others)
    (skillsRoot : Value.field? "skills_root" entries = Value.field? "skills_root" others)
    (logDir : Value.field? "log_dir" entries = Value.field? "log_dir" others) :
    overlay environment usual source entries = overlay environment usual source others := by
  simp only [overlay, schedule, pathField, skillsRoot, logDir]

/-- A key of another name makes no difference beside the three keys. -/
theorem overlay_insert {key : Value}
    (other : ∀ name ∈ ["schedule", "skills_root", "log_dir"], key.isText name = false)
    (before after : List (Value × Value)) (value : Value) :
    overlay environment usual source (before ++ (key, value) :: after) =
      overlay environment usual source (before ++ after) := by
  have same (name : String) (member : name ∈ ["schedule", "skills_root", "log_dir"]) :
      Value.field? name (before ++ (key, value) :: after) = Value.field? name (before ++ after) :=
    Value.field?_insert (other name member) before after value
  apply overlay_congr
  · simp only [scheduleOf, scheduleEntries, same "schedule" (by simp)]
  · exact same "skills_root" (by simp)
  · exact same "log_dir" (by simp)

/-- A key of another name makes no difference in the schedule. -/
theorem overlay_insert_schedule {key : Value}
    (other : ∀ name ∈ ["hour", "minute"], key.isText name = false)
    (front back before after : List (Value × Value)) (value : Value) :
    overlay environment usual source
        (front ++ (.text "schedule", .map (before ++ (key, value) :: after)) :: back) =
      overlay environment usual source
        (front ++ (.text "schedule", .map (before ++ after)) :: back) := by
  have same (name : String) (member : name ∈ ["hour", "minute"]) :
      Value.field? name (before ++ (key, value) :: after) = Value.field? name (before ++ after) :=
    Value.field?_insert (other name member) before after value
  have beside {name : String} (notSchedule : name ≠ "schedule") (schedule : List (Value × Value)) :
      Value.field? name (front ++ (.text "schedule", .map schedule) :: back) =
        Value.field? name (front ++ back) := by
    apply Value.field?_insert
    simpa [Value.isText] using Ne.symm notSchedule
  have schedules (schedule : List (Value × Value)) :
      Value.field? "schedule" (front ++ (.text "schedule", .map schedule) :: back) =
        (Value.field? "schedule" back).or (some (.map schedule)) := by
    simp only [Value.field?, List.reverse_append, List.reverse_cons, List.find?_append]
    cases back.reverse.find? (fun entry => entry.1.isText "schedule") <;> simp [Value.isText]
  apply overlay_congr
  · simp only [scheduleOf, scheduleEntries, schedules]
    cases Value.field? "schedule" back with
    | some later => rfl
    | none =>
        simp only [Option.none_or, integerField, same "hour" (by simp), same "minute" (by simp),
          bind, Except.bind]
  · rw [beside (by decide), beside (by decide)]
  · rw [beside (by decide), beside (by decide)]

theorem message_notInRange {key beginning range : String} {least greatest : Int}
    (named : "'" ++ key ++ "' in " = beginning)
    (written : " must be an integer between " ++ (toString least ++ (" and " ++ toString greatest)) = range) :
    (ConfigurationError.notInRange key source least greatest).message =
      beginning ++ source.text ++ range := by
  rw [← named, ← written]
  simp only [← String.append_assoc]
  rfl

/-- Whether the directories of a mapping are named by texts whose paths do not begin with a tilde. -/
structure NamesPlainly (entries : List (Value × Value)) : Prop where
  skillsRoot : PlainDirectory (Value.field? "skills_root" entries)
  logDir : PlainDirectory (Value.field? "log_dir" entries)

/-- A mapping makes a configuration exactly if it gives a time of day, and then every field comes from its own
key or stays as usual. Otherwise the error names the key that is wrong first. All other keys, beside the three
or in the schedule, make no difference. -/
theorem overlay_follows_keys (environment : Environment) (usual : Configuration) (source : Path)
    (plain : NamesPlainly entries) :
    ((∃ made, overlay environment usual source entries = .ok made) ↔ GivesTime usual entries) ∧
      (GivesTime usual entries → overlay environment usual source entries =
        .ok ⟨directoryNamed usual.skillsRoot (Value.field? "skills_root" entries),
          directoryNamed usual.logDir (Value.field? "log_dir" entries),
          timeNamed usual.hour (timeSetting? "hour" entries),
          timeNamed usual.minute (timeSetting? "minute" entries)⟩) ∧
      (¬SchedulesByMapping entries →
        ∃ error, overlay environment usual source entries = .error (.configuration error) ∧
          error.message = "'schedule' in " ++ source.text ++ " must be a mapping") ∧
      (SchedulesByMapping entries → ¬AcceptsTime 0 23 usual.hour (timeSetting? "hour" entries) →
        ∃ error, overlay environment usual source entries = .error (.configuration error) ∧
          error.message =
            "'schedule.hour' in " ++ source.text ++ " must be an integer between 0 and 23") ∧
      (SchedulesByMapping entries → AcceptsTime 0 23 usual.hour (timeSetting? "hour" entries) →
        ¬AcceptsTime 0 59 usual.minute (timeSetting? "minute" entries) →
        ∃ error, overlay environment usual source entries = .error (.configuration error) ∧
          error.message =
            "'schedule.minute' in " ++ source.text ++ " must be an integer between 0 and 59") ∧
      (∀ others made otherMade, NamesPlainly others →
        overlay environment usual source entries = .ok made →
        overlay environment usual source others = .ok otherMade →
          (Value.field? "skills_root" entries = Value.field? "skills_root" others →
            made.skillsRoot = otherMade.skillsRoot) ∧
          (Value.field? "log_dir" entries = Value.field? "log_dir" others →
            made.logDir = otherMade.logDir) ∧
          (timeSetting? "hour" entries = timeSetting? "hour" others → made.hour = otherMade.hour) ∧
          (timeSetting? "minute" entries = timeSetting? "minute" others →
            made.minute = otherMade.minute)) ∧
      (∀ before after key value,
        (∀ name ∈ ["schedule", "skills_root", "log_dir"], key.isText name = false) →
        entries = before ++ (key, value) :: after →
          overlay environment usual source entries =
            overlay environment usual source (before ++ after)) ∧
      ∀ front back before after key value, (∀ name ∈ ["hour", "minute"], key.isText name = false) →
        entries = front ++ (.text "schedule", .map (before ++ (key, value) :: after)) :: back →
          overlay environment usual source entries = overlay environment usual source
            (front ++ (.text "schedule", .map (before ++ after)) :: back) := by
  have fields {others : List (Value × Value)} {made : Configuration} (plain : NamesPlainly others)
      (done : overlay environment usual source others = .ok made) : GivesTime usual others ∧
        made = ⟨directoryNamed usual.skillsRoot (Value.field? "skills_root" others),
          directoryNamed usual.logDir (Value.field? "log_dir" others),
          timeNamed usual.hour (timeSetting? "hour" others),
          timeNamed usual.minute (timeSetting? "minute" others)⟩ := by
    by_cases gives : GivesTime usual others
    · rw [overlay_of_plain gives plain.skillsRoot plain.logDir] at done
      exact ⟨gives, (Except.ok.inj done).symm⟩
    · rcases exists_error_of_not_givesTime usual source gives with ⟨error, failed⟩
      rw [overlay_of_schedule_error failed] at done
      cases done
  refine ⟨⟨?_, ?_⟩, ?_, ?_, ?_, ?_, ?_, ?_, ?_⟩
  · rintro ⟨made, done⟩
    exact (fields plain done).1
  · intro gives
    exact ⟨_, overlay_of_plain gives plain.skillsRoot plain.logDir⟩
  · intro gives
    exact overlay_of_plain gives plain.skillsRoot plain.logDir
  · intro notMapping
    exact ⟨_, overlay_of_schedule_error (scheduleOf_of_not_mapping notMapping), rfl⟩
  · intro byMapping refused
    exact ⟨_, overlay_of_schedule_error (scheduleOf_of_wrong_hour byMapping refused),
      message_notInRange (by decide) (by decide)⟩
  · intro byMapping accepted refused
    exact ⟨_, overlay_of_schedule_error (scheduleOf_of_wrong_minute byMapping accepted refused),
      message_notInRange (by decide) (by decide)⟩
  · intro others made otherMade othersPlain done otherDone
    rw [(fields plain done).2, (fields othersPlain otherDone).2]
    exact ⟨fun same => by rw [same], fun same => by rw [same], fun same => by rw [same],
      fun same => by rw [same]⟩
  · rintro before after key value other rfl
    exact overlay_insert other before after value
  · rintro front back before after key value other rfl
    exact overlay_insert_schedule other front back before after value

/-- An account whose home directory differs from the one that the session names. -/
def exampleEnvironment : Environment :=
  ⟨some "/home/tester", none, "/home/proc", []⟩

/-- A directory, a directory that counts as not given, and a schedule with one key that has a meaning. -/
def exampleEntries : List (Value × Value) := [
  (.text "skills_root", .text "skills/"),
  (.text "schedule", .map [(.text "zone", .text "UTC"), (.text "hour", .int 6)]),
  (.text "log_dir", .bool false)]

theorem overlay_exampleEntries :
    NamesPlainly exampleEntries ∧
      overlay exampleEnvironment (standard (.ofText "/home/tester")) (.ofText "c.yaml") exampleEntries =
        .ok ⟨.ofText "skills", .ofText "/home/tester/.openclaw/hardhat/logs", 6, 0⟩ := by
  have plain : NamesPlainly exampleEntries := by
    constructor
    · rintro _ ⟨⟩ _
      exact ⟨_, rfl, by decide⟩
    · rintro _ ⟨⟩ notGiven
      cases notGiven
  have gives : GivesTime (standard (.ofText "/home/tester")) exampleEntries := by
    constructor
    · rintro _ ⟨⟩ _
      exact ⟨_, rfl⟩
    · exact ⟨6, rfl, by decide⟩
    · exact ⟨by decide, by decide⟩
  have made := (overlay_follows_keys exampleEnvironment (standard (.ofText "/home/tester"))
    (.ofText "c.yaml") plain).2.1 gives
  exact ⟨plain, made⟩

/-- A text that does not begin with a tilde may still name a home directory, or fail to name one; and where no
time is given, the usual one may be refused. -/
theorem overlay_expands_inner_tilde :
    ("./~".toList.head? ≠ some '~' ∧
      ∃ made, overlay exampleEnvironment (standard (.ofText "/home/tester")) (.ofText "c.yaml")
          [(.text "skills_root", .text "./~")] = .ok made ∧
        made.skillsRoot = .ofText "/home/proc" ∧ made.skillsRoot ≠ .ofText "./~") ∧
      ("./~nobody".toList.head? ≠ some '~' ∧
        overlay exampleEnvironment (standard (.ofText "/home/tester")) (.ofText "c.yaml")
          [(.text "skills_root", .text "./~nobody")] = .error (.path (.home .unknown))) ∧
      overlay exampleEnvironment { standard (.ofText "/home/tester") with hour := 24 } (.ofText "c.yaml") [] =
        .error (.configuration (.notInRange "schedule.hour" (.ofText "c.yaml") 0 23)) := by
  refine ⟨⟨by decide, _, rfl, by decide, by decide⟩, ⟨by decide, rfl⟩, rfl⟩

end Configuration

end SkillScan
