import SkillScan.Proofs.Path.NormalForm
import SkillScan.Proofs.PropertyList.Faults
import SkillScan.Proofs.PropertyList.RoundTrip
import SkillScan.Schedule.LaunchAgent

/-!
# What is read from the document of a launch agent

Three paths and the time of the day enter the document of a launch agent. It cannot be written if one of the paths
has a control character or, failing that, if one of the two integers is out of range. Otherwise it is written, and
everything is read back from it; only a carriage return comes back as a newline. The exception are two characters
that are written like any other but that XML does not have: a document with one of them is not read at all.
-/

namespace SkillScan.LaunchAgent

open PropertyList (AllStand allStand_append_iff allStand_cons_iff errorOf? errorOf?_eq_some_iff faults
  integerFaults mayStand textFaults unified unifiedText unifiedText_of_noReturn)

/-- The control characters that no text of a property list may have. -/
def IsControl (char : Char) : Prop :=
  char.toNat ≤ 0x8 ∨ char.toNat = 0xB ∨ char.toNat = 0xC ∨ 0xE ≤ char.toNat ∧ char.toNat ≤ 0x1F

/-- The characters that are no control characters and still may not stand in XML: the last two of the first plane. -/
def Unreadable (char : Char) : Prop :=
  char.toNat = 0xFFFE ∨ char.toNat = 0xFFFF

instance (char : Char) : Decidable (Unreadable char) :=
  inferInstanceAs (Decidable (char.toNat = 0xFFFE ∨ char.toNat = 0xFFFF))

/-- The integers that fit into 64 bits with or without a sign. -/
def Fits (value : Int) : Prop :=
  -2 ^ 63 ≤ value ∧ value < 2 ^ 64

instance (value : Int) : Decidable (Fits value) :=
  inferInstanceAs (Decidable (-2 ^ 63 ≤ value ∧ value < 2 ^ 64))

/-- The texts that stand in every document. -/
def fixedTexts : List String :=
  ["Label", "ProgramArguments", "StandardErrorPath", "StandardOutPath", "StartCalendarInterval", "Hour", "Minute",
    label]

/-- The texts that are put into the document. -/
def insertedTexts (agent : LaunchAgent) : List String :=
  [agent.script.text, (agent.logDir.child "launchd-err.log").text, (agent.logDir.child "launchd-out.log").text]

/-- Some text that is put into the document has a control character. -/
def InsertsControl (agent : LaunchAgent) : Prop :=
  ∃ text ∈ agent.insertedTexts, ∃ char ∈ text.toList, IsControl char

section Faults

variable {agent : LaunchAgent}

theorem isControl_iff {char : Char} : PropertyList.isControl char = true ↔ IsControl char := by
  simp only [PropertyList.isControl, IsControl, Bool.or_eq_true, Bool.and_eq_true, decide_eq_true_eq,
    beq_iff_eq]
  omega

theorem any_isControl_iff {text : String} :
    text.toList.any PropertyList.isControl = true ↔ ∃ char ∈ text.toList, IsControl char := by
  simp only [List.any_eq_true, isControl_iff]

theorem integerFaults_eq (value : Int) :
    integerFaults value = if Fits value then [] else [.integerOutOfRange value] := by
  have same : (PropertyList.leastInteger ≤ value && value < PropertyList.integerBound) = true ↔ Fits value := by
    rw [Bool.and_eq_true, decide_eq_true_eq, decide_eq_true_eq]
    exact Iff.rfl
  exact if_congr same rfl rfl

theorem eq_controlCharacter_of_mem {texts : List String} {fault : PropertyListError}
    (member : fault ∈ texts.flatMap textFaults) : fault = .controlCharacter := by
  rcases List.mem_flatMap.mp member with ⟨text, _, inFaults⟩
  rw [textFaults] at inFaults
  split at inFaults
  · exact List.mem_singleton.mp inFaults
  · contradiction

theorem flatMap_textFaults_eq_nil_iff {texts : List String} :
    texts.flatMap textFaults = [] ↔ ¬∃ text ∈ texts, ∃ char ∈ text.toList, IsControl char := by
  simp only [List.flatMap_eq_nil_iff, textFaults, ite_eq_right_iff, List.cons_ne_nil, imp_false,
    any_isControl_iff, not_exists, not_and]

theorem faults_description (agent : LaunchAgent) :
    faults agent.description =
      agent.insertedTexts.flatMap textFaults ++ (integerFaults agent.hour ++ integerFaults agent.minute) := by
  have noControl : ∀ text ∈ fixedTexts, text.toList.any PropertyList.isControl = false := by
    decide
  have plain : ∀ text ∈ fixedTexts, textFaults text = [] := by
    intro text isFixed
    rw [textFaults, noControl text isFixed, if_neg Bool.false_ne_true]
  simp only [fixedTexts, List.mem_cons, List.not_mem_nil, or_false, forall_eq_or_imp, forall_eq] at plain
  simp [description, faults, PropertyList.itemFaults, PropertyList.fieldFaults, insertedTexts, plain]

theorem document_of_control (control : agent.InsertsControl) : agent.document = .error .controlCharacter := by
  rw [document, PropertyList.document_eq_error_iff, faults_description]
  cases found : agent.insertedTexts.flatMap textFaults with
  | nil => exact absurd control (flatMap_textFaults_eq_nil_iff.mp found)
  | cons first rest =>
      have isControl : first = .controlCharacter := by
        have member : first ∈ agent.insertedTexts.flatMap textFaults := by
          rw [found]
          exact List.mem_cons_self
        exact eq_controlCharacter_of_mem member
      rw [isControl]
      rfl

theorem errorOf?_document_of_noControl (noControl : ¬agent.InsertsControl) :
    errorOf? agent.document =
      if Fits agent.hour then if Fits agent.minute then none else some (.integerOutOfRange agent.minute)
      else some (.integerOutOfRange agent.hour) := by
  rw [document, PropertyList.errorOf?_document, faults_description, flatMap_textFaults_eq_nil_iff.mpr noControl,
    integerFaults_eq, integerFaults_eq]
  split
  · split <;> rfl
  · rfl

end Faults

section Texts

variable {agent : LaunchAgent}

theorem plain_of_chars {chars : List Char} (noReturn : '\r' ∉ chars)
    (noControl : chars.any PropertyList.isControl = false) :
    ∀ char ∈ chars, char ≠ '\r' ∧ ¬IsControl char := by
  intro char member
  refine ⟨ne_of_mem_of_not_mem member noReturn, ?_⟩
  rw [← isControl_iff]
  exact List.any_eq_false.mp noControl char member

/-- What holds of the characters of both paths, of a slash and of the names of the two files holds of all characters
that are put into the document. -/
theorem forall_mem_insertedTexts {property : Char → Prop} (slash : property '/')
    (names : ∀ name ∈ ["launchd-err.log", "launchd-out.log"], ∀ char ∈ name.toList, property char)
    (paths : ∀ char ∈ agent.script.text.toList ++ agent.logDir.text.toList, property char) :
    ∀ text ∈ agent.insertedTexts, ∀ char ∈ text.toList, property char := by
  have inLogDir {name : String} (isName : IsEntryName name)
      (isLog : name ∈ ["launchd-err.log", "launchd-out.log"]) :
      ∀ char ∈ (agent.logDir.child name).text.toList, property char := by
    intro char member
    rcases Path.mem_toList_text_child (Path.isName_of_isEntryName isName) member with inPath | rfl | inName
    · exact paths char (List.mem_append_right _ inPath)
    · exact slash
    · exact names name isLog char inName
  simp only [insertedTexts, List.mem_cons, List.not_mem_nil, or_false, forall_eq_or_imp, forall_eq]
  refine ⟨?_, inLogDir (by decide) (by simp), inLogDir (by decide) (by simp)⟩
  intro char member
  exact paths char (List.mem_append_left _ member)

theorem plain_insertedTexts
    (plain : ∀ char ∈ agent.script.text.toList ++ agent.logDir.text.toList, char ≠ '\r' ∧ ¬IsControl char) :
    ∀ text ∈ agent.insertedTexts, ∀ char ∈ text.toList, char ≠ '\r' ∧ ¬IsControl char := by
  refine forall_mem_insertedTexts ⟨by decide, by simp [IsControl]⟩ ?_ plain
  simp only [List.mem_cons, List.not_mem_nil, or_false, forall_eq_or_imp, forall_eq]
  exact ⟨plain_of_chars (by decide) (by decide), plain_of_chars (by decide) (by decide)⟩

theorem mayStand_iff {char : Char} (noControl : ¬IsControl char) : mayStand char = true ↔ ¬Unreadable char := by
  have valid : char.toNat < 0xD800 ∨ 0xDFFF < char.toNat ∧ char.toNat < 0x110000 := char.valid
  simp only [IsControl] at noControl
  simp only [mayStand, Unreadable, Bool.or_eq_true, Bool.and_eq_true, decide_eq_true_eq, beq_iff_eq]
  omega

/-- Without control characters, it is up to the two exceptions whether all that is put into the document may stand
there. -/
theorem allStand_insertedTexts_iff
    (plain : ∀ char ∈ agent.script.text.toList ++ agent.logDir.text.toList, char ≠ '\r' ∧ ¬IsControl char) :
    AllStand agent.insertedTexts ↔
      ∀ char ∈ agent.script.text.toList ++ agent.logDir.text.toList, ¬Unreadable char := by
  constructor
  · intro stand char member unreadable
    have standing {text : String} (isInserted : text ∈ agent.insertedTexts) (inText : char ∈ text.toList) : False :=
      (mayStand_iff (plain char member).2).mp (List.all_eq_true.mp (stand text isInserted) char inText) unreadable
    rcases List.mem_append.mp member with inScript | inLogDir
    · exact standing (by simp [insertedTexts]) inScript
    · have noDot : char ≠ '.' := by
        rintro rfl
        exact absurd unreadable (by decide)
      have isName : Path.IsName "launchd-err.log" := Path.isName_of_isEntryName (by decide)
      exact standing (by simp [insertedTexts]) (Path.mem_toList_text_child_of_mem isName noDot inLogDir)
  · intro readable text isInserted
    have names : AllStand ["launchd-err.log", "launchd-out.log"] := by decide
    rw [List.all_eq_true]
    refine @forall_mem_insertedTexts agent (mayStand · = true) (by decide) ?_ ?_ text isInserted
    · intro name isLog
      exact List.all_eq_true.mp (names name isLog)
    · intro char member
      exact (mayStand_iff (plain char member).2).mpr (readable char member)

theorem allStand_description_iff (agent : LaunchAgent) :
    AllStand agent.description.texts ↔ AllStand agent.insertedTexts := by
  have fixed : AllStand fixedTexts := by decide
  simp only [fixedTexts, allStand_cons_iff] at fixed
  simp only [description, PropertyList.texts, PropertyList.itemTexts, PropertyList.fieldTexts, insertedTexts,
    allStand_cons_iff, allStand_append_iff, fixed, and_true, true_and]

theorem unified_description (noReturn : ∀ text ∈ agent.insertedTexts, '\r' ∉ text.toList) :
    unified agent.description = agent.description := by
  have fixedNoReturn : ∀ text ∈ fixedTexts, '\r' ∉ text.toList := by
    decide
  have fixed : ∀ text ∈ fixedTexts, unifiedText text = text := by
    intro text isFixed
    exact unifiedText_of_noReturn (fixedNoReturn text isFixed)
  have inserted : ∀ text ∈ agent.insertedTexts, unifiedText text = text := by
    intro text isInserted
    exact unifiedText_of_noReturn (noReturn text isInserted)
  simp only [fixedTexts, List.mem_cons, List.not_mem_nil, or_false, forall_eq_or_imp, forall_eq] at fixed
  simp only [insertedTexts, List.mem_cons, List.not_mem_nil, or_false, forall_eq_or_imp, forall_eq] at inserted
  simp [description, unified, PropertyList.unifiedItems, PropertyList.unifiedFields, fixed, inserted]

/-- A document with plain texts and integers in range is written. It is read back if all that is put into it may
stand there, and else it is not read. -/
theorem exists_document
    (plain : ∀ char ∈ agent.script.text.toList ++ agent.logDir.text.toList, char ≠ '\r' ∧ ¬IsControl char)
    (hourFits : Fits agent.hour) (minuteFits : Fits agent.minute) :
    ∃ document, agent.document = .ok document ∧
      ((∀ char ∈ agent.script.text.toList ++ agent.logDir.text.toList, ¬Unreadable char) →
        PropertyList.read? (Text.encode document) = some agent.description) ∧
      ((∃ char ∈ agent.script.text.toList ++ agent.logDir.text.toList, Unreadable char) →
        PropertyList.read? (Text.encode document) = none) := by
  have plainTexts := plain_insertedTexts plain
  have noControl : ¬agent.InsertsControl := by
    rintro ⟨text, isInserted, char, member, control⟩
    exact (plainTexts text isInserted char member).2 control
  have noReturn : ∀ text ∈ agent.insertedTexts, '\r' ∉ text.toList := by
    intro text isInserted member
    exact (plainTexts text isInserted '\r' member).1 rfl
  have noFault := errorOf?_document_of_noControl noControl
  rw [if_pos hourFits, if_pos minuteFits] at noFault
  cases written : agent.document with
  | error error => simp [written, errorOf?] at noFault
  | ok text =>
      have stand := (allStand_description_iff agent).trans (allStand_insertedTexts_iff plain)
      have reads := PropertyList.read?_document written
      rw [unified_description noReturn] at reads
      refine ⟨text, rfl, ?_, ?_⟩
      · intro readable
        rw [reads, if_pos (stand.mpr readable)]
      · rintro ⟨char, member, unreadable⟩
        rw [reads, if_neg]
        intro allStand
        exact stand.mp allStand char member unreadable

end Texts

/-- What is written into the document of an agent is read back unless XML does not have one of the characters. What
keeps it from being written is a control character in a text or else an integer out of range. -/
theorem document_reads_back (agent : LaunchAgent) :
    ((∀ char ∈ agent.script.text.toList ++ agent.logDir.text.toList, char ≠ '\r' ∧ ¬IsControl char) →
        Fits agent.hour → Fits agent.minute →
        ∃ document, agent.document = .ok document ∧
          ((∀ char ∈ agent.script.text.toList ++ agent.logDir.text.toList, ¬Unreadable char) →
            PropertyList.read? (Text.encode document) = some (.dictionary [
              ("Label", .text "com.openclaw.hardhat.dailycheck"),
              ("ProgramArguments", .array [.text agent.script.text]),
              ("StandardErrorPath", .text (agent.logDir.child "launchd-err.log").text),
              ("StandardOutPath", .text (agent.logDir.child "launchd-out.log").text),
              ("StartCalendarInterval",
                .dictionary [("Hour", .integer agent.hour), ("Minute", .integer agent.minute)])])) ∧
          ((∃ char ∈ agent.script.text.toList ++ agent.logDir.text.toList, Unreadable char) →
            PropertyList.read? (Text.encode document) = none)) ∧
      (agent.document = .error .controlCharacter ↔ agent.InsertsControl) ∧
      ∀ value, agent.document = .error (.integerOutOfRange value) ↔
        ¬agent.InsertsControl ∧ ¬(Fits agent.hour ∧ Fits agent.minute) ∧
          value = if Fits agent.hour then agent.minute else agent.hour := by
  refine ⟨?_, ?_, ?_⟩
  · intro plain hourFits minuteFits
    exact exists_document plain hourFits minuteFits
  · constructor
    · intro failed
      by_contra noControl
      have fault := errorOf?_document_of_noControl noControl
      rw [failed] at fault
      split at fault
      · split at fault <;> cases fault
      · cases fault
    · exact document_of_control
  · intro value
    by_cases control : agent.InsertsControl
    · simp [document_of_control control, control]
    · have fault := errorOf?_document_of_noControl control
      rw [← errorOf?_eq_some_iff, fault]
      by_cases hourFits : Fits agent.hour
      · by_cases minuteFits : Fits agent.minute
        · simp [control, hourFits, minuteFits]
        · simp [control, hourFits, minuteFits, eq_comm]
      · simp [control, hourFits, eq_comm]

/-- An agent whose paths have markup and a line end in them. -/
def exampleAgent : LaunchAgent :=
  ⟨.ofText "/opt/R&D <new>\n/daily-check.sh", .ofText "/var/log/a&amp;b", 9, 30⟩

theorem document_exampleAgent :
    (∀ char ∈ exampleAgent.script.text.toList ++ exampleAgent.logDir.text.toList,
        char ≠ '\r' ∧ ¬IsControl char) ∧
      (∀ char ∈ exampleAgent.script.text.toList ++ exampleAgent.logDir.text.toList, ¬Unreadable char) ∧
      Fits exampleAgent.hour ∧ Fits exampleAgent.minute ∧
      ∃ document, exampleAgent.document = .ok document ∧
        PropertyList.read? (Text.encode document) = some exampleAgent.description := by
  have plain : ∀ char ∈ exampleAgent.script.text.toList ++ exampleAgent.logDir.text.toList,
      char ≠ '\r' ∧ ¬IsControl char :=
    plain_of_chars (by decide) (by decide)
  have readable : ∀ char ∈ exampleAgent.script.text.toList ++ exampleAgent.logDir.text.toList,
      ¬Unreadable char := by
    intro char member
    rw [← mayStand_iff (plain char member).2]
    exact List.all_eq_true.mp (show List.all _ mayStand = true by decide) char member
  have hourFits : Fits exampleAgent.hour := by decide
  have minuteFits : Fits exampleAgent.minute := by decide
  rcases (document_reads_back exampleAgent).1 plain hourFits minuteFits with ⟨document, written, reads, _⟩
  exact ⟨plain, readable, hourFits, minuteFits, document, written, reads readable⟩

/-- An agent with a path that XML has no character for. -/
def unreadableAgent : LaunchAgent :=
  ⟨.ofText "/opt/a\uFFFEb/daily-check.sh", .ofText "/var/log", 9, 0⟩

/-- Neither of the paths has a control character, and still the document is not read. -/
theorem document_unreadableAgent :
    (∀ char ∈ unreadableAgent.script.text.toList ++ unreadableAgent.logDir.text.toList,
        char ≠ '\r' ∧ ¬IsControl char) ∧
      Fits unreadableAgent.hour ∧ Fits unreadableAgent.minute ∧
      ∃ document, unreadableAgent.document = .ok document ∧
        PropertyList.read? (Text.encode document) = none := by
  have plain : ∀ char ∈ unreadableAgent.script.text.toList ++ unreadableAgent.logDir.text.toList,
      char ≠ '\r' ∧ ¬IsControl char :=
    plain_of_chars (by decide) (by decide)
  have unreadable : ∃ char ∈ unreadableAgent.script.text.toList ++ unreadableAgent.logDir.text.toList,
      Unreadable char :=
    ⟨'\uFFFE', by decide, by decide⟩
  have hourFits : Fits unreadableAgent.hour := by decide
  have minuteFits : Fits unreadableAgent.minute := by decide
  rcases exists_document plain hourFits minuteFits with ⟨document, written, _, fails⟩
  exact ⟨plain, hourFits, minuteFits, document, written, fails unreadable⟩

end SkillScan.LaunchAgent
