import SkillScan.Proofs.Path.NormalForm
import SkillScan.Proofs.ShellWord.Reading
import SkillScan.Proofs.Text.Numeral
import SkillScan.Proofs.Text.Run
import SkillScan.Schedule.Crontab

/-!
# What cron makes of a crontab entry

Cron reads five fields and takes the rest of the line for the command, in which a percent sign ends what is given
to the shell. The entry of the daily check always names its time. Its command is the path of the script as it
is, without any quotes. So the shell gets one word, and the path itself, exactly if nothing in the path has a
meaning to the shell or to cron. The script of the daily check, which quotes the texts that enter it, has no
such limit.
-/

namespace SkillScan.Crontab

open ShellWord (isBlank isOrdinary onlyWord? onlyWord?_of_isOrdinary isOrdinary_of_onlyWord?)
open Text (eq_false_of_all takeWhile_append_of_stops dropWhile_append_of_stops)

/-- What a field of an entry admits. Lists, ranges, steps and names are left out. -/
inductive Field where
  | every
  | number (value : Nat)
  deriving DecidableEq

/-- Reads a field whose numbers lie in a range. -/
def Field.read? (least greatest : Nat) (text : List Char) : Option Field :=
  if text = ['*'] then some .every
  else if text.isEmpty || !text.all Char.isDigit then none
  else
    let value := Nat.ofDigitChars 10 text 0
    if least ≤ value && value ≤ greatest then some (.number value) else none

/-- A command and when it is to be run. -/
structure Job where
  minute : Field
  hour : Field
  day : Field
  month : Field
  weekday : Field
  /-- What is given to the shell. -/
  command : List Char
  deriving DecidableEq

/-- The first field of a text, and what stands behind it. -/
def cutField (text : List Char) : List Char × List Char :=
  let text := text.dropWhile isBlank
  (text.takeWhile (!isBlank ·), text.dropWhile (!isBlank ·))

/-- The command in the rest of an entry. It ends at a percent sign that no backslash takes its meaning from, or
with the line. -/
def commandIn : List Char → List Char
  | [] => []
  | '\\' :: '%' :: rest => '%' :: commandIn rest
  | char :: rest => if char = '%' || char = '\n' then [] else char :: commandIn rest

/-- Reads an entry. -/
def Job.read? (line : List Char) : Option Job := do
  let (minute, line) := cutField line
  let (hour, line) := cutField line
  let (day, line) := cutField line
  let (month, line) := cutField line
  let (weekday, line) := cutField line
  return ⟨← Field.read? 0 59 minute, ← Field.read? 0 23 hour, ← Field.read? 1 31 day,
    ← Field.read? 1 12 month, ← Field.read? 0 7 weekday, commandIn (line.dropWhile isBlank)⟩

/-! ## Fields -/

section Fields

variable {text rest : List Char}

theorem cutField_blank : cutField (' ' :: text) = cutField text := by
  simp [cutField, isBlank]

theorem cutField_append (nonempty : text ≠ []) (noBlank : ∀ char ∈ text, isBlank char = false) :
    cutField (text ++ ' ' :: rest) = (text, ' ' :: rest) := by
  have kept : (text ++ ' ' :: rest).dropWhile isBlank = text ++ ' ' :: rest := by
    cases text with
    | nil => exact absurd rfl nonempty
    | cons char text => simp [noBlank char (by simp)]
  have ofKind : ∀ char ∈ text, (!isBlank char) = true := by
    intro char member
    rw [noBlank char member, Bool.not_false]
  rw [cutField, kept, takeWhile_append_of_stops ofKind rfl, dropWhile_append_of_stops ofKind rfl]

theorem noBlank_toString (number : Nat) : ∀ char ∈ (toString number).toList, isBlank char = false := by
  intro char member
  cases blank : isBlank char with
  | false => rfl
  | true =>
      simp only [isBlank, Bool.or_eq_true, beq_iff_eq] at blank
      rcases blank with rfl | rfl
      · exact absurd member (Text.not_mem_toString (by decide))
      · exact absurd member (Text.not_mem_toString (by decide))

theorem toString_ne_nil (number : Nat) : (toString number).toList ≠ [] := by
  rw [Text.toList_toString]
  exact Nat.toDigits_ne_nil

theorem read?_toString {least greatest number : Nat} (low : least ≤ number) (high : number ≤ greatest) :
    Field.read? least greatest (toString number).toList = some (.number number) := by
  have noStar : (toString number).toList ≠ ['*'] := by
    intro star
    have held : '*' ∈ (toString number).toList := by
      rw [star]
      simp
    exact Text.not_mem_toString (by decide) held
  have digits := Text.all_isDigit_toString number
  have value : Nat.ofDigitChars 10 (toString number).toList 0 = number := by
    rw [Text.toList_toString]
    exact Nat.ofDigitChars_ten_toDigits
  simp only [Field.read?, noStar, if_false, digits, value, low, high, List.isEmpty_eq_false_iff.mpr
    (toString_ne_nil number)]
  rfl

end Fields

/-! ## Commands -/

section Commands

variable {text : List Char}

theorem commandIn_of_plain (plain : ∀ char ∈ text, char ≠ '%' ∧ char ≠ '\n') : commandIn text = text := by
  induction text using commandIn.induct with
  | case1 => rfl
  | case2 rest _ => exact absurd rfl (plain '%' (by simp)).1
  | case3 char rest _ stop => simp [plain char (by simp)] at stop
  | case4 char rest noEscape goesOn ih =>
      rw [commandIn.eq_3 char rest noEscape, if_neg goesOn, ih fun other member => plain other (by simp [member])]

theorem length_commandIn_le (text : List Char) : (commandIn text).length ≤ text.length := by
  induction text using commandIn.induct with
  | case1 => rfl
  | case2 rest ih =>
      rw [commandIn, List.length_cons, List.length_cons, List.length_cons]
      omega
  | case3 char rest noEscape stop => simp [commandIn.eq_3 char rest noEscape, stop]
  | case4 char rest noEscape goesOn ih =>
      rw [commandIn.eq_3 char rest noEscape, if_neg goesOn]
      simpa using ih

/-- No percent sign is left, unless a backslash before it is lost. -/
theorem ne_percent_of_commandIn_eq (same : commandIn text = text) : ∀ char ∈ text, char ≠ '%' := by
  induction text using commandIn.induct with
  | case1 => simp
  | case2 rest _ => simp [commandIn] at same
  | case3 char rest noEscape stop => simp [commandIn.eq_3 char rest noEscape, stop] at same
  | case4 char rest noEscape goesOn ih =>
      rw [commandIn.eq_3 char rest noEscape, if_neg goesOn, List.cons.injEq] at same
      have notPercent : char ≠ '%' := by
        rintro rfl
        exact goesOn rfl
      simpa [notPercent] using ih same.2

end Commands

/-! ## Entries -/

section Entries

variable {script : Path} {hour minute : Int}

theorem exists_text_eq_slash_cons (anchored : script.anchor ≠ .workingDirectory) :
    ∃ rest, script.text.toList = '/' :: rest := by
  have notHere : script ≠ ⟨.workingDirectory, []⟩ := by
    rintro rfl
    exact anchored rfl
  rw [Path.text_eq_append notHere, String.toList_append]
  cases anchor : script.anchor with
  | workingDirectory => exact absurd anchor anchored
  | root => exact ⟨_, rfl⟩
  | doubleRoot => exact ⟨_, rfl⟩

theorem toList_entry (script : Path) (hour minute : Nat) : (entry script hour minute).toList =
    (toString minute).toList ++ ' ' :: ((toString hour).toList ++
      ' ' :: (['*'] ++ ' ' :: (['*'] ++ ' ' :: (['*'] ++ ' ' :: script.text.toList)))) := by
  have asInt (number : Nat) : toString (number : Int) = toString number := rfl
  have stars : " * * * ".toList = [' ', '*', ' ', '*', ' ', '*', ' '] := rfl
  have blank : " ".toList = [' '] := rfl
  simp only [entry, asInt, String.toList_append, stars, blank, List.append_assoc, List.cons_append,
    List.nil_append]

/-- The fields of an entry, and the rest of its line as the command. -/
theorem read?_entry (anchored : script.anchor ≠ .workingDirectory) {hour minute : Nat} (isHour : hour ≤ 23)
    (isMinute : minute ≤ 59) : Job.read? (entry script hour minute).toList =
      some ⟨.number minute, .number hour, .every, .every, .every, commandIn script.text.toList⟩ := by
  have star : ∀ char ∈ ['*'], isBlank char = false := eq_false_of_all rfl
  rcases exists_text_eq_slash_cons anchored with ⟨rest, slash⟩
  have command : (' ' :: script.text.toList).dropWhile isBlank = script.text.toList := by
    rw [slash]
    rfl
  simp only [Job.read?, toList_entry, cutField_blank, cutField_append (List.cons_ne_nil _ _) star,
    cutField_append (toString_ne_nil _) (noBlank_toString _), read?_toString (Nat.zero_le _) isHour,
    read?_toString (Nat.zero_le _) isMinute, command]
  rfl

/-- A command that begins at the root is read back exactly if nothing in it has a meaning to cron or to the
shell. -/
theorem onlyWord?_commandIn_iff {text : List Char} (slash : ∃ rest, text = '/' :: rest) :
    onlyWord? (commandIn text) = some text ↔ ∀ char ∈ text, isOrdinary char = true ∧ char ≠ '%' := by
  constructor
  · intro only
    -- Neither cron nor the shell can have removed anything.
    rcases isOrdinary_of_onlyWord? only (length_commandIn_le text) with ⟨same, ordinary⟩
    intro char member
    exact ⟨ordinary char member, ne_percent_of_commandIn_eq same char member⟩
  · intro plain
    have whole : commandIn text = text := by
      apply commandIn_of_plain
      intro char member
      refine ⟨(plain char member).2, ?_⟩
      rintro rfl
      exact absurd (plain _ member).1 (by decide)
    rcases slash with ⟨rest, rfl⟩
    rw [whole]
    apply onlyWord?_of_isOrdinary
    intro char member
    exact (plain char (List.mem_cons_of_mem _ member)).1

/-- The entry names the time, every day and the command that consists of the path of the script. The shell gets
one word from it, and the path itself, exactly if each character of the path is ordinary and no percent sign. -/
theorem entry_runs_ordinary_path (anchored : script.anchor ≠ .workingDirectory)
    (isHour : 0 ≤ hour ∧ hour ≤ 23) (isMinute : 0 ≤ minute ∧ minute ≤ 59) :
    Job.read? (entry script hour minute).toList =
        some ⟨.number minute.toNat, .number hour.toNat, .every, .every, .every,
          commandIn script.text.toList⟩ ∧
      (onlyWord? (commandIn script.text.toList) = some script.text.toList ↔
        ∀ char ∈ script.text.toList, isOrdinary char = true ∧ char ≠ '%') := by
  rcases isHour with ⟨hourLow, hourHigh⟩
  rcases isMinute with ⟨minuteLow, minuteHigh⟩
  lift hour to Nat using hourLow
  lift minute to Nat using minuteLow
  refine ⟨?_, onlyWord?_commandIn_iff (exists_text_eq_slash_cons anchored)⟩
  exact read?_entry anchored (by omega) (by omega)

end Entries

/-- A path in which every character is ordinary. -/
def exampleScript : Path :=
  ⟨.root, ["opt", "hardhat", "daily-check.sh"]⟩

/-- The entry of a script whose path is one word, at five past nine. -/
theorem entry_runs_exampleScript :
    (exampleScript.anchor ≠ .workingDirectory ∧ ((0 : Int) ≤ 9 ∧ (9 : Int) ≤ 23) ∧
      ((0 : Int) ≤ 5 ∧ (5 : Int) ≤ 59)) ∧
    Job.read? (entry exampleScript 9 5).toList =
      some ⟨.number 5, .number 9, .every, .every, .every, "/opt/hardhat/daily-check.sh".toList⟩ ∧
    onlyWord? "/opt/hardhat/daily-check.sh".toList = some "/opt/hardhat/daily-check.sh".toList := by
  have runs := @entry_runs_ordinary_path exampleScript 9 5 (by decide) (by decide) (by decide)
  have text : exampleScript.text = "/opt/hardhat/daily-check.sh" := rfl
  have whole : commandIn "/opt/hardhat/daily-check.sh".toList = "/opt/hardhat/daily-check.sh".toList := by
    decide
  have plain : "/opt/hardhat/daily-check.sh".toList.all (fun char => isOrdinary char && char != '%') = true := by
    decide
  rw [text, whole] at runs
  exact ⟨by decide, runs.1, runs.2.mpr (by simpa using plain)⟩

/-- A path with a blank. -/
def scriptWithBlank : Path :=
  ⟨.root, ["opt", "my skills", "daily-check.sh"]⟩

/-- A blank in the path of the script parts the command: the shell looks for a program before the blank. -/
theorem entry_parts_scriptWithBlank :
    scriptWithBlank.anchor ≠ .workingDirectory ∧ '\n' ∉ scriptWithBlank.text.toList ∧
    ∃ job, Job.read? (entry scriptWithBlank 9 0).toList = some job ∧ onlyWord? job.command = none ∧
      ShellWord.read .command .between job.command =
        some ("/opt/my".toList, " skills/daily-check.sh".toList) := by
  have text : scriptWithBlank.text = "/opt/my skills/daily-check.sh" := rfl
  have anchored : scriptWithBlank.anchor ≠ .workingDirectory := by decide
  refine ⟨anchored, by rw [text]; decide, _, read?_entry anchored (by decide) (by decide), ?_⟩
  rw [text]
  decide

end SkillScan.Crontab
