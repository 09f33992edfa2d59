import SkillScan.Proofs.ShellWord.Reading
import SkillScan.Proofs.Text.Numeral
import SkillScan.Proofs.Text.Run
import SkillScan.Proofs.Text.Template
import SkillScan.Schedule.Script

/-!
# What the shell reads in the script of the daily check

The script is a template whose slots have been filled. The directory of the logs and the interpreter come from
outside, and nothing in them can end the word that it enters: the shell reads each of them back as it was, and
goes on behind it with the text of the template. Nor can the time at which the script was made, which stands in a
comment, end its line.

Only quoting is followed. That the shell takes an unquoted word with an equals sign for an assignment and some
words for its own is not a matter of quoting.
-/

namespace SkillScan.DailyScript

open ShellWord
open Text (eq_false_of_all)
open Template (fill? fillFrom fillFrom_append fillFrom_slot isBrace slot)

/-! ## The template -/

/-- The script before its slots are filled. -/
def template : String :=
  "#!/bin/bash\n" ++
  "# OpenClaw Hard Hat - Daily Security Check\n" ++
  "# Generated: {generated}\n" ++
  "\n" ++
  "LOG_DIR={log_dir}\n" ++
  "DATE=$(date +%Y-%m-%d)\n" ++
  "LOG_FILE=\"$LOG_DIR/daily-check-$DATE.log\"\n" ++
  "\n" ++
  "mkdir -p \"$LOG_DIR\"\n" ++
  "echo \"========================================\" >> \"$LOG_FILE\"\n" ++
  "echo \"Daily Security Check - $DATE\" >> \"$LOG_FILE\"\n" ++
  "echo \"========================================\" >> \"$LOG_FILE\"\n" ++
  "echo \"\" >> \"$LOG_FILE\"\n" ++
  "\n" ++
  "{python} -m hardhat --daily-check >> \"$LOG_FILE\" 2>&1\n" ++
  "\n" ++
  "echo \"\" >> \"$LOG_FILE\"\n" ++
  "echo \"Completed: $(date)\" >> \"$LOG_FILE\"\n" ++
  "echo \"\" >> \"$LOG_FILE\"\n" ++
  "\n" ++
  "# Keep only the last {retention} days of logs\n" ++
  "find \"$LOG_DIR\" -name \"daily-check-*.log\" -mtime +{retention} -delete\n"

/-- What fills the slots. -/
def values (script : DailyScript) : List (String × String) := [
  ("generated", script.generated.text),
  ("log_dir", quoted script.logDir.text),
  ("python", quoted script.interpreter),
  ("retention", toString retentionDays)]

/-- The template between the interpreter and the days for which logs are kept. -/
def beforeRetention : String :=
  " -m hardhat --daily-check >> \"$LOG_FILE\" 2>&1\n" ++
  "\n" ++
  emptyEcho ++
  "echo \"Completed: $(date)\" >> \"$LOG_FILE\"\n" ++
  emptyEcho ++
  "\n" ++
  "# Keep only the last "

/-- The template between the two places where those days stand. -/
def betweenRetentions : String :=
  " days of logs\n" ++
  "find \"$LOG_DIR\" -name \"daily-check-*.log\" -mtime +"

/-- The end of the template. -/
def afterRetention : String :=
  " -delete\n"

theorem afterInterpreter_eq : afterInterpreter =
    beforeRetention ++ toString retentionDays ++ betweenRetentions ++ toString retentionDays ++
      afterRetention := by
  unfold afterInterpreter beforeRetention betweenRetentions afterRetention
  simp only [String.append_assoc]

theorem toList_template : template.toList =
    beforeGenerated.toList ++ (slot "generated" ++ (beforeLogDir.toList ++ (slot "log_dir" ++
      (beforeInterpreter.toList ++ (slot "python" ++ (beforeRetention.toList ++ (slot "retention" ++
        (betweenRetentions.toList ++ (slot "retention" ++ afterRetention.toList))))))))) := by
  unfold template beforeGenerated beforeLogDir beforeInterpreter separatorEcho beforeRetention emptyEcho
    betweenRetentions afterRetention slot
  simp only [String.toList_append]
  -- The literals become lists of characters before anything is compared: to decode them would take too long.
  repeat rewrite [String.toList_ofList]
  decide +kernel

theorem noBrace_pieces : ∀ piece ∈ [beforeGenerated, beforeLogDir, beforeInterpreter, beforeRetention,
    betweenRetentions, afterRetention], ∀ char ∈ piece.toList, isBrace char = false := by
  have noBrace : ∀ piece ∈ [beforeGenerated, beforeLogDir, beforeInterpreter, beforeRetention, betweenRetentions,
      afterRetention], piece.toList.all (!isBrace ·) = true := by
    unfold beforeGenerated beforeLogDir beforeInterpreter separatorEcho beforeRetention emptyEcho
      betweenRetentions afterRetention
    simp only [List.forall_mem_cons, String.toList_append]
    repeat rewrite [String.toList_ofList]
    decide +kernel
  intro piece member
  exact eq_false_of_all (noBrace piece member)

/-- The script is the template with its slots filled, and nothing else of the template has changed. -/
theorem fill?_template (script : DailyScript) : fill? script.values template = some script.text := by
  have noBrace := noBrace_pieces
  simp only [List.forall_mem_cons] at noBrace
  rcases noBrace with ⟨first, second, third, fourth, fifth, sixth, _⟩
  have ending : fillFrom script.values none afterRetention.toList = some afterRetention.toList := by
    have filled := @fillFrom_append script.values _ [] sixth
    simpa [fillFrom] using filled
  have generated : script.values.lookup "generated" = some script.generated.text := rfl
  have logDir : script.values.lookup "log_dir" = some (quoted script.logDir.text) := rfl
  have python : script.values.lookup "python" = some (quoted script.interpreter) := rfl
  have retention : script.values.lookup "retention" = some (toString retentionDays) := rfl
  rw [fill?, toList_template, fillFrom_append first, fillFrom_slot generated (by decide), fillFrom_append second,
    fillFrom_slot logDir (by decide), fillFrom_append third, fillFrom_slot python (by decide),
    fillFrom_append fourth, fillFrom_slot retention (by decide), fillFrom_append fifth,
    fillFrom_slot retention (by decide), ending]
  simp only [Option.map_some, text, afterInterpreter_eq, Option.some.injEq, ← String.toList_inj,
    String.toList_ofList, String.toList_append, List.append_assoc]

/-! ## Before the words -/

theorem noLineEnd_zeroPadded {width value : Nat} : '\n' ∉ (Text.zeroPadded width value).toList := by
  have digits : '\n' ∉ (toString value).toList := Text.not_mem_toString (by decide)
  have padding : '\n' ∉ List.replicate (width - (toString value).length) '0' := by
    rw [List.mem_replicate]
    rintro ⟨_, same⟩
    exact absurd same (by decide)
  rw [Text.zeroPadded, Text.padLeft, String.toList_ofList, List.mem_append, not_or]
  exact ⟨padding, digits⟩

theorem noLineEnd_fractionText (microsecond : Nat) : '\n' ∉ (Timestamp.fractionText microsecond).toList := by
  rw [Timestamp.fractionText]
  split
  · decide
  · rw [String.toList_append, List.mem_append, not_or]
    exact ⟨by decide, noLineEnd_zeroPadded⟩

theorem noLineEnd_offsetText (offset : UtcOffset) : '\n' ∉ (Timestamp.offsetText offset).toList := by
  have colon : '\n' ∉ ":".toList := by decide
  simp only [Timestamp.offsetText, String.toList_append, List.mem_append, not_or]
  refine ⟨⟨⟨⟨⟨?sign, noLineEnd_zeroPadded⟩, colon⟩, noLineEnd_zeroPadded⟩, ?seconds⟩, noLineEnd_fractionText _⟩
  case sign => split <;> decide
  case seconds =>
    split
    · decide
    · rw [String.toList_append, List.mem_append, not_or]
      exact ⟨colon, noLineEnd_zeroPadded⟩

theorem noLineEnd_timestamp (moment : Timestamp) : '\n' ∉ moment.text.toList := by
  have dash : '\n' ∉ "-".toList := by decide
  have mark : '\n' ∉ "T".toList := by decide
  have colon : '\n' ∉ ":".toList := by decide
  have fraction := noLineEnd_fractionText moment.microsecond
  have offset : '\n' ∉ ((moment.offset.map Timestamp.offsetText).getD "").toList := by
    cases moment.offset with
    | none => decide
    | some offset => exact noLineEnd_offsetText offset
  simp only [Timestamp.text, Timestamp.dateText, String.toList_append, List.mem_append, not_or]
  simp only [noLineEnd_zeroPadded, dash, mark, colon, fraction, offset, not_false_eq_true, and_self]

/-- The script up to the assignment of the directory of the logs. -/
def beforeAssignment (script : DailyScript) : List Char :=
  beforeGenerated.toList ++ script.generated.text.toList ++ "\n\n".toList

/-- The script up to the command that runs the check. -/
def beforeCheck (script : DailyScript) : List Char :=
  script.beforeAssignment ++ "LOG_DIR=".toList ++ (quoted script.logDir.text).toList ++ beforeInterpreter.toList

theorem behind_beforeInterpreter : Position.unquoted.behind .command beforeInterpreter.toList = .between := by
  unfold beforeInterpreter separatorEcho emptyEcho
  simp only [String.toList_append]
  repeat rewrite [String.toList_ofList]
  decide +kernel

theorem behind_afterInterpreter : Position.unquoted.behind .command afterInterpreter.toList = .between := by
  unfold afterInterpreter emptyEcho
  simp only [String.toList_append]
  repeat rewrite [String.toList_ofList]
  decide +kernel

theorem behind_beforeAssignment (script : DailyScript) :
    Position.between.behind .command script.beforeAssignment = .between := by
  have comment : Position.between.behind .command beforeGenerated.toList = .comment := by
    unfold beforeGenerated
    simp only [String.toList_append]
    repeat rewrite [String.toList_ofList]
    decide
  rw [beforeAssignment, behind_append, behind_append, comment, behind_comment (noLineEnd_timestamp _)]
  rfl

theorem behind_quoted {position : Position} (start : position = .between ∨ position = .unquoted) (text : String) :
    position.behind .command (quoted text).toList = .unquoted := by
  rw [quoted, String.toList_ofList]
  exact behind_quotedChars start

theorem behind_beforeCheck (script : DailyScript) :
    Position.between.behind .command script.beforeCheck = .between := by
  have name : Position.between.behind .command "LOG_DIR=".toList = .unquoted := by decide
  rw [beforeCheck, behind_append, behind_append, behind_append, behind_beforeAssignment, name,
    behind_quoted (Or.inr rfl), behind_beforeInterpreter]

theorem toList_text (script : DailyScript) : script.text.toList =
    script.beforeCheck ++ ((quoted script.interpreter).toList ++ afterInterpreter.toList) := by
  have parts : beforeLogDir.toList = "\n\n".toList ++ "LOG_DIR=".toList := by decide
  simp only [text, beforeCheck, beforeAssignment, parts, String.toList_append, List.append_assoc]

/-! ## The words -/

/-- A quoted text is read back where what is behind it begins with a character that ends a word. -/
theorem read_quoted {role : Role} {text : String} {behind mark : List Char} {char : Char}
    (noNul : '\x00' ∉ text.toList) (begins : char :: mark <+: behind) (ends : endsWord char = true) :
    read role role.start ((quoted text).toList ++ behind) = some (text.toList, behind) := by
  rcases begins with ⟨rest, rfl⟩
  rw [quoted, String.toList_ofList]
  apply read_quotedChars noNul
  intro first isFirst
  cases isFirst
  exact ends

theorem prefix_beforeInterpreter : "\nDATE=".toList <+: beforeInterpreter.toList := by
  unfold beforeInterpreter
  simp only [String.toList_append, List.append_assoc]
  repeat rewrite [String.toList_ofList]
  exact ⟨_, rfl⟩

theorem prefix_afterInterpreter : " -m hardhat --daily-check".toList <+: afterInterpreter.toList := by
  unfold afterInterpreter
  simp only [String.toList_append, List.append_assoc]
  repeat rewrite [String.toList_ofList]
  exact ⟨_, rfl⟩

/-- The shell reads back the directory of the logs and the interpreter, whatever they consist of, and behind each of
them goes on with the template. No quote is open before them or at the end of the script. -/
theorem text_reads_back (script : DailyScript) (logDirNoNul : '\x00' ∉ script.logDir.text.toList)
    (interpreterNoNul : '\x00' ∉ script.interpreter.toList) :
    fill? script.values template = some script.text ∧
    (∃ value behind, script.text.toList = script.beforeAssignment ++ "LOG_DIR=".toList ++ value ∧
      Position.between.behind .command script.beforeAssignment = .between ∧
      read .assigned Role.assigned.start value = some (script.logDir.text.toList, behind) ∧
      "\nDATE=".toList <+: behind) ∧
    (∃ check behind, script.text.toList = script.beforeCheck ++ check ∧
      Position.between.behind .command script.beforeCheck = .between ∧
      read .command Role.command.start check = some (script.interpreter.toList, behind) ∧
      " -m hardhat --daily-check".toList <+: behind) ∧
    Position.between.behind .command script.text.toList = .between := by
  have behindLogDir : "\nDATE=".toList <+: beforeInterpreter.toList ++
      ((quoted script.interpreter).toList ++ afterInterpreter.toList) :=
    prefix_beforeInterpreter.trans (List.prefix_append _ _)
  have logDirRead := @read_quoted .assigned _ _ _ _ logDirNoNul behindLogDir rfl
  have interpreterRead := @read_quoted .command _ _ _ _ interpreterNoNul prefix_afterInterpreter rfl
  refine ⟨fill?_template script, ⟨_, _, ?_, behind_beforeAssignment script, logDirRead, behindLogDir⟩,
    ⟨_, _, toList_text script, behind_beforeCheck script, interpreterRead, prefix_afterInterpreter⟩, ?_⟩
  · rw [toList_text, beforeCheck]
    simp only [List.append_assoc]
  · rw [toList_text, behind_append, behind_append, behind_beforeCheck, behind_quoted (Or.inl rfl),
      behind_afterInterpreter]

/-- A script with quotes, blanks, braces and a line end in what comes from outside. -/
def exampleScript : DailyScript where
  logDir := ⟨.root, ["var", "it's {python} $HOME"]⟩
  interpreter := "/opt/my env/{log_dir}\npython3"
  generated := ⟨⟨2026, 1, 2⟩, 3, 4, 5, 0, some 0⟩

/-- The texts of the example are read back. -/
theorem exampleScript_reads_back :
    ('\x00' ∉ exampleScript.logDir.text.toList ∧ '\x00' ∉ exampleScript.interpreter.toList) ∧
    fill? exampleScript.values template = some exampleScript.text ∧
    (∃ value behind, exampleScript.text.toList = exampleScript.beforeAssignment ++ "LOG_DIR=".toList ++ value ∧
      Position.between.behind .command exampleScript.beforeAssignment = .between ∧
      read .assigned .behindMark value = some ("/var/it's {python} $HOME".toList, behind) ∧
      "\nDATE=".toList <+: behind) ∧
    (∃ check behind, exampleScript.text.toList = exampleScript.beforeCheck ++ check ∧
      Position.between.behind .command exampleScript.beforeCheck = .between ∧
      read .command .between check = some ("/opt/my env/{log_dir}\npython3".toList, behind) ∧
      " -m hardhat --daily-check".toList <+: behind) ∧
    Position.between.behind .command exampleScript.text.toList = .between := by
  have logDir : exampleScript.logDir.text = "/var/it's {python} $HOME" := rfl
  have logDirNoNul : '\x00' ∉ exampleScript.logDir.text.toList := by
    rw [logDir]
    decide
  have interpreterNoNul : '\x00' ∉ exampleScript.interpreter.toList := by decide
  have reads := text_reads_back exampleScript logDirNoNul interpreterNoNul
  rw [logDir] at reads
  exact ⟨⟨logDirNoNul, interpreterNoNul⟩, reads⟩

end SkillScan.DailyScript
