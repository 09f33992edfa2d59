import SkillScan.Proofs.Pattern.Language
import SkillScan.Signature.Execution

/-!
# Lines that pipe a download to a shell

The rule asks for a download tool as a word of its own, for a bar that does not follow it at once, and for
a shell behind a word's edge with nothing but blanks after it. Of all the tools, bars and shells on a line
any that stand in this order will do. What stands before the tool only has to keep it a word, and blanks
at the end of the line do not matter.
-/

namespace SkillScan.Signature

open Pattern Text

/-- Whether a text is the name of a download tool. -/
def IsDownloadTool (text : List Char) : Prop :=
  Spells "curl" text ∨ Spells "wget" text

/-- Whether a text is the name of a shell. -/
def IsShell (text : List Char) : Prop :=
  Spells "bash" text ∨ Spells "sh" text ∨ Spells "zsh" text

/-- Whether a line without newlines pipes a download to a shell. -/
def PipesDownload (line : List Char) : Prop :=
  ∃ before tool between middle shell blanks,
    line = before ++ (tool ++ (between ++ ('|' :: middle ++ (shell ++ blanks)))) ∧
      (IsDownloadTool tool ∧ endsInWord before = false ∧ beginsInWord between = false) ∧
      between ≠ [] ∧ (IsShell shell ∧ endsInWord ('|' :: middle) = false) ∧
      ∀ char ∈ blanks, isBlank char = true

/-! ## Names of tools and shells -/

section Names

variable {text : List Char}

theorem IsDownloadTool.beginsInWord (isTool : IsDownloadTool text) (behind : List Char) :
    Text.beginsInWord (text ++ behind) = true := by
  rcases isTool with spells | spells
  · exact beginsInWord_of_spells (by decide) spells behind
  · exact beginsInWord_of_spells (by decide) spells behind

theorem IsDownloadTool.endsInWord (isTool : IsDownloadTool text) (before : List Char) :
    Text.endsInWord (before ++ text) = true := by
  rcases isTool with spells | spells
  · exact endsInWord_of_spells (by decide) spells before
  · exact endsInWord_of_spells (by decide) spells before

theorem IsShell.beginsInWord (isShell : IsShell text) (behind : List Char) :
    Text.beginsInWord (text ++ behind) = true := by
  rcases isShell with spells | spells | spells
  · exact beginsInWord_of_spells (by decide) spells behind
  · exact beginsInWord_of_spells (by decide) spells behind
  · exact beginsInWord_of_spells (by decide) spells behind

theorem IsShell.not_isBlank (isShell : IsShell text) : ∀ char ∈ text, isBlank char = false := by
  rcases isShell with spells | spells | spells
  · exact not_isBlank_of_spells (by decide) spells
  · exact not_isBlank_of_spells (by decide) spells
  · exact not_isBlank_of_spells (by decide) spells

end Names

/-! ## The pattern -/

section Fits

variable {before found behind : List Char}

theorem isOnLine_iff : (∀ char ∈ found, isOnLine char = true) ↔ '\n' ∉ found := by
  constructor
  · intro onLine newline
    exact absurd (onLine '\n' newline) (by decide)
  · intro noNewline char member
    rw [isOnLine, bne_iff_ne]
    rintro rfl
    exact noNewline member

theorem fits_pipeToShell_iff :
    pipeToShell.Fits before found behind ↔ ∃ tool between middle shell blanks,
      found = tool ++ (between ++ ('|' :: middle ++ (shell ++ blanks))) ∧
        (IsDownloadTool tool ∧ endsInWord before = false ∧ beginsInWord between = false) ∧
        (between ≠ [] ∧ '\n' ∉ between ∧ '\n' ∉ middle) ∧
        (IsShell shell ∧ endsInWord ('|' :: middle) = false) ∧
        (∀ char ∈ blanks, isBlank char = true) ∧ (behind = [] ∨ behind = ['\n']) := by
  simp only [pipeToShell, fits_inOrder_cons, inOrder_singleton, fits_oneOf_iff, List.exists_mem_cons_iff,
    List.not_mem_nil, false_and, exists_false, or_false, fits_anyCase_iff, fits_some_iff, fits_text_iff,
    fits_many_iff, fits_lineEnd_iff, isOnLine_iff]
  have bar : "|".toList = ['|'] := rfl
  constructor
  · rintro ⟨_, _, rfl, toolEdge, tool, _, rfl, isTool, _, _, rfl, betweenEdge, between, _, rfl,
      ⟨nonempty, betweenOnLine⟩, _, _, rfl, rfl, middle, _, rfl, middleOnLine, _, _, rfl, shellEdge, shell,
      _, rfl, isShell, blanks, _, rfl, areBlank, rfl, ended⟩
    -- An edge next to a tool or a shell has a word character on that side, which settles the other side.
    replace isTool : IsDownloadTool tool := isTool
    replace isShell : IsShell shell := isShell
    rw [fits_wordEdge_iff_of_beginsInWord (by simpa using isTool.beginsInWord _)] at toolEdge
    rcases toolEdge with ⟨rfl, toolApart⟩
    rw [fits_wordEdge_iff_of_endsInWord (by simpa using isTool.endsInWord _)] at betweenEdge
    rcases betweenEdge with ⟨rfl, betweenApart⟩
    rw [fits_wordEdge_iff_of_beginsInWord (by simpa using isShell.beginsInWord _)] at shellEdge
    rcases shellEdge with ⟨rfl, shellApart⟩
    rw [List.append_assoc, beginsInWord_append nonempty] at betweenApart
    rw [List.append_assoc _ _ middle, endsInWord_append (by simp [bar])] at shellApart
    exact ⟨tool, between, middle, shell, blanks, by simp [bar], ⟨isTool, toolApart, betweenApart⟩,
      ⟨nonempty, betweenOnLine, middleOnLine⟩, ⟨isShell, shellApart⟩, areBlank, ended⟩
  · rintro ⟨tool, between, middle, shell, blanks, rfl, ⟨isTool, toolApart, betweenApart⟩,
      ⟨nonempty, betweenOnLine, middleOnLine⟩, ⟨isShell, shellApart⟩, areBlank, ended⟩
    refine ⟨[], _, rfl, ?_, tool, _, rfl, isTool, [],
      between ++ ('|' :: middle ++ (shell ++ blanks)), rfl, ?_, between, _, rfl, ⟨nonempty, betweenOnLine⟩,
      ['|'], middle ++ (shell ++ blanks), rfl, rfl, middle, _, rfl, middleOnLine,
      [], _, rfl, ?_, shell, _, rfl, isShell, blanks, [], by simp, areBlank, rfl, ended⟩
    · rw [fits_wordEdge_iff_of_beginsInWord (by simpa using isTool.beginsInWord _)]
      exact ⟨rfl, toolApart⟩
    · rw [fits_wordEdge_iff_of_endsInWord (by simpa using isTool.endsInWord _), List.append_assoc,
        beginsInWord_append nonempty]
      exact ⟨rfl, betweenApart⟩
    · rw [fits_wordEdge_iff_of_beginsInWord (by simpa using isShell.beginsInWord _),
        List.append_assoc _ ['|'] middle, endsInWord_append (by simp)]
      exact ⟨rfl, shellApart⟩

end Fits

/-! ## Lines -/

section Lines

variable {line : List Char}

theorem isShownBy_pipeToShell_iff (oneLine : '\n' ∉ line) :
    pipeToShell.isShownBy line = true ↔ PipesDownload line := by
  rw [isShownBy_iff]
  simp only [fits_pipeToShell_iff]
  constructor
  · rintro ⟨before, _, behind, rfl, tool, between, middle, shell, blanks, rfl, tools, ⟨nonempty, _, _⟩,
      shells, areBlank, rfl | rfl⟩
    · exact ⟨before, tool, between, middle, shell, blanks, by simp, tools, nonempty, shells, areBlank⟩
    · exact absurd (by simp) oneLine
  · rintro ⟨before, tool, between, middle, shell, blanks, rfl, tools, nonempty, shells, areBlank⟩
    simp only [List.mem_append, List.mem_cons, not_or] at oneLine
    exact ⟨before, _, [], by simp, tool, between, middle, shell, blanks, rfl, tools,
      ⟨nonempty, oneLine.2.2.1, oneLine.2.2.2.1.2⟩, shells, areBlank, Or.inl rfl⟩

/-- Where a text ends in blanks behind something solid, blanks put behind it join them. -/
theorem exists_blanks_of_append {more front blanks : List Char} (same : line ++ more = front ++ blanks)
    (areBlank : ∀ char ∈ more, isBlank char = true)
    (solid : ∀ last, front.getLast? = Option.some last → isBlank last = false) :
    ∃ rest, line = front ++ rest ∧ blanks = rest ++ more := by
  rcases List.append_eq_append_iff.mp same with ⟨extra, rfl, rfl⟩ | ⟨rest, rfl, rfl⟩
  · rcases List.eq_nil_or_concat extra with rfl | ⟨others, last, rfl⟩
    · exact ⟨[], by simp, by simp⟩
    · -- The front would end in one of the blanks that were put behind the line.
      have isSolid := solid last (by simp)
      rw [areBlank last (by simp)] at isSolid
      exact Bool.noConfusion isSolid
  · exact ⟨rest, rfl, rfl⟩

theorem IsShell.getLast?_append {shell : List Char} (isShell : IsShell shell) (front : List Char) {last : Char}
    (isLast : (front ++ shell).getLast? = Option.some last) : isBlank last = false := by
  rcases List.eq_nil_or_concat shell with rfl | ⟨others, final, rfl⟩
  · exact absurd (isShell.beginsInWord []) (by decide)
  · have same : final = last := by simpa using isLast
    exact isShell.not_isBlank last (by simp [same])

/-- Blanks at the end of a line do not matter. -/
theorem pipesDownload_append_iff {blanks : List Char} (areBlank : ∀ char ∈ blanks, isBlank char = true) :
    PipesDownload (line ++ blanks) ↔ PipesDownload line := by
  constructor
  · rintro ⟨before, tool, between, middle, shell, ending, same, tools, nonempty, ⟨isShell, apart⟩,
      endingBlank⟩
    have split : line ++ blanks =
        (before ++ (tool ++ (between ++ ('|' :: middle))) ++ shell) ++ ending := by
      simpa using same
    rcases exists_blanks_of_append split areBlank (fun last => isShell.getLast?_append _) with
      ⟨rest, rfl, rfl⟩
    refine ⟨before, tool, between, middle, shell, rest, by simp, tools, nonempty, ⟨isShell, apart⟩, ?_⟩
    intro char member
    exact endingBlank char (by simp [member])
  · rintro ⟨before, tool, between, middle, shell, ending, rfl, tools, nonempty, shells, endingBlank⟩
    refine ⟨before, tool, between, middle, shell, ending ++ blanks, by simp, tools, nonempty, shells, ?_⟩
    intro char member
    rcases List.mem_append.mp member with member | member
    · exact endingBlank char member
    · exact areBlank char member

/-- Text before a line takes nothing away unless it ends in the middle of a word. -/
theorem isShownBy_pipeToShell_append {before : List Char} (apart : endsInWord before = false)
    (shown : pipeToShell.isShownBy line = true) : pipeToShell.isShownBy (before ++ line) = true := by
  rw [isShownBy_iff] at shown ⊢
  rcases shown with ⟨earlier, found, behind, rfl, fits⟩
  refine ⟨before ++ earlier, found, behind, by simp, ?_⟩
  rw [fits_pipeToShell_iff] at fits ⊢
  rcases fits with ⟨tool, between, middle, shell, blanks, rfl, ⟨isTool, toolApart, betweenApart⟩, rest⟩
  refine ⟨tool, between, middle, shell, blanks, rfl, ⟨isTool, ?_, betweenApart⟩, rest⟩
  rcases List.eq_nil_or_concat earlier with rfl | ⟨front, last, rfl⟩
  · simpa using apart
  · rw [endsInWord_append (by simp)]
    exact toolApart

end Lines

/-- A line fires the rule about downloads that are run at once if and only if it pipes a download to a
shell. -/
theorem pipeToShellRule_fires_iff (line : String) (oneLine : '\n' ∉ line.toList) :
    (pipeToShellRule.test line = true ↔ PipesDownload line.toList) ∧
      (∀ blanks : String, (∀ char ∈ blanks.toList, isBlank char = true ∧ char ≠ '\n') →
        pipeToShellRule.test (line ++ blanks) = pipeToShellRule.test line) ∧
      ∀ before : String, endsInWord before.toList = false →
        pipeToShellRule.test line = true → pipeToShellRule.test (before ++ line) = true := by
  refine ⟨isShownBy_pipeToShell_iff oneLine, ?_, ?_⟩
  · intro blanks areBlank
    have longer : '\n' ∉ (line ++ blanks).toList := by
      rw [String.toList_append, List.mem_append, not_or]
      exact ⟨oneLine, fun newline => (areBlank '\n' newline).2 rfl⟩
    rw [Bool.eq_iff_iff]
    simp only [pipeToShellRule, Rule.ofPattern]
    rw [isShownBy_pipeToShell_iff longer, isShownBy_pipeToShell_iff oneLine, String.toList_append]
    exact pipesDownload_append_iff fun char member => (areBlank char member).1
  · intro before apart fires
    simp only [pipeToShellRule, Rule.ofPattern, String.toList_append] at fires ⊢
    exact isShownBy_pipeToShell_append apart fires

/-- Several bars and shells, capitals and blanks at the end. -/
theorem pipeToShellRule_fires_exampleLine :
    '\n' ∉ "WGET -q x|tee sh | Bash".toList ∧
      pipeToShellRule.test ("$(" ++ "WGET -q x|tee sh | Bash") = true ∧
      pipeToShellRule.test ("WGET -q x|tee sh | Bash" ++ "\t ") = true := by
  have oneLine : '\n' ∉ "WGET -q x|tee sh | Bash".toList := by decide
  have fires : pipeToShellRule.test "WGET -q x|tee sh | Bash" = true := by decide
  rcases pipeToShellRule_fires_iff "WGET -q x|tee sh | Bash" oneLine with ⟨_, blanks, before⟩
  have areBlank : ∀ char ∈ "\t ".toList, isBlank char = true ∧ char ≠ '\n' := by
    have all : "\t ".toList.all (fun char => isBlank char && char != '\n') = true := by decide
    simpa using all
  refine ⟨oneLine, before "$(" (by decide) fires, ?_⟩
  rw [blanks "\t " areBlank]
  exact fires

end SkillScan.Signature
