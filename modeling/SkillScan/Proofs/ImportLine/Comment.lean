import SkillScan.Proofs.ImportLine.Reading

/-!
# Import lines with a comment behind them

A comment that is set off by a blank takes nothing from an import line. The form that names one module lets
anything follow that continues no word. The form with a list lets nothing follow but a comment, and a comment
behind a comment only makes it longer.
-/

namespace SkillScan.ImportLine

open Text

section Comment

variable {name line gap rest more : List Char} {names : List (List Char)} {text : List Char}

theorem ImportsFrom.append (imports : ImportsFrom name line) (apart : beginsIn isWord more = false) :
    ImportsFrom name (line ++ more) := by
  rcases imports with ⟨indent, first, last, behind, rfl, indentBlank, isFirst, isName, isLast, ended⟩
  refine ⟨indent, first, last, behind ++ more, by simp, indentBlank, isFirst, isName, isLast, ?_⟩
  cases behind with
  | nil => exact apart
  | cons char behind => exact ended

theorem ImportsListed.append_comment (imports : ImportsListed names text line)
    (areBlank : ∀ char ∈ gap, isBlank char = true) :
    ImportsListed names text (line ++ (gap ++ '#' :: rest)) := by
  rcases imports with ⟨indent, first, _, rfl, indentBlank, isFirst, blanks, comment, rfl, lists, blanksBlank,
    isComment⟩
  have ends : EndsInList names text (text ++ (blanks ++ comment) ++ (gap ++ '#' :: rest)) := by
    cases comment with
    | nil =>
        refine ⟨blanks ++ gap, '#' :: rest, by simp, lists, ?_, by simp [IsComment]⟩
        intro char member
        rcases List.mem_append.mp member with inBlanks | inGap
        · exact blanksBlank char inBlanks
        · exact areBlank char inGap
    | cons char comment =>
        exact ⟨blanks, char :: comment ++ (gap ++ '#' :: rest), by simp, lists, blanksBlank, isComment⟩
  exact ⟨indent, first, _, by simp, indentBlank, isFirst, ends⟩

/-- The two forms begin with different words, whatever follows. -/
theorem ImportsListed.not_importsFrom (imports : ImportsListed names text line) (more : List Char) :
    ¬ImportsFrom name (line ++ more) := by
  rcases imports with ⟨indent, gap, rest, rfl, indentBlank, _⟩
  rintro ⟨otherIndent, first, last, behind, split, otherBlank, _⟩
  have listed : (indent ++ "import".toList ++ gap ++ rest ++ more).dropWhile isBlank =
      "import".toList ++ (gap ++ (rest ++ more)) := by
    simp only [List.append_assoc]
    exact dropWhile_append_of_stops indentBlank rfl
  have named : (otherIndent ++ "from".toList ++ first ++ name ++ last ++ "import".toList ++ behind).dropWhile
      isBlank = "from".toList ++ (first ++ (name ++ (last ++ ("import".toList ++ behind)))) := by
    simp only [List.append_assoc]
    exact dropWhile_append_of_stops otherBlank rfl
  rw [split, named] at listed
  simp at listed

/-- What a line imports it still imports with a comment behind it. -/
theorem importedModules_append_comment (oneLine : '\n' ∉ line ++ (gap ++ '#' :: rest))
    (isGap : IsRun isBlank gap) (imports : importedModules line ≠ []) :
    importedModules (line ++ (gap ++ '#' :: rest)) = importedModules line := by
  have lineAlone : '\n' ∉ line := by
    intro newline
    exact oneLine (by simp [newline])
  cases found : fromModule? line with
  | some name =>
      have noWord : beginsIn isWord (gap ++ '#' :: rest) = false :=
        isGap.not_beginsIn (fun _ => not_isWord_of_isBlank) _
      have longer := fromModule?_eq_some_iff.mpr ((fromModule?_eq_some_iff.mp found).append noWord)
      rw [importedModules, importedModules, found, longer]
  | none =>
      cases listed : listedModules? line with
      | none => exact absurd (by rw [importedModules, found, listed]; rfl) imports
      | some names =>
          rcases (listedModules?_eq_some_iff lineAlone).mp listed with ⟨text, isListed⟩
          have longer := (listedModules?_eq_some_iff oneLine).mpr
            ⟨text, isListed.append_comment isGap.ofKind⟩
          have noFrom : fromModule? (line ++ (gap ++ '#' :: rest)) = none := by
            rw [Option.eq_none_iff_forall_ne_some]
            intro name foundLonger
            exact isListed.not_importsFrom _ (fromModule?_eq_some_iff.mp foundLonger)
          rw [importedModules, importedModules, found, noFrom, listed, longer]

end Comment

end SkillScan.ImportLine
