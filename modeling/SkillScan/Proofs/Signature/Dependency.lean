import SkillScan.Proofs.Pattern.Context
import SkillScan.Proofs.Signature.SafeContext
import SkillScan.Proofs.Text.Run

/-!
# Imports in scripts

A script imports by a call of `require` or `import` with a string, or by a statement at the beginning of the
line, where a clause may stand before the name of the module. Each of these holds a quote or a backquote.
Whatever a script imports is reported, except where one of two modules of the runtime stands in quotes
behind `require` and a parenthesis or behind the word `from`.
-/

namespace SkillScan.Signature

open Pattern Text

/-- Whether a text calls a function with a string. The marks around the string need not be the same. -/
def IsImportCall (function : String) (text : List Char) : Prop :=
  ∃ inner outer mark specifier endMark last,
    text = function.toList ++ inner ++ '(' :: (outer ++ mark :: (specifier ++ endMark :: (last ++ [')']))) ∧
      (∀ char ∈ inner ++ outer ++ last, isBlank char = true) ∧ isStringMark mark = true ∧
        IsRun isInString specifier ∧ isStringMark endMark = true

/-- Whether a text leads from `import` to the name of a module: by some names and the word `from`. -/
def IsImportClause (text : List Char) : Prop :=
  ∃ names gap lastGap, text = names ++ gap ++ "from".toList ++ lastGap ∧ IsRun isClauseChar names ∧
    IsRun isBlank gap ∧ IsRun isBlank lastGap

/-- Whether a text is a statement that imports a module, with a clause or without. -/
def IsImportStatement (text : List Char) : Prop :=
  ∃ indent gap clause quote specifier endQuote,
    text = indent ++ "import".toList ++ gap ++ clause ++ quote :: (specifier ++ [endQuote]) ∧
      (∀ char ∈ indent, isBlank char = true) ∧ IsRun isBlank gap ∧
        (clause = [] ∨ IsImportClause clause) ∧ isQuote quote = true ∧
          IsRun (!isQuote ·) specifier ∧ isQuote endQuote = true

/-! ## The patterns -/

section Fits

variable {before found behind line : List Char}

theorem fits_some_iff_isRun {kind : Char → Bool} :
    (Pattern.some kind).Fits before found behind ↔ IsRun kind found := by
  rw [fits_some_iff]
  exact ⟨fun run => ⟨run.1, run.2⟩, fun run => ⟨run.nonempty, run.ofKind⟩⟩

theorem fits_importCall_iff {function : String} (named : beginsInWord function.toList = true) :
    (importCall function).Fits before found behind ↔
      IsImportCall function found ∧ endsInWord before = false := by
  have opening : "(".toList = ['('] := rfl
  have closing : ")".toList = [')'] := rfl
  have begins (rest : List Char) : beginsInWord (function.toList ++ rest) = true := by
    rwa [beginsInWord_append]
    intro none
    simp [none, beginsInWord] at named
  simp only [importCall, fits_inOrder_cons, inOrder_singleton, fits_text_iff, fits_many_iff,
    fits_some_iff_isRun, opening, closing]
  constructor
  · rintro ⟨_, _, rfl, edge, _, _, rfl, rfl, inner, _, rfl, innerBlank, _, _, rfl, rfl, outer, _, rfl,
      outerBlank, _, _, rfl, ⟨mark, rfl, isMark⟩, specifier, _, rfl, run, _, _, rfl, ⟨endMark, rfl, isEndMark⟩,
      last, _, rfl, lastBlank, rfl⟩
    rw [fits_wordEdge_iff_of_beginsInWord (by simpa using begins _)] at edge
    rcases edge with ⟨rfl, apart⟩
    refine ⟨⟨inner, outer, mark, specifier, endMark, last, by simp, ?_, isMark, run, isEndMark⟩, apart⟩
    simp only [List.forall_mem_append]
    exact ⟨⟨innerBlank, outerBlank⟩, lastBlank⟩
  · rintro ⟨⟨inner, outer, mark, specifier, endMark, last, rfl, areBlank, isMark, run, isEndMark⟩, apart⟩
    simp only [List.forall_mem_append] at areBlank
    rcases areBlank with ⟨⟨innerBlank, outerBlank⟩, lastBlank⟩
    have edge : wordEdge.Fits before [] (function.toList ++ inner ++ '(' ::
        (outer ++ mark :: (specifier ++ endMark :: (last ++ [')']))) ++ behind) := by
      rw [fits_wordEdge_iff_of_beginsInWord (by simpa using begins _)]
      exact ⟨rfl, apart⟩
    exact ⟨[], _, rfl, edge, function.toList, _, List.append_assoc _ _ _, rfl, inner, _, rfl, innerBlank, ['('],
      _, rfl, rfl, outer, _, rfl, outerBlank, [mark], _, rfl, ⟨mark, rfl, isMark⟩, specifier, _, rfl, run,
      [endMark], _, rfl, ⟨endMark, rfl, isEndMark⟩, last, [')'], rfl, lastBlank, rfl⟩

theorem fits_importClause_iff :
    (optional (inOrder [Pattern.some isClauseChar, Pattern.some isBlank, text "from", Pattern.some isBlank])).Fits
      before found behind ↔ found = [] ∨ IsImportClause found := by
  rw [fits_optional_iff, or_comm]
  apply or_congr_right
  simp only [fits_inOrder_cons, inOrder_singleton, fits_text_iff, fits_some_iff_isRun]
  constructor
  · rintro ⟨names, _, rfl, isNames, gap, _, rfl, isGap, _, lastGap, rfl, rfl, isLastGap⟩
    exact ⟨names, gap, lastGap, by simp, isNames, isGap, isLastGap⟩
  · rintro ⟨names, gap, lastGap, rfl, isNames, isGap, isLastGap⟩
    exact ⟨names, _, by simp, isNames, gap, _, rfl, isGap, "from".toList, lastGap, rfl, rfl, isLastGap⟩

theorem fits_importStatement_iff :
    importStatement.Fits before found behind ↔ IsImportStatement found ∧ before = [] := by
  simp only [importStatement, fits_inOrder_cons, inOrder_singleton, fits_text_iff, fits_many_iff,
    fits_some_iff_isRun, fits_importClause_iff]
  constructor
  · rintro ⟨_, _, rfl, ⟨rfl, atStart⟩, indent, _, rfl, indentBlank, _, _, rfl, rfl, gap, _, rfl, isGap, clause,
      _, rfl, isClause, _, _, rfl, ⟨quote, rfl, isQuoted⟩, specifier, _, rfl, run, endQuote, rfl, isEndQuoted⟩
    exact ⟨⟨indent, gap, clause, quote, specifier, endQuote, by simp, indentBlank, isGap, isClause, isQuoted,
      run, isEndQuoted⟩, atStart⟩
  · rintro ⟨⟨indent, gap, clause, quote, specifier, endQuote, rfl, indentBlank, isGap, isClause, isQuoted, run,
      isEndQuoted⟩, rfl⟩
    exact ⟨[], _, rfl, ⟨rfl, rfl⟩, indent, _, by simp, indentBlank, "import".toList, _, rfl, rfl, gap, _, rfl,
      isGap, clause, _, rfl, isClause, [quote], _, rfl, ⟨quote, rfl, isQuoted⟩, specifier, [endQuote], rfl,
      run, endQuote, rfl, isEndQuoted⟩

theorem isShownBy_scriptImport_iff :
    scriptImport.isShownBy line = true ↔ ∃ before found behind, line = before ++ found ++ behind ∧
      (IsImportCall "require" found ∧ endsInWord before = false ∨
        IsImportStatement found ∧ before = [] ∨ IsImportCall "import" found ∧ endsInWord before = false) := by
  rw [isShownBy_iff]
  simp only [scriptImport, fits_oneOf_iff, List.exists_mem_cons_iff, List.not_mem_nil, false_and, exists_false,
    or_false, fits_importStatement_iff, fits_importCall_iff (show beginsInWord "require".toList = true by decide),
    fits_importCall_iff (show beginsInWord "import".toList = true by decide)]

theorem IsImportCall.exists_stringMark {function : String} (isCall : IsImportCall function found) :
    ∃ char ∈ found, isStringMark char = true := by
  rcases isCall with ⟨inner, outer, mark, specifier, endMark, last, rfl, _, isMark, _⟩
  exact ⟨mark, by simp, isMark⟩

theorem IsImportStatement.exists_stringMark (isStatement : IsImportStatement found) :
    ∃ char ∈ found, isStringMark char = true := by
  rcases isStatement with ⟨indent, gap, clause, quote, specifier, endQuote, rfl, _, _, _, isQuoted, _⟩
  refine ⟨quote, by simp, ?_⟩
  rw [isStringMark, isQuoted, Bool.true_or]

/-- A line without quotes and backquotes imports nothing into a script. -/
theorem not_isShownBy_scriptImport (unmarked : ∀ char ∈ line, isStringMark char = false) :
    scriptImport.isShownBy line = false := by
  rw [← Bool.not_eq_true, isShownBy_scriptImport_iff]
  rintro ⟨before, found, behind, rfl, imports⟩
  have marked : ∃ char ∈ found, isStringMark char = true := by
    rcases imports with ⟨isCall, _⟩ | ⟨isStatement, _⟩ | ⟨isCall, _⟩
    · exact isCall.exists_stringMark
    · exact isStatement.exists_stringMark
    · exact isCall.exists_stringMark
  rcases marked with ⟨char, member, isMark⟩
  rw [unmarked char (by simp [member])] at isMark
  exact Bool.noConfusion isMark

end Fits

/-! ## The policy -/

/-- Whether a line reads a value from the environment as the suppressions for all rules describe it. -/
def ReadsEnvironment (line : List Char) : Prop :=
  scriptVariable.isShownBy line = true ∨ environmentLookup.isShownBy line = true

/-- Whether a text ends in what opens an import. -/
def EndsInOpening (text : List Char) : Prop :=
  ∃ before opening, text = before ++ opening ∧ OpensImport before opening

/-- The names by which the two modules of the runtime are imported. -/
def exemptSpecifiers : List String :=
  ["fs", "path", "node:fs", "node:path"]

theorem suppresses_dependencyRule_iff (line : String) :
    builtinPolicy.suppresses line dependencyRule = true ↔ ReadsEnvironment line.toList ∨
      ImportsRuntimeModule "fs" line.toList ∨ ImportsRuntimeModule "path" line.toList := by
  have noSecret : occursIn "Hardcoded".toList dependencyRule.name.toList = false := by decide
  have noPipe : occursIn "Pipe to Shell".toList dependencyRule.name.toList = false := by decide
  rw [← not_iff_not, Bool.not_eq_true, Policy.not_suppresses_iff]
  simp only [builtinPolicy, List.forall_mem_cons, Suppression.vetoes, Suppression.onPattern,
    Suppression.covers, noSecret, noPipe, Bool.true_and, Bool.false_and, List.not_mem_nil, false_implies,
    implies_true, and_true, ← Bool.not_eq_true, isShownBy_runtimeImport_iff, ReadsEnvironment, not_or,
    Bool.false_eq_true, not_false_eq_true, and_assoc]

section Quoted

variable {front specifier back : List Char} {quote endQuote : Char}

theorem not_readsEnvironment_of_noDot (noDot : '.' ∉ front) : ¬ReadsEnvironment front := by
  intro reads
  have mentions : MentionsEnvironment front := by
    rcases reads with shown | shown
    · exact mentionsEnvironment_of_scriptVariable shown
    · exact mentionsEnvironment_of_environmentLookup shown
  have dotted : ∀ name ∈ environmentNames, '.' ∈ name.toList := by decide
  rcases mentions with ⟨name, member, isInfix⟩
  exact noDot (isInfix.subset (dotted name member))

/-- A quote is no part of any reading of the environment. -/
theorem readsEnvironment_append_quote_iff (isQuoted : isQuote quote = true) :
    ReadsEnvironment (front ++ quote :: back) ↔ ReadsEnvironment front ∨ ReadsEnvironment back := by
  have unheld : scriptVariable.mayHold quote = false ∧ environmentLookup.mayHold quote = false := by
    simp only [isQuote, Bool.or_eq_true, beq_iff_eq] at isQuoted
    rcases isQuoted with rfl | rfl
    · decide
    · decide
  rw [ReadsEnvironment, isShownBy_append_cons_iff (by decide) unheld.1,
    isShownBy_append_cons_iff (by decide) unheld.2]
  simp only [ReadsEnvironment]
  tauto

theorem noQuote_iff {text : List Char} :
    (∀ char ∈ text, isQuote char = false) ↔ text.countP isQuote = 0 := by
  simp

theorem countP_quoted (isQuoted : isQuote quote = true) (isEndQuoted : isQuote endQuote = true) :
    (front ++ quote :: (specifier ++ endQuote :: back)).countP isQuote =
      front.countP isQuote + specifier.countP isQuote + back.countP isQuote + 2 := by
  rw [List.countP_append, List.countP_cons_of_pos isQuoted, List.countP_append,
    List.countP_cons_of_pos isEndQuoted]
  omega

theorem importsRuntimeModule_quoted_iff {moduleName : String} (isQuoted : isQuote quote = true)
    (isEndQuoted : isQuote endQuote = true) (frontPlain : ∀ char ∈ front, isQuote char = false)
    (plain : ∀ char ∈ specifier, isQuote char = false) (backPlain : ∀ char ∈ back, isQuote char = false) :
    ImportsRuntimeModule moduleName (front ++ quote :: (specifier ++ endQuote :: back)) ↔
      (specifier = moduleName.toList ∨ specifier = "node:".toList ++ moduleName.toList) ∧
        EndsInOpening front := by
  constructor
  · rintro ⟨before, opening, first, scheme, second, behind, split, opens, isFirst, isScheme, isSecond⟩
    -- The line holds two quotes, so there are none but those around the name.
    have counts := congrArg (List.countP isQuote) split
    rw [countP_quoted isQuoted isEndQuoted, countP_quoted isFirst isSecond, noQuote_iff.mp frontPlain,
      noQuote_iff.mp plain, noQuote_iff.mp backPlain] at counts
    have openingPlain : ∀ char ∈ before ++ opening, isQuote char = false := noQuote_iff.mpr (by omega)
    have namePlain : ∀ char ∈ scheme ++ moduleName.toList, isQuote char = false := noQuote_iff.mpr (by omega)
    rcases append_cons_inj frontPlain openingPlain isQuoted isFirst split with ⟨rfl, _, inner⟩
    rcases append_cons_inj plain namePlain isEndQuoted isSecond inner with ⟨rfl, _, _⟩
    refine ⟨?_, before, opening, rfl, opens⟩
    rcases isScheme with rfl | rfl
    · exact Or.inl rfl
    · exact Or.inr rfl
  · rintro ⟨named, before, opening, rfl, opens⟩
    rcases named with rfl | rfl
    · exact ⟨before, opening, quote, [], endQuote, back, rfl, opens, isQuoted, Or.inl rfl, isEndQuoted⟩
    · exact ⟨before, opening, quote, "node:".toList, endQuote, back, rfl, opens, isQuoted, Or.inr rfl,
        isEndQuoted⟩

theorem exempt_quoted_iff {specifier : String} (isQuoted : isQuote quote = true)
    (isEndQuoted : isQuote endQuote = true) (frontPlain : ∀ char ∈ front, isQuote char = false)
    (plain : ∀ char ∈ specifier.toList, isQuote char = false) (backPlain : ∀ char ∈ back, isQuote char = false) :
    (ImportsRuntimeModule "fs" (front ++ quote :: (specifier.toList ++ endQuote :: back)) ∨
        ImportsRuntimeModule "path" (front ++ quote :: (specifier.toList ++ endQuote :: back))) ↔
      specifier ∈ exemptSpecifiers ∧ EndsInOpening front := by
  have nodeFs : "node:".toList ++ "fs".toList = "node:fs".toList := rfl
  have nodePath : "node:".toList ++ "path".toList = "node:path".toList := rfl
  simp only [importsRuntimeModule_quoted_iff isQuoted isEndQuoted frontPlain plain backPlain, nodeFs, nodePath,
    String.toList_inj, exemptSpecifiers, List.mem_cons, List.not_mem_nil, or_false]
  tauto

end Quoted

/-! ## Lines that import -/

/-- A name in quotes. -/
def inQuotes (quote : Char) (name : String) : String :=
  String.ofList (quote :: (name.toList ++ [quote]))

/-- A name that may be imported in quotes of some kind and reads nothing from the environment. -/
structure IsSpecifier (quote : Char) (name : String) : Prop where
  isQuoted : isQuote quote = true
  nonempty : name ≠ ""
  unmarked : ∀ char ∈ name.toList, isStringMark char = false
  noEnvironment : ¬ReadsEnvironment name.toList

/-- Whether a text has no quote and no dot. -/
def IsPlain (text : List Char) : Prop :=
  ∀ char ∈ text, isQuote char = false ∧ char ≠ '.'

section Lines

variable {line : NumberedLine} {front back specifier : String} {quote : Char}

theorem toList_around_inQuotes : (front ++ inQuotes quote specifier ++ back).toList =
    front.toList ++ quote :: (specifier.toList ++ quote :: back.toList) := by
  simp [inQuotes]

theorem reportsOf_dependency_of_shown (shown : scriptImport.isShownBy line.text.toList = true) :
    reportsOf "External Dependency" line =
      if builtinPolicy.suppresses line.text dependencyRule then [] else [line.finding dependencyRule] := by
  have alone : builtin.rules.filter (·.name == "External Dependency") = [dependencyRule] := rfl
  have fires : dependencyRule.test line.text = true := by simp [dependencyRule, shown]
  rw [reportsOf_eq alone]
  cases suppressed : builtinPolicy.suppresses line.text dependencyRule with
  | true => simp [suppressed]
  | false => simp [fires, suppressed]

theorem IsSpecifier.unquoted (isSpecifier : IsSpecifier quote specifier) :
    ∀ char ∈ specifier.toList, isQuote char = false := by
  intro char member
  have unmarked := isSpecifier.unmarked char member
  rw [isStringMark, Bool.or_eq_false_iff] at unmarked
  exact unmarked.1

theorem IsSpecifier.isMark (isSpecifier : IsSpecifier quote specifier) : isStringMark quote = true := by
  rw [isStringMark, isSpecifier.isQuoted, Bool.true_or]

/-- Of a module in quotes it depends on what stands before the quotes whether it may be exempt. -/
theorem suppresses_quoted_iff (isSpecifier : IsSpecifier quote specifier) (frontPlain : IsPlain front.toList)
    (backPlain : IsPlain back.toList) :
    builtinPolicy.suppresses (front ++ inQuotes quote specifier ++ back) dependencyRule = true ↔
      specifier ∈ exemptSpecifiers ∧ EndsInOpening front.toList := by
  have noReading {text : String} (isPlain : IsPlain text.toList) : ¬ReadsEnvironment text.toList :=
    not_readsEnvironment_of_noDot fun dot => (isPlain '.' dot).2 rfl
  rw [suppresses_dependencyRule_iff, toList_around_inQuotes,
    readsEnvironment_append_quote_iff isSpecifier.isQuoted,
    readsEnvironment_append_quote_iff isSpecifier.isQuoted,
    exempt_quoted_iff isSpecifier.isQuoted isSpecifier.isQuoted (fun char member => (frontPlain char member).1)
      isSpecifier.unquoted (fun char member => (backPlain char member).1)]
  simp only [noReading frontPlain, noReading backPlain, isSpecifier.noEnvironment, false_or]

theorem reportsOf_behind_opening (isSpecifier : IsSpecifier quote specifier) (frontPlain : IsPlain front.toList)
    (backPlain : IsPlain back.toList) (opens : EndsInOpening front.toList)
    (isText : line.text = front ++ inQuotes quote specifier ++ back)
    (shown : scriptImport.isShownBy line.text.toList = true) :
    reportsOf "External Dependency" line =
      if specifier ∈ exemptSpecifiers then [] else [line.finding dependencyRule] := by
  rw [reportsOf_dependency_of_shown shown]
  apply if_congr _ rfl rfl
  rw [isText, suppresses_quoted_iff isSpecifier frontPlain backPlain]
  exact and_iff_left opens

theorem reportsOf_behind_other (isSpecifier : IsSpecifier quote specifier) (frontPlain : IsPlain front.toList)
    (backPlain : IsPlain back.toList) (noOpening : ¬EndsInOpening front.toList)
    (isText : line.text = front ++ inQuotes quote specifier ++ back)
    (shown : scriptImport.isShownBy line.text.toList = true) :
    reportsOf "External Dependency" line = [line.finding dependencyRule] := by
  rw [reportsOf_dependency_of_shown shown]
  apply if_neg
  rw [isText, suppresses_quoted_iff isSpecifier frontPlain backPlain]
  intro exempt
  exact noOpening exempt.2

theorem isPlain_of_all {text : List Char} (all : text.all (fun char => !isQuote char && char != '.') = true) :
    IsPlain text := by
  intro char member
  simpa using List.all_eq_true.mp all char member

theorem isPlain_of_isClauseChar {clause : List Char} (ofKind : ∀ char ∈ clause, isClauseChar char = true) :
    IsPlain clause := by
  intro char member
  have isKind := ofKind char member
  refine ⟨?_, ?_⟩
  · by_contra quoted
    simp only [Bool.not_eq_false, isQuote, Bool.or_eq_true, beq_iff_eq] at quoted
    rcases quoted with rfl | rfl
    · exact absurd isKind (by decide)
    · exact absurd isKind (by decide)
  · rintro rfl
    exact absurd isKind (by decide)

/-- What opens an import ends in a parenthesis behind `require` or in blanks behind `from`. -/
theorem not_endsInOpening {text : List Char} (noRequire : 'q' ∉ text) (noFrom : 'f' ∉ text) :
    ¬EndsInOpening text := by
  rintro ⟨before, opening, rfl, ⟨inner, outer, rfl, _⟩ | ⟨blanks, rfl, _⟩⟩
  · exact noRequire (by simp)
  · exact noFrom (by simp)

theorem isImportCall_inQuotes (isSpecifier : IsSpecifier quote specifier) (function : String) :
    IsImportCall function (function ++ "(" ++ inQuotes quote specifier ++ ")").toList := by
  refine ⟨[], [], quote, specifier.toList, quote, [], by simp [inQuotes], by simp, isSpecifier.isMark, ⟨?_, ?_⟩,
    isSpecifier.isMark⟩
  · simpa using isSpecifier.nonempty
  · intro char member
    rw [isInString, isSpecifier.unmarked char member, Bool.not_false]

theorem isImportStatement_inQuotes (isSpecifier : IsSpecifier quote specifier) {clause : String}
    (isClause : clause = "" ∨ IsImportClause clause.toList) :
    IsImportStatement ("import " ++ clause ++ inQuotes quote specifier).toList := by
  refine ⟨[], [' '], clause.toList, quote, specifier.toList, quote, by simp [inQuotes], by simp,
    isRun_of_all (by simp) rfl, by simpa using isClause, isSpecifier.isQuoted, ⟨?_, ?_⟩, isSpecifier.isQuoted⟩
  · simpa using isSpecifier.nonempty
  · intro char member
    rw [isSpecifier.unquoted char member, Bool.not_false]

theorem isShownBy_call (isSpecifier : IsSpecifier quote specifier) {function : String}
    (imports : function = "require" ∨ function = "import") (before behind : String)
    (apart : endsInWord before.toList = false) :
    scriptImport.isShownBy
      (before ++ (function ++ "(" ++ inQuotes quote specifier ++ ")") ++ behind).toList = true := by
  rw [isShownBy_scriptImport_iff]
  refine ⟨before.toList, _, behind.toList, by rw [String.toList_append, String.toList_append], ?_⟩
  rcases imports with rfl | rfl
  · exact Or.inl ⟨isImportCall_inQuotes isSpecifier "require", apart⟩
  · exact Or.inr (Or.inr ⟨isImportCall_inQuotes isSpecifier "import", apart⟩)

theorem isShownBy_statement (isSpecifier : IsSpecifier quote specifier) (clause behind : String)
    (isClause : clause = "" ∨ IsImportClause clause.toList) :
    scriptImport.isShownBy ("import " ++ clause ++ inQuotes quote specifier ++ behind).toList = true := by
  rw [isShownBy_scriptImport_iff]
  refine ⟨[], _, behind.toList, by rw [String.toList_append, List.nil_append], Or.inr (Or.inl ⟨?_, rfl⟩)⟩
  exact isImportStatement_inQuotes isSpecifier isClause

theorem isImportClause_from {names : String} (nonempty : names ≠ "")
    (ofKind : ∀ char ∈ names.toList, isClauseChar char = true) :
    IsImportClause (names ++ " from ").toList := by
  have oneBlank : IsRun isBlank [' '] := isRun_of_all (by simp) rfl
  refine ⟨names.toList, [' '], [' '], by simp, ⟨?_, ofKind⟩, oneBlank, oneBlank⟩
  simpa using nonempty

theorem endsInOpening_require (before : String) : EndsInOpening (before ++ "require(").toList :=
  ⟨before.toList, "require(".toList, String.toList_append, Or.inl ⟨[], [], rfl, by simp, by simp⟩⟩

theorem endsInOpening_from {before : String} (apart : endsInWord before.toList = false) :
    EndsInOpening (before ++ "from ").toList :=
  ⟨before.toList, "from ".toList, String.toList_append,
    Or.inr ⟨[' '], rfl, by simp, List.all_eq_true.mp rfl, apart⟩⟩

end Lines

/-- Whatever a script imports is reported, except two modules of the runtime where they stand behind `require`
or `from`. -/
theorem dependencyRule_exempts_runtime (specifier : String) (quote : Char) (isQuoted : isQuote quote = true)
    (nonempty : specifier ≠ "") (unmarked : ∀ char ∈ specifier.toList, isStringMark char = false)
    (noVariable : scriptVariable.isShownBy specifier.toList = false)
    (noLookup : environmentLookup.isShownBy specifier.toList = false) (line : NumberedLine) :
    (line.text = "const m = require(" ++ inQuotes quote specifier ++ ");" →
        reportsOf "External Dependency" line =
          if specifier ∈ exemptSpecifiers then [] else [line.finding dependencyRule]) ∧
      (∀ clause : String, clause ≠ "" → (∀ char ∈ clause.toList, isClauseChar char = true) →
        line.text = "import " ++ clause ++ " from " ++ inQuotes quote specifier ++ ";" →
          reportsOf "External Dependency" line =
            if specifier ∈ exemptSpecifiers then [] else [line.finding dependencyRule]) ∧
      (line.text = "import " ++ inQuotes quote specifier ++ ";" →
        reportsOf "External Dependency" line = [line.finding dependencyRule]) ∧
      (line.text = "const m = await import(" ++ inQuotes quote specifier ++ ");" →
        reportsOf "External Dependency" line = [line.finding dependencyRule]) := by
  have isSpecifier : IsSpecifier quote specifier :=
    ⟨isQuoted, nonempty, unmarked, by simp [ReadsEnvironment, noVariable, noLookup]⟩
  refine ⟨?_, ?_, ?_, ?_⟩
  · intro isText
    apply reportsOf_behind_opening isSpecifier (isPlain_of_all (by decide)) (isPlain_of_all (by decide)) _
      isText
    · have shown := isShownBy_call isSpecifier (Or.inl rfl) "const m = " ";" (by decide)
      rw [isText]
      simpa using shown
    · exact endsInOpening_require "const m = "
  · intro clause clauseNonempty ofKind isText
    have isClause := isImportClause_from clauseNonempty ofKind
    have clausePlain : IsPlain ("import " ++ clause ++ " from ").toList := by
      simp only [IsPlain, String.toList_append, List.forall_mem_append]
      exact ⟨⟨isPlain_of_all (by decide), isPlain_of_isClauseChar ofKind⟩, isPlain_of_all (by decide)⟩
    have opens : EndsInOpening ("import " ++ clause ++ " from ").toList := by
      have apart : endsInWord ("import " ++ clause ++ " ").toList = false := by
        rw [String.toList_append, endsInWord_append (by decide)]
        decide
      simpa using endsInOpening_from apart
    apply reportsOf_behind_opening isSpecifier clausePlain (isPlain_of_all (by decide)) opens isText
    have shown := isShownBy_statement isSpecifier (clause ++ " from ") ";" (Or.inr isClause)
    rw [isText]
    simpa using shown
  · intro isText
    apply reportsOf_behind_other isSpecifier (isPlain_of_all (by decide)) (isPlain_of_all (by decide)) _ isText
    · have shown := isShownBy_statement isSpecifier "" ";" (Or.inl rfl)
      rw [isText]
      simpa using shown
    · exact not_endsInOpening (by decide) (by decide)
  · intro isText
    apply reportsOf_behind_other isSpecifier (isPlain_of_all (by decide)) (isPlain_of_all (by decide)) _ isText
    · have shown := isShownBy_call isSpecifier (Or.inr rfl) "const m = await " ";" (by decide)
      rw [isText]
      simpa using shown
    · exact not_endsInOpening (by decide) (by decide)

/-- A module of the runtime behind a clause that holds the word `from`, and a name that only begins like one. -/
theorem dependencyRule_exempts_exampleSpecifiers :
    reportsOf "External Dependency"
        ⟨"a.mjs", 1, "import " ++ "from" ++ " from " ++ inQuotes '\x22' "node:fs" ++ ";"⟩ = [] ∧
      reportsOf "External Dependency" ⟨"a.js", 1, "const m = require(" ++ inQuotes '\x27' "fs/promises" ++ ");"⟩ =
        [NumberedLine.finding ⟨"a.js", 1, "const m = require(" ++ inQuotes '\x27' "fs/promises" ++ ");"⟩
          dependencyRule] := by
  have runtime := (dependencyRule_exempts_runtime "node:fs" '\x22' (by decide) (by decide) (eq_false_of_all rfl)
    (by decide) (by decide) ⟨"a.mjs", 1, "import " ++ "from" ++ " from " ++ inQuotes '\x22' "node:fs" ++ ";"⟩).2.1
  have other := (dependencyRule_exempts_runtime "fs/promises" '\x27' (by decide) (by decide) (eq_false_of_all rfl)
    (by decide) (by decide) ⟨"a.js", 1, "const m = require(" ++ inQuotes '\x27' "fs/promises" ++ ");"⟩).1
  constructor
  · rw [runtime "from" (by decide) (List.all_eq_true.mp (by decide)) rfl, if_pos (by decide)]
  · rw [other rfl, if_neg (by decide)]

end SkillScan.Signature
