import Mathlib.Data.List.TakeWhile
import SkillScan.CommandLine.Request

/-!
# Arguments that ask for a scan

The options of a scan may stand before and after its target, in any order and more than once, with their
values behind them or attached to them. The arguments are read twice: the program's grammar only has to
let them pass as what follows the command, and the grammar of the command takes them one after the other.
-/

namespace SkillScan

namespace Grammar

variable {Settings : Type} {grammar : Grammar Settings}

/-! ## Telling the form of an argument -/

theorem classify_of_not_dash {text : String} (noDash : text.toList.head? ≠ some '-') :
    grammar.classify text = .ok (.plain text) := by
  simp only [classify]
  split
  · next split => simp [split] at noDash
  · rfl

theorem splitAtEquals_append {name : String} (noEquals : '=' ∉ name.toList) (value : String) :
    splitAtEquals (name ++ "=" ++ value) = (name, some value) := by
  have equals : "=".toList = ['='] := rfl
  have before : (name.toList ++ '=' :: value.toList).takeWhile (· != '=') = name.toList := by
    rw [List.takeWhile_append_of_pos]
    · simp
    · intro char member
      simp only [bne_iff_ne]
      rintro rfl
      exact noEquals member
  simp only [splitAtEquals, String.toList_append, equals, List.append_assoc, List.singleton_append,
    before, List.drop_left, String.ofList_toList]

theorem splitAtEquals_of_noEquals {name : String} (noEquals : '=' ∉ name.toList) :
    splitAtEquals name = (name, none) := by
  have whole : name.toList.takeWhile (· != '=') = name.toList := by
    apply List.takeWhile_eq_self_iff.mpr
    intro char member
    simp only [bne_iff_ne]
    rintro rfl
    exact noEquals member
  simp only [splitAtEquals, whole, List.drop_length]

/-- No option is named with an equals sign. -/
def NamesWithoutEquals (grammar : Grammar Settings) : Prop :=
  ∀ rule ∈ grammar.options, ∀ name ∈ rule.names, '=' ∉ name.toList

theorem named?_attached (plain : grammar.NamesWithoutEquals) (name value : String) :
    grammar.named? (name ++ "=" ++ value) = none := by
  simp only [named?, List.find?_eq_none, List.contains_iff_mem]
  intro rule member named
  apply plain rule member _ named
  simp [String.toList_append]

section Long

variable {name : String} {rest : List Char}

theorem classify_long (long : name.toList = '-' :: '-' :: rest) {rule : OptionRule Settings}
    (named : grammar.named? name = some rule) :
    grammar.classify name = .ok (.option name rule name none) := by
  simp [classify, long, exactOption, named]

theorem classify_long_attached (plain : grammar.NamesWithoutEquals)
    (long : name.toList = '-' :: '-' :: rest) (noEquals : '=' ∉ name.toList) (value : String)
    {rule : OptionRule Settings} (named : grammar.named? name = some rule) :
    grammar.classify (name ++ "=" ++ value) =
      .ok (.option (name ++ "=" ++ value) rule name (some value)) := by
  simp [classify, String.toList_append, long, exactOption, named?_attached plain,
    splitAtEquals_append noEquals, named]

theorem named?_eq_none_of_beginningWith (unknown : grammar.beginningWith name = []) :
    grammar.named? name = none := by
  simp only [named?, List.find?_eq_none, List.contains_iff_mem]
  intro rule member named
  have candidate : (name, rule) ∈ grammar.beginningWith name := by
    simp only [beginningWith, List.mem_flatMap, List.mem_map, List.mem_filter]
    exact ⟨rule, member, name, ⟨named, by simp⟩, rfl⟩
  simp [unknown] at candidate

theorem beginningWith_eq_nil {beginning : String}
    (none : ∀ rule ∈ grammar.options, ∀ name ∈ rule.names,
      beginning.toList.isPrefixOf name.toList = false) :
    grammar.beginningWith beginning = [] := by
  simp only [beginningWith, List.flatMap_eq_nil_iff, List.map_eq_nil_iff, List.filter_eq_nil_iff]
  intro rule member name named
  simp [none rule member name named]

/-- What begins like no option is none. -/
theorem classify_long_of_unknown (long : name.toList = '-' :: '-' :: rest)
    (noEquals : '=' ∉ name.toList) (unknown : grammar.beginningWith name = []) :
    grammar.classify name = .ok (withoutOption name) := by
  have notNamed := named?_eq_none_of_beginningWith unknown
  simp [classify, long, exactOption, splitAtEquals_of_noEquals noEquals, notNamed, longOption, unknown]

theorem classify_long_attached_of_unknown (plain : grammar.NamesWithoutEquals)
    (long : name.toList = '-' :: '-' :: rest) (noEquals : '=' ∉ name.toList) (value : String)
    (unknown : grammar.beginningWith name = []) :
    grammar.classify (name ++ "=" ++ value) = .ok (withoutOption (name ++ "=" ++ value)) := by
  have notNamed := named?_eq_none_of_beginningWith unknown
  simp [classify, String.toList_append, long, exactOption, named?_attached plain,
    splitAtEquals_append noEquals, notNamed, longOption, unknown]

end Long

/-! ## Arguments keep their texts -/

theorem text_withoutOption (text : String) : (withoutOption text : Argument Settings).text = text := by
  simp only [withoutOption]
  split <;> rfl

theorem text_of_exactOption {text : String} {argument : Argument Settings}
    (known : grammar.exactOption text = some argument) : argument.text = text := by
  simp only [exactOption] at known
  split at known
  · cases known
    rfl
  · split at known
    · rcases Option.map_eq_some_iff.mp known with ⟨rule, _, rfl⟩
      rfl
    · simp at known

theorem text_of_longOption {text : String} {argument : Argument Settings}
    (known : grammar.longOption text = .ok (some argument)) : argument.text = text := by
  simp only [longOption] at known
  split at known <;> cases known
  rfl

theorem text_of_shortOption {text : String} {argument : Argument Settings}
    (known : grammar.shortOption text = some argument) : argument.text = text := by
  rcases Option.map_eq_some_iff.mp known with ⟨rule, _, rfl⟩
  rfl

/-- Telling the form of an argument does not change what is written. -/
theorem text_of_classify {text : String} {argument : Argument Settings}
    (told : grammar.classify text = .ok argument) : argument.text = text := by
  simp only [classify] at told
  split at told
  · split at told
    · next known =>
        cases told
        exact text_of_exactOption known
    · split at told
      · cases long : grammar.longOption text with
        | error error => simp [long, Functor.map, Except.map] at told
        | ok found =>
            cases found with
            | none =>
                simp only [long, bind, Except.bind, pure, Except.pure, Option.getD_none,
                  Except.ok.injEq] at told
                exact told ▸ text_withoutOption text
            | some option =>
                simp only [long, bind, Except.bind, pure, Except.pure, Option.getD_some,
                  Except.ok.injEq] at told
                exact told ▸ text_of_longOption long
      · cases short : grammar.shortOption text with
        | none =>
            simp only [short, Option.getD_none, Except.ok.injEq] at told
            exact told ▸ text_withoutOption text
        | some option =>
            simp only [short, Option.getD_some, Except.ok.injEq] at told
            exact told ▸ text_of_shortOption short
  · cases told
    rfl

/-- Arguments that have a form at all keep their texts. -/
theorem classifyAll_texts {texts : List String}
    (told : ∀ text ∈ texts, text ≠ "--" ∧ ∃ argument, grammar.classify text = .ok argument) :
    ∃ arguments, grammar.classifyAll texts = .ok arguments ∧ arguments.map (·.text) = texts := by
  induction texts with
  | nil => exact ⟨[], rfl, rfl⟩
  | cons text texts ih =>
      rcases told text (by simp) with ⟨noSeparator, argument, known⟩
      rcases ih (fun later member => told later (by simp [member])) with ⟨arguments, toldLater, same⟩
      refine ⟨argument :: arguments, ?_, ?_⟩
      · simp [classifyAll, noSeparator, known, toldLater, bind, Except.bind, pure, Except.pure]
      · simp [text_of_classify known, same]

/-- An operand that is still wanted is taken, and more follows it than two dashes. -/
theorem readArguments_operand {name : String} (single : grammar.operand = .single name)
    {reading : Reading Settings} (wanted : reading.operands = []) (text : String)
    {rest : List (Argument Settings)} (noSeparator : rest.head? ≠ some .separator) :
    grammar.readArguments (.plain text :: rest) reading =
      grammar.readArguments rest { reading with operands := [text] } := by
  rw [readArguments.eq_def]
  simp only [single, wanted]
  cases rest with
  | nil => rfl
  | cons next rest =>
      cases next with
      | separator => exact absurd rfl noSeparator
      | plain other => rfl
      | option other rule name attached => rfl
      | unknownOption other => rfl

/-- A command is taken together with all that follows it. -/
theorem readArguments_command {name : String} {choices : List String}
    (command : grammar.operand = .command name choices) {reading : Reading Settings}
    (wanted : reading.operands = []) (text : String) (rest : List (Argument Settings)) :
    grammar.readArguments (.plain text :: rest) reading =
      takeCommand name choices (text :: rest.map (·.text)) reading := by
  rw [readArguments.eq_def]
  simp only [command, wanted]

end Grammar

/-! ## Written options -/

/-- The name of a format. -/
def ReportFormat.name : ReportFormat → String
  | .text => "text"
  | .json => "json"

/-- What an option of a scan asks for. -/
inductive ScanSetting where
  | format (chosen : ReportFormat)
  | output (path : String)

/-- An option of a scan as it is written, with its value attached to the name or behind it. -/
structure WrittenOption where
  setting : ScanSetting
  attached : Bool

namespace ScanSetting

/-- The name of the option. -/
def name : ScanSetting → String
  | .format _ => "--format"
  | .output _ => "--out"

/-- The value of the option. -/
def value : ScanSetting → String
  | .format chosen => chosen.name
  | .output path => path

/-- The options of a scan with one more. -/
def apply (options : Request.ScanOptions) : ScanSetting → Request.ScanOptions
  | .format chosen => { options with format := chosen }
  | .output path => { options with output := some path }

end ScanSetting

namespace WrittenOption

/-- The arguments that the option consists of. -/
def words (option : WrittenOption) : List String :=
  if option.attached then [option.setting.name ++ "=" ++ option.setting.value]
  else [option.setting.name, option.setting.value]

/-- The value can be written in this way: it is not taken for another option or for none. -/
def Plain (option : WrittenOption) : Prop :=
  if option.attached then option.setting.value ≠ "--"
  else option.setting.value.toList.head? ≠ some '-'

end WrittenOption

namespace Request

theorem grammar_namesWithoutEquals : grammar.NamesWithoutEquals := by
  unfold Grammar.NamesWithoutEquals
  decide

theorem scanGrammar_namesWithoutEquals : scanGrammar.NamesWithoutEquals := by
  unfold Grammar.NamesWithoutEquals
  decide

/-- The rule of an option. -/
def ruleOf (setting : ScanSetting) : OptionRule ScanOptions :=
  match setting with
  | .format _ => ⟨["--format"], .value ReportFormat.names fun name options =>
      { options with format := .ofName (name.getD "") }⟩
  | .output _ => ⟨["--out", "--output"], .value [] fun path options => { options with output := path }⟩

theorem named?_setting (setting : ScanSetting) : scanGrammar.named? setting.name = some (ruleOf setting) := by
  cases setting <;> rfl

theorem name_long (setting : ScanSetting) : ∃ rest, setting.name.toList = '-' :: '-' :: rest := by
  cases setting with
  | format chosen =>
      have chars : "--format".toList = '-' :: '-' :: ['f', 'o', 'r', 'm', 'a', 't'] := rfl
      exact ⟨_, chars⟩
  | output path =>
      have chars : "--out".toList = '-' :: '-' :: ['o', 'u', 't'] := rfl
      exact ⟨_, chars⟩

theorem name_noEquals (setting : ScanSetting) : '=' ∉ setting.name.toList := by
  cases setting with
  | format chosen =>
      show '=' ∉ "--format".toList
      decide
  | output path =>
      show '=' ∉ "--out".toList
      decide

/-- The program itself has no option that is named like one of a scan. -/
theorem name_unknown (setting : ScanSetting) : grammar.beginningWith setting.name = [] := by
  apply Grammar.beginningWith_eq_nil
  cases setting with
  | format chosen =>
      show ∀ rule ∈ grammar.options, ∀ name ∈ rule.names,
        "--format".toList.isPrefixOf name.toList = false
      decide
  | output path =>
      show ∀ rule ∈ grammar.options, ∀ name ∈ rule.names,
        "--out".toList.isPrefixOf name.toList = false
      decide

/-! ## The program's own reading -/

theorem ne_separator_of_not_dash {text : String} (noDash : text.toList.head? ≠ some '-') :
    text ≠ "--" := by
  rintro rfl
  exact noDash rfl

theorem name_ne_separator (setting : ScanSetting) : setting.name ≠ "--" := by
  cases setting with
  | format chosen =>
      show "--format" ≠ "--"
      decide
  | output path =>
      show "--out" ≠ "--"
      decide

theorem attached_ne_separator (name value : String) : name ++ "=" ++ value ≠ "--" := by
  intro same
  have equals : '=' ∈ (name ++ "=" ++ value).toList := by simp [String.toList_append]
  rw [same] at equals
  exact absurd equals (by decide)

/-- The program's grammar lets every word of a written option pass. -/
theorem classify_word {option : WrittenOption} (plain : option.Plain) :
    ∀ word ∈ option.words, word ≠ "--" ∧ ∃ argument, grammar.classify word = .ok argument := by
  rcases option with ⟨setting, attached⟩
  rcases name_long setting with ⟨rest, long⟩
  have noEquals := name_noEquals setting
  have unknown := name_unknown setting
  intro word member
  cases attached with
  | true =>
      simp only [WrittenOption.words, if_true, List.mem_singleton] at member
      subst member
      exact ⟨attached_ne_separator _ _, _, Grammar.classify_long_attached_of_unknown
        grammar_namesWithoutEquals long noEquals _ unknown⟩
  | false =>
      simp only [WrittenOption.Plain, Bool.false_eq_true, if_false] at plain
      simp only [WrittenOption.words, Bool.false_eq_true, if_false, List.mem_cons, List.not_mem_nil,
        or_false] at member
      rcases member with rfl | rfl
      · exact ⟨name_ne_separator setting, _, Grammar.classify_long_of_unknown long noEquals unknown⟩
      · exact ⟨ne_separator_of_not_dash plain, _, Grammar.classify_of_not_dash plain⟩

/-! ## The reading of the command -/

/-- The forms of the words of an option. -/
def formsOf (option : WrittenOption) : List (Argument ScanOptions) :=
  let name := option.setting.name
  let value := option.setting.value
  if option.attached then [.option (name ++ "=" ++ value) (ruleOf option.setting) name (some value)]
  else [.option name (ruleOf option.setting) name none, .plain value]

theorem classifyAll_words {option : WrittenOption} (plain : option.Plain) {rest : List String}
    {arguments : List (Argument ScanOptions)} (told : scanGrammar.classifyAll rest = .ok arguments) :
    scanGrammar.classifyAll (option.words ++ rest) = .ok (formsOf option ++ arguments) := by
  rcases option with ⟨setting, attached⟩
  rcases name_long setting with ⟨_, long⟩
  have named := named?_setting setting
  cases attached with
  | true =>
      have form := Grammar.classify_long_attached scanGrammar_namesWithoutEquals long
        (name_noEquals setting) setting.value named
      simp [WrittenOption.words, formsOf, Grammar.classifyAll, attached_ne_separator, form, told, bind,
        Except.bind, pure, Except.pure]
  | false =>
      simp only [WrittenOption.Plain, Bool.false_eq_true, if_false] at plain
      have form := Grammar.classify_long long named
      have valueForm : scanGrammar.classify setting.value = .ok (.plain setting.value) :=
        Grammar.classify_of_not_dash plain
      simp [WrittenOption.words, formsOf, Grammar.classifyAll, name_ne_separator,
        ne_separator_of_not_dash plain, form, valueForm, told, bind, Except.bind, pure, Except.pure]

theorem act_ruleOf (setting : ScanSetting) (options : ScanOptions) :
    (ruleOf setting).act (some setting.value) options = .ok (setting.apply options) := by
  cases setting with
  | format chosen => cases chosen <;> rfl
  | output path => rfl

theorem takesValue_ruleOf (setting : ScanSetting) : (ruleOf setting).takesValue = true := by
  cases setting <;> rfl

theorem cluster_attached (setting : ScanSetting) (name value : String) :
    scanGrammar.cluster (ruleOf setting) name (some value) =
      .ok ⟨[], ruleOf setting, some value⟩ := by
  simp only [Grammar.cluster]
  cases chars : value.toList with
  | nil =>
      have empty : value = "" := by simpa using chars
      simp [Grammar.clusterOf, takesValue_ruleOf, empty]
  | cons char rest =>
      have whole : String.ofList (char :: rest) = value := by rw [← chars, String.ofList_toList]
      simp [Grammar.clusterOf, takesValue_ruleOf, whole]

theorem readArguments_forms {option : WrittenOption} (plain : option.Plain)
    (rest : List (Argument ScanOptions)) (reading : Reading ScanOptions) :
    scanGrammar.readArguments (formsOf option ++ rest) reading =
      scanGrammar.readArguments rest
        { reading with settings := option.setting.apply reading.settings } := by
  rcases option with ⟨setting, attached⟩
  cases attached with
  | true =>
      simp only [WrittenOption.Plain, if_true] at plain
      simp [formsOf, Grammar.readArguments, cluster_attached, Except.mapError, bind, Except.bind,
        Grammar.attachedValue, plain, Grammar.act, act_ruleOf, pure, Except.pure]
  | false =>
      simp [formsOf, Grammar.readArguments, Grammar.cluster, Except.mapError, bind, Except.bind,
        takesValue_ruleOf, Grammar.act, act_ruleOf, pure, Except.pure]

section Options

variable {options : List WrittenOption}

theorem classifyAll_options (plain : ∀ option ∈ options, option.Plain) {rest : List String}
    {arguments : List (Argument ScanOptions)} (told : scanGrammar.classifyAll rest = .ok arguments) :
    scanGrammar.classifyAll (options.flatMap WrittenOption.words ++ rest) =
      .ok (options.flatMap formsOf ++ arguments) := by
  induction options with
  | nil => exact told
  | cons option options ih =>
      simp only [List.flatMap_cons, List.append_assoc]
      apply classifyAll_words (plain option (by simp))
      exact ih (fun later member => plain later (by simp [member]))

theorem readArguments_options (plain : ∀ option ∈ options, option.Plain)
    (rest : List (Argument ScanOptions)) (reading : Reading ScanOptions) :
    scanGrammar.readArguments (options.flatMap formsOf ++ rest) reading =
      scanGrammar.readArguments rest { reading with
        settings := (options.map (·.setting)).foldl ScanSetting.apply reading.settings } := by
  induction options generalizing reading with
  | nil => rfl
  | cons option options ih =>
      simp only [List.flatMap_cons, List.append_assoc]
      rw [readArguments_forms (plain option (by simp)), ih]
      · rfl
      · intro later member
        exact plain later (by simp [member])

theorem head?_forms_ne_separator (options : List WrittenOption) :
    (options.flatMap formsOf).head? ≠ some .separator := by
  cases options with
  | nil => simp
  | cons option options =>
      simp only [List.flatMap_cons, formsOf]
      split <;> simp

end Options

/-- The arguments that ask for the scan of a target. -/
def scanArguments (before : List WrittenOption) (target : String) (after : List WrittenOption) :
    List String :=
  scanName :: before.flatMap WrittenOption.words ++ target :: after.flatMap WrittenOption.words

/-- What the options of a scan come to. Of two options of one kind the last one counts. -/
def settingsOf (options : List WrittenOption) : ScanOptions :=
  (options.map (·.setting)).foldl ScanSetting.apply ⟨.text, none⟩

section Scan

variable {before after : List WrittenOption} {target : String}

theorem readScan_words (beforePlain : ∀ option ∈ before, option.Plain)
    (afterPlain : ∀ option ∈ after, option.Plain) (noDash : target.toList.head? ≠ some '-') :
    readScan (before.flatMap WrittenOption.words ++ target :: after.flatMap WrittenOption.words) =
      .ok (.scan target (settingsOf (before ++ after)).format (settingsOf (before ++ after)).output,
        []) := by
  have afterTold : scanGrammar.classifyAll (after.flatMap WrittenOption.words) =
      .ok (after.flatMap formsOf) := by
    have none : scanGrammar.classifyAll [] = .ok [] := rfl
    simpa using classifyAll_options afterPlain none
  have targetTold : scanGrammar.classifyAll (target :: after.flatMap WrittenOption.words) =
      .ok (.plain target :: after.flatMap formsOf) := by
    simp [Grammar.classifyAll, ne_separator_of_not_dash noDash, Grammar.classify_of_not_dash noDash,
      afterTold, bind, Except.bind, pure, Except.pure]
  have told := classifyAll_options beforePlain targetTold
  have read : scanGrammar.readArguments
      (before.flatMap formsOf ++ .plain target :: after.flatMap formsOf) ⟨⟨.text, none⟩, [], []⟩ =
        .ok ⟨settingsOf (before ++ after), [target], []⟩ := by
    rw [readArguments_options beforePlain,
      Grammar.readArguments_operand rfl rfl target (head?_forms_ne_separator after)]
    have done := readArguments_options afterPlain []
    simp only [List.append_nil] at done
    rw [done]
    simp [Grammar.readArguments, settingsOf]
  have single : scanGrammar.operand = .single "path" := rfl
  simp [readScan, Grammar.read, told, read, single, Except.mapError, bind, Except.bind, pure,
    Except.pure]

/-- The arguments ask for the scan that they are to ask for. -/
theorem ofArguments_scan (beforePlain : ∀ option ∈ before, option.Plain)
    (afterPlain : ∀ option ∈ after, option.Plain) (noDash : target.toList.head? ≠ some '-') :
    ofArguments (scanArguments before target after) = .ok ⟨false, none, 0,
      some (.scan target (settingsOf (before ++ after)).format
        (settingsOf (before ++ after)).output)⟩ := by
  -- The program takes the command together with the words behind it, which only need to have forms.
  have following : ∀ word ∈ before.flatMap WrittenOption.words ++ target ::
      after.flatMap WrittenOption.words,
      word ≠ "--" ∧ ∃ argument, grammar.classify word = .ok argument := by
    intro word member
    simp only [List.mem_append, List.mem_cons, List.mem_flatMap] at member
    rcases member with ⟨option, optionMem, wordMem⟩ | rfl | ⟨option, optionMem, wordMem⟩
    · exact classify_word (beforePlain option optionMem) word wordMem
    · exact ⟨ne_separator_of_not_dash noDash, _, Grammar.classify_of_not_dash noDash⟩
    · exact classify_word (afterPlain option optionMem) word wordMem
  rcases Grammar.classifyAll_texts following with ⟨arguments, told, texts⟩
  have nameTold : grammar.classify scanName = .ok (.plain scanName) := rfl
  have allTold : grammar.classifyAll (scanArguments before target after) =
      .ok (.plain scanName :: arguments) := by
    have noSeparator : scanName ≠ "--" := by decide
    simp [scanArguments, Grammar.classifyAll, noSeparator, nameTold, told, bind, Except.bind, pure,
      Except.pure]
  have command : grammar.operand =
      .command "command" [scanName, dailyCheckName, setupName] := rfl
  have taken : grammar.readArguments (.plain scanName :: arguments) ⟨empty, [], []⟩ =
      .ok ⟨empty, scanArguments before target after, []⟩ := by
    rw [Grammar.readArguments_command command rfl, texts]
    rfl
  have read : grammar.read empty (scanArguments before target after) =
      .ok ⟨empty, scanArguments before target after, []⟩ := by
    simp [Grammar.read, allTold, taken, command, Except.mapError, bind, Except.bind, pure, Except.pure]
  have scanRead := readScan_words beforePlain afterPlain noDash
  simp only [ofArguments, read, Except.mapError, bind, Except.bind]
  simp only [scanArguments, List.cons_append, readCommand, if_true, scanRead]
  rfl

end Scan

end Request

end SkillScan
