import SkillScan.Proofs.PropertyList.Characters
import SkillScan.Proofs.Text.Encoding

/-!
# Property lists, written and read back

What is read from the document of a value is the value itself, with the line ends of its texts unified, if all
characters of its texts may stand in a document, and else nothing. This is shown for the lines of a value, whatever
elements are open where they begin, by induction on the value.
-/

namespace SkillScan.PropertyList

/-- A text with its line ends unified. -/
def unifiedText (text : String) : String :=
  String.ofList (Text.unifyNewlines text.toList)

theorem unifiedText_of_noReturn {text : String} (noReturn : '\r' ∉ text.toList) : unifiedText text = text := by
  rw [unifiedText, Text.unifyNewlines_of_noReturn noReturn, String.ofList_toList]

mutual

/-- A value with the line ends of its texts unified. -/
def unified : PropertyList → PropertyList
  | .text value => .text (unifiedText value)
  | .integer value => .integer value
  | .array items => .array (unifiedItems items)
  | .dictionary fields => .dictionary (unifiedFields fields)

/-- The items of an array with the line ends of their texts unified. -/
def unifiedItems : List PropertyList → List PropertyList
  | [] => []
  | item :: rest => unified item :: unifiedItems rest

/-- The fields of a dictionary with the line ends of their texts unified. -/
def unifiedFields : List (String × PropertyList) → List (String × PropertyList)
  | [] => []
  | (name, value) :: rest => (unifiedText name, unified value) :: unifiedFields rest

end

section Values

theorem reads_of_escaped {text content : String} (written : escaped text = .ok content) :
    '<' ∉ content.toList ∧ unescape? (Text.unifyNewlines content.toList) = some (unifiedText text).toList := by
  rw [escaped] at written
  split at written
  · cases written
  · cases written
    rw [String.toList_ofList, unifiedText, String.toList_ofList]
    constructor
    · intro member
      rcases List.mem_flatMap.mp member with ⟨char, _, inEscaped⟩
      exact (mem_escapedChar inEscaped).1 rfl
    · have noReturn : '\r' ∉ (Text.unifyNewlines text.toList).flatMap escapedChar := by
        intro member
        rcases List.mem_flatMap.mp member with ⟨char, inText, inEscaped⟩
        rw [(mem_escapedChar inEscaped).2 rfl] at inText
        exact Text.noReturn_unifyNewlines text.toList inText
      rw [Text.unifyNewlines_of_noReturn noReturn, unescape?_flatMap]

theorem reads_of_writtenInteger {value : Int} {content : String} (written : writtenInteger value = .ok content) :
    '<' ∉ content.toList ∧
      ∃ chars, unescape? (Text.unifyNewlines content.toList) = some chars ∧ Text.integer? chars = some value := by
  rw [writtenInteger] at written
  split at written
  · cases written
    refine ⟨Text.not_mem_toString_int (by decide) (by decide), (toString value).toList, ?_, Text.integer?_toString value⟩
    rw [Text.unifyNewlines_of_noReturn (Text.not_mem_toString_int (by decide) (by decide)),
      unescape?_of_noEntity (Text.not_mem_toString_int (by decide) (by decide))]
  · cases written

mutual

/-- Reading the lines of a value puts the value into the innermost open element. -/
theorem run_lines (level : Nat) (value : PropertyList) {written : List String}
    (writes : lines level value = .ok written) (elements : List OpenElement) (before : List Char) :
    Reader.run ⟨elements, before, none⟩ (charsOf written) =
      (put? (unified value) elements).map (⟨·, ['\n'], none⟩) := by
  cases value with
  | text value =>
      rw [lines] at writes
      rcases exists_of_bind writes with ⟨content, contentWritten, same⟩
      rcases reads_of_escaped contentWritten with ⟨noBracket, reads⟩
      cases same
      rw [run_element (by decide) noBracket]
      simp [begin?, close?, reads, unified]
  | integer value =>
      rw [lines] at writes
      rcases exists_of_bind writes with ⟨content, contentWritten, same⟩
      rcases reads_of_writtenInteger contentWritten with ⟨noBracket, chars, reads, isNumber⟩
      cases same
      rw [run_element (by decide) noBracket]
      simp [begin?, close?, reads, isNumber, unified]
  | array items =>
      rw [lines] at writes
      rcases exists_of_bind writes with ⟨inner, innerWritten, same⟩
      cases same
      have holds (before : List Char) := run_itemLines (level + 1) items innerWritten [] elements before
      rw [run_enclosing (by decide) rfl holds (fun _ => rfl)]
      rfl
  | dictionary fields =>
      rw [lines] at writes
      rcases exists_of_bind writes with ⟨inner, innerWritten, same⟩
      cases same
      have holds (before : List Char) := run_fieldLines (level + 1) fields innerWritten [] elements before
      rw [run_enclosing (by decide) rfl holds (fun _ => rfl)]
      rfl

theorem run_itemLines (level : Nat) (items : List PropertyList) {written : List String}
    (writes : itemLines level items = .ok written) (read : List PropertyList) (outer : List OpenElement)
    (before : List Char) :
    ∃ later, Reader.run ⟨.array read :: outer, before, none⟩ (charsOf written) =
      some ⟨.array (read ++ unifiedItems items) :: outer, later, none⟩ := by
  cases items with
  | nil =>
      cases writes
      exact ⟨before, by simp [charsOf, Reader.run, unifiedItems]⟩
  | cons item rest =>
      rw [itemLines] at writes
      rcases exists_of_bind writes with ⟨first, firstWritten, restWrites⟩
      rcases exists_of_bind restWrites with ⟨further, furtherWritten, same⟩
      cases same
      rcases run_itemLines level rest furtherWritten (read ++ [unified item]) outer ['\n'] with ⟨later, reads⟩
      refine ⟨later, ?_⟩
      rw [charsOf_append, run_append, run_lines level item firstWritten, put?, Option.map_some, Option.bind_some,
        reads, unifiedItems, List.append_assoc, List.singleton_append]

theorem run_fieldLines (level : Nat) (fields : List (String × PropertyList)) {written : List String}
    (writes : fieldLines level fields = .ok written) (read : List (String × PropertyList))
    (outer : List OpenElement) (before : List Char) :
    ∃ later, Reader.run ⟨.dictionary read none :: outer, before, none⟩ (charsOf written) =
      some ⟨.dictionary (read ++ unifiedFields fields) none :: outer, later, none⟩ := by
  cases fields with
  | nil =>
      cases writes
      exact ⟨before, by simp [charsOf, Reader.run, unifiedFields]⟩
  | cons field rest =>
      rcases field with ⟨name, value⟩
      rw [fieldLines] at writes
      rcases exists_of_bind writes with ⟨key, keyWritten, afterKey⟩
      rcases exists_of_bind afterKey with ⟨first, firstWritten, restWrites⟩
      rcases exists_of_bind restWrites with ⟨further, furtherWritten, same⟩
      cases same
      rcases reads_of_escaped keyWritten with ⟨noBracket, keyReads⟩
      rcases run_fieldLines level rest furtherWritten (read ++ [(unifiedText name, unified value)]) outer ['\n']
        with ⟨later, reads⟩
      have keyRun : Reader.run ⟨.dictionary read none :: outer, before, none⟩ (charsOf [element level "key" key]) =
          some ⟨.dictionary read (some (unifiedText name)) :: outer, ['\n'], none⟩ := by
        rw [run_element (by decide) noBracket]
        simp [begin?, close?, putKey?, keyReads]
      refine ⟨later, ?_⟩
      rw [charsOf_append, charsOf_cons, List.append_assoc, run_append, keyRun, Option.bind_some, run_append,
        run_lines level value firstWritten, put?, Option.map_some, Option.bind_some, reads, unifiedFields,
        List.append_assoc, List.singleton_append]

end

/-- Reading the document of a value gives the value, with the line ends of its texts unified, if the characters of
its texts may stand in a document. Otherwise the document is not read. -/
theorem read?_document {value : PropertyList} {text : String} (written : document value = .ok text) :
    read? (Text.encode text) = if AllStand value.texts then some (unified value) else none := by
  rw [document] at written
  rcases exists_of_bind written with ⟨inner, innerWritten, same⟩
  cases same
  have chars : (String.join ((opening ++ inner ++ ["</plist>"]).map (· ++ "\n"))).toList =
      charsOf (opening ++ inner ++ ["</plist>"]) := by
    simp [String.toList_join, charsOf, List.flatMap_map]
  have ends : Reader.run ⟨[.plist (some (unified value)), .root none], ['\n'], none⟩ (charsOf ["</plist>"]) =
      some ⟨[.root (some (unified value))], ['\n'], none⟩ := by
    rfl
  have whole : Reader.run ⟨[.root none], [], none⟩ (charsOf (opening ++ inner ++ ["</plist>"])) =
      some ⟨[.root (some (unified value))], ['\n'], none⟩ := by
    rw [charsOf_append, charsOf_append, List.append_assoc, run_append, run_opening, Option.bind_some, run_append,
      run_lines 0 value innerWritten, put?, Option.map_some, Option.bind_some, ends]
  have frame : AllStand opening ∧ AllStand ["</plist>"] := by decide +kernel
  have stand : (charsOf (opening ++ inner ++ ["</plist>"])).all mayStand = true ↔ AllStand value.texts := by
    rw [all_mayStand_charsOf_iff, allStand_append_iff, allStand_append_iff, allStand_lines_iff 0 value innerWritten]
    simp only [frame, true_and, and_true]
  simp only [read?, Text.decodeStrict_encode, chars, whole, stand]

end Values

end SkillScan.PropertyList
