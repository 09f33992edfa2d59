import Mathlib.Data.List.Basic
import Mathlib.Data.List.TakeWhile
import SkillScan.Path
import SkillScan.Walk
import SkillScan.Proofs.FileTree.WellFormed
import SkillScan.Proofs.Text.Separation

/-!
# The normal form of paths

Reading a text as a path leaves out empty names and dots, and what is left is written and read back
without change. Leading on from the text of a directory by the name of an entry therefore leads on from
the path of the directory by that name, however the directory was written: with slashes at the end, from
the root or from the working directory. This ties the texts that a walk puts together to the paths that
it reports.
-/

namespace SkillScan

namespace Path

/-- A name that stays when a path is written and read back. -/
def IsName (name : String) : Prop :=
  name ≠ "" ∧ name ≠ "." ∧ '/' ∉ name.toList

theorem isName_of_isEntryName {name : String} (isName : IsEntryName name) : IsName name :=
  ⟨isName.nonempty, isName.notHere, isName.noSlash⟩

/-- A path that is the reading of some text. -/
def Normal (path : Path) : Prop :=
  ∀ name ∈ path.names, IsName name

/-! ## Reading names -/

theorem isName_of_mem_namesOf {text : List Char} {name : String} (member : name ∈ namesOf text) :
    IsName name := by
  simp only [namesOf, List.mem_filter, List.mem_map, Bool.and_eq_true, bne_iff_ne] at member
  rcases member with ⟨⟨piece, pieceMem, rfl⟩, nonempty, notHere⟩
  refine ⟨nonempty, notHere, ?_⟩
  rw [String.toList_ofList]
  exact Text.not_mem_of_mem_splitAt pieceMem

theorem normal_ofText (text : String) : (ofText text).Normal := by
  intro name member
  exact isName_of_mem_namesOf member

theorem namesOf_append_slash (first second : List Char) :
    namesOf (first ++ '/' :: second) = namesOf first ++ namesOf second := by
  simp only [namesOf, Text.splitAt_append_cons, List.map_append, List.filter_append]

@[simp]
theorem namesOf_nil : namesOf [] = [] := by
  simp [namesOf, Text.splitAt_nil]

theorem namesOf_slash_cons (text : List Char) : namesOf ('/' :: text) = namesOf text := by
  simpa using namesOf_append_slash [] text

theorem namesOf_name {name : String} (isName : IsName name) : namesOf name.toList = [name] := by
  rcases isName with ⟨nonempty, notHere, noSlash⟩
  simp [namesOf, Text.splitAt_of_not_mem noSlash, nonempty, notHere]

theorem namesOf_intercalate {names : List String} (areNames : ∀ name ∈ names, IsName name) :
    namesOf ("/".intercalate names).toList = names := by
  cases names with
  | nil => simp
  | cons name names =>
      have slash : "/".toList = ['/'] := rfl
      rw [String.toList_intercalate, slash]
      have noSlash : ∀ piece ∈ (name :: names).map String.toList, '/' ∉ piece := by
        intro piece member
        rcases List.mem_map.mp member with ⟨other, otherMem, rfl⟩
        exact (areNames other otherMem).2.2
      rw [namesOf, Text.splitAt_intercalate noSlash (by simp)]
      have readBack : ((name :: names).map String.toList).map String.ofList = name :: names := by
        simp [Function.comp_def]
      rw [readBack, List.filter_eq_self]
      intro other otherMem
      have isName := areNames other otherMem
      simp [isName.1, isName.2.1]

/-! ## Reading the anchor -/

/-- What follows a text does not change its anchor, unless the text consists of slashes and another
slash follows. -/
theorem anchorOf_append {first rest : List Char}
    (parted : first.takeWhile (· == '/') = first → rest.head? ≠ some '/') :
    anchorOf (first ++ rest) = anchorOf first := by
  have leading :
      (first ++ rest).takeWhile (· == '/') = first.takeWhile (· == '/') := by
    rw [List.takeWhile_append]
    split
    · next allLength =>
        have all : first.takeWhile (· == '/') = first :=
          (List.takeWhile_prefix _).eq_of_length allLength
        rw [all]
        cases rest with
        | nil => simp
        | cons char rest =>
            have notSlash : char ≠ '/' := by simpa using parted all
            simp [notSlash]
    · rfl
  simp only [anchorOf, leading]

theorem head?_ne_slash {name : String} (isName : IsName name) : name.toList.head? ≠ some '/' := by
  intro head
  exact isName.2.2 (List.mem_of_head? head)

/-- The written anchor is read as itself if no slash follows. -/
theorem anchorOf_text_append (anchor : Anchor) {rest : List Char} (noSlash : rest.head? ≠ some '/') :
    anchorOf (anchor.text.toList ++ rest) = anchor := by
  rw [anchorOf_append (fun _ => noSlash)]
  cases anchor <;> rfl

theorem namesOf_anchor_append (anchor : Anchor) (rest : List Char) :
    namesOf (anchor.text.toList ++ rest) = namesOf rest := by
  cases anchor with
  | workingDirectory => rfl
  | root => exact namesOf_slash_cons rest
  | doubleRoot => exact (namesOf_slash_cons ('/' :: rest)).trans (namesOf_slash_cons rest)

/-! ## Writing and reading back -/

theorem head?_intercalate_ne_slash {names : List String} (areNames : ∀ name ∈ names, IsName name) :
    ("/".intercalate names).toList.head? ≠ some '/' := by
  cases names with
  | nil => simp
  | cons name names =>
      have isName := areNames name (by simp)
      have nonempty : name.toList ≠ [] := by simpa using isName.1
      have beginning : ("/".intercalate (name :: names)).toList.head? = name.toList.head? := by
        cases names with
        | nil => simp
        | cons next names =>
            rcases List.exists_cons_of_ne_nil nonempty with ⟨char, chars, split⟩
            simp [split]
      rw [beginning]
      exact head?_ne_slash isName

theorem toList_intercalate_ne_nil {names : List String} (areNames : ∀ name ∈ names, IsName name)
    (nonempty : names ≠ []) : ("/".intercalate names).toList ≠ [] := by
  intro empty
  have readBack := namesOf_intercalate areNames
  rw [empty] at readBack
  exact nonempty (readBack.symm.trans namesOf_nil)

theorem getLast?_intercalate_ne_slash {names : List String} (areNames : ∀ name ∈ names, IsName name) :
    ("/".intercalate names).toList.getLast? ≠ some '/' := by
  induction names with
  | nil => simp
  | cons name names ih =>
      have isName := areNames name (by simp)
      cases names with
      | nil =>
          rw [String.intercalate_singleton]
          intro last
          exact isName.2.2 (List.mem_of_getLast? last)
      | cons next names =>
          have others := ih fun later member => areNames later (List.mem_cons_of_mem name member)
          have nonempty := toList_intercalate_ne_nil
            (fun later member => areNames later (List.mem_cons_of_mem name member))
            (List.cons_ne_nil next names)
          rw [String.intercalate_cons_cons, String.toList_append,
            List.getLast?_append_of_ne_nil _ nonempty]
          exact others

theorem text_eq_append {path : Path} (notHere : path ≠ ⟨.workingDirectory, []⟩) :
    path.text = path.anchor.text ++ "/".intercalate path.names := by
  rcases path with ⟨anchor, names⟩
  cases anchor with
  | workingDirectory =>
      cases names with
      | nil => exact absurd rfl notHere
      | cons name names => rfl
  | root => rfl
  | doubleRoot => rfl

/-- A path in normal form is read back from its text. -/
theorem ofText_text {path : Path} (normal : path.Normal) : ofText path.text = path := by
  by_cases here : path = ⟨.workingDirectory, []⟩
  · rw [here]
    rfl
  · rw [text_eq_append here]
    simp only [ofText, String.toList_append]
    rw [anchorOf_text_append path.anchor (head?_intercalate_ne_slash normal),
      namesOf_anchor_append, namesOf_intercalate normal]

theorem text_ne_empty {path : Path} (normal : path.Normal) : path.text ≠ "" := by
  intro empty
  have readBack := ofText_text normal
  rw [empty] at readBack
  rw [← readBack] at empty
  exact absurd empty (by decide)

/-- Leading on from the text of a directory is leading on from its path. -/
theorem ofText_extend {base name : String} (nonempty : base ≠ "") (isName : IsName name) :
    ofText (Walk.extend base name) = ⟨(ofText base).anchor, (ofText base).names ++ [name]⟩ := by
  simp only [Walk.extend]
  split
  · next endsInSlash =>
      rcases List.getLast?_eq_some_iff.mp endsInSlash with ⟨front, split⟩
      simp only [ofText, String.toList_append]
      rw [anchorOf_append (fun _ => head?_ne_slash isName), split, List.append_assoc,
        List.singleton_append, namesOf_append_slash, namesOf_append_slash, namesOf_nil,
        namesOf_name isName, List.append_nil]
  · next endsOtherwise =>
      have parted : base.toList.takeWhile (· == '/') = base.toList →
          ('/' :: name.toList).head? ≠ some '/' := by
        intro all
        have charsNonempty : base.toList ≠ [] := by simpa using nonempty
        have lastMem : base.toList.getLast charsNonempty ∈ base.toList.takeWhile (· == '/') := by
          rw [all]
          exact List.getLast_mem charsNonempty
        have lastSlash : base.toList.getLast charsNonempty = '/' := by
          simpa using List.mem_takeWhile_imp lastMem
        exact absurd (lastSlash ▸ List.getLast?_eq_some_getLast charsNonempty) endsOtherwise
      have slash : "/".toList = ['/'] := rfl
      simp only [ofText, String.toList_append, slash, List.append_assoc, List.singleton_append]
      rw [anchorOf_append parted, namesOf_append_slash, namesOf_name isName]

theorem text_name (name : String) : (⟨.workingDirectory, [name]⟩ : Path).text = name := by
  simp [text, Anchor.text]

theorem ofText_name {name : String} (isName : IsName name) :
    ofText name = ⟨.workingDirectory, [name]⟩ := by
  have normal : Path.Normal ⟨.workingDirectory, [name]⟩ := by
    intro other member
    exact List.mem_singleton.mp member ▸ isName
  have readBack := ofText_text normal
  rwa [text_name] at readBack

theorem child_eq {path : Path} {name : String} (isName : IsName name) :
    path.child name = ⟨path.anchor, path.names ++ [name]⟩ := by
  simp only [child, ofText_name isName, join]

theorem text_child {path : Path} {name : String} (isName : IsName name) :
    (path.child name).text = path.anchor.text ++ "/".intercalate (path.names ++ [name]) := by
  rw [child_eq isName, text_eq_append (by simp)]

theorem intercalate_append_singleton {names : List String} (named : names ≠ []) (name : String) :
    "/".intercalate (names ++ [name]) = "/".intercalate names ++ "/" ++ name := by
  induction names with
  | nil => contradiction
  | cons first names ih =>
      cases names with
      | nil => simp [String.intercalate_cons_cons]
      | cons second names =>
          have further := ih (by simp)
          rw [List.cons_append, List.cons_append, String.intercalate_cons_cons, ← List.cons_append, further,
            String.intercalate_cons_cons]
          simp only [String.append_assoc]

theorem extend_ne_empty {base name : String} (nonempty : base ≠ "") : Walk.extend base name ≠ "" := by
  simp only [Walk.extend]
  split <;> simp [nonempty]

/-! ## Characters and bytes of texts -/

/-- Joined names have a byte for every name and one for every slash between them. -/
theorem le_utf8ByteSize_intercalate {names : List String} (nonempty : ∀ name ∈ names, name ≠ "") :
    2 * names.length ≤ ("/".intercalate names).utf8ByteSize + 1 := by
  induction names with
  | nil => simp
  | cons name names ih =>
      have rest := ih (fun later member => nonempty later (List.mem_cons_of_mem name member))
      have here : name.utf8ByteSize ≠ 0 := by
        rw [ne_eq, String.utf8ByteSize_eq_zero_iff]
        exact nonempty name (by simp)
      cases names with
      | nil =>
          simp only [String.intercalate_singleton, List.length_singleton]
          omega
      | cons next names =>
          have slash : "/".utf8ByteSize = 1 := by decide
          simp only [String.intercalate_cons_cons, String.utf8ByteSize_append, slash,
            List.length_cons] at rest ⊢
          omega

theorem mem_toList_intercalate {char : Char} {name : String} {names : List String}
    (member : name ∈ names) (inName : char ∈ name.toList) : char ∈ ("/".intercalate names).toList := by
  induction names with
  | nil => simp at member
  | cons other names ih =>
      cases names with
      | nil =>
          rw [List.mem_singleton.mp member] at inName
          simpa using inName
      | cons next names =>
          rw [String.intercalate_cons_cons, String.toList_append, String.toList_append, List.mem_append,
            List.mem_append]
          rcases List.mem_cons.mp member with rfl | later
          · exact Or.inl (Or.inl inName)
          · exact Or.inr (ih later)

theorem not_mem_intercalate {char : Char} {names : List String} (noSlash : char ≠ '/')
    (absent : ∀ name ∈ names, char ∉ name.toList) : char ∉ ("/".intercalate names).toList := by
  induction names with
  | nil => simp
  | cons name names ih =>
      have rest := ih (fun later member => absent later (List.mem_cons_of_mem name member))
      have here := absent name (by simp)
      cases names with
      | nil => simpa using here
      | cons next names =>
          have slash : "/".toList = ['/'] := rfl
          rw [String.intercalate_cons_cons]
          simp only [String.toList_append, slash, List.mem_append, List.mem_singleton, not_or]
          exact ⟨⟨here, noSlash⟩, rest⟩

theorem mem_toList_text_child {path : Path} {name : String} (isName : IsName name) {char : Char}
    (member : char ∈ (path.child name).text.toList) :
    char ∈ path.text.toList ∨ char = '/' ∨ char ∈ name.toList := by
  have slash : "/".toList = ['/'] := rfl
  have inAnchor (inText : char ∈ path.anchor.text.toList) : char = '/' := by
    cases anchor : path.anchor <;> simp_all [Anchor.text]
  rw [text_child isName] at member
  by_cases named : path.names = []
  · rw [named, List.nil_append, String.intercalate_singleton, String.toList_append, List.mem_append] at member
    exact Or.inr (member.imp_left inAnchor)
  · have notHere : path ≠ ⟨.workingDirectory, []⟩ := fun same => named (by rw [same])
    rw [intercalate_append_singleton named] at member
    simp only [String.toList_append, slash, List.mem_append, List.mem_singleton] at member
    rw [text_eq_append notHere, String.toList_append, List.mem_append]
    rcases member with early | (early | atSlash) | inName
    · exact Or.inl (Or.inl early)
    · exact Or.inl (Or.inr early)
    · exact Or.inr (Or.inl atSlash)
    · exact Or.inr (Or.inr inName)

/-- The dot that stands for the working directory goes once a name is added; all else stays. -/
theorem mem_toList_text_child_of_mem {path : Path} {name : String} (isName : IsName name) {char : Char}
    (noDot : char ≠ '.') (member : char ∈ path.text.toList) : char ∈ (path.child name).text.toList := by
  have notHere : path ≠ ⟨.workingDirectory, []⟩ := by
    rintro rfl
    exact noDot (List.mem_singleton.mp member)
  rw [text_eq_append notHere, String.toList_append, List.mem_append] at member
  rw [text_child isName, String.toList_append, List.mem_append]
  rcases member with inAnchor | inNames
  · exact Or.inl inAnchor
  · have named : path.names ≠ [] := by
      intro unnamed
      simp [unnamed] at inNames
    rw [intercalate_append_singleton named]
    simp only [String.toList_append, List.mem_append]
    exact Or.inr (Or.inl (Or.inl inNames))

end Path

end SkillScan
