import SkillScan.Proofs.FileTree.Canonical
import SkillScan.Proofs.Walk.Stops

/-!
# Paths to the entries of a directory

Where a path is followed to a directory, the path to an entry of the directory is followed to that entry.
Links on the way have used up some of those that may be followed, but an entry that is no link needs none.
All that can go wrong is that the directory may not be searched, or that the name of the entry or the path as
a whole is too long. These are also the only ways in which looking for anything fails: whatever else is wrong
with a path means that there is nothing.
-/

namespace SkillScan

namespace FileTree

/-- The faults with which following a path for its content may end. -/
def wayFaults : List Fault :=
  [.noEntry, .denied, .notDirectory, .linkLoop, .nameTooLong]

/-! ## Following more steps -/

section Follow

variable {root node : Node} {here location : Location} {steps : List String} {links : Nat}
  {viaLink : Location → List String → Except Fault Place}

/-- What a step does whatever steps come after it: it leads to another directory, it is handed over with the
target of a link, or it is the end of the way. -/
theorem passAlong_cons (root : Node) (viaLink : Location → List String → Except Fault Place)
    (here : Location) (step : String) :
    (∃ next, ∀ more, passAlong root .content viaLink here (step :: more) =
        passAlong root .content viaLink next more) ∨
      (∃ next target, ∀ more, passAlong root .content viaLink here (step :: more) =
        viaLink next (stepsOf target ++ more)) ∨
      ∀ more, passAlong root .content viaLink here (step :: more) = .ok (.vacant here step) ∨
        ∃ fault ∈ wayFaults, passAlong root .content viaLink here (step :: more) = .error fault := by
  by_cases isDirectory : ∃ entries access, root.find? here = some (.directory entries access)
  · rcases isDirectory with ⟨entries, access, present⟩
    by_cases refused : access.admits step = false
    · refine Or.inr (Or.inr fun more => Or.inr ⟨.denied, by decide, ?_⟩)
      simp [passAlong, present, refused]
    have admits := Bool.eq_true_of_not_eq_false refused
    by_cases stays : staysHere step = true
    · exact Or.inl ⟨here, fun more => by simp [passAlong, present, admits, stays]⟩
    by_cases up : step = ".."
    · subst up
      exact Or.inl ⟨here.dropLast, fun more => by simp [passAlong, present, admits, stays]⟩
    by_cases long : step.utf8ByteSize > maxNameBytes
    · refine Or.inr (Or.inr fun more => Or.inr ⟨.nameTooLong, by decide, ?_⟩)
      simp [passAlong, present, admits, stays, up, long]
    cases found : entries.find? step with
    | none =>
        -- A missing name is a vacant place only at the end of the way.
        refine Or.inr (Or.inr fun more => ?_)
        cases more with
        | nil => exact Or.inl (by simp [passAlong, present, admits, stays, up, long, found])
        | cons next more =>
            refine Or.inr ⟨.noEntry, by decide, ?_⟩
            simp [passAlong, present, admits, stays, up, long, found]
    | some child =>
        cases child with
        | file content mode access =>
            exact Or.inl ⟨here ++ [step], fun more => by
              simp [passAlong, present, admits, stays, up, long, found]⟩
        | directory inside access =>
            exact Or.inl ⟨here ++ [step], fun more => by
              simp [passAlong, present, admits, stays, up, long, found]⟩
        | link target =>
            refine Or.inr (Or.inl ⟨if isAnchored target then [] else here, target, fun more => ?_⟩)
            simp [passAlong, present, admits, stays, up, long, found]
  · refine Or.inr (Or.inr fun more => Or.inr ⟨.notDirectory, by decide, ?_⟩)
    simp only [passAlong]
    split
    · next entries access present => exact absurd ⟨entries, access, present⟩ isDirectory
    · rfl

theorem passAlong_append
    (level : follow root .content links = passAlong root .content viaLink)
    (throughLinks : ∀ {here steps}, viaLink here steps = .ok (.found location node) →
      ∃ remaining, ∀ more, viaLink here (steps ++ more) = follow root .content remaining location more)
    (led : passAlong root .content viaLink here steps = .ok (.found location node)) :
    ∃ remaining, ∀ more, passAlong root .content viaLink here (steps ++ more) =
      follow root .content remaining location more := by
  induction steps generalizing here with
  | nil =>
      simp only [passAlong] at led
      split at led
      · simp only [Except.ok.injEq, Place.found.injEq] at led
        rcases led with ⟨rfl, _⟩
        exact ⟨links, fun more => by rw [level, List.nil_append]⟩
      · simp at led
  | cons step rest ih =>
      rcases passAlong_cons root viaLink here step with
        ⟨next, passes⟩ | ⟨next, target, handsOver⟩ | ends
      · rw [passes] at led
        rcases ih led with ⟨remaining, further⟩
        exact ⟨remaining, fun more => by rw [List.cons_append, passes, further]⟩
      · rw [handsOver] at led
        rcases throughLinks led with ⟨remaining, further⟩
        exact ⟨remaining, fun more => by rw [List.cons_append, handsOver, ← List.append_assoc, further]⟩
      · rcases ends rest with vacant | ⟨fault, _, failed⟩
        · simp [vacant] at led
        · simp [failed] at led

/-- Steps that are followed to a place can be left out: from there on the other steps lead on, with as many
links as remain. -/
theorem follow_append (led : follow root .content links here steps = .ok (.found location node)) :
    ∃ remaining, ∀ more, follow root .content links here (steps ++ more) =
      follow root .content remaining location more := by
  induction links generalizing here steps with
  | zero =>
      -- With no links left, a link on the way would not have been passed.
      exact @passAlong_append _ _ _ _ _ 0 _ rfl (fun led => by simp at led) led
  | succ links ih => exact @passAlong_append _ _ _ _ _ (links + 1) _ rfl ih led

theorem mem_wayFaults_of_passAlong {fault : Fault}
    (throughLinks : ∀ {here steps}, viaLink here steps = .error fault → fault ∈ wayFaults)
    (failed : passAlong root .content viaLink here steps = .error fault) : fault ∈ wayFaults := by
  induction steps generalizing here with
  | nil =>
      simp only [passAlong] at failed
      split at failed
      · simp at failed
      · cases failed
        decide
  | cons step rest ih =>
      rcases passAlong_cons root viaLink here step with
        ⟨next, passes⟩ | ⟨next, target, handsOver⟩ | ends
      · exact ih (passes rest ▸ failed)
      · exact throughLinks (handsOver rest ▸ failed)
      · rcases ends rest with vacant | ⟨other, isWayFault, otherFailed⟩
        · simp [vacant] at failed
        · rw [otherFailed] at failed
          cases failed
          exact isWayFault

theorem mem_wayFaults_of_follow {fault : Fault}
    (failed : follow root .content links here steps = .error fault) : fault ∈ wayFaults := by
  induction links generalizing here steps with
  | zero =>
      refine mem_wayFaults_of_passAlong ?_ failed
      intro _ _ looped
      cases looped
      decide
  | succ links ih => exact mem_wayFaults_of_passAlong ih failed

section Name

variable {entries : Entries} {access : DirectoryAccess} {name : String}
  (present : root.find? location = some (.directory entries access)) (isName : IsEntryName name)
include present isName

theorem follow_denied (sealed : access.searchable = false) :
    follow root .content links location [name] = .error .denied := by
  have refused (viaLink : Location → List String → Except Fault Place) :
      passAlong root .content viaLink location [name] = .error .denied := by
    simp [passAlong, present, access.admits_eq_searchable isName.nonempty, sealed]
  cases links with
  | zero => exact refused _
  | succ links => exact refused _

variable (searchable : access.searchable = true)
include searchable

theorem follow_name (found : entries.find? name = some node) (noLink : ∀ target, node ≠ .link target) :
    follow root .content links location [name] =
      if name.utf8ByteSize > maxNameBytes then .error .nameTooLong
      else .ok (.found (location ++ [name]) node) := by
  have there : root.find? (location ++ [name]) = some node := by
    simp [Node.find?_append, present, found]
  have admits := admits_of_isEntryName isName searchable
  have passed (viaLink : Location → List String → Except Fault Place) :
      passAlong root .content viaLink location [name] =
        if name.utf8ByteSize > maxNameBytes then .error .nameTooLong
        else .ok (.found (location ++ [name]) node) := by
    cases node with
    | link target => exact absurd rfl (noLink target)
    | file content mode access =>
        simp [passAlong, present, admits, not_staysHere_of_isEntryName isName, isName.notUp, found, there]
    | directory inside access =>
        simp [passAlong, present, admits, not_staysHere_of_isEntryName isName, isName.notUp, found, there]
  cases links with
  | zero => exact passed _
  | succ links => exact passed _

theorem follow_long_name (long : name.utf8ByteSize > maxNameBytes) :
    follow root .content links location [name] = .error .nameTooLong := by
  have admits := admits_of_isEntryName isName searchable
  have refused (viaLink : Location → List String → Except Fault Place) :
      passAlong root .content viaLink location [name] = .error .nameTooLong := by
    simp [passAlong, present, admits, not_staysHere_of_isEntryName isName, isName.notUp, long]
  cases links with
  | zero => exact refused _
  | succ links => exact refused _

theorem follow_link {target : String} (found : entries.find? name = some (.link target))
    (fits : ¬name.utf8ByteSize > maxNameBytes) :
    follow root .content (links + 1) location [name] =
      follow root .content links (if isAnchored target then [] else location) (stepsOf target) := by
  have admits := admits_of_isEntryName isName searchable
  simp [follow, passAlong, present, admits, not_staysHere_of_isEntryName isName, isName.notUp, found, fits]

end Name

theorem follow_of_stay {step : String} {place : Place} (stays : staysHere step = true)
    (led : follow root .content links here (step :: steps) = .ok place) :
    follow root .content links here steps = .ok place := by
  have passed {viaLink : Location → List String → Except Fault Place}
      (led : passAlong root .content viaLink here (step :: steps) = .ok place) :
      passAlong root .content viaLink here steps = .ok place := by
    simp only [passAlong] at led
    split at led
    · split at led
      · simp at led
      · simpa only [stays, if_true] using led
    · simp at led
  cases links with
  | zero => exact passed led
  | succ links => exact passed led

end Follow

/-! ## Written paths -/

section Written

variable {tree : FileTree} {path : Path} {location : Location} {name : String} {node : Node}

/-- The slashes of the anchor ask for no steps. -/
theorem filter_splitAt_anchor (anchor : Anchor) (rest : List Char) :
    ((Text.splitAt '/' (anchor.text.toList ++ rest)).map String.ofList).filter (· != "") =
      ((Text.splitAt '/' rest).map String.ofList).filter (· != "") := by
  have one (rest : List Char) :
      ((Text.splitAt '/' ('/' :: rest)).map String.ofList).filter (· != "") =
        ((Text.splitAt '/' rest).map String.ofList).filter (· != "") := by
    rw [← List.nil_append ('/' :: rest), Text.splitAt_append_cons, Text.splitAt_nil]
    rfl
  cases anchor with
  | workingDirectory => rfl
  | root => exact one rest
  | doubleRoot => exact (one ('/' :: rest)).trans (one rest)

theorem stepsOf_text (normal : path.Normal) (named : path.names ≠ []) :
    stepsOf path.text = path.names := by
  have notHere : path ≠ ⟨.workingDirectory, []⟩ := fun same => named (by rw [same])
  have slash : "/".toList = ['/'] := rfl
  have noSlash : ∀ piece ∈ path.names.map String.toList, '/' ∉ piece := by
    intro piece member
    rcases List.mem_map.mp member with ⟨name, nameMem, rfl⟩
    exact (normal name nameMem).2.2
  have names :
      ((Text.splitAt '/' path.text.toList).map String.ofList).filter (· != "") = path.names := by
    rw [Path.text_eq_append notHere, String.toList_append, filter_splitAt_anchor,
      String.toList_intercalate, slash, Text.splitAt_intercalate noSlash (by simpa using named)]
    have readBack : (path.names.map String.toList).map String.ofList = path.names := by
      simp [Function.comp_def]
    rw [readBack, List.filter_eq_self]
    intro name member
    simpa using (normal name member).1
  have noSlashLast : path.text.toList.getLast? ≠ some '/' := by
    rw [Path.text_eq_append notHere, String.toList_append,
      List.getLast?_append_of_ne_nil _ (Path.toList_intercalate_ne_nil normal named)]
    exact Path.getLast?_intercalate_ne_slash normal
  simp only [stepsOf, names, noSlashLast, if_false]

theorem isAnchored_text (normal : path.Normal) :
    isAnchored path.text = (path.anchor != .workingDirectory) := by
  by_cases here : path = ⟨.workingDirectory, []⟩
  · rw [here]
    decide
  · rw [isAnchored, Path.text_eq_append here, String.toList_append]
    have noSlash := Path.head?_intercalate_ne_slash normal
    cases anchor : path.anchor with
    | workingDirectory => simpa [Anchor.text] using noSlash
    | root => rfl
    | doubleRoot => rfl

theorem origin_text (normal : path.Normal) :
    tree.origin path.text = if path.anchor = .workingDirectory then tree.workingDirectory else [] := by
  rw [origin, isAnchored_text normal]
  cases path.anchor <;> rfl

/-- A path is followed by its names, even where its text has other steps than these. -/
theorem follow_names {place : Place} (normal : path.Normal) {links : Nat} {here : Location}
    (led : follow tree.root .content links here (stepsOf path.text) = .ok place) :
    follow tree.root .content links here path.names = .ok place := by
  by_cases named : path.names = []
  · have stay : ∃ step, staysHere step = true ∧ stepsOf path.text = [step] := by
      rcases path with ⟨anchor, names⟩
      cases named
      cases anchor with
      | workingDirectory => exact ⟨".", by decide, by decide⟩
      | root => exact ⟨"", by decide, by decide⟩
      | doubleRoot => exact ⟨"", by decide, by decide⟩
    rcases stay with ⟨step, stays, steps⟩
    rw [steps] at led
    rw [named]
    exact follow_of_stay stays led
  · rwa [stepsOf_text normal named] at led

theorem noNul_text_child (normal : path.Normal) (isName : IsEntryName name)
    (noNul : '\x00' ∉ path.text.toList) : '\x00' ∉ (path.child name).text.toList := by
  have noNulNames : ∀ other ∈ path.names, '\x00' ∉ other.toList := by
    intro other member inName
    have notHere : path ≠ ⟨.workingDirectory, []⟩ := by
      rintro rfl
      simp at member
    rw [Path.text_eq_append notHere, String.toList_append, List.mem_append, not_or] at noNul
    exact noNul.2 (Path.mem_toList_intercalate member inName)
  rw [Path.child_eq (Path.isName_of_isEntryName isName), Path.text_eq_append (by simp),
    String.toList_append, List.mem_append, not_or]
  refine ⟨by cases path.anchor <;> decide, Path.not_mem_intercalate (by decide) ?_⟩
  intro other member
  rcases List.mem_append.mp member with member | member
  · exact noNulNames other member
  · rw [List.mem_singleton.mp member]
    exact isName.noNul

theorem noNul_of_place {purpose : Purpose} {text : String} {place : Place}
    (led : tree.place purpose text = .ok place) : '\x00' ∉ text.toList := by
  simp only [FileTree.place] at led
  split at led
  · simp at led
  · next noNul => simpa using noNul

theorem fits_of_place {purpose : Purpose} {text : String} {place : Place}
    (led : tree.place purpose text = .ok place) : text.utf8ByteSize < maxPathBytes := by
  simp only [FileTree.place] at led
  split at led
  · simp at led
  · split at led
    · simp at led
    · next fits => exact Nat.not_le.mp fits

/-! ## Paths that are barred -/

/-- Whether a path cannot be followed for a fault, whatever there is at its end: a directory on its way may not
be searched, or the path or a name on its way is too long. -/
structure Barred (tree : FileTree) (path : Path) (fault : Fault) : Prop where
  bars : fault = .denied ∨ fault = .nameTooLong
  failed : tree.lookup path.text = .error (.system fault (some path.text))

/-- Whether no fault bars a path. -/
def Passable (tree : FileTree) (path : Path) : Prop :=
  ∀ fault, ¬tree.Barred path fault

theorem isAbsence_or_bars_of_place {text : String} {error : FileError}
    (failed : tree.place .content text = .error error) :
    error.isAbsence = true ∨
      ∃ fault, (fault = .denied ∨ fault = .nameTooLong) ∧ error = .system fault (some text) := by
  simp only [place] at failed
  split at failed
  · cases failed
    exact Or.inl rfl
  · split at failed
    · cases failed
      exact Or.inr ⟨_, Or.inr rfl, rfl⟩
    · split at failed
      · simp at failed
      · next fault followed =>
          cases failed
          have isWayFault := mem_wayFaults_of_follow followed
          simp only [wayFaults, List.mem_cons, List.not_mem_nil, or_false] at isWayFault
          rcases isWayFault with rfl | rfl | rfl | rfl | rfl
          · exact Or.inl rfl
          · exact Or.inr ⟨_, Or.inl rfl, rfl⟩
          · exact Or.inl rfl
          · exact Or.inl rfl
          · exact Or.inr ⟨_, Or.inr rfl, rfl⟩

/-- A path that cannot be followed leads to nothing or is barred. -/
theorem isAbsence_or_barred_of_lookup {error : FileError} (failed : tree.lookup path.text = .error error) :
    error.isAbsence = true ∨
      ∃ fault, tree.Barred path fault ∧ error = .system fault (some path.text) := by
  have lookupFailed := failed
  simp only [lookup] at failed
  cases placed : tree.place .content path.text with
  | error other =>
      simp only [placed, bind, Except.bind] at failed
      cases failed
      rcases isAbsence_or_bars_of_place placed with absent | ⟨fault, bars, rfl⟩
      · exact Or.inl absent
      · exact Or.inr ⟨fault, ⟨bars, lookupFailed⟩, rfl⟩
  | ok place =>
      cases place with
      | found location node => simp [placed, bind, Except.bind] at failed
      | vacant parent name =>
          simp only [placed, bind, Except.bind] at failed
          cases failed
          exact Or.inl rfl

section Looking

variable {kind : Node → Bool} {fault : Fault}

/-- Looking for anything at a barred path fails. -/
theorem leadsTo_of_barred (barred : tree.Barred path fault) :
    tree.leadsTo kind path = .error (.system fault (some path.text)) := by
  rcases barred.bars with rfl | rfl <;> simp [leadsTo, barred.failed, FileError.isAbsence]

/-- A path at which looking gives an answer is not barred. -/
theorem passable_of_leadsTo {answer : Bool} (answered : tree.leadsTo kind path = .ok answer) :
    tree.Passable path := by
  intro fault barred
  rw [leadsTo_of_barred barred] at answered
  cases answered

theorem leadsTo_of_lookup (led : tree.lookup path.text = .ok (location, node)) :
    tree.leadsTo kind path = .ok (kind node) := by
  simp only [leadsTo, led]

theorem leadsTo_of_nowhere (passable : tree.Passable path)
    (nowhere : ∀ location node, kind node = true → tree.lookup path.text ≠ .ok (location, node)) :
    tree.leadsTo kind path = .ok false := by
  cases led : tree.lookup path.text with
  | ok found =>
      rcases found with ⟨location, node⟩
      rw [leadsTo_of_lookup led]
      cases isKind : kind node with
      | false => rfl
      | true => exact absurd led (nowhere location node isKind)
  | error error =>
      rcases isAbsence_or_barred_of_lookup led with absent | ⟨fault, barred, _⟩
      · simp [leadsTo, led, absent]
      · exact absurd barred (passable fault)

/-- Looking for anything at a path that is not barred gives an answer. -/
theorem exists_leadsTo (passable : tree.Passable path) : ∃ answer, tree.leadsTo kind path = .ok answer := by
  by_cases somewhere : ∃ location node, tree.lookup path.text = .ok (location, node)
  · rcases somewhere with ⟨location, node, led⟩
    exact ⟨_, leadsTo_of_lookup led⟩
  · refine ⟨false, leadsTo_of_nowhere passable ?_⟩
    intro location node _ led
    exact somewhere ⟨location, node, led⟩

theorem isDirectory_of_lookup (led : tree.lookup path.text = .ok (location, node)) :
    tree.isDirectory path = .ok node.isDirectory :=
  leadsTo_of_lookup led

theorem lookup_of_isDirectory (isDirectory : tree.isDirectory path = .ok true) :
    ∃ location entries access, tree.lookup path.text = .ok (location, .directory entries access) := by
  simp only [FileTree.isDirectory, leadsTo] at isDirectory
  split at isDirectory
  · next location node led =>
      cases node with
      | directory entries access => exact ⟨location, entries, access, led⟩
      | file content mode access => simp [Node.isDirectory] at isDirectory
      | link target => simp [Node.isDirectory] at isDirectory
  · split at isDirectory <;> simp at isDirectory

theorem isDirectory_of_not_lookup (passable : tree.Passable path)
    (nowhere : ∀ location entries access,
      tree.lookup path.text ≠ .ok (location, .directory entries access)) :
    tree.isDirectory path = .ok false := by
  apply leadsTo_of_nowhere passable
  intro location node isDirectory
  cases node with
  | directory entries access => exact nowhere location entries access
  | file content mode access => simp [Node.isDirectory] at isDirectory
  | link target => simp [Node.isDirectory] at isDirectory

end Looking

/-! ## Entries -/

section Entry

variable {entries : Entries} {access : DirectoryAccess} (normal : path.Normal)
  (led : tree.lookup path.text = .ok (location, .directory entries access)) (isName : IsEntryName name)
include normal led isName

/-- The path to an entry of a directory is followed from the directory on, by as many links as remain. -/
theorem lookup_child_of_follow (fits : (path.child name).text.utf8ByteSize < maxPathBytes) :
    ∃ links,
      (∀ there node, follow tree.root .content links location [name] = .ok (.found there node) →
        tree.lookup (path.child name).text = .ok (there, node)) ∧
      ∀ fault, follow tree.root .content links location [name] = .error fault →
        tree.lookup (path.child name).text = .error (.system fault (some (path.child name).text)) := by
  have placed := lookup_eq_ok_iff.mp led
  have child : path.child name = ⟨path.anchor, path.names ++ [name]⟩ :=
    Path.child_eq (Path.isName_of_isEntryName isName)
  have childNormal : (path.child name).Normal := by
    rw [child]
    exact normal.append (Path.isName_of_isEntryName isName)
  have sameOrigin : tree.origin (path.child name).text = tree.origin path.text := by
    rw [origin_text childNormal, origin_text normal, child]
  have steps : stepsOf (path.child name).text = path.names ++ [name] := by
    rw [stepsOf_text childNormal (by simp [child]), child]
  have noNul := noNul_text_child normal isName (noNul_of_place placed)
  have notLong := Nat.not_le.mpr fits
  -- How many links remain at the directory is not known.
  rcases follow_append (follow_names normal (follow_of_place placed)) with ⟨links, further⟩
  refine ⟨links, ?_, ?_⟩
  · intro there node followed
    simp [lookup, place, noNul, notLong, sameOrigin, steps, further, followed, bind, Except.bind]
  · intro fault followed
    simp [lookup, place, noNul, notLong, sameOrigin, steps, further, followed, bind, Except.bind]

theorem barred_child_of_long (long : maxPathBytes ≤ (path.child name).text.utf8ByteSize) :
    tree.Barred (path.child name) .nameTooLong := by
  have noNul := noNul_text_child normal isName (noNul_of_place (lookup_eq_ok_iff.mp led))
  exact ⟨Or.inr rfl, lookup_of_long noNul long⟩

/-- In a directory that may not be searched the paths to all entries are barred. -/
theorem barred_child_of_sealed (sealed : access.searchable = false) :
    ∃ fault, tree.Barred (path.child name) fault := by
  by_cases long : maxPathBytes ≤ (path.child name).text.utf8ByteSize
  · exact ⟨_, barred_child_of_long normal led isName long⟩
  · rcases lookup_child_of_follow normal led isName (Nat.not_le.mp long) with ⟨links, _, failing⟩
    exact ⟨.denied, Or.inl rfl, failing _ (follow_denied (find?_of_lookup led) isName sealed)⟩

/-- The path to an entry of a directory leads to the entry unless it is barred. -/
theorem lookup_child (found : entries.find? name = some node) (noLink : ∀ target, node ≠ .link target)
    (passable : tree.Passable (path.child name)) :
    tree.lookup (path.child name).text = .ok (location ++ [name], node) := by
  have fits : (path.child name).text.utf8ByteSize < maxPathBytes := by
    by_contra long
    exact passable _ (barred_child_of_long normal led isName (Nat.not_lt.mp long))
  have searchable : access.searchable = true := by
    rw [← Bool.not_eq_false]
    intro sealed
    rcases barred_child_of_sealed normal led isName sealed with ⟨fault, barred⟩
    exact passable fault barred
  rcases lookup_child_of_follow normal led isName fits with ⟨links, leading, failing⟩
  have followed := @follow_name _ _ _ links _ _ _ (find?_of_lookup led) isName searchable found noLink
  split at followed
  · exact absurd ⟨Or.inr rfl, failing _ followed⟩ (passable .nameTooLong)
  · exact leading _ _ followed

/-- Looking for a directory at the path to an entry tells what the entry looks like. -/
theorem isDirectory_child (found : entries.find? name = some node)
    (passable : tree.Passable (path.child name)) :
    tree.isDirectory (path.child name) =
      .ok (Walk.looksLikeDirectory tree (path.child name).text node) := by
  cases node with
  | file content mode fileAccess =>
      exact isDirectory_of_lookup (lookup_child normal led isName found (by simp) passable)
  | directory inside insideAccess =>
      exact isDirectory_of_lookup (lookup_child normal led isName found (by simp) passable)
  | link target =>
      simp only [Walk.looksLikeDirectory]
      split
      · next ledThere => exact isDirectory_of_lookup ledThere
      · next nowhere =>
          apply isDirectory_of_not_lookup passable
          intro there inside insideAccess ledThere
          exact nowhere there inside insideAccess ledThere

end Entry

theorem list_of_lookup {entries : Entries} {access : DirectoryAccess}
    (led : tree.lookup path.text = .ok (location, .directory entries access)) :
    tree.list path.text =
      match access.listing with
      | .granted => .ok entries
      | .refused named => .error (refusal path.text named) := by
  cases permitted : access.listing with
  | granted => simp [list, led, permitted, bind, Except.bind]
  | refused named => simp [list, led, permitted, bind, Except.bind]

end Written

end FileTree

end SkillScan

