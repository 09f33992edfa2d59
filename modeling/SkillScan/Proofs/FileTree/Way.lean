import SkillScan.Proofs.FileTree.Descent
import SkillScan.Proofs.FileTree.Growth

/-!
# Ways through trees without links

Without links a path is followed name by name, whatever it is followed for. A way is the course that it takes:
through directories that may be searched, to something that is there or to a name that a directory does not have.
In a tree that has grown, the same steps lead to the same location.
-/

namespace SkillScan

/-- The location that a path leads to, whether or not there is anything. -/
def Place.location : Place → Location
  | .found location _ => location
  | .vacant parent name => parent ++ [name]

/-- Whether a tree has what a place says of it. -/
def Place.IsIn (root : Node) : Place → Prop
  | .found location node => root.find? location = some node
  | .vacant parent name => ∃ entries access, root.find? parent = some (.directory entries access) ∧
      entries.find? name = none

namespace FileTree

/-- A step that asks for an entry of the directory, by a name that is not too long. -/
structure IsEntryStep (step : String) : Prop where
  leaves : staysHere step = false
  notUp : step ≠ ".."
  fits : step.utf8ByteSize ≤ maxNameBytes

/-- Where steps lead from a directory. -/
inductive Way (root : Node) : Location → List String → Place → Prop where
  | arrived {here : Location} {node : Node} (present : root.find? here = some node) :
      Way root here [] (.found here node)
  | stay {here : Location} {entries : Entries} {access : DirectoryAccess} {step : String} {rest : List String}
      {place : Place} (present : root.find? here = some (.directory entries access))
      (admits : access.admits step = true) (stays : staysHere step = true)
      (further : Way root here rest place) :
      Way root here (step :: rest) place
  | up {here : Location} {entries : Entries} {access : DirectoryAccess} {rest : List String} {place : Place}
      (present : root.find? here = some (.directory entries access)) (admits : access.admits ".." = true)
      (further : Way root here.dropLast rest place) : Way root here (".." :: rest) place
  | enter {here : Location} {entries : Entries} {access : DirectoryAccess} {step : String} {child : Node}
      {rest : List String} {place : Place}
      (present : root.find? here = some (.directory entries access))
      (admits : access.admits step = true) (isEntry : IsEntryStep step)
      (found : entries.find? step = some child) (further : Way root (here ++ [step]) rest place) :
      Way root here (step :: rest) place
  | missing {here : Location} {entries : Entries} {access : DirectoryAccess} {step : String}
      (present : root.find? here = some (.directory entries access))
      (admits : access.admits step = true) (isEntry : IsEntryStep step)
      (absent : entries.find? step = none) : Way root here [step] (.vacant here step)

section Way

variable {tree : FileTree} {root : Node} {purpose : Purpose} {here : Location} {steps : List String}
  {place : Place} {viaLink : Location → List String → Except Fault Place}

theorem find?_entry_of_find? {entries : Entries} {access : DirectoryAccess}
    (present : root.find? here = some (.directory entries access)) (name : String) :
    root.find? (here ++ [name]) = entries.find? name := by
  simp [Node.find?_append, present]

/-- All that the first step of a way that is followed to its end can do. -/
theorem exists_of_passAlong_cons {step : String} {rest : List String}
    (led : passAlong root purpose viaLink here (step :: rest) = .ok place) :
    ∃ entries access, root.find? here = some (.directory entries access) ∧
      access.admits step = true ∧
      (staysHere step = true ∧ passAlong root purpose viaLink here rest = .ok place ∨
        step = ".." ∧ passAlong root purpose viaLink here.dropLast rest = .ok place ∨
        IsEntryStep step ∧
          (entries.find? step = none ∧ rest = [] ∧ place = .vacant here step ∨
            (∃ target, entries.find? step = some (.link target) ∧
              (purpose = .entry ∧ place = .found (here ++ [step]) (.link target) ∨
                viaLink (if isAnchored target then [] else here) (stepsOf target ++ rest) = .ok place)) ∨
            ∃ child, entries.find? step = some child ∧ (∀ target, child ≠ .link target) ∧
              passAlong root purpose viaLink (here ++ [step]) rest = .ok place)) := by
  simp only [passAlong] at led
  split at led
  · next entries access present =>
      split at led
      · simp at led
      · next admits =>
          refine ⟨entries, access, present, by simpa using admits, ?_⟩
          split at led
          · next stays => exact Or.inl ⟨stays, led⟩
          · next leaves =>
              right
              split at led
              · next up => exact Or.inl ⟨up, led⟩
              · next notUp =>
                  right
                  split at led
                  · simp at led
                  · split at led
                    · simp at led
                    · next fits =>
                        refine ⟨⟨by simpa using leaves, notUp, Nat.not_lt.mp fits⟩, ?_⟩
                        split at led
                        · next absent =>
                            split at led
                            · next last =>
                                cases led
                                exact Or.inl ⟨absent, List.isEmpty_iff.mp last, rfl⟩
                            · simp at led
                        · next target found =>
                            refine Or.inr (Or.inl ⟨target, found, ?_⟩)
                            split at led
                            · next meant =>
                                cases led
                                exact Or.inl ⟨of_decide_eq_true (Bool.and_eq_true_iff.mp meant).2, rfl⟩
                            · exact Or.inr led
                        · next child noLink found =>
                            refine Or.inr (Or.inr ⟨child, found, ?_, led⟩)
                            rintro target rfl
                            exact noLink target rfl
  · simp at led

theorem not_link_of_found (linkFree : tree.LinkFree) {entries : Entries} {access : DirectoryAccess} {name : String}
    {child : Node} (present : tree.root.find? here = some (.directory entries access))
    (found : entries.find? name = some child) (target : String) : child ≠ .link target := by
  rintro rfl
  exact linkFree (here ++ [name]) target ((find?_entry_of_find? present name).trans found)

/-- Following steps takes a way. -/
theorem way_of_passAlong (linkFree : tree.LinkFree)
    (led : passAlong tree.root purpose viaLink here steps = .ok place) :
    Way tree.root here steps place := by
  induction steps generalizing here with
  | nil =>
      simp only [passAlong] at led
      split at led
      · next present =>
          cases led
          exact .arrived present
      · simp at led
  | cons step rest ih =>
      rcases exists_of_passAlong_cons led with
        ⟨entries, access, present, admits, ⟨stays, further⟩ | ⟨rfl, further⟩ | ⟨isEntry, entry⟩⟩
      · exact .stay present admits stays (ih further)
      · exact .up present admits (ih further)
      · rcases entry with ⟨absent, rfl, rfl⟩ | ⟨target, found, _⟩ | ⟨child, found, _, further⟩
        · exact .missing present admits isEntry absent
        · exact absurd rfl (not_link_of_found linkFree present found target)
        · exact .enter present admits isEntry found (ih further)

/-- A way is taken for whatever purpose, but a file is written to only where no slash follows its name. -/
theorem Way.passAlong (linkFree : tree.LinkFree) (way : Way tree.root here steps place)
    (writes : purpose = .writing → steps.getLast? ≠ some "") :
    passAlong tree.root purpose viaLink here steps = .ok place := by
  have behind {step : String} {rest : List String}
      (writes : purpose = .writing → (step :: rest).getLast? ≠ some "") :
      purpose = .writing → rest.getLast? ≠ some "" := by
    intro isWriting last
    apply writes isWriting
    rw [List.getLast?_cons, last, Option.getD_some]
  induction way with
  | arrived present => simp [FileTree.passAlong, present]
  | stay present admits stays further ih =>
      simp [FileTree.passAlong, present, admits, stays, ih (behind writes)]
  | up present admits further ih =>
      have leaves : staysHere ".." = false := by decide
      simp [FileTree.passAlong, present, admits, leaves, ih (behind writes)]
  | @enter here entries access step child rest place present admits isEntry found further ih =>
      have noSlash : ¬(purpose = .writing && rest = [""]) = true := by
        simp only [Bool.and_eq_true, decide_eq_true_eq]
        rintro ⟨isWriting, rfl⟩
        exact behind writes isWriting rfl
      have followed := ih (behind writes)
      have fits := Nat.not_lt.mpr isEntry.fits
      cases child with
      | file content mode fileAccess =>
          simp [FileTree.passAlong, present, admits, isEntry.leaves, isEntry.notUp, noSlash, fits, found,
            followed]
      | directory inside insideAccess =>
          simp [FileTree.passAlong, present, admits, isEntry.leaves, isEntry.notUp, noSlash, fits, found,
            followed]
      | link target => exact absurd rfl (not_link_of_found linkFree present found target)
  | missing present admits isEntry absent =>
      have fits := Nat.not_lt.mpr isEntry.fits
      simp [FileTree.passAlong, present, admits, isEntry.leaves, isEntry.notUp, fits, absent]

/-- A way leads to what the tree holds. -/
theorem Way.isIn (way : Way root here steps place) : place.IsIn root := by
  induction way with
  | arrived present => exact present
  | stay present admits stays further ih => exact ih
  | up present admits further ih => exact ih
  | enter present admits isEntry found further ih => exact ih
  | missing present admits isEntry absent => exact ⟨_, _, present, absent⟩

/-- Steps that end with an entry lead to that entry of some directory. -/
theorem Way.exists_parent {name : String} (isEntry : IsEntryStep name)
    (way : Way root here (steps ++ [name]) place) :
    ∃ parent entries access, root.find? parent = some (.directory entries access) ∧
      place.location = parent ++ [name] := by
  induction steps generalizing here with
  | nil =>
      cases way with
      | stay present admits stays further => simp [isEntry.leaves] at stays
      | up present admits further => exact absurd rfl isEntry.notUp
      | enter present admits isEntry found further =>
          cases further with
          | arrived childPresent => exact ⟨_, _, _, present, rfl⟩
      | missing present admits isEntry absent => exact ⟨_, _, _, present, rfl⟩
  | cons step steps ih =>
      rw [List.cons_append] at way
      generalize more : steps ++ [name] = rest at way ih
      cases way with
      | stay present admits stays further => exact ih further
      | up present admits further => exact ih further
      | enter present admits isEntry found further => exact ih further
      | missing present admits isEntry absent => simp at more

section Growing

variable {changed : Location → Prop} {before after : FileTree} {node : Node}

/-- In a tree that has grown, a way leads to what is now at its end. -/
theorem Way.grown (grown : Grown changed before after) (way : Way before.root here steps place)
    (there : after.root.find? place.location = some node) :
    Way after.root here steps (.found place.location node) := by
  induction way with
  | arrived present => exact .arrived there
  | stay present admits stays further ih =>
      rcases grown.directory present with ⟨_, laterPresent⟩
      exact .stay laterPresent admits stays (ih there)
  | up present admits further ih =>
      rcases grown.directory present with ⟨_, laterPresent⟩
      exact .up laterPresent admits (ih there)
  | @enter here entries _ step child _ _ present admits isEntry found further ih =>
      rcases grown.directory present with ⟨others, laterPresent⟩
      have childPresent : before.root.find? (here ++ [step]) = some child :=
        (find?_entry_of_find? present step).trans found
      rcases grown.kind childPresent with ⟨laterChild, laterChildPresent, _⟩
      rw [find?_entry_of_find? laterPresent] at laterChildPresent
      exact .enter laterPresent admits isEntry laterChildPresent (ih there)
  | @missing here _ _ step present admits isEntry absent =>
      rcases grown.directory present with ⟨others, laterPresent⟩
      have laterFound : others.find? step = some node := by
        rw [← find?_entry_of_find? laterPresent]
        exact there
      exact .enter laterPresent admits isEntry laterFound (.arrived there)

end Growing

end Way

/-! ## Written paths -/

/-- Where a written path leads in a tree without links. -/
structure Leads (tree : FileTree) (text : String) (place : Place) : Prop where
  noNul : '\x00' ∉ text.toList
  fits : text.utf8ByteSize < maxPathBytes
  way : Way tree.root (tree.origin text) (stepsOf text) place

section Leads

variable {tree before after : FileTree} {purpose : Purpose} {text : String} {place : Place}
  {changed : Location → Prop}

theorem way_of_follow (linkFree : tree.LinkFree) {links : Nat} {here : Location} {steps : List String}
    (led : follow tree.root purpose links here steps = .ok place) : Way tree.root here steps place := by
  cases links with
  | zero => exact way_of_passAlong linkFree led
  | succ links => exact way_of_passAlong linkFree led

theorem leads_of_place (linkFree : tree.LinkFree) (led : tree.place purpose text = .ok place) :
    tree.Leads text place :=
  ⟨noNul_of_place led, fits_of_place led, way_of_follow linkFree (follow_of_place led)⟩

theorem Leads.place_eq (leads : tree.Leads text place) (linkFree : tree.LinkFree)
    (writes : purpose = .writing → (stepsOf text).getLast? ≠ some "") :
    tree.place purpose text = .ok place := by
  have followed : follow tree.root purpose maxLinks (tree.origin text) (stepsOf text) = .ok place :=
    leads.way.passAlong linkFree writes
  simp [FileTree.place, leads.noNul, Nat.not_le.mpr leads.fits, followed]

theorem Leads.lookup {location : Location} {node : Node} (leads : tree.Leads text (.found location node))
    (linkFree : tree.LinkFree) : tree.lookup text = .ok (location, node) :=
  lookup_eq_ok_iff.mpr (leads.place_eq linkFree (by simp))

theorem leads_of_lookup (linkFree : tree.LinkFree) {location : Location} {node : Node}
    (led : tree.lookup text = .ok (location, node)) : tree.Leads text (.found location node) :=
  leads_of_place linkFree (lookup_eq_ok_iff.mp led)

theorem Leads.grown (leads : before.Leads text place) (grown : Grown changed before after) {node : Node}
    (there : after.root.find? place.location = some node) :
    after.Leads text (.found place.location node) := by
  refine ⟨leads.noNul, leads.fits, ?_⟩
  rw [origin, grown.workingDirectory]
  exact leads.way.grown grown there

end Leads

end FileTree

end SkillScan
