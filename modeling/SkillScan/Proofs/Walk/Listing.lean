import SkillScan.Proofs.FileTree.Relisting
import SkillScan.Proofs.Walk.Completeness

/-!
# Walks and the order of listings

The stops of a walk are said by names alone, so they are the same in every relisting of a tree, and as
their order determines them, so is the walk. Together with completeness this is all there is to know about
a walk from a directory: which files it yields, which directories it reports, in which order, and that
nothing comes twice.
-/

namespace SkillScan

namespace Visit

/-- The path of a file that is visited. -/
def filePath? : Visit → Option Path
  | .file path => some path
  | .unlistable _ => none

end Visit

namespace Walk

theorem listingError?_of_relisted {tree other : FileTree} (relisted : tree.Relisted other) (path : String) :
    listingError? other path = listingError? tree path := by
  simp only [listingError?, FileTree.list]
  cases led : tree.lookup path with
  | error error => rw [FileTree.lookup_error_of_relisted relisted led]
  | ok found =>
      rcases found with ⟨location, node⟩
      rcases FileTree.lookup_of_relisted relisted led with ⟨otherNode, otherLed, nodeRelisted⟩
      rw [otherLed]
      cases node with
      | file content mode access => rw [nodeRelisted.eq_file]
      | link target => rw [nodeRelisted.eq_link]
      | directory entries access =>
          rcases nodeRelisted.eq_directory with ⟨others, rfl⟩
          simp only [bind, Except.bind]
          cases access.listing <;> rfl

theorem reaches_of_relisted {selection : Selection} {tree otherTree : FileTree} {path : String}
    {node other : Node} {route : Route} {entries : Entries} {access : DirectoryAccess}
    (treeRelisted : tree.Relisted otherTree)
    (reached : Reaches selection tree path node route entries access) (relisted : node.Relisted other) :
    ∃ others, Reaches selection otherTree path other route others access ∧
      (Node.directory entries access).Relisted (.directory others access) := by
  induction reached generalizing other with
  | here =>
      rcases relisted.eq_directory with ⟨others, rfl⟩
      exact ⟨others, .here, relisted⟩
  | into listable present kept _ ih =>
      rcases relisted.eq_directory with ⟨others, rfl⟩
      rcases relisted.find?_entry present with ⟨otherChild, otherPresent, childRelisted⟩
      rcases ih childRelisted with ⟨inside, reached, insideRelisted⟩
      rw [← listingError?_of_relisted treeRelisted] at listable
      exact ⟨inside, .into listable otherPresent kept reached, insideRelisted⟩

theorem looksLikeDirectory_link_iff {tree : FileTree} {path target : String} :
    looksLikeDirectory tree path (.link target) = true ↔
      ∃ location entries access, tree.lookup path = .ok (location, .directory entries access) := by
  simp only [looksLikeDirectory]
  constructor
  · intro isDirectory
    split at isDirectory
    · next location entries access found => exact ⟨location, entries, access, found⟩
    · simp at isDirectory
  · rintro ⟨location, entries, access, found⟩
    simp [found]

theorem looksLikeDirectory_of_relisted {tree other : FileTree} (relisted : tree.Relisted other)
    {path : String} {node otherNode : Node} (nodeRelisted : node.Relisted otherNode)
    (isDirectory : looksLikeDirectory tree path node = true) :
    looksLikeDirectory other path otherNode = true := by
  cases node with
  | file content mode access => simp [looksLikeDirectory] at isDirectory
  | directory entries access =>
      rcases nodeRelisted.eq_directory with ⟨others, rfl⟩
      rfl
  | link target =>
      rw [nodeRelisted.eq_link]
      rcases looksLikeDirectory_link_iff.mp isDirectory with ⟨location, entries, access, found⟩
      rcases FileTree.lookup_of_relisted relisted found with ⟨otherFound, otherLed, foundRelisted⟩
      rcases foundRelisted.eq_directory with ⟨others, rfl⟩
      exact looksLikeDirectory_link_iff.mpr ⟨location, others, access, otherLed⟩

theorem stopsAt_of_relisted {selection : Selection} {tree other : FileTree} {path : String}
    {top otherTop : Node} {stop : Stop} (relisted : tree.Relisted other)
    (topRelisted : top.Relisted otherTop)
    (stopsAt : StopsAt selection tree path top stop) :
    StopsAt selection other path otherTop stop := by
  cases stop with
  | file directory name =>
      rcases stopsAt with ⟨entries, access, node, reached, listable, found, noDirectory, wanted⟩
      rcases reaches_of_relisted relisted reached topRelisted with ⟨others, otherReached, entriesRelisted⟩
      rcases entriesRelisted.find?_entry found with ⟨otherNode, otherFound, nodeRelisted⟩
      rw [← listingError?_of_relisted relisted] at listable
      refine ⟨others, access, otherNode, otherReached, listable, otherFound, ?_, wanted⟩
      rw [Bool.eq_false_iff]
      intro isDirectory
      rw [looksLikeDirectory_of_relisted relisted.symm nodeRelisted.symm isDirectory] at noDirectory
      exact Bool.noConfusion noDirectory
  | unlistable directory error =>
      rcases stopsAt with ⟨entries, access, reached, refused⟩
      rcases reaches_of_relisted relisted reached topRelisted with ⟨others, otherReached, _⟩
      rw [← listingError?_of_relisted relisted] at refused
      exact ⟨others, access, otherReached, refused⟩

end Walk

section Root

variable {tree : FileTree} {selection : Selection} {root : Path} {location : Location}
  {entries : Entries} {access : DirectoryAccess}

theorem walk_eq_ofNode
    (isDirectory : tree.lookup root.text = .ok (location, .directory entries access)) :
    walk selection tree root =
      .ok (Walk.ofNode selection tree root.text (.directory entries access)) := by
  have noFile : tree.isFile root = .ok false := by
    simp [FileTree.isFile, FileTree.leadsTo, isDirectory, Node.isDirectory]
  simp [walk, noFile, isDirectory, bind, Except.bind, pure, Except.pure]

/-- A walk from anything but a directory visits that alone, if its suffix is wanted. -/
theorem walk_of_not_directory {top : Node} (present : tree.lookup root.text = .ok (location, top))
    (noDirectory : top.isDirectory = false) :
    walk selection tree root = .ok (if selection.wants root then [.file root] else []) := by
  have isFile : tree.isFile root = .ok true := by
    simp [FileTree.isFile, FileTree.leadsTo, present, noDirectory]
  simp [walk, isFile, bind, Except.bind, pure, Except.pure]

/-- The walk from a directory visits its stops in their order. -/
theorem walk_eq_map_visit (wellFormed : tree.WellFormed) (normal : root.Normal)
    (isDirectory : tree.lookup root.text = .ok (location, .directory entries access)) :
    ∃ stops : List Stop, walk selection tree root = .ok (stops.map (Stop.visit root)) ∧
      Walk.Itinerary selection tree root.text (.directory entries access) stops := by
  have topWellFormed := FileTree.wellFormed_of_lookup wellFormed isDirectory
  rcases Walk.ofNode_eq_map_visit selection tree topWellFormed (Path.text_ne_empty normal) with
    ⟨stops, visits, members, ordered⟩
  rw [Path.ofText_text normal] at visits
  exact ⟨stops, by rw [walk_eq_ofNode isDirectory, visits], members, ordered⟩

theorem walk_of_relisted (wellFormed : tree.WellFormed) (normal : root.Normal)
    (isDirectory : tree.lookup root.text = .ok (location, .directory entries access))
    {other : FileTree} (otherWellFormed : other.WellFormed) (relisted : tree.Relisted other) :
    walk selection other root = walk selection tree root := by
  rcases FileTree.lookup_of_relisted relisted isDirectory with ⟨otherTop, otherLed, topRelisted⟩
  rcases topRelisted.eq_directory with ⟨others, rfl⟩
  rcases @walk_eq_map_visit _ selection _ _ _ _ wellFormed normal isDirectory with
    ⟨stops, visits, itinerary⟩
  rcases @walk_eq_map_visit _ selection _ _ _ _ otherWellFormed normal otherLed with
    ⟨otherStops, otherVisits, otherItinerary⟩
  have same : otherStops = stops := by
    apply Stop.eq_of_mem_iff otherItinerary.ordered itinerary.ordered
    intro stop
    rw [itinerary.members, otherItinerary.members]
    exact ⟨Walk.stopsAt_of_relisted relisted.symm topRelisted.symm,
      Walk.stopsAt_of_relisted relisted topRelisted⟩
  rw [visits, otherVisits, same]

/-- Stops that differ do not lead to one path. -/
theorem Stop.nodup_filePaths (root : Path) {stops : List Stop} (nodup : stops.Nodup) :
    ((stops.map (Stop.visit root)).filterMap Visit.filePath?).Nodup := by
  rw [List.filterMap_map]
  apply nodup.filterMap
  intro first second path firstPath secondPath
  cases first with
  | unlistable directory error => simp [Stop.visit, Visit.filePath?] at firstPath
  | file directory name =>
      cases second with
      | unlistable directory error => simp [Stop.visit, Visit.filePath?] at secondPath
      | file otherDirectory otherName =>
          simp only [Function.comp_apply, Stop.visit, Visit.filePath?, Option.mem_def,
            Option.some.injEq] at firstPath secondPath
          have names := congrArg Path.names (firstPath.trans secondPath.symm)
          simp only [List.append_assoc, List.append_cancel_left_eq] at names
          rcases List.append_inj' names rfl with ⟨sameDirectory, sameName⟩
          rw [sameDirectory, List.singleton_inj.mp sameName]

/-- A walk from a directory visits every stop once and nothing else, in the order of the stops. It does
not depend on the order in which directories list their entries. -/
theorem walk_visits_each_stop_once (wellFormed : tree.WellFormed) (text : String)
    (isDirectory :
      tree.lookup (Path.ofText text).text = .ok (location, .directory entries access)) :
    ∃ stops : List Stop,
      walk selection tree (.ofText text) = .ok (stops.map (Stop.visit (.ofText text))) ∧
        Walk.Itinerary selection tree (Path.ofText text).text (.directory entries access) stops ∧
        (stops.map Stop.components).Nodup ∧
        ((stops.map (Stop.visit (.ofText text))).filterMap Visit.filePath?).Nodup ∧
        ∀ other : FileTree, other.WellFormed → tree.Relisted other →
          walk selection other (.ofText text) = walk selection tree (.ofText text) := by
  have normal := Path.normal_ofText text
  rcases @walk_eq_map_visit _ selection _ _ _ _ wellFormed normal isDirectory with
    ⟨stops, visits, itinerary⟩
  refine ⟨stops, visits, itinerary, Stop.nodup_components itinerary.ordered, ?_, ?_⟩
  · exact Stop.nodup_filePaths _ (Stop.nodup_of_precedes itinerary.ordered)
  · intro other otherWellFormed relisted
    exact walk_of_relisted wellFormed normal isDirectory otherWellFormed relisted

end Root

/-- A package with a hidden directory, a directory that cannot be listed, links to a file and around in
a circle, and a link to nothing. -/
def exampleTree : FileTree where
  root :=
    .directory
      (.entry "package"
        (.directory
          (.entry "src"
            (.directory
              (.entry "up" (.link "..")
                (.entry "run.py" (.file [0x61, 0x0D, 0x0A] 0o644 .granted) .empty))
              .granted)
            (.entry "locked" (.directory .empty ⟨.refused true, true⟩)
              (.entry ".git" (.directory (.entry "x.js" (.file [] 0o644 .granted) .empty) .granted)
                (.entry "gone.js" (.link "nowhere")
                  (.entry "index.JS" (.file [] 0o644 (.refused false)) .empty)))))
          .granted)
        .empty)
      .granted
  workingDirectory := []

theorem walk_exampleTree :
    exampleTree.WellFormed ∧
      ∃ entries access,
        exampleTree.lookup (Path.ofText "package").text = .ok (["package"], .directory entries access) ∧
          ∃ stops : List Stop,
            walk ⟨[".js", ".py"], ["node_modules"]⟩ exampleTree (.ofText "package") =
                .ok (stops.map (Stop.visit (.ofText "package"))) ∧
              Walk.Itinerary ⟨[".js", ".py"], ["node_modules"]⟩ exampleTree
                (Path.ofText "package").text (.directory entries access) stops := by
  have wellFormed : exampleTree.WellFormed := by decide
  rcases walk_visits_each_stop_once wellFormed "package" rfl with ⟨stops, visits, itinerary, _⟩
  exact ⟨wellFormed, _, _, rfl, stops, visits, itinerary⟩

end SkillScan
