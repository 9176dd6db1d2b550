import Mathlib
import RootFold.Manifest.Scan
import RootFold.Proofs.File.Tree

/-!
# `RootFold.Proofs.Manifest.Scan` — a scan finds each matching file once, in path order

What a scan gives is a filter of the files below the folder, with the folder put in front of each. Files are listed in
strict order of the names on the way to them, and the folder in front changes neither their order nor that they are
different. So the first file that a scan gives is the first member of the folder, the one that stands for it.

## Contents
- **Files below a directory.** `filesBelow_eq`.
- **Scans.** `scanFiles_eq`, `scanMembers_eq`, and `scanMembers_lists_matches`.
-/

namespace RootFold

variable {fs : FileSystem} {root folder base : Path} {patternText : String} {pattern : Glob.Pattern} {t : FileTree}

/-! ## Files below a directory -/

theorem FileSystem.filesBelow_eq (h : fs.find base = .ok t) : fs.filesBelow base = t.files.map .ofNames := by
  rw [filesBelow, h]
  rfl

/-! ## Scans -/

/-- The files that match, as names and then as paths. -/
theorem scanFiles_eq (folder : Path) (pattern : Glob.Pattern) (files : List (List String)) :
    scanFiles folder pattern (files.map .ofNames) =
      (files.filter fun names => pattern.matchesPath (.ofNames names)).map fun names =>
        folder.join (.ofNames names) := by
  rw [scanFiles, List.filter_map, List.map_map]
  rfl

/-- **What a scan of a directory gives,** and the note that it makes. -/
theorem scanMembers_eq (hpattern : Glob.Pattern.read patternText = .ok pattern)
    (hfind : fs.find (root.join folder) = .ok t) (hdir : t.isDirectory = true) (notes : List Note) :
    let members := scanFiles folder pattern (t.files.map .ofNames)
    scanMembers fs root folder patternText notes =
      .ok members (notes ++ [.scanned members.length folder pattern.text]) := by
  have hbase : fs.isDirectory (root.join folder) = true := by
    rw [FileSystem.isDirectory, hfind]
    exact hdir
  unfold scanMembers
  simp only [hpattern, hbase, FileSystem.filesBelow_eq hfind]
  rfl

/-- **A scan gives the matching files,** each once, in strict path order: for a folder that is a directory of the file
    system and a pattern that can be read, it gives the path of each regular file at any depth below the folder that
    the pattern matches as seen from there. -/
theorem scanMembers_lists_matches (fs : FileSystem) (root folder : Path)
    (hpattern : Glob.Pattern.read patternText = .ok pattern) (hfind : fs.find (root.join folder) = .ok t)
    (hdir : t.isDirectory = true) (hproper : t.IsProper) (notes : List Note) :
    ∃ files : List (List String),
      (∀ names, names ∈ files ↔
        (∃ content, t.descend? names = some (.file content)) ∧ pattern.matchesPath (.ofNames names) = true) ∧
      files.Nodup ∧
      let members := files.map fun names => folder.join (.ofNames names)
      members.Pairwise (· < ·) ∧
        scanMembers fs root folder patternText notes =
          .ok members (notes ++ [.scanned members.length folder pattern.text]) := by
  have hsorted := hproper.files_sorted.filter fun names => pattern.matchesPath (.ofNames names)
  refine ⟨t.files.filter fun names => pattern.matchesPath (.ofNames names), fun names => ?_, ?_, ?_, ?_⟩
  · rw [List.mem_filter, hproper.mem_files]
  · refine List.nodup_iff_pairwise_ne.2 (hsorted.imp ?_)
    rintro names names' hlt rfl
    exact List.lt_irrefl names hlt
  · have hnames : ∀ {names}, names ∈ t.files.filter (fun names => pattern.matchesPath (.ofNames names)) →
        ∀ n ∈ names, IsFileName n := by
      intro names hmem
      obtain ⟨content, hdescend⟩ := (hproper.mem_files names).1 (List.mem_of_mem_filter hmem)
      exact hproper.isFileName hdescend
    exact List.pairwise_map.2 (hsorted.imp_of_mem fun ha hb hlt =>
      Path.join_ofNames_lt folder (hnames ha) (hnames hb) hlt)
  · rw [scanMembers_eq hpattern hfind hdir, scanFiles_eq]

/-- A directory whose entries are not in order, one name the beginning of the others. -/
def shelf : FileTree :=
  .directory [("a.txt", .file .empty), ("a", .directory [("x.txt", .file .empty)]), ("a-b", .file .empty)]

def shelfSystem : FileSystem := ⟨.directory [("src", shelf)], []⟩

theorem isProper_shelf : shelf.IsProper := by
  refine FileTree.isProper_directory (by decide) fun e he => ?_
  have hinner : (FileTree.directory [("x.txt", .file .empty)]).IsProper := by
    refine FileTree.isProper_directory (by decide) fun e he => ?_
    obtain rfl := List.mem_singleton.1 he
    exact ⟨by decide, FileTree.isProper_file _⟩
  simp only [List.mem_cons, List.not_mem_nil, or_false] at he
  rcases he with rfl | rfl | rfl
  · exact ⟨by decide, FileTree.isProper_file _⟩
  · exact ⟨by decide, hinner⟩
  · exact ⟨by decide, FileTree.isProper_file _⟩

theorem scanMembers_lists_matches_shelf :
    ∃ pattern, Glob.Pattern.read "*.txt" = .ok pattern ∧
      shelfSystem.find ((Path.ofText ".").join (.ofText "src")) = .ok shelf ∧ shelf.isDirectory = true ∧
      shelf.IsProper ∧
      ∃ files : List (List String), ["a", "x.txt"] ∈ files ∧ ["a.txt"] ∈ files ∧ ["a-b"] ∉ files ∧ files.Nodup ∧
        let members := files.map fun names => (Path.ofText "src").join (.ofNames names)
        members.Pairwise (· < ·) ∧
          scanMembers shelfSystem (.ofText ".") (.ofText "src") "*.txt" [] =
            .ok members [.scanned members.length (.ofText "src") pattern.text] := by
  have hpattern : Glob.Pattern.read "*.txt" =
      .ok ⟨"*.txt", [.anyText, .char '.', .char 't', .char 'x', .char 't']⟩ := by cbv
  have hfind : shelfSystem.find ((Path.ofText ".").join (.ofText "src")) = .ok shelf := by cbv
  obtain ⟨files, hfiles, hnodup, hsorted, hscan⟩ :=
    scanMembers_lists_matches shelfSystem (.ofText ".") (.ofText "src") hpattern hfind rfl isProper_shelf []
  refine ⟨_, hpattern, hfind, rfl, isProper_shelf, files, ?_, ?_, ?_, hnodup, hsorted, hscan⟩
  · exact (hfiles _).2 ⟨⟨_, rfl⟩, by decide +kernel⟩
  · exact (hfiles _).2 ⟨⟨_, rfl⟩, by decide +kernel⟩
  · exact fun hmem => absurd ((hfiles _).1 hmem).2 (by decide +kernel)

end RootFold
