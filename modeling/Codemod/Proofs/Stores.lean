import Codemod.Proofs.Layouts
import Codemod.Proofs.Reports

/-!
# Files on a disk and in memory

A directory and a tree in memory that hold the same files are migrated alike.  They list their files
in different orders: a directory name by name, a tree in memory by whole paths.  So the two runs are
compared through a third, on a tree in memory that is visited in the order of the directory.  It goes
step by step with the run on the directory, and next to the run on the tree in memory it only differs
in the order of the files.

## Main definitions

* `VisitOrder.along` — the order of a list.
* `Mirrored` — how a run on a directory stands to the run on a tree in memory in its order.

## Main results

* `simulation_mirrored` — reading and writing a file keep the two together.
* `exists_mirrored` — so does a whole run.
* `run_alike_on_disk_and_in_memory` — **files are migrated alike on a disk and in memory.**
-/

namespace Codemod

/-! ### The order of a directory -/

/-- The order of a list, for trees with the files of the list. -/
def VisitOrder.along (paths : List String) : VisitOrder where
  visit t := if (FileTree.paths t).Perm paths then paths else FileTree.paths t
  perm t := by
    by_cases h : (FileTree.paths t).Perm paths
    · rw [if_pos h]
      exact h.symm
    · rw [if_neg h]

theorem VisitedTree.paths_along {paths : List String} {t : MemoryTree}
    (h : (FileTree.paths t).Perm paths) :
    FileTree.paths (⟨t⟩ : VisitedTree (.along paths)) = paths :=
  if_pos h

instance (paths : List String) : OrderedTree (VisitedTree (.along paths)) where
  paths_eq_of_perm {t t'} h := by
    have hfiles : FileTree.paths t'.tree = FileTree.paths t.tree :=
      OrderedTree.paths_eq_of_perm
        (((VisitOrder.perm _ t'.tree).symm.trans h).trans (VisitOrder.perm _ t.tree))
    show (VisitOrder.along paths).visit t'.tree = (VisitOrder.along paths).visit t.tree
    simp only [VisitOrder.along, hfiles]

/-! ### The two runs -/

/-- `Mirrored paths p q` says how a run on a directory that has come to `p` stands to the run on a
tree in memory, visited in the order of `paths`, that has come to `q`: their reports are the same,
and so are the files. -/
structure Mirrored (paths : List String) (p : Progress DirectoryTree)
    (q : Progress (VisitedTree (.along paths))) : Prop where
  report : p.report = q.report
  holds : p.tree.Holds q.tree.tree.files
  paths_eq : p.tree.paths = paths
  perm_paths : (FileTree.paths q.tree.tree).Perm paths

/-- Reading and writing a file keep the two runs together. -/
theorem simulation_mirrored {paths : List String} (hpaths : ∀ path ∈ paths, Path.IsCanonical path) :
    Simulation (· ∈ paths) (Mirrored paths) where
  paths h := h.paths_eq.trans (VisitedTree.paths_along h.perm_paths).symm
  read h hpath := h.holds.read_eq (hpaths _ hpath)
  addIssue i h := ⟨congrArg (·.addIssue i) h.report, h.holds, h.paths_eq, h.perm_paths⟩
  overwrite := by
    intro p q path content c h hpath
    -- the file is in the directory, so it is in both
    obtain ⟨⟨path, old⟩, hmem, rfl⟩ := List.mem_map.1 (h.perm_paths.mem_iff.2 hpath)
    have hread : q.tree.tree.read path = some old :=
      (MemoryTree.mem_files_iff_read (hpaths _ hpath).strip).1 hmem
    obtain ⟨t, hwritten, hholds, hsame⟩ := h.holds.exists_overwrite (hpaths _ hpath) hmem content
    refine Or.inl ⟨t, ⟨q.tree.tree.insert path content⟩, hwritten, ?_,
      congrArg (·.addChange c) h.report, hholds, hsame.trans h.paths_eq, ?_⟩
    · show (q.tree.tree.overwrite path content).map VisitedTree.mk = _
      rw [MemoryTree.overwrite_of_read content hread]
      rfl
    · have hkept : FileTree.paths (q.tree.tree.insert path content) = FileTree.paths q.tree.tree :=
        MemoryTree.paths_insert content hread
      exact hkept ▸ h.perm_paths

section Runs

variable {m : Migration} {t : DirectoryTree} {s : MemoryTree} (hholds : t.Holds s.files)
  (hvisited : Path.AreVisited (FileTree.paths s))
include hholds hvisited

theorem DirectoryTree.Holds.perm_paths_memory : t.paths.Perm (FileTree.paths s) :=
  hholds.perm_paths s.nodup_paths hvisited

theorem DirectoryTree.Holds.read_of_mem_paths {path : String} (hpath : path ∈ t.paths) :
    t.read path = s.read path :=
  hholds.read_eq
    (hvisited.isCanonical path ((hholds.perm_paths_memory hvisited).mem_iff.1 hpath))

/-- Both runs come to an end, and the files are the same again. -/
theorem exists_mirrored (hsound : m.provider.Sound)
    (hrules : Path.IsCanonical m.config.ruleSetPath) :
    ∃ p q, (m.run t).value = .ok p ∧
      (m.run (⟨s⟩ : VisitedTree (.along t.paths))).value = .ok q ∧ Mirrored t.paths p q := by
  have hperm := hholds.perm_paths_memory hvisited
  have hpaths : ∀ path ∈ t.paths, Path.IsCanonical path := fun path hpath =>
    hvisited.isCanonical path (hperm.mem_iff.1 hpath)
  have halike : EndAlike m (Mirrored t.paths) (m.run t).value
      (m.run (⟨s⟩ : VisitedTree (.along t.paths))).value := by
    refine (simulation_mirrored hpaths).run (fun o => ⟨rfl, hholds, rfl, hperm.symm⟩)
      (hholds.read_eq hrules) ?_
    intro r sets _ set _ p q h path hpath
    exact h.paths_eq ▸ List.mem_of_mem_filter hpath
  exact halike.exists_of_sound hsound

end Runs

/-- In whatever order its files are visited, a tree in memory ends the same. -/
theorem tree_eq_of_run {m : Migration} (hsound : m.provider.Sound) {order : VisitOrder}
    {s : MemoryTree} {p : Progress (VisitedTree order)} {q : Progress MemoryTree}
    (hp : (m.run (⟨s⟩ : VisitedTree order)).value = .ok p) (hq : (m.run s).value = .ok q) :
    p.tree.tree = q.tree := by
  refine MemoryTree.ext_read fun path => ?_
  have hvisited : p.tree.tree.read path = _ := (changed_run hsound hp).read path
  have hsorted : q.tree.read path = _ := (changed_run hsound hq).read path
  rw [hvisited, hsorted]
  rfl

/-- **Files are migrated alike on a disk and in memory.**  The files have canonical paths, none is a
directory of another, and none is in a directory that a visit passes over.  Then there are
directories that hold them, and for each of these the run on it and the run on the tree in memory
have the same outcome and leave the same files.  Change set by change set they note the same changes
and the same issues, up to the order of the files. -/
theorem run_alike_on_disk_and_in_memory (m : Migration) (hsound : m.provider.Sound)
    (hrules : Path.IsCanonical m.config.ruleSetPath) (files : MemoryTree)
    (hvisited : Path.AreVisited (FileTree.paths files)) :
    (DirectoryTree.ofFiles files.files).Holds files.files ∧
    ∀ t : DirectoryTree, t.Holds files.files →
      ∃ p q, (m.run t).value = .ok p ∧ (m.run files).value = .ok q ∧
        p.report.outcome = q.report.outcome ∧
        p.tree.Holds q.tree.files ∧
        (∀ path, Path.IsCanonical path → p.tree.read path = q.tree.read path) ∧
        p.report.changes = (m.changesBySet t).flatten ∧
        q.report.changes = (m.changesBySet files).flatten ∧
        List.Forall₂ List.Perm (m.changesBySet t) (m.changesBySet files) ∧
        p.report.issues = (m.issuesBySet t).flatten ∧
        q.report.issues = (m.issuesBySet files).flatten ∧
        List.Forall₂ List.Perm (m.issuesBySet t) (m.issuesBySet files) := by
  refine ⟨DirectoryTree.holds_ofFiles files.nodup_paths hvisited, fun t hholds => ?_⟩
  obtain ⟨p, v, hp, hv, hmirrored⟩ := exists_mirrored hholds hvisited hsound hrules
  obtain ⟨q, hq⟩ := exists_run_value hsound files
  have hperm := hholds.perm_paths_memory hvisited
  have hread : ∀ path ∈ t.paths, t.read path = files.read path := fun path hpath =>
    hholds.read_of_mem_paths hvisited hpath
  -- the run in between notes what the run on the directory notes
  obtain ⟨hchanges, hissues⟩ := bySet_congr (m := m) (t := t)
    (u := (⟨files⟩ : VisitedTree (.along t.paths))) (hholds.read_eq hrules) hread
    (VisitedTree.paths_along hperm.symm).symm
  obtain ⟨hchanges', hissues'⟩ := bySet_perm (m := m) (t := t) (u := files)
    (hholds.read_eq hrules) hread hperm
  have hreport : p.report = _ := hmirrored.report.trans (report_run hsound hv)
  have hreport' := report_run hsound hq
  have hfinal : p.tree.Holds q.tree.files := tree_eq_of_run hsound hv hq ▸ hmirrored.holds
  refine ⟨p, q, hp, hq, ?_, hfinal, fun path hpath => hfinal.read_eq hpath, ?_, ?_, hchanges', ?_,
    ?_, hissues'⟩
  · rw [hreport, hreport']
    rfl
  · rw [hreport, hchanges]
  · rw [hreport']
  · rw [hreport, hissues]
  · rw [hreport']

/-- Two directories, the name of one at the start of the other's: by whole paths the longer name
comes first. -/
def neighbours : MemoryTree :=
  .ofFiles [("api-changes.json", sampleDocument.toUTF8), ("src/app/a/x.txt", "old".toUTF8),
    ("src/app/a-b/x.txt", "old".toUTF8)]

theorem run_alike_on_disk_and_in_memory_neighbours :
    sampleMigration.provider.Sound ∧ Path.IsCanonical sampleMigration.config.ruleSetPath ∧
      Path.AreVisited (FileTree.paths neighbours) ∧
      ∃ t : DirectoryTree, t.Holds neighbours.files ∧
        ∃ p q, (sampleMigration.run t).value = .ok p ∧
          (sampleMigration.run neighbours).value = .ok q ∧
          q.report.changes = [⟨"src/app/a-b/x.txt", "api", "**/*", .text⟩,
            ⟨"src/app/a/x.txt", "api", "**/*", .text⟩] ∧
          p.report.changes.Perm q.report.changes ∧
          p.tree.read "src/app/a/x.txt" = some "new".toUTF8 := by
  have hrules : Path.IsCanonical sampleMigration.config.ruleSetPath := by decide +kernel
  have hvisited : Path.AreVisited (FileTree.paths neighbours) :=
    ⟨by decide +kernel, by decide +kernel, by decide +kernel⟩
  have hrun : (sampleMigration.run neighbours).value.toOption.map
      (fun q => (q.report.changes, q.tree.read "src/app/a/x.txt")) =
      some ([⟨"src/app/a-b/x.txt", "api", "**/*", .text⟩,
        ⟨"src/app/a/x.txt", "api", "**/*", .text⟩], some "new".toUTF8) := by decide +kernel
  obtain ⟨hholds, hruns⟩ := run_alike_on_disk_and_in_memory sampleMigration sound_sampleMigration
    hrules neighbours hvisited
  obtain ⟨p, q, hp, hq, -, -, hread, hchanges, hchanges', hperm, -⟩ := hruns _ hholds
  rw [hq] at hrun
  obtain ⟨hnoted, hnew⟩ := Prod.mk.inj (Option.some.inj hrun)
  refine ⟨sound_sampleMigration, hrules, hvisited, _, hholds, p, q, hp, hq, hnoted, ?_, ?_⟩
  · rw [hchanges, hchanges']
    exact List.Perm.flatten_congr hperm
  · rw [hread _ (by decide +kernel)]
    exact hnew

end Codemod
