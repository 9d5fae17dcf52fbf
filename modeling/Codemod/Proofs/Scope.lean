import Codemod.Proofs.Frame
import Codemod.Proofs.Validation

/-!
# Files out of scope

A migration has no business outside its scope roots.  Whatever patterns a rule set declares, what is
selected is below a root, only what is selected is written, and writing a file leaves all others as
they are.  So files that are not below a root, name by name, keep their contents.  On a disk this
needs that no path that is selected meets a link.  A visit does not come to links, but the path of a
file whose name is no text may be that of a link, and this may lead out of the scope.

## Main results

* `inScope_of_selects` — what a run selects is in scope.
* `MemoryTree.scopeInvariant` — writing a file in scope.
* `run_keeps_files_out_of_scope` — **a run leaves every file that is not below a scope root alone**,
  as long as no path that it selects meets a link.
-/

namespace Codemod

/-! ### What is selected -/

/-- The change sets of a run come from a rule set. -/
theorem exists_prepare_of_mem_setsOf {τ : Type} [FileTree τ] {m : Migration} {tree : τ}
    {set : PreparedSet} (h : set ∈ m.setsOf tree) :
    ∃ r, (m.prepare r).value = .ok (m.setsOf tree) := by
  rw [Migration.setsOf] at h ⊢
  split at h
  · next r _ =>
    refine ⟨r, ?_⟩
    cases hprepare : (m.prepare r).value with
    | error e =>
      rw [hprepare] at h
      cases h
    | ok sets => rfl
  · cases h

/-- What a run selects is in scope. -/
theorem inScope_of_selects {τ : Type} [FileTree τ] {m : Migration} {tree : τ} {path : String}
    (h : m.Selects tree path) : InScope m.config.scopeRoots path := by
  obtain ⟨set, hset, hselects⟩ := h
  obtain ⟨r, hprepare⟩ := exists_prepare_of_mem_setsOf hset
  obtain ⟨s, -, hprepared⟩ := (prepareSets_value hprepare).2 set hset
  rw [Selector.selects, Bool.and_eq_true] at hselects
  exact (Selector.inScope_iff (prepareSet_value hprepared).1 path).1 hselects.1

/-! ### Trees in memory -/

theorem inScope_congr_strip {roots : List String} {path q : String}
    (h : Path.strip q = Path.strip path) : InScope roots q ↔ InScope roots path := by
  simp only [InScope, Path.IsBelow, h]

namespace MemoryTree

/-- A file that has been written is the only one that is changed. -/
theorem read_of_overwrite {t t' : MemoryTree} {path : String} {content : ByteArray}
    (h : t.overwrite path content = .ok t') (q : String) :
    t'.read q = if Path.strip q = Path.strip path then some content else t.read q := by
  rw [overwrite] at h
  split at h
  · cases h
    exact read_insert t path q content
  · cases h

/-- Writing a file in scope leaves those out of scope alone. -/
theorem scopeInvariant (roots : List String) (t : MemoryTree) :
    Invariant (InScope roots) fun p : Progress MemoryTree =>
      ∀ q, ¬ InScope roots q → p.tree.read q = t.read q where
  addIssue _ h := h
  overwrite := by
    intro p path content t' c h hpath hwritten q hq
    have hne : Path.strip q ≠ Path.strip path := fun heq => hq ((inScope_congr_strip heq).2 hpath)
    show t'.read q = t.read q
    rw [read_of_overwrite hwritten, if_neg hne, h q hq]

end MemoryTree

/-! ### Directories -/

namespace DirectoryTree

/-- `t.IsOutOfScope roots q` says that the place `q` is out of scope: it is not in the directory
`t`, or it has no path there, or its path is not below one of `roots`. -/
def IsOutOfScope (roots : List String) (t : DirectoryTree) (q : Place) : Prop :=
  ∀ path, t.pathOf? q = some path → ¬ InScope roots path

end DirectoryTree

/-! ### Runs -/

/-- **A run leaves every file that is not below a scope root alone**, whatever the rule set is.  To
be below a root is to have its names first and more names after them.  On a disk, as long as no path
that is selected meets a link, this is so for every place, in the directory or not, visited or not;
in a dry run nothing else is kept aside either. -/
theorem run_keeps_files_out_of_scope (m : Migration) :
    (∀ roots patterns s, Selector.ofPatterns roots patterns = .ok s →
      ∀ path, s.inScope path = true ↔ InScope roots path) ∧
    (∀ (tree : MemoryTree) p, (m.run tree).value = .ok p →
      ∀ path, ¬ InScope m.config.scopeRoots path → p.tree.read path = tree.read path) ∧
    (∀ (tree : DirectoryTree) p, tree.disk.isWellFormed = true →
      tree.AvoidsLinks (m.Selects tree) → (m.run tree).value = .ok p →
      (∀ path ∈ tree.paths, tree.MeetsNoLink path → ¬ InScope m.config.scopeRoots path →
        p.tree.read path = tree.read path) ∧
      ∀ q, tree.IsOutOfScope m.config.scopeRoots q → ∀ content mode,
        (p.tree.disk.get? q = some (.file content mode) ↔
          tree.disk.get? q = some (.file content mode))) ∧
    (m.provider.Sound → (∀ tree : MemoryTree, ∃ p, (m.run tree).value = .ok p) ∧
      ∀ tree : DirectoryTree, ∃ p, (m.run tree).value = .ok p) := by
  refine ⟨fun roots patterns s hs => Selector.inScope_iff hs, ?_, ?_, fun hsound =>
    ⟨exists_run_value hsound, exists_run_value hsound⟩⟩
  · intro tree p hp
    rw [run_value_eq_applyAllSets] at hp
    refine (MemoryTree.scopeInvariant m.config.scopeRoots tree).applyAllSets
      (fun set hset p _ path hpath => ?_) (fun _ _ => rfl) hp
    exact inScope_of_selects ⟨set, hset, (List.mem_filter.1 hpath).2⟩
  · intro tree p hdisk hlinks hp
    rw [run_value_eq_applyAllSets] at hp
    have hkept : tree.WritesOnly (InScope m.config.scopeRoots) p.tree :=
      (DirectoryTree.writesOnly_of_applyAllSets hdisk hlinks hp).mono
        fun path hpath => inScope_of_selects hpath.2.2
    exact ⟨fun path hmem hlink hpath => hkept.read hdisk hmem hlink hpath,
      fun q hq content mode => hkept.get?_eq_file_iff hq content mode⟩

/-- A migration with one root, written with a slash before it and none after it. -/
def scopeMigration : Migration :=
  { sampleMigration with config := { scopeRoots := ["/src/app"] } }

/-- Two files alike, the second in a directory whose name starts like that of the root. -/
def scopeFiles : MemoryTree :=
  .ofFiles [("api-changes.json", sampleDocument.toUTF8), ("src/app/a.txt", "old".toUTF8),
    ("src/application/a.txt", "old".toUTF8)]

/-- The same files on a disk, with a link out of the scope and a file whose name is no text. -/
def scopeDirectory : DirectoryTree where
  disk := .dir [("project", .dir [("api-changes.json", .file sampleDocument.toUTF8 420),
    ("src", .dir [("app", .dir [("a.txt", .file "old".toUTF8 420),
        ("b.txt", .link (Name.ofText "../application/a.txt").bytes),
        (⟨[0xFF]⟩, .file "old".toUTF8 420)]),
      ("application", .dir [("a.txt", .file "old".toUTF8 420)])])])]
  base := []
  root := "project"
  dryRun := false
  pending := []

theorem run_keeps_files_out_of_scope_neighbour :
    (∃ s, Selector.ofPatterns ["/src/app"] ["**/*"] = .ok s ∧ s.inScope "src/app/a.txt" = true ∧
      ¬ s.inScope "src/application/a.txt" = true) ∧
    (∃ p, (scopeMigration.run scopeFiles).value = .ok p ∧
      p.tree.read "src/app/a.txt" = some "new".toUTF8 ∧
      p.tree.read "/src/application/a.txt" = some "old".toUTF8) ∧
    scopeDirectory.disk.isWellFormed = true ∧
    scopeDirectory.AvoidsLinks (scopeMigration.Selects scopeDirectory) ∧
    ∃ p, (scopeMigration.run scopeDirectory).value = .ok p ∧
      p.tree.disk.get? ["project", "src", "application", "a.txt"] =
        some (.file "old".toUTF8 420) := by
  obtain ⟨hscope, hmemory, hdirectory, hends⟩ := run_keeps_files_out_of_scope scopeMigration
  obtain ⟨hendsMemory, hendsDirectory⟩ := hends sound_sampleMigration
  have hdisk : scopeDirectory.disk.isWellFormed = true := by decide +kernel
  have hlinks : scopeDirectory.AvoidsLinks (scopeMigration.Selects scopeDirectory) := by
    decide +kernel
  refine ⟨?_, ?_, hdisk, hlinks, ?_⟩
  · have hiff := hscope ["/src/app"] ["**/*"] _ rfl
    exact ⟨_, rfl, (hiff _).2 (by decide), fun h => absurd ((hiff _).1 h) (by decide)⟩
  · obtain ⟨p, hp⟩ := hendsMemory scopeFiles
    have hchanged : (scopeMigration.run scopeFiles).value.toOption.map
        (fun p => p.tree.read "src/app/a.txt") = some (some "new".toUTF8) := by decide +kernel
    rw [hp] at hchanged
    refine ⟨p, hp, Option.some.inj hchanged, ?_⟩
    rw [hmemory scopeFiles p hp _ (by decide)]
    decide +kernel
  · obtain ⟨p, hp⟩ := hendsDirectory scopeDirectory
    refine ⟨p, hp, ((hdirectory scopeDirectory p hdisk hlinks hp).2 _ ?_ _ _).2 ?_⟩
    · intro path hpath
      have hplace : scopeDirectory.pathOf? ["project", "src", "application", "a.txt"] =
          some "src/application/a.txt" := by decide +kernel
      cases hplace.symm.trans hpath
      decide
    · simp [scopeDirectory, Node.get?_dir_cons, List.lookup_cons]

/-- A directory in scope whose name is no text and, beside it, a link out of the scope whose name is
the text that shows it. -/
def secretDirectory : DirectoryTree where
  disk := .dir [("api-changes.json", .file sampleDocument.toUTF8 420),
    ("secret", .dir [("a.txt", .file "old".toUTF8 420)]),
    ("src", .dir [("app", .dir [("\uFFFD", .link (Name.ofText "../../secret").bytes),
      (⟨[0xFF]⟩, .dir [("a.txt", .file "old".toUTF8 420)])])])]
  base := []
  root := ""
  dryRun := false
  pending := []

/-- The path of the visited file leads through the link, and the file out of the scope is
written. -/
theorem run_changes_file_out_of_scope :
    ¬ ∀ (m : Migration) (tree : DirectoryTree) (p : Progress DirectoryTree), m.provider.Sound →
      tree.disk.isWellFormed = true → (m.run tree).value = .ok p →
      ∀ q, tree.IsOutOfScope m.config.scopeRoots q → ∀ content mode,
        (p.tree.disk.get? q = some (.file content mode) ↔
          tree.disk.get? q = some (.file content mode)) := by
  intro h
  have hsound : scopeMigration.provider.Sound := sound_sampleMigration
  obtain ⟨p, hp⟩ := exists_run_value hsound secretDirectory
  have hwritten : (scopeMigration.run secretDirectory).value.toOption.map
      (fun p => p.tree.disk.fileAt? ["secret", "a.txt"]) = some (some ("new".toUTF8, 420)) := by
    decide +kernel
  rw [hp] at hwritten
  have hnew := Node.fileAt?_eq_some_iff.1 (Option.some.inj hwritten)
  have hout : secretDirectory.IsOutOfScope scopeMigration.config.scopeRoots
      ["secret", "a.txt"] := by
    intro path hpath
    have hplace : secretDirectory.pathOf? ["secret", "a.txt"] = some "secret/a.txt" := by
      decide +kernel
    cases hplace.symm.trans hpath
    decide
  have hfound :=
    (h scopeMigration secretDirectory p hsound (by decide +kernel) hp _ hout _ _).1 hnew
  have hold : secretDirectory.disk.fileAt? ["secret", "a.txt"] = some ("old".toUTF8, 420) := by
    decide +kernel
  have hsame := Option.some.inj (hold.symm.trans (Node.fileAt?_eq_some_iff.2 hfound))
  exact absurd hsame (by decide +kernel)

end Codemod
