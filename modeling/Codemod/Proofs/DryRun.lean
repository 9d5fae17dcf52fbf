import Codemod.Proofs.Directories
import Codemod.Proofs.Reports

/-!
# Dry runs

A dry run keeps aside what it would write, and reads it back from there.  The run that writes to the
disk reads it back from the disk.  Both take the same steps as long as the paths that they select
meet no link: at every moment the disk of the second is that of the first with what is kept aside
laid over it.  Through a link a file is written under one path and read under another, which only
the disk knows.

## Main definitions

* `DirectoryTree.overlaid` — the disk with what is kept aside laid over it.
* `DirectoryTree.keeping`, `DirectoryTree.writing` — a directory in a dry run and in the run that
  writes, after the same files.
* `Foretold` — how a dry run stands to the run that writes.

## Main results

* `DirectoryTree.IsFileAt.withContents_writing` — one more file.
* `simulation_foretold` — reading and writing a file keep the two runs together.
* `diskInvariant` — a dry run leaves the disk as it is.
* `dryRun_foretells_run` — **a dry run leaves the disk as it is, and tells what the run would do**,
  as long as no path that it selects meets a link.
-/

namespace Codemod

namespace DirectoryTree

/-! ### What is kept aside, laid over the disk -/

/-- The contents of a file at a place when what is kept aside is laid over it. -/
def contentsAt (t : DirectoryTree) (p : Place) (content : ByteArray) : ByteArray :=
  ((t.pathOf? p).bind fun path => t.pending.lookup path).getD content

/-- The disk with what is kept aside laid over it. -/
def overlaid (t : DirectoryTree) : Node := t.disk.mapFiles t.contentsAt

/-- A directory in a dry run that keeps files aside. -/
def keeping (t : DirectoryTree) (pending : List (String × ByteArray)) : DirectoryTree :=
  { t with dryRun := true, pending := pending }

/-- A directory in a run that has written files. -/
def writing (t : DirectoryTree) (pending : List (String × ByteArray)) : DirectoryTree :=
  { t with disk := (t.keeping pending).overlaid, dryRun := false, pending := [] }

section Writing

variable {t : DirectoryTree} (pending : List (String × ByteArray)) {path : String} {p : Place}
  {old : ByteArray} {mode : Nat}

theorem writing_eq_withContents (t : DirectoryTree) :
    t.writing pending =
      ({ t with dryRun := false } : DirectoryTree).withContents (t.keeping pending).contentsAt [] :=
  rfl

theorem paths_writing (t : DirectoryTree) :
    (t.writing pending).paths = (t.keeping pending).paths := by
  rw [writing_eq_withContents, paths_withContents]
  rfl

theorem file?_writing_eq_none {t : DirectoryTree} {path : String} (h : t.file? path = none) :
    (t.writing pending).file? path = none := by
  have hreal : ({ t with dryRun := false } : DirectoryTree).file? path = none := h
  rw [writing_eq_withContents]
  exact file?_withContents_eq_none _ _ [] hreal

/-- Without anything aside the disk is as it is. -/
theorem writing_nil (t : DirectoryTree) :
    t.writing [] = { t with dryRun := false, pending := [] } := by
  have hcontents : (t.keeping []).contentsAt = fun _ content => content := by
    funext p content
    simp [contentsAt, keeping]
  rw [writing_eq_withContents, hcontents, withContents_id]

namespace IsFileAt

variable (h : t.IsFileAt path p old mode)
include h

theorem keeping : (t.keeping pending).IsFileAt path p old mode :=
  ⟨h.isWellFormed, h.get?, h.pathOf?, h.ne_empty⟩

theorem contentsAt_keeping (content : ByteArray) :
    (t.keeping pending).contentsAt p content = (pending.lookup path).getD content := by
  rw [contentsAt, (h.keeping pending).pathOf?, Option.bind_some]
  rfl

theorem writing : (t.writing pending).IsFileAt path p ((pending.lookup path).getD old) mode := by
  have hreal : ({ t with dryRun := false } : DirectoryTree).IsFileAt path p old mode :=
    ⟨h.isWellFormed, h.get?, h.pathOf?, h.ne_empty⟩
  rw [writing_eq_withContents, ← h.contentsAt_keeping pending]
  exact hreal.withContents _ []

/-- What is kept aside for one more file is laid over that file and no other. -/
theorem contentsAt_insertFile (new : ByteArray) {q : Place} {k : Node}
    (hk : t.disk.get? q = some k) (content : ByteArray) :
    (t.keeping (insertFile path new pending)).contentsAt q content =
      if q = p then new else (t.keeping pending).contentsAt q content := by
  by_cases hq : q = p
  · subst hq
    simp [h.contentsAt_keeping, lookup_insertFile]
  · rw [if_neg hq, contentsAt, contentsAt]
    show ((t.pathOf? q).bind fun path' => (insertFile path new pending).lookup path').getD content =
      ((t.pathOf? q).bind fun path' => pending.lookup path').getD content
    cases hpath' : t.pathOf? q with
    | none => rfl
    | some path' =>
      -- the disk is well formed, so another file has another path
      have hne : path' ≠ path := by
        rintro rfl
        exact hq (h.eq_of_pathOf? hk hpath')
      simp [lookup_insertFile, hne]

/-- Writing one more file is keeping it aside, laid over the disk. -/
theorem withContents_writing (new : ByteArray) :
    (t.writing pending).withContents (fun q b => if q = p then new else b) [] =
      t.writing (insertFile path new pending) := by
  have hdisk : (t.disk.mapFiles fun q b =>
        if q = p then new else (t.keeping pending).contentsAt q b) =
      t.disk.mapFiles (t.keeping (insertFile path new pending)).contentsAt :=
    Node.mapFiles_congr h.isWellFormed fun q content _ hq =>
      (h.contentsAt_insertFile pending new hq content).symm
  rw [writing_eq_withContents, writing_eq_withContents, withContents_withContents]
  simp only [DirectoryTree.withContents, hdisk]

theorem overwrite_keeping (new : ByteArray) :
    ((t.keeping pending).overwrite path new).value =
      .ok (t.keeping (insertFile path new pending)) := by
  have hdry : (t.keeping pending).dryRun = true := rfl
  rw [(h.keeping pending).overwrite, if_pos hdry, withContents_id]
  rfl

theorem overwrite_writing (new : ByteArray) :
    ((t.writing pending).overwrite path new).value =
      .ok (t.writing (insertFile path new pending)) := by
  have hreal : ¬ (t.writing pending).dryRun = true := Bool.false_ne_true
  rw [(h.writing pending).overwrite, if_neg hreal, ← h.withContents_writing]
  rfl

end IsFileAt

end Writing

end DirectoryTree

/-! ### The two runs -/

/-- `Foretold t p q` says how a dry run on `t` that has come to `p` stands to the run that writes
and has come to `q`: their reports are the same, and what the first has kept aside, for files that
are there, the second has written. -/
inductive Foretold (t : DirectoryTree) : Progress DirectoryTree → Progress DirectoryTree → Prop
  | mk (pending : List (String × ByteArray)) (report : Report)
      (sorted : pending.Pairwise fun f g => f.1 < g.1)
      (isFileAt : ∀ f ∈ pending, ∃ p old mode, t.IsFileAt f.1 p old mode) :
      Foretold t ⟨t.keeping pending, report⟩ ⟨t.writing pending, report⟩

/-- Nothing is kept aside for a path that leads to no file. -/
theorem lookup_eq_none_of_file?_eq_none {t : DirectoryTree} {pending : List (String × ByteArray)}
    (hfiles : ∀ f ∈ pending, ∃ p old mode, t.IsFileAt f.1 p old mode) {path : String}
    (hnone : t.file? path = none) : pending.lookup path = none := by
  rw [List.lookup_eq_none_iff]
  intro f hf
  obtain ⟨p, old, mode, hfile⟩ := hfiles f hf
  have hne : path ≠ f.1 := by
    rintro rfl
    rw [DirectoryTree.file?, hfile.locate] at hnone
    simp only [hfile.file?] at hnone
    cases hnone
  simpa using hne

/-- Reading and writing a file keep the two runs together. -/
theorem simulation_foretold {t : DirectoryTree} (hdisk : t.disk.isWellFormed = true) :
    Simulation (fun path => path ∈ t.paths ∧ t.MeetsNoLink path) (Foretold t) where
  paths := by
    rintro p q ⟨pending, report, -, -⟩
    exact (DirectoryTree.paths_writing pending t).symm
  read := by
    rintro p q path ⟨pending, report, -, hfiles⟩ ⟨hpath, hlink⟩
    show (t.keeping pending).read path = (t.writing pending).read path
    rcases DirectoryTree.file?_eq_none_or_isFileAt hdisk hpath hlink with hnone |
      ⟨p, old, mode, hfile⟩
    · have hkeeping : (t.keeping pending).file? path = none := hnone
      have haside : (t.keeping pending).pending.lookup path = none :=
        lookup_eq_none_of_file?_eq_none hfiles hnone
      rw [DirectoryTree.read_eq, DirectoryTree.read_eq, hkeeping,
        DirectoryTree.file?_writing_eq_none pending hnone,
        DirectoryTree.strip_of_mem_paths hdisk hpath, haside]
      rfl
    · rw [(hfile.keeping pending).read, (hfile.writing pending).read]
      rfl
  addIssue := by
    rintro p q i ⟨pending, report, hsorted, hfiles⟩
    exact ⟨pending, report.addIssue i, hsorted, hfiles⟩
  overwrite := by
    rintro p q path content c ⟨pending, report, hsorted, hfiles⟩ ⟨hpath, hlink⟩
    rcases DirectoryTree.file?_eq_none_or_isFileAt hdisk hpath hlink with hnone |
      ⟨p, old, mode, hfile⟩
    · have hkeeping : (t.keeping pending).file? path = none := hnone
      have hwriting := DirectoryTree.file?_writing_eq_none pending hnone
      exact Or.inr ⟨_, DirectoryTree.overwrite_of_file?_eq_none hkeeping content,
        DirectoryTree.overwrite_of_file?_eq_none hwriting content⟩
    · refine Or.inl ⟨_, _, hfile.overwrite_keeping pending content,
        hfile.overwrite_writing pending content, _, _, pairwise_insertFile hsorted, fun f hf => ?_⟩
      rcases mem_insertFile hf with rfl | hf
      · exact ⟨p, old, mode, hfile⟩
      · exact hfiles f hf

/-- Both runs come to an end, and the first has told of the second. -/
theorem exists_foretold {m : Migration} (hsound : m.provider.Sound) {t : DirectoryTree}
    (hdisk : t.disk.isWellFormed = true) (hlinks : t.AvoidsLinks (m.Selects (t.keeping []))) :
    ∃ p q, (m.run (t.keeping [])).value = .ok p ∧ (m.run (t.writing [])).value = .ok q ∧
      Foretold t p q := by
  have hread : FileTree.read (t.writing []) m.config.ruleSetPath =
      FileTree.read (t.keeping []) m.config.ruleSetPath := by
    rw [DirectoryTree.writing_nil]
    rfl
  obtain ⟨hsets, houtcome⟩ := setsOf_congr hread
  have halike : EndAlike m (Foretold t) (m.run (t.keeping [])).value
      (m.run (t.writing [])).value := by
    rw [run_value_eq_applyAllSets, run_value_eq_applyAllSets, hsets, houtcome]
    refine (simulation_foretold hdisk).applyAllSets ?_ ⟨[], .ofOutcome _, .nil, by simp⟩
    rintro set hset p q ⟨pending, report, -, -⟩ path hpath
    obtain ⟨hmem, hselects⟩ := List.mem_filter.1 hpath
    exact ⟨hmem, hlinks path hmem ⟨set, hset, hselects⟩⟩
  exact halike.exists_of_sound hsound

/-- A dry run leaves the disk as it is, by whatever paths it writes. -/
theorem diskInvariant (disk : Node) :
    Invariant (fun _ => True) fun p : Progress DirectoryTree =>
      p.tree.disk = disk ∧ p.tree.dryRun = true where
  addIssue _ h := h
  overwrite := by
    rintro p path content t c ⟨hdisk, hdry⟩ - hwritten
    obtain ⟨names, old, mode, -, -, rfl⟩ := DirectoryTree.overwrite_eq_ok hwritten
    simp only [if_pos hdry]
    exact ⟨hdisk, hdry⟩

/-- **A dry run leaves the disk as it is, and tells what the run would do**, as long as no path that
it selects meets a link.  The reports are the same, and the disk after the run is the disk with what
the dry run has kept aside laid over it.  Everything that it has kept aside is for a file that is
there, and the file has it after the run.  On any disk both runs come to an end, and the dry run has
written nothing. -/
theorem dryRun_foretells_run (m : Migration) (hsound : m.provider.Sound) (disk : Node)
    (base : Place) (root : String) :
    ∃ p q, (m.run (⟨disk, base, root, true, []⟩ : DirectoryTree)).value = .ok p ∧
      (m.run (⟨disk, base, root, false, []⟩ : DirectoryTree)).value = .ok q ∧
      p.tree.disk = disk ∧
      (disk.isWellFormed = true →
        (⟨disk, base, root, true, []⟩ : DirectoryTree).AvoidsLinks
          (m.Selects (⟨disk, base, root, true, []⟩ : DirectoryTree)) →
        p.report = q.report ∧ q.tree.disk = p.tree.overlaid ∧
        ∀ path content, (path, content) ∈ p.tree.pending → ∃ place old mode,
          p.tree.pathOf? place = some path ∧ disk.get? place = some (.file old mode) ∧
          q.tree.disk.get? place = some (.file content mode)) := by
  obtain ⟨p, hp⟩ := exists_run_value hsound (⟨disk, base, root, true, []⟩ : DirectoryTree)
  obtain ⟨q, hq⟩ := exists_run_value hsound (⟨disk, base, root, false, []⟩ : DirectoryTree)
  refine ⟨p, q, hp, hq, ?_, fun hdisk hlinks => ?_⟩
  · exact ((diskInvariant disk).run (fun _ => ⟨rfl, rfl⟩) (fun _ _ _ _ _ _ _ _ _ => trivial) hp).1
  · obtain ⟨p', q', hp', hq', hforetold⟩ :=
      exists_foretold hsound (t := ⟨disk, base, root, true, []⟩) hdisk hlinks
    rw [DirectoryTree.writing_nil] at hq'
    cases hp.symm.trans hp'
    cases hq.symm.trans hq'
    obtain ⟨pending, report, hsorted, hfiles⟩ := hforetold
    refine ⟨rfl, rfl, fun path content hmem => ?_⟩
    obtain ⟨place, old, mode, hfile⟩ := hfiles _ hmem
    have hlookup : pending.lookup path = some content :=
      (lookup_eq_some_iff_mem ((List.pairwise_map.2 hsorted).imp String.ne_of_lt)).2 hmem
    have hwritten := (hfile.writing pending).get?
    rw [hlookup] at hwritten
    exact ⟨place, old, mode, hfile.pathOf?, hfile.get?, hwritten⟩

/-- Two change sets for the same file, the second for what the first has made of it. -/
def relayDocument : String :=
  "\x7b\"a\":[[null,[\"**/*\"],[[\"old\",\"newer\"]]],[null,[\"**\"],[[\"newer\",\"newest\"]]]]\x7d"

def relayMigration : Migration :=
  { sampleMigration with config := { ruleSetPath := "node_modules/api.json" } }

/-- A directory that a link leads to, with a file whose name is no text in it. -/
def relayDisk : Node :=
  .dir [("here", .link (Name.ofText "/home").bytes), ("home", .dir [("node_modules",
      .dir [("api.json", .file relayDocument.toUTF8 420)]),
    ("src", .dir [("app", .dir [("a.txt", .file "old".toUTF8 493),
      (⟨[0xFF]⟩, .file "old".toUTF8 420)])])])]

theorem dryRun_foretells_run_relay :
    relayMigration.provider.Sound ∧ relayDisk.isWellFormed = true ∧
      (⟨relayDisk, [], "here", true, []⟩ : DirectoryTree).AvoidsLinks
        (relayMigration.Selects (⟨relayDisk, [], "here", true, []⟩ : DirectoryTree)) ∧
      ∃ p q,
        (relayMigration.run (⟨relayDisk, [], "here", true, []⟩ : DirectoryTree)).value = .ok p ∧
        (relayMigration.run (⟨relayDisk, [], "here", false, []⟩ : DirectoryTree)).value = .ok q ∧
        p.report = q.report ∧ p.tree.disk = relayDisk ∧
        p.tree.pending = [("src/app/a.txt", "newest".toUTF8)] ∧
        ∃ place old mode, relayDisk.get? place = some (.file old mode) ∧
          q.tree.disk.get? place = some (.file "newest".toUTF8 mode) := by
  have hdisk : relayDisk.isWellFormed = true := by decide +kernel
  have hlinks : (⟨relayDisk, [], "here", true, []⟩ : DirectoryTree).AvoidsLinks
      (relayMigration.Selects (⟨relayDisk, [], "here", true, []⟩ : DirectoryTree)) := by
    decide +kernel
  obtain ⟨p, q, hp, hq, hkept, hforetold⟩ :=
    dryRun_foretells_run relayMigration sound_sampleMigration relayDisk [] "here"
  obtain ⟨hreport, -, hwritten⟩ := hforetold hdisk hlinks
  have hpending : (relayMigration.run (⟨relayDisk, [], "here", true, []⟩ : DirectoryTree)).value.map
      (fun p => p.tree.pending) = .ok [("src/app/a.txt", "newest".toUTF8)] := by decide +kernel
  rw [hp] at hpending
  have hpending : p.tree.pending = [("src/app/a.txt", "newest".toUTF8)] := Except.ok.inj hpending
  obtain ⟨place, old, mode, -, hold, hnew⟩ :=
    hwritten "src/app/a.txt" "newest".toUTF8 (by simp [hpending])
  exact ⟨sound_sampleMigration, hdisk, hlinks, p, q, hp, hq, hreport, hkept, hpending, place, old,
    mode, hold, hnew⟩

/-- Two change sets for the same file, by two paths. -/
def detourDocument : String :=
  "\x7b\"a\":[[null,[\"**/\uFFFD/*\"],[[\"old\",\"new\"]]]," ++
    "[null,[\"**/d/*\"],[[\"new\",\"newer\"]]]]\x7d"

/-- A directory whose name is no text and, beside it, a link to another directory whose name is the
text that shows it. -/
def detourDisk : Node :=
  .dir [("api-changes.json", .file detourDocument.toUTF8 420),
    ("src", .dir [("app", .dir [("d", .dir [("a.txt", .file "old".toUTF8 420)]),
      ("\uFFFD", .link (Name.ofText "d").bytes),
      (⟨[0xFF]⟩, .dir [("a.txt", .file "old".toUTF8 420)])])])]

/-- What the first change set writes through the link is what the second finds on the disk.  In a
dry run it is kept aside for another path. -/
theorem dryRun_differs_through_link :
    ¬ ∀ (m : Migration) (disk : Node) (base : Place) (root : String)
      (p q : Progress DirectoryTree), m.provider.Sound → disk.isWellFormed = true →
      (m.run (⟨disk, base, root, true, []⟩ : DirectoryTree)).value = .ok p →
      (m.run (⟨disk, base, root, false, []⟩ : DirectoryTree)).value = .ok q →
      p.report = q.report := by
  intro h
  obtain ⟨p, hp⟩ := exists_run_value sound_sampleMigration
    (⟨detourDisk, [], "", true, []⟩ : DirectoryTree)
  obtain ⟨q, hq⟩ := exists_run_value sound_sampleMigration
    (⟨detourDisk, [], "", false, []⟩ : DirectoryTree)
  have hdry : (sampleMigration.run
      (⟨detourDisk, [], "", true, []⟩ : DirectoryTree)).value.toOption.map
      (fun p => p.report.changes.length) = some 1 := by decide +kernel
  have hreal : (sampleMigration.run
      (⟨detourDisk, [], "", false, []⟩ : DirectoryTree)).value.toOption.map
      (fun p => p.report.changes.length) = some 2 := by decide +kernel
  rw [hp] at hdry
  rw [hq] at hreal
  have hone : p.report.changes.length = 1 := Option.some.inj hdry
  have htwo : q.report.changes.length = 2 := Option.some.inj hreal
  rw [h sampleMigration detourDisk [] "" p q sound_sampleMigration (by decide +kernel) hp hq,
    htwo] at hone
  cases hone

end Codemod
