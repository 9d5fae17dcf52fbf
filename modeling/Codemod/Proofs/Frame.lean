import Codemod.Proofs.Directories
import Codemod.Proofs.Reports

/-!
# What a run leaves alone on a disk

Writing by a path follows links, and the file is put where the path leads.  A visit comes to no
link, but it shows names as texts, and the path of a file whose name is no text may be that of
another entry.  So a run never makes or removes an entry, but it may put a file in the place of a
link.  Where the paths that it writes meet no link, the file that is written is the one that was
visited, and everything else on the disk is left alone, in the directory or not.

## Main definitions

* `Node.SameKind` — entries that differ in contents at most.
* `Node.KeptOrReplaced` — the same, or a file in the place of a link.
* `DirectoryTree.WritesOnly` — only files of given paths have been written.

## Main results

* `Node.rel_get?_mapFiles` — new contents for files keep every entry of a disk as it is.
* `DirectoryTree.rel_get?_overwrite` — writing by any path keeps every entry, or replaces a link.
* `DirectoryTree.WritesOnly.overwrite` — one more file is written.
* `DirectoryTree.writesOnly_of_applyAllSets` — change sets write what they select.
* `run_writes_selected_files_only` — **a run keeps all entries of a disk, and it writes to no file
  that it has not visited and selected**, as long as no path that it selects meets a link.
-/

namespace Codemod

/-! ### Entries -/

/-- `n.SameKind k` says that `n` and `k` differ in contents at most: they are files with the same
mode, links with the same target, or directories with the same names in them. -/
inductive Node.SameKind : Node → Node → Prop
  | file (old new : ByteArray) (mode : Nat) : SameKind (.file old mode) (.file new mode)
  | link (target : List UInt8) : SameKind (.link target) (.link target)
  | dir {entries entries' : List (Name × Node)} :
      entries'.map Prod.fst = entries.map Prod.fst → SameKind (.dir entries) (.dir entries')

/-- `n.KeptOrReplaced k` says that `k` is of the kind of `n`, or a file where `n` is a link. -/
inductive Node.KeptOrReplaced : Node → Node → Prop
  | kept {n k : Node} : n.SameKind k → KeptOrReplaced n k
  | replaced (target : List UInt8) (content : ByteArray) (mode : Nat) :
      KeptOrReplaced (.link target) (.file content mode)

namespace Node

theorem sameKind_mapFiles (f : Place → ByteArray → ByteArray) (n : Node) :
    n.SameKind (n.mapFiles f) := by
  cases n with
  | file content mode =>
    rw [mapFiles_file]
    exact .file _ _ _
  | link target =>
    rw [mapFiles_link]
    exact .link _
  | dir entries =>
    rw [mapFiles_dir]
    exact .dir (by simp [Function.comp_def])

/-- New contents for files keep every entry of a disk as it is. -/
theorem rel_get?_mapFiles (f : Place → ByteArray → ByteArray) (n : Node) (p : Place) :
    Option.Rel SameKind (n.get? p) ((n.mapFiles f).get? p) := by
  rw [get?_mapFiles]
  cases n.get? p with
  | none => exact .none
  | some k => exact .some (sameKind_mapFiles _ k)

theorem SameKind.refl (n : Node) : n.SameKind n := by
  cases n with
  | file content mode => exact .file _ _ _
  | link target => exact .link _
  | dir entries => exact .dir rfl

theorem KeptOrReplaced.trans {n k l : Node} (hnk : n.KeptOrReplaced k) (hkl : k.KeptOrReplaced l) :
    n.KeptOrReplaced l := by
  rcases hnk with (_ | _ | hnames) | _
  · rcases hkl with ⟨⟨⟩⟩
    exact .kept (.file _ _ _)
  · exact hkl
  · rcases hkl with ⟨⟨⟩ | ⟨⟩ | hnames'⟩
    exact .kept (.dir (hnames'.trans hnames))
  · rcases hkl with ⟨⟨⟩⟩
    exact .replaced _ _ _

theorem rel_keptOrReplaced_refl (n : Option Node) : Option.Rel KeptOrReplaced n n := by
  cases n with
  | none => exact .none
  | some n => exact .some (.kept (.refl n))

theorem rel_keptOrReplaced_trans {n k l : Option Node} (hnk : Option.Rel KeptOrReplaced n k)
    (hkl : Option.Rel KeptOrReplaced k l) : Option.Rel KeptOrReplaced n l := by
  cases hnk with
  | none => exact hkl
  | some hnk =>
    cases hkl with
    | some hkl => exact .some (hnk.trans hkl)

theorem lookup_map_set (new : Node) (p : Place) (name x : Name) (entries : List (Name × Node)) :
    (entries.map fun e => if e.1 = name then (e.1, set new e.2 p) else e).lookup x =
      (entries.lookup x).map fun k => if x = name then set new k p else k := by
  induction entries with
  | nil => rfl
  | cons e entries ih =>
    obtain ⟨name', n⟩ := e
    have hhead : (if name' = name then (name', set new n p) else (name', n)) =
        (name', if name' = name then set new n p else n) := by
      split <;> rfl
    rw [List.map_cons, hhead, List.lookup_cons, List.lookup_cons, ih]
    by_cases hx : x = name'
    · simp [hx]
    · simp [beq_false_of_ne hx]

/-- A file in the place of a file with its mode, or in the place of a link, leaves all else as it
is. -/
theorem rel_get?_set {content : ByteArray} {mode : Nat} :
    ∀ {p : Place} {n k : Node}, n.get? p = some k → k.KeptOrReplaced (file content mode) →
      ∀ q, Option.Rel KeptOrReplaced (n.get? q) ((set (file content mode) n p).get? q) := by
  intro p
  induction p with
  | nil =>
    intro n k hn hk q
    rw [get?_nil] at hn
    cases hn
    rw [set]
    cases q with
    | nil => rw [get?_nil, get?_nil]; exact .some hk
    | cons x q =>
      -- neither is a directory
      rcases hk with ⟨⟨⟩⟩ | _
      · exact .none
      · exact .none
  | cons name p ih =>
    intro n k hn hk q
    cases n with
    | file content' mode' => cases hn
    | link target => cases hn
    | dir entries =>
      rw [get?_dir_cons] at hn
      obtain ⟨n', hn', hbelow⟩ := Option.bind_eq_some_iff.1 hn
      rw [set]
      cases q with
      | nil =>
        rw [get?_nil, get?_nil]
        refine .some (.kept (.dir ?_))
        rw [List.map_map]
        refine List.map_congr_left fun e _ => ?_
        rw [Function.comp_apply]
        split <;> rfl
      | cons x q =>
        rw [get?_dir_cons, get?_dir_cons, lookup_map_set]
        by_cases hx : x = name
        · subst hx
          rw [hn', Option.map_some, if_pos rfl]
          exact ih hbelow hk q
        · simp only [if_neg hx, Option.map_id_fun', id_eq]
          exact rel_keptOrReplaced_refl _

/-- A name that leads to a link is the name of it. -/
theorem get?_of_walk_atLink {top : Node} {p q : Place} {name : Name} {target : List UInt8}
    {rest : List Name} (h : top.walk p [name] = .atLink q target rest) :
    top.get? (p ++ [name]) = some (.link target) := by
  rw [walk] at h
  rcases hp : top.get? p with _ | (_ | _ | entries)
  · simp [hp] at h
  · simp [hp] at h
  · simp [hp] at h
  · simp only [hp, walk] at h
    split at h
    · cases h
    · split at h
      · cases h
      · rcases hname : entries.lookup name with _ | (_ | target' | _)
        · simp [hname] at h
        · simp [hname] at h
        · simp only [hname, Walk.atLink.injEq] at h
          rw [get?_append, hp, Option.bind_some, get?_dir_cons, hname, Option.bind_some, get?_nil,
            h.2.1]
        · simp [hname] at h

/-- Where names lead to a file, the entry of the last name is this file or a link. -/
theorem exists_entry_of_file? {top : Node} {p place : Place} {init : List Name} {last : Name}
    {content : ByteArray} {mode : Nat} (hinit : top.resolve? p init = some place)
    (hfile : top.file? p (init ++ [last]) = some (content, mode)) :
    ∃ k, top.get? (place ++ [last]) = some k ∧ ∀ new, k.KeptOrReplaced (file new mode) := by
  cases hwalk : top.walk place [last] with
  | atLink q target rest =>
    exact ⟨.link target, get?_of_walk_atLink hwalk, fun new => .replaced _ _ _⟩
  | lost why =>
    have hresolve : top.resolve? p (init ++ [last]) = (walk top place [last]).place? :=
      resolve?_append_eq hinit (by simp [hwalk])
    simp [file?, find?, hresolve, hwalk, Walk.place?] at hfile
  | arrived q =>
    rw [file?, find?, resolve?_append hinit hwalk, Option.bind_some] at hfile
    rcases hq : top.get? q with _ | (⟨content', mode'⟩ | _ | _)
    · simp [hq] at hfile
    · simp only [hq, Option.some.injEq, Prod.mk.injEq] at hfile
      have harrived : top.walk place ([] ++ [last]) = .arrived q := hwalk
      obtain ⟨place', hplace', rfl⟩ := walk_of_arrived_file harrived hq
      rw [walk, Walk.arrived.injEq] at hplace'
      subst hplace'
      exact ⟨_, hq, fun new => hfile.2 ▸ .kept (.file _ _ _)⟩
    · simp [hq] at hfile
    · simp [hq] at hfile

end Node

/-! ### Files that have been written -/

namespace DirectoryTree

theorem rel_get?_put {disk : Node} {base : Place} {names : List Name} {old : ByteArray} {mode : Nat}
    (hfile : disk.file? base names = some (old, mode)) (new : ByteArray) (q : Place) :
    Option.Rel Node.KeptOrReplaced (disk.get? q)
      ((put disk base names (.file new mode)).get? q) := by
  rcases List.eq_nil_or_concat' names with rfl | ⟨init, last, rfl⟩
  · have hsame : put disk base [] (.file new mode) = disk := by
      rw [put]
      cases disk.resolve? base [] <;> rfl
    rw [hsame]
    exact Node.rel_keptOrReplaced_refl _
  · rw [put, List.dropLast_concat, List.getLast?_concat]
    cases hinit : disk.resolve? base init with
    | none => exact Node.rel_keptOrReplaced_refl _
    | some place =>
      obtain ⟨k, hk, hkept⟩ := Node.exists_entry_of_file? hinit hfile
      exact Node.rel_get?_set hk (hkept new) q

/-- **Writing by any path keeps every entry of the disk, or puts a file in the place of a link.** -/
theorem rel_get?_overwrite {t t' : DirectoryTree} {path : String} {content : ByteArray}
    (h : (t.overwrite path content).value = .ok t') (q : Place) :
    Option.Rel Node.KeptOrReplaced (t.disk.get? q) (t'.disk.get? q) := by
  obtain ⟨names, old, mode, -, hfile, rfl⟩ := overwrite_eq_ok h
  by_cases hdry : t.dryRun = true
  · rw [if_pos hdry]
    exact Node.rel_keptOrReplaced_refl _
  · rw [if_neg hdry]
    exact rel_get?_put hfile content q

/-- What is written, by whatever paths, keeps every entry or replaces a link. -/
theorem entriesInvariant (t : DirectoryTree) :
    Invariant (fun _ => True) fun p : Progress DirectoryTree =>
      ∀ q, Option.Rel Node.KeptOrReplaced (t.disk.get? q) (p.tree.disk.get? q) where
  addIssue _ h := h
  overwrite _ h _ hwritten q := Node.rel_keptOrReplaced_trans (h q) (rel_get?_overwrite hwritten q)

/-- `t.WritesOnly S t'` says that `t'` is `t` after files have been written, to the disk or aside,
whose paths `S` holds of. -/
def WritesOnly (S : String → Prop) (t t' : DirectoryTree) : Prop :=
  ∃ f pending, t' = t.withContents f pending ∧
    (∀ q content, (∀ path, t.pathOf? q = some path → ¬ S path) → f q content = content) ∧
    ∀ path, ¬ S path → pending.lookup path = t.pending.lookup path

namespace WritesOnly

variable {S : String → Prop} {t t' : DirectoryTree}

theorem refl (S : String → Prop) (t : DirectoryTree) : t.WritesOnly S t :=
  ⟨fun _ content => content, t.pending, (withContents_id t t.pending).symm, fun _ _ _ => rfl,
    fun _ _ => rfl⟩

theorem mono {S' : String → Prop} (h : t.WritesOnly S t') (hS : ∀ path, S path → S' path) :
    t.WritesOnly S' t' := by
  obtain ⟨f, pending, rfl, hf, hpending⟩ := h
  refine ⟨f, pending, rfl, fun q content hq => hf q content fun path hpath => ?_,
    fun path hpath => ?_⟩
  · exact mt (hS path) (hq path hpath)
  · exact hpending path (mt (hS path) hpath)

theorem paths (h : t.WritesOnly S t') : t'.paths = t.paths := by
  obtain ⟨f, pending, rfl, -⟩ := h
  exact paths_withContents t f pending

/-- One more file is written. -/
theorem overwrite (h : t.WritesOnly S t') (hdisk : t.disk.isWellFormed = true) {path : String}
    (hmem : path ∈ t.paths) (hlink : t.MeetsNoLink path) (hpath : path ≠ "" → S path)
    {content : ByteArray} {t'' : DirectoryTree}
    (hwritten : (t'.overwrite path content).value = .ok t'') : t.WritesOnly S t'' := by
  obtain ⟨f, pending, rfl, hf, hpending⟩ := h
  rcases file?_eq_none_or_isFileAt hdisk hmem hlink with hnone | ⟨p, old, mode, hfile⟩
  · rw [overwrite_of_file?_eq_none (file?_withContents_eq_none t f pending hnone)] at hwritten
    cases hwritten
  · have hS : S path := hpath hfile.ne_empty
    rw [(hfile.withContents f pending).overwrite] at hwritten
    cases hwritten
    by_cases hdry : (t.withContents f pending).dryRun = true
    · -- what is kept aside is looked up by path
      rw [if_pos hdry, withContents_withContents]
      refine ⟨_, _, rfl, hf, fun q hq => ?_⟩
      have hne : q ≠ path := by
        rintro rfl
        exact hq hS
      show (insertFile path content pending).lookup q = t.pending.lookup q
      rw [lookup_insertFile, if_neg hne, hpending q hq]
    · -- what is written is at the place of the path, and no other place has the path
      rw [if_neg hdry, withContents_withContents]
      refine ⟨_, _, rfl, fun q b hq => ?_, hpending⟩
      have hne : q ≠ p := by
        rintro rfl
        exact hq path hfile.pathOf? hS
      show (if q = p then content else f q b) = b
      rw [if_neg hne, hf q b hq]

theorem invariant (S : String → Prop) (hdisk : t.disk.isWellFormed = true) :
    Invariant (fun path => path ∈ t.paths ∧ t.MeetsNoLink path ∧ (path ≠ "" → S path))
      fun p : Progress DirectoryTree => t.WritesOnly S p.tree where
  addIssue _ h := h
  overwrite _ h hpath hwritten := h.overwrite hdisk hpath.1 hpath.2.1 hpath.2.2 hwritten

/-- The entries of the disk are as they were. -/
theorem rel_get? (h : t.WritesOnly S t') (q : Place) :
    Option.Rel Node.SameKind (t.disk.get? q) (t'.disk.get? q) := by
  obtain ⟨f, pending, rfl, -⟩ := h
  exact Node.rel_get?_mapFiles f t.disk q

/-- A place without such a path has the same file. -/
theorem get?_eq_file_iff (h : t.WritesOnly S t') {q : Place}
    (hq : ∀ path, t.pathOf? q = some path → ¬ S path) (content : ByteArray) (mode : Nat) :
    t'.disk.get? q = some (.file content mode) ↔ t.disk.get? q = some (.file content mode) := by
  obtain ⟨f, pending, rfl, hf, -⟩ := h
  show (t.disk.mapFiles f).get? q = some (.file content mode) ↔ _
  rw [Node.get?_mapFiles_eq_file_iff]
  simp only [hf q _ hq, exists_eq_right]

/-- The same is read by any other path. -/
theorem read (h : t.WritesOnly S t') (hdisk : t.disk.isWellFormed = true) {path : String}
    (hmem : path ∈ t.paths) (hlink : t.MeetsNoLink path) (hpath : ¬ S path) :
    t'.read path = t.read path := by
  obtain ⟨f, pending, rfl, hf, hpending⟩ := h
  rcases file?_eq_none_or_isFileAt hdisk hmem hlink with hnone | ⟨p, content, mode, hfile⟩
  · rw [read_eq, read_eq, hnone, file?_withContents_eq_none t f pending hnone,
      strip_of_mem_paths hdisk hmem, ← hpending path hpath]
    rfl
  · have hother : ∀ path', t.pathOf? p = some path' → ¬ S path' := by
      intro path' hpath'
      cases hfile.pathOf?.symm.trans hpath'
      exact hpath
    rw [(hfile.withContents f pending).read, hfile.read, hf p content hother]
    show some ((pending.lookup path).getD content) = _
    rw [hpending path hpath]

end WritesOnly

/-- Change sets write what they select. -/
theorem writesOnly_of_applyAllSets {m : Migration} {t : DirectoryTree}
    (hdisk : t.disk.isWellFormed = true) {sets : List PreparedSet}
    (hlinks : t.AvoidsLinks fun path => ∃ set ∈ sets, set.selector.selects path = true) {r : Report}
    {p : Progress DirectoryTree} (h : (m.applyAllSets sets ⟨t, r⟩).value = .ok p) :
    t.WritesOnly (fun path => path ∈ t.paths ∧ path ≠ "" ∧
      ∃ set ∈ sets, set.selector.selects path = true) p.tree := by
  refine (WritesOnly.invariant _ hdisk).applyAllSets ?_ (WritesOnly.refl _ t) h
  intro set hset q hI path hpath
  obtain ⟨hmem, hselects⟩ := List.mem_filter.1 hpath
  have hmem : path ∈ t.paths := hI.paths ▸ hmem
  have hselected : ∃ set ∈ sets, set.selector.selects path = true := ⟨set, hset, hselects⟩
  exact ⟨hmem, hlinks path hmem hselected, fun hne => ⟨hmem, hne, hselected⟩⟩

end DirectoryTree

/-! ### Runs -/

/-- **A run keeps all entries of a disk, and it writes to no file that it has not visited and
selected**, as long as no path that it selects meets a link.  Wherever links lead, in the directory
or out of it, there is the same at every place before and after: a file with the same mode, a link
with the same target, or a directory with the same names.  Contents differ at most for files that
are below the place of the directory, without an ignored directory between, and whose path is
selected by one of the change sets.  On any disk no entry is made or removed, and only a link
becomes something else. -/
theorem run_writes_selected_files_only (m : Migration) (tree : DirectoryTree) :
    (∀ p, (m.run tree).value = .ok p →
      (∀ place,
        Option.Rel Node.KeptOrReplaced (tree.disk.get? place) (p.tree.disk.get? place)) ∧
      (tree.disk.isWellFormed = true → tree.AvoidsLinks (m.Selects tree) →
        (∀ place, Option.Rel Node.SameKind (tree.disk.get? place) (p.tree.disk.get? place)) ∧
        ∀ place old new mode, tree.disk.get? place = some (.file old mode) →
          p.tree.disk.get? place = some (.file new mode) → new ≠ old →
          ∃ top names, tree.disk.resolve? tree.base (Path.names tree.root) = some top ∧
            place = top ++ names ∧ names ≠ [] ∧
            (∀ name ∈ names.dropLast, name ∉ Node.ignoredNames.map Name.ofText) ∧
            m.Selects tree (Path.ofNames names))) ∧
    (m.provider.Sound → ∃ p, (m.run tree).value = .ok p) := by
  refine ⟨fun p hp => ?_, fun hsound => exists_run_value hsound _⟩
  rw [run_value_eq_applyAllSets] at hp
  refine ⟨tree.entriesInvariant.applyAllSets (fun _ _ _ _ _ _ => trivial)
    (fun _ => Node.rel_keptOrReplaced_refl _) hp, fun hdisk hlinks => ?_⟩
  have hwrites := DirectoryTree.writesOnly_of_applyAllSets hdisk hlinks hp
  refine ⟨hwrites.rel_get?, fun place old new mode hold hnew hne => ?_⟩
  by_contra hnone
  -- otherwise the place has no path that has been written, and the same file
  refine hne ?_
  have hsame := (hwrites.get?_eq_file_iff (q := place) ?_ new mode).1 hnew
  · rw [hold] at hsame
    cases hsame
    rfl
  · rintro path hpath ⟨hmem, hnonempty, hselected⟩
    have hfile : tree.IsFileAt path place old mode := ⟨hdisk, hold, hpath, hnonempty⟩
    obtain ⟨top, htop, hplace, -⟩ := hfile.exists_place
    refine hnone ⟨top, Path.names path, htop, hplace, Path.names_ne_nil path,
      DirectoryTree.notMem_ignoredNames_of_mem_paths hdisk hmem, ?_⟩
    rw [Path.ofNames_names]
    exact hselected

/-- A file and, beside it, a link to a file out of the directory and a file whose name is no
text. -/
def linkedDisk : Node :=
  .dir [("project", .dir [("api-changes.json", .file sampleDocument.toUTF8 420),
      ("src", .dir [("app", .dir [("a.txt", .file "old".toUTF8 420),
        ("b.txt", .link (Name.ofText "/shared/b.txt").bytes),
        (⟨[0xFF]⟩, .file "old".toUTF8 420)])])]),
    ("shared", .dir [("b.txt", .file "old".toUTF8 493)])]

/-- The link is selected by its path, but neither it nor the file that it leads to is written. -/
theorem run_writes_selected_files_only_linked :
    sampleMigration.provider.Sound ∧ linkedDisk.isWellFormed = true ∧
      (⟨linkedDisk, [], "project", false, []⟩ : DirectoryTree).AvoidsLinks
        (sampleMigration.Selects (⟨linkedDisk, [], "project", false, []⟩ : DirectoryTree)) ∧
      ∃ p, (sampleMigration.run (⟨linkedDisk, [], "project", false, []⟩ : DirectoryTree)).value =
          .ok p ∧
        p.tree.disk.get? ["project", "src", "app", "b.txt"] =
          some (.link (Name.ofText "/shared/b.txt").bytes) ∧
        p.tree.disk.get? ["shared", "b.txt"] = some (.file "old".toUTF8 493) := by
  have hdisk : linkedDisk.isWellFormed = true := by decide +kernel
  have hlinks : (⟨linkedDisk, [], "project", false, []⟩ : DirectoryTree).AvoidsLinks
      (sampleMigration.Selects (⟨linkedDisk, [], "project", false, []⟩ : DirectoryTree)) := by
    decide +kernel
  obtain ⟨hframe, hends⟩ :=
    run_writes_selected_files_only sampleMigration ⟨linkedDisk, [], "project", false, []⟩
  obtain ⟨p, hp⟩ := hends sound_sampleMigration
  obtain ⟨hkinds, hcontents⟩ := (hframe p hp).2 hdisk hlinks
  refine ⟨sound_sampleMigration, hdisk, hlinks, p, hp, ?_, ?_⟩
  · have hlink : linkedDisk.get? ["project", "src", "app", "b.txt"] =
        some (.link (Name.ofText "/shared/b.txt").bytes) := by
      simp [linkedDisk, Node.get?_dir_cons, List.lookup_cons]
    have hkind := hkinds ["project", "src", "app", "b.txt"]
    rw [hlink] at hkind
    generalize p.tree.disk.get? ["project", "src", "app", "b.txt"] = entry at hkind
    rcases hkind with ⟨⟨_⟩⟩ | _
    rfl
  · have hold : linkedDisk.get? ["shared", "b.txt"] = some (.file "old".toUTF8 493) := by
      simp [linkedDisk, Node.get?_dir_cons, List.lookup_cons]
    have hkind := hkinds ["shared", "b.txt"]
    rw [hold] at hkind
    generalize hentry : p.tree.disk.get? ["shared", "b.txt"] = entry at hkind
    rcases hkind with ⟨⟨_, new⟩⟩ | _
    by_cases hnew : new = "old".toUTF8
    · rw [hnew]
    · -- the directory is elsewhere
      obtain ⟨top, names, htop, hplace, -⟩ :=
        hcontents ["shared", "b.txt"] _ new 493 hold hentry hnew
      have htop' : linkedDisk.resolve? [] (Path.names "project") =
          some [Name.ofText "project"] := by decide +kernel
      rw [Option.some.inj (htop.symm.trans htop')] at hplace
      have hname : Name.ofText "shared" = Name.ofText "project" := (List.cons.inj hplace).1
      exact absurd (Name.ofText_inj.1 hname) (by decide)

def disguisedDocument : String :=
  "\x7b\"a\":[[null,[\"**/\uFFFD\"],[[\"old\",\"new\"]]]]\x7d"

/-- A file whose name is no text and, beside it, a link whose name is the text that shows it. -/
def disguisedDirectory : DirectoryTree where
  disk := .dir [("api-changes.json", .file disguisedDocument.toUTF8 420),
    ("src", .dir [("app", .dir [("a.txt", .file "old".toUTF8 420),
      ("\uFFFD", .link (Name.ofText "a.txt").bytes), (⟨[0xFF]⟩, .file "old".toUTF8 420)])])]
  base := []
  root := ""
  dryRun := false
  pending := []

/-- The path of the visited file is that of the link, and a file is put in the place of the link. -/
theorem run_replaces_link :
    ¬ ∀ (m : Migration) (tree : DirectoryTree) (p : Progress DirectoryTree), m.provider.Sound →
      tree.disk.isWellFormed = true → tree.dryRun = false → tree.pending = [] →
      (m.run tree).value = .ok p →
      ∀ place, Option.Rel Node.SameKind (tree.disk.get? place) (p.tree.disk.get? place) := by
  intro h
  obtain ⟨p, hp⟩ := exists_run_value sound_sampleMigration disguisedDirectory
  have hwritten : (sampleMigration.run disguisedDirectory).value.toOption.map
      (fun p => p.tree.disk.fileAt? ["src", "app", "\uFFFD"]) =
      some (some ("new".toUTF8, 420)) := by decide +kernel
  rw [hp] at hwritten
  have hfile := Node.fileAt?_eq_some_iff.1 (Option.some.inj hwritten)
  have hlink : disguisedDirectory.disk.get? ["src", "app", "\uFFFD"] =
      some (.link (Name.ofText "a.txt").bytes) := by
    simp [disguisedDirectory, Node.get?_dir_cons, List.lookup_cons]
  have hkind := h sampleMigration disguisedDirectory p sound_sampleMigration (by decide +kernel) rfl
    rfl hp ["src", "app", "\uFFFD"]
  rw [hlink, hfile] at hkind
  rcases hkind with ⟨⟨⟩⟩

end Codemod
