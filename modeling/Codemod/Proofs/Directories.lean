import Codemod.Proofs.Disks
import Codemod.Tree.Directory

/-!
# Directories whose files change

A path that a visit of a directory comes to is the text that shows the names of a file.  Where the
names are texts it leads back to the file, whatever links there are on the way to the directory.
Where they are not, it leads to a file with other names, or to none, or through a link.  As long as
it meets no link, what is done by path is done at one place: reading reads the file there, and
writing gives new contents to it and to nothing else, or keeps them aside.

## Main definitions

* `DirectoryTree.pathOf?` — the path that leads to a place in the directory.
* `DirectoryTree.MeetsNoLink`, `DirectoryTree.AvoidsLinks` — paths without a link on their way.
* `DirectoryTree.withContents` — a directory after files have been written or kept aside.
* `DirectoryTree.IsFileAt` — a file, its path and its place.

## Main results

* `DirectoryTree.avoidsLinks_of_isText` — where names are texts, paths meet no link.
* `DirectoryTree.file?_eq_none_or_isFileAt` — a path of a visit that meets no link leads to a file
  at its place or to none.
* `DirectoryTree.IsFileAt.eq_of_pathOf?` — no other file has the path.
* `DirectoryTree.IsFileAt.read` — what is read by the path.
* `DirectoryTree.IsFileAt.overwrite` — what is written by the path.
-/

namespace Codemod

namespace Node

/-- `w.isAtLink` says that the way `w` ends at a link. -/
def Walk.isAtLink : Walk → Bool
  | .atLink _ _ _ => true
  | _ => false

theorem Walk.ne_atLink {w : Walk} (h : w.isAtLink = false) (q : Place) (target : List UInt8)
    (rest : List Name) : w ≠ .atLink q target rest := by
  rintro rfl
  cases h

/-- Names of entries that lead to a place are the names of it, and there is something. -/
theorem get?_of_walk_arrived {top n : Node} {p q : Place} {names : List Name}
    (hn : top.get? p = some n) (hnames : ∀ name ∈ names, name.IsEntry)
    (hwalk : walk top p names = .arrived q) : q = p ++ names ∧ ∃ k, top.get? q = some k := by
  induction names generalizing p n with
  | nil =>
    rw [walk, Walk.arrived.injEq] at hwalk
    subst hwalk
    exact ⟨(List.append_nil p).symm, n, hn⟩
  | cons name names ih =>
    rw [List.forall_mem_cons] at hnames
    obtain ⟨hempty, hdot, hdots, -⟩ := hnames.1
    cases n with
    | file content mode => simp [walk, hn] at hwalk
    | link target => simp [walk, hn] at hwalk
    | dir entries =>
      rw [walk, hn] at hwalk
      simp only [hempty, hdot, hdots, decide_false, Bool.or_self, Bool.false_eq_true, if_false]
        at hwalk
      cases hlookup : entries.lookup name with
      | none => simp [hlookup] at hwalk
      | some k =>
        have hk : top.get? (p ++ [name]) = some k := by
          rw [get?_append, hn, Option.bind_some, get?_dir_cons, hlookup, Option.bind_some, get?_nil]
        have hrest : walk top (p ++ [name]) names = .arrived q := by
          cases k <;> simp_all
        obtain ⟨hq, hsome⟩ := ih hk hnames.2 hrest
        exact ⟨by rw [hq, List.append_assoc, List.singleton_append], hsome⟩

end Node

namespace DirectoryTree

/-- The path that leads to a place in the directory.  There is none if a name on the way is no
text. -/
def pathOf? (t : DirectoryTree) (p : Place) : Option String :=
  (t.disk.resolve? t.base (Path.names t.root)).bind fun place =>
    ((p.dropPrefix? place).filter fun names => ∀ name ∈ names, name.IsText).map Path.ofNames

theorem pathOf?_eq_some_iff {t : DirectoryTree} {p : Place} {path : String} :
    t.pathOf? p = some path ↔
      ∃ place names, t.disk.resolve? t.base (Path.names t.root) = some place ∧ p = place ++ names ∧
        (∀ name ∈ names, name.IsText) ∧ Path.ofNames names = path := by
  simp only [pathOf?, Option.bind_eq_some_iff, Option.map_eq_some_iff, Option.filter_eq_some_iff,
    decide_eq_true_iff, List.dropPrefix?_eq_some_iff, beq_iff_eq]
  constructor
  · rintro ⟨place, hplace, names, ⟨⟨_, hp, rfl⟩, htext⟩, hpath⟩
    exact ⟨_, names, hplace, hp, htext, hpath⟩
  · rintro ⟨place, names, hplace, hp, htext, hpath⟩
    exact ⟨place, hplace, names, ⟨⟨_, hp, rfl⟩, htext⟩, hpath⟩

/-! ### New contents -/

/-- A directory after files have been written, to the disk or aside. -/
def withContents (t : DirectoryTree) (f : Place → ByteArray → ByteArray)
    (pending : List (String × ByteArray)) : DirectoryTree :=
  { t with disk := t.disk.mapFiles f, pending := pending }

section WithContents

variable (t : DirectoryTree) (f g : Place → ByteArray → ByteArray)
  (pending pending' : List (String × ByteArray))

theorem pathOf?_withContents (p : Place) : (t.withContents f pending).pathOf? p = t.pathOf? p := by
  simp only [pathOf?, withContents, Node.resolve?_mapFiles]

theorem visit_withContents : (t.withContents f pending).visit = t.visit := by
  simp only [visit, withContents, Node.find?, Node.resolve?_mapFiles]
  cases t.disk.resolve? t.base (Path.names t.root) with
  | none => rfl
  | some place =>
    simp only [Option.bind_some, Node.get?_mapFiles]
    cases t.disk.get? place with
    | none => rfl
    | some n => simp only [Option.map_some, Node.files_mapFiles]

theorem paths_withContents : (t.withContents f pending).paths = t.paths := by
  rw [paths, visit_withContents, paths]

theorem withContents_withContents :
    (t.withContents f pending).withContents g pending' =
      t.withContents (fun p content => g p (f p content)) pending' := by
  simp only [withContents, Node.mapFiles_mapFiles]

theorem withContents_id :
    t.withContents (fun _ content => content) pending = { t with pending := pending } := by
  simp only [withContents, Node.mapFiles_id]

/-- A path that leads to no file still does not. -/
theorem file?_withContents_eq_none {path : String} (h : t.file? path = none) :
    (t.withContents f pending).file? path = none := by
  have hsame : (t.withContents f pending).locate path = t.locate path := rfl
  rw [file?] at h ⊢
  rw [hsame]
  cases hlocate : t.locate path with
  | error e => rfl
  | ok names =>
    simp only [hlocate, withContents, Node.file?, Node.find?, Node.resolve?_mapFiles] at h ⊢
    cases hplace : t.disk.resolve? t.base names with
    | none => rfl
    | some p =>
      simp only [hplace, Option.bind_some, Node.get?_mapFiles] at h ⊢
      rcases hp : t.disk.get? p with _ | (_ | _ | _)
      · rfl
      · simp [hp] at h
      · simp
      · simp [Node.mapFiles_dir]

end WithContents

/-! ### Paths that lead to no file -/

/-- What is read by a path are the contents that are kept aside for it, or else those of the file
that it leads to. -/
theorem read_eq (t : DirectoryTree) (path : String) :
    t.read path = (t.pending.lookup (Path.strip path)).or ((t.file? path).map Prod.fst) := by
  rw [read, load, file?]
  cases t.pending.lookup (Path.strip path) with
  | some content => rfl
  | none =>
    cases t.locate path with
    | error e => rfl
    | ok names =>
      simp only [Option.none_or]
      rcases t.disk.file? t.base names with _ | ⟨content, mode⟩ <;> rfl

/-- Why a path cannot be written. -/
def refusal (t : DirectoryTree) (path : String) : MigrationError :=
  match t.locate path with
  | .error e => e
  | .ok _ => .internal ("Cannot overwrite missing file: " ++ path)

theorem overwrite_of_file?_eq_none {t : DirectoryTree} {path : String} (h : t.file? path = none)
    (content : ByteArray) : (t.overwrite path content).value = .error (t.refusal path) := by
  rw [file?] at h
  rw [overwrite, refusal]
  cases hlocate : t.locate path with
  | error e => rfl
  | ok names =>
    simp only [hlocate] at h
    simp only [h]
    rfl

/-- What writing comes to: there was a file, and it is kept aside or put where the path leads. -/
theorem overwrite_eq_ok {t t' : DirectoryTree} {path : String} {content : ByteArray}
    (h : (t.overwrite path content).value = .ok t') :
    ∃ names old mode, t.locate path = .ok names ∧ t.disk.file? t.base names = some (old, mode) ∧
      t' = if t.dryRun then { t with pending := insertFile (Path.strip path) content t.pending }
        else { t with disk := put t.disk t.base names (.file content mode) } := by
  rw [overwrite] at h
  cases hlocate : t.locate path with
  | error e =>
    rw [hlocate] at h
    cases h
  | ok names =>
    simp only [hlocate] at h
    rcases hfile : t.disk.file? t.base names with _ | ⟨old, mode⟩
    · rw [hfile] at h
      cases h
    · refine ⟨names, old, mode, rfl, hfile, ?_⟩
      simp only [hfile] at h
      by_cases hdry : t.dryRun = true
      · rw [if_pos hdry] at h ⊢
        cases h
        rfl
      · rw [if_neg hdry] at h ⊢
        cases h
        rfl

/-! ### Files and their paths -/

/-- `t.IsFileAt path p content mode` says that the disk of `t` is well formed, and that `path` is
the path of a file at the place `p` with `content` and `mode`. -/
structure IsFileAt (t : DirectoryTree) (path : String) (p : Place) (content : ByteArray)
    (mode : Nat) : Prop where
  isWellFormed : t.disk.isWellFormed = true
  get? : t.disk.get? p = some (.file content mode)
  pathOf? : t.pathOf? p = some path
  /-- The file is in the directory, it is not the directory itself. -/
  ne_empty : path ≠ ""

theorem locate_of_isCanonical (t : DirectoryTree) {path : String} (h : Path.IsCanonical path) :
    t.locate path = .ok (Path.names t.root ++ Path.names path) := by
  rw [locate, h.strip]
  simp [h.ne_empty, h.dots_notMem_split]

namespace IsFileAt

variable {t : DirectoryTree} {path : String} {p : Place} {content : ByteArray} {mode : Nat}
  (h : t.IsFileAt path p content mode)
include h

/-- The names of the path lead from the directory to the place. -/
theorem exists_place :
    ∃ place, t.disk.resolve? t.base (Path.names t.root) = some place ∧
      p = place ++ Path.names path ∧ Path.IsCanonical path := by
  obtain ⟨place, names, hplace, hp, htext, rfl⟩ := pathOf?_eq_some_iff.1 h.pathOf?
  have hne : names ≠ [] := by
    rintro rfl
    exact h.ne_empty rfl
  have hentries : ∀ name ∈ names, name.IsEntry := fun name hname =>
    Node.isEntry_of_get? h.isWellFormed h.get? name (hp ▸ List.mem_append_right _ hname)
  exact ⟨place, hplace, by rw [hp, Path.names_ofNames_of_isText hne hentries htext],
    Path.isCanonical_ofNames hne hentries⟩

theorem isCanonical : Path.IsCanonical path := by
  obtain ⟨-, -, -, hcanonical⟩ := h.exists_place
  exact hcanonical

theorem isEntry : ∀ name ∈ Path.names path, name.IsEntry :=
  h.isCanonical.isEntry

/-- No other file has the path. -/
theorem eq_of_pathOf? {q : Place} {k : Node} (hk : t.disk.get? q = some k)
    (hq : t.pathOf? q = some path) : q = p := by
  obtain ⟨place, hplace, rfl, -⟩ := h.exists_place
  obtain ⟨place', names, hplace', rfl, htext, rfl⟩ := pathOf?_eq_some_iff.1 hq
  cases hplace.symm.trans hplace'
  have hne : names ≠ [] := by
    rintro rfl
    exact h.ne_empty rfl
  have hentries : ∀ name ∈ names, name.IsEntry := fun name hname =>
    Node.isEntry_of_get? h.isWellFormed hk name (List.mem_append_right _ hname)
  rw [Path.names_ofNames_of_isText hne hentries htext]

theorem strip : Path.strip path = path := h.isCanonical.strip

theorem locate : t.locate path = .ok (Path.names t.root ++ Path.names path) :=
  t.locate_of_isCanonical h.isCanonical

theorem file? :
    t.disk.file? t.base (Path.names t.root ++ Path.names path) = some (content, mode) := by
  obtain ⟨place, hplace, rfl, -⟩ := h.exists_place
  have hwalk := Node.walk_of_get? (by simp) h.isEntry h.get?
  rw [Node.file?, Node.find?, Node.resolve?_append hplace hwalk, Option.bind_some, h.get?]

/-- A file that is put where the path leads has its place. -/
theorem put (new : ByteArray) :
    put t.disk t.base (Path.names t.root ++ Path.names path) (.file new mode) =
      t.disk.mapFiles fun q b => if q = p then new else b := by
  rw [← Node.set_eq_mapFiles h.isWellFormed h.get?]
  obtain ⟨place, hplace, rfl, -⟩ := h.exists_place
  have hentries := h.isEntry
  have hget := h.get?
  obtain ⟨init, last, hnames⟩ :=
    (List.eq_nil_or_concat' (Path.names path)).resolve_left (Path.names_ne_nil path)
  rw [hnames] at hentries hget ⊢
  -- what is before the last name leads to a directory, and there may be links only before that
  rw [← List.append_assoc] at hget
  obtain ⟨entries, hdir⟩ := Node.exists_dir_of_get? hget
  have hinit : ∀ name ∈ init, name.IsEntry := fun name hname =>
    hentries name (List.mem_append_left _ hname)
  have hwalk := Node.walk_of_get? (by simp) hinit hdir
  rw [DirectoryTree.put, ← List.append_assoc, List.dropLast_concat, List.getLast?_concat,
    Node.resolve?_append hplace hwalk, ← List.append_assoc]

/-- What is read by the path are the contents that are kept aside for it, or else those of the
file. -/
theorem read : t.read path = some ((t.pending.lookup path).getD content) := by
  rw [read_eq, h.strip, DirectoryTree.file?, h.locate]
  simp only [h.file?]
  cases t.pending.lookup path <;> rfl

/-- What is written by the path goes to the file, or in a dry run is kept aside. -/
theorem overwrite (new : ByteArray) :
    (t.overwrite path new).value =
      .ok (if t.dryRun then t.withContents (fun _ b => b) (insertFile path new t.pending)
        else t.withContents (fun q b => if q = p then new else b) t.pending) := by
  rw [DirectoryTree.overwrite, h.locate]
  simp only [h.file?, h.strip, withContents_id, h.put]
  by_cases hdry : t.dryRun = true
  · rw [if_pos hdry, if_pos hdry]
    rfl
  · rw [if_neg hdry, if_neg hdry]
    rfl

/-- After writing, the file is still there. -/
theorem withContents (f : Place → ByteArray → ByteArray) (pending : List (String × ByteArray)) :
    (t.withContents f pending).IsFileAt path p (f p content) mode where
  isWellFormed := (Node.isWellFormed_mapFiles f t.disk).trans h.isWellFormed
  get? := by
    simp [DirectoryTree.withContents, Node.get?_mapFiles, h.get?]
  pathOf? := (pathOf?_withContents t f pending p).trans h.pathOf?
  ne_empty := h.ne_empty

end IsFileAt

/-! ### The paths of a visit -/

/-- The names of a visit. -/
theorem mem_visit_iff {t : DirectoryTree} {names : List Name} :
    names ∈ t.visit ↔ ∃ place n, t.disk.resolve? t.base (Path.names t.root) = some place ∧
      t.disk.get? place = some n ∧ names ∈ n.files := by
  rw [visit, Node.find?]
  cases t.disk.resolve? t.base (Path.names t.root) with
  | none => simp
  | some place =>
    simp only [Option.bind_some, Option.some.injEq]
    cases hn : t.disk.get? place with
    | none => simp [hn]
    | some n => simp [hn]

/-- `t.MeetsNoLink path` says that the names of `path` meet no link on their way through the
directory `t`. -/
def MeetsNoLink (t : DirectoryTree) (path : String) : Prop :=
  ∀ place ∈ t.disk.resolve? t.base (Path.names t.root),
    (t.disk.walk place (Path.names path)).isAtLink = false

instance (t : DirectoryTree) (path : String) : Decidable (t.MeetsNoLink path) :=
  inferInstanceAs (Decidable (∀ place ∈ t.disk.resolve? t.base (Path.names t.root),
    (t.disk.walk place (Path.names path)).isAtLink = false))

/-- `t.AvoidsLinks S` says that the paths of a visit of `t` that `S` holds of meet no link. -/
def AvoidsLinks (t : DirectoryTree) (S : String → Prop) : Prop :=
  ∀ path ∈ t.paths, S path → t.MeetsNoLink path

instance (t : DirectoryTree) (S : String → Prop) [DecidablePred S] : Decidable (t.AvoidsLinks S) :=
  inferInstanceAs (Decidable (∀ path ∈ t.paths, S path → t.MeetsNoLink path))

section Visit

variable {t : DirectoryTree} (hdisk : t.disk.isWellFormed = true)
include hdisk

/-- A visit comes to the directory itself, if it is a file, or to names of entries. -/
theorem isEntry_of_mem_visit {names : List Name} (hnames : names ∈ t.visit) :
    ∀ name ∈ names, name.IsEntry := by
  obtain ⟨place, n, -, hn, hfiles⟩ := mem_visit_iff.1 hnames
  exact (Node.get?_of_mem_files (Node.isWellFormed_of_get? hdisk hn) hfiles).2

theorem strip_of_mem_paths {path : String} (hpath : path ∈ t.paths) : Path.strip path = path := by
  obtain ⟨names, hnames, rfl⟩ := List.mem_map.1 hpath
  exact Path.strip_join (List.forall_mem_map.2 fun name hname =>
    (isEntry_of_mem_visit hdisk hnames name hname).isName_text)

/-- A path that shows names as they are meets no link. -/
theorem meetsNoLink_ofNames {names : List Name} (hnames : names ∈ t.visit)
    (htext : ∀ name ∈ names, name.IsText) : t.MeetsNoLink (Path.ofNames names) := by
  intro place hplace
  obtain ⟨place', n, hplace', hn, hfiles⟩ := mem_visit_iff.1 hnames
  cases (Option.mem_def.1 hplace).symm.trans hplace'
  obtain ⟨⟨content, mode, hfile⟩, hentries⟩ :=
    Node.get?_of_mem_files (Node.isWellFormed_of_get? hdisk hn) hfiles
  have hget : t.disk.get? (place ++ names) = some (.file content mode) := by
    rw [Node.get?_append, hn]
    exact hfile
  by_cases hne : names = []
  · -- the directory is a file, and nothing is in it
    subst hne
    rw [List.append_nil] at hget
    have hempty : Path.names (Path.ofNames []) = [Name.ofText ""] := rfl
    rw [hempty, Node.walk, hget]
    rfl
  · rw [Path.names_ofNames_of_isText hne hentries htext,
      Node.walk_of_get? (by simp) hentries hget]
    rfl

/-- Where the names of a visit are texts, no path meets a link. -/
theorem avoidsLinks_of_isText (htext : ∀ names ∈ t.visit, ∀ name ∈ names, name.IsText)
    (S : String → Prop) : t.AvoidsLinks S := by
  rintro path hpath -
  obtain ⟨names, hnames, rfl⟩ := List.mem_map.1 hpath
  exact meetsNoLink_ofNames hdisk hnames (htext names hnames)

/-- A path of a visit that meets no link leads to a file at its place or to none. -/
theorem file?_eq_none_or_isFileAt {path : String} (hpath : path ∈ t.paths)
    (hlink : t.MeetsNoLink path) :
    t.file? path = none ∨ ∃ p content mode, t.IsFileAt path p content mode := by
  obtain ⟨names, hnames, rfl⟩ := List.mem_map.1 hpath
  have hentries := isEntry_of_mem_visit hdisk hnames
  by_cases hne : names = []
  · subst hne
    exact Or.inl rfl
  have hcanonical := Path.isCanonical_ofNames hne hentries
  obtain ⟨place, n, hplace, hn, -⟩ := mem_visit_iff.1 hnames
  have hwalk := hlink place hplace
  rw [file?, locate_of_isCanonical t hcanonical]
  simp only [Node.file?, Node.find?, Node.resolve?_append_eq hplace (Node.Walk.ne_atLink hwalk)]
  cases harrived : t.disk.walk place (Path.names (Path.ofNames names)) with
  | lost why => exact Or.inl rfl
  | atLink q target rest => rw [harrived] at hwalk; cases hwalk
  | arrived q =>
    obtain ⟨rfl, k, hk⟩ := Node.get?_of_walk_arrived hn hcanonical.isEntry harrived
    simp only [Node.Walk.place?, Option.bind_some, hk]
    cases k with
    | link target => exact Or.inl rfl
    | dir entries => exact Or.inl rfl
    | file content mode =>
      refine Or.inr ⟨_, content, mode, hdisk, hk, ?_, hcanonical.ne_empty⟩
      exact pathOf?_eq_some_iff.2
        ⟨place, _, hplace, rfl, Path.isText_of_mem_names, Path.ofNames_names _⟩

/-- No directory on the way to a file that a path of a visit leads to is ignored. -/
theorem notMem_ignoredNames_of_mem_paths {path : String} (hpath : path ∈ t.paths) :
    ∀ name ∈ (Path.names path).dropLast, name ∉ Node.ignoredNames.map Name.ofText := by
  obtain ⟨names, hnames, rfl⟩ := List.mem_map.1 hpath
  obtain ⟨place, n, -, hn, hfiles⟩ := mem_visit_iff.1 hnames
  by_cases hne : names = []
  · subst hne
    decide
  rw [Path.names_ofNames hne (isEntry_of_mem_visit hdisk hnames), ← List.map_dropLast]
  rintro _ hshown hignored
  obtain ⟨name, hname, rfl⟩ := List.mem_map.1 hshown
  obtain ⟨text, htext, hsame⟩ := List.mem_map.1 hignored
  -- what is shown like an ignored name is that name, for it has no U+FFFD
  have hplain : ∀ text ∈ Node.ignoredNames, Name.replacement ∉ text.toList := by decide
  have hentry :=
    Name.eq_ofText_of_text_eq (Name.ofText_injective hsame).symm (hplain text htext)
  exact ((Node.mem_files_iff (Node.isWellFormed_of_get? hdisk hn)).1 hfiles).2 name hname
    (hentry ▸ List.mem_map_of_mem htext)

end Visit

end DirectoryTree

end Codemod
