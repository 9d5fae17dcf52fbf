import Codemod.Proofs.Directories

/-!
# Files laid out in a directory

A file whose path is made of names has its place in a directory.  Files can be laid out there
together as long as none of them is where another needs a directory.  In such a directory, and
without links, paths mean what they say: a file is read by its path and by nothing else, and a visit
comes to all files, unless it passes over their directories.

## Main definitions

* `Path.AreVisited` — paths of files that can be laid out together and that a visit comes to.
* `Node.layOut` — a directory with the given files.
* `Node.Holds`, `DirectoryTree.Holds` — the given files are in a directory, and nothing else is.

## Main results

* `Node.get?_add_file` — what is on a disk after a file has been added.
* `DirectoryTree.holds_ofFiles` — files that can be laid out together.
* `DirectoryTree.Holds.read_eq_some_iff` — what is read from a directory that holds files.
* `DirectoryTree.Holds.perm_paths` — what a visit of it comes to.
* `DirectoryTree.Holds.exists_overwrite` — what writing a file does to it.
-/

namespace Codemod

/-! ### Paths that go together -/

namespace Path

/-- `AreVisited paths` says that files with `paths` can be laid out in one directory so that a
visit comes to all of them: they are made of names, none is a directory of another, and none is in
a directory that is passed over. -/
structure AreVisited (paths : List String) : Prop where
  isCanonical : ∀ path ∈ paths, IsCanonical path
  notIgnored : ∀ path ∈ paths, ∀ name ∈ (split path).dropLast, name ∉ Node.ignoredNames
  eq_of_starts : ∀ path ∈ paths, ∀ other ∈ paths, split path <+: split other → path = other

theorem AreVisited.tail {path : String} {paths : List String} (h : AreVisited (path :: paths)) :
    AreVisited paths where
  isCanonical p hp := h.isCanonical p (List.mem_cons_of_mem _ hp)
  notIgnored p hp := h.notIgnored p (List.mem_cons_of_mem _ hp)
  eq_of_starts p hp q hq := h.eq_of_starts p (List.mem_cons_of_mem _ hp) q (List.mem_cons_of_mem _ hq)

theorem names_prefix_names_iff {path other : String} :
    names path <+: names other ↔ split path <+: split other :=
  List.prefix_map_iff_of_injective Name.ofText_injective

theorem AreVisited.notMem_ignoredNames {paths : List String} (h : AreVisited paths) {path : String}
    (hpath : path ∈ paths) :
    ∀ name ∈ (names path).dropLast, name ∉ Node.ignoredNames.map Name.ofText := by
  rw [names, ← List.map_dropLast]
  refine List.forall_mem_map.2 fun text htext hmem => h.notIgnored path hpath text htext ?_
  exact (List.mem_map_of_injective Name.ofText_injective).1 hmem

end Path

/-! ### Adding a file -/

namespace Node

theorem lookup_setEntry (name q : Name) (change : Option Node → Node)
    (entries : List (Name × Node)) :
    (setEntry name change entries).lookup q =
      if q = name then some (change (entries.lookup name)) else entries.lookup q := by
  induction entries with
  | nil => rw [setEntry, lookup_file_cons]; rfl
  | cons e entries ih =>
    obtain ⟨name', n⟩ := e
    rw [setEntry]
    by_cases hname : name' = name
    · subst hname
      simp only [if_true, lookup_file_cons]
      by_cases hq : q = name' <;> simp [hq]
    · rw [if_neg hname]
      simp only [lookup_file_cons, ih, if_neg (Ne.symm hname)]
      by_cases hq : q = name
      · simp [hq, Ne.symm hname]
      · simp [hq]

theorem mem_setEntry {name : Name} {change : Option Node → Node} {entries : List (Name × Node)}
    {e : Name × Node} (h : e ∈ setEntry name change entries) :
    e = (name, change (entries.lookup name)) ∨ e ∈ entries := by
  induction entries with
  | nil => exact Or.inl (by simpa [setEntry] using h)
  | cons e' entries ih =>
    obtain ⟨name', n⟩ := e'
    rw [setEntry] at h
    by_cases hname : name' = name
    · subst hname
      rw [if_pos rfl] at h
      rw [lookup_file_cons, if_pos rfl]
      exact (List.mem_cons.1 h).imp_right (List.mem_cons_of_mem _)
    · rw [if_neg hname] at h
      rw [lookup_file_cons, if_neg (Ne.symm hname)]
      rcases List.mem_cons.1 h with rfl | h
      · exact Or.inr List.mem_cons_self
      · exact (ih h).imp_right (List.mem_cons_of_mem _)

theorem nodup_setEntry (name : Name) (change : Option Node → Node)
    {entries : List (Name × Node)} (h : (entries.map Prod.fst).Nodup) :
    ((setEntry name change entries).map Prod.fst).Nodup := by
  induction entries with
  | nil => simp [setEntry]
  | cons e entries ih =>
    obtain ⟨hnot, hnodup⟩ := List.nodup_cons.1 h
    rw [setEntry]
    by_cases hname : e.1 = name
    · rw [if_pos hname, List.map_cons, ← hname]
      exact h
    · rw [if_neg hname, List.map_cons, List.nodup_cons]
      refine ⟨fun hmem => ?_, ih hnodup⟩
      obtain ⟨e', he', heq⟩ := List.mem_map.1 hmem
      rcases mem_setEntry he' with rfl | he'
      · exact hname heq.symm
      · exact hnot (heq ▸ List.mem_map_of_mem he')

/-- The entries of what may be a directory. -/
def entriesOf : Option Node → List (Name × Node)
  | some (dir entries) => entries
  | _ => []

theorem lookup_entriesOf (n : Option Node) (name : Name) :
    (entriesOf n).lookup name = n.bind fun k => k.get? [name] := by
  rcases n with _ | (_ | _ | entries)
  · rfl
  · rfl
  · rfl
  · simp [entriesOf, get?_dir_cons]

/-- On the way to what is added there are directories. -/
theorem add_cons (new : Node) (n : Option Node) (name : Name) (p : Place) :
    add new n (name :: p) = dir (setEntry name (fun k => add new k p) (entriesOf n)) := by
  rcases n with _ | (_ | _ | entries) <;> simp [add, entriesOf, setEntry]

/-- What is below the first name of what is added, and what is beside it. -/
theorem get?_add_cons (new : Node) (n : Option Node) (name : Name) (p : Place) (q : Name)
    (qs : Place) :
    (add new n (name :: p)).get? (q :: qs) =
      if q = name then (add new (n.bind fun k => k.get? [name]) p).get? qs
      else n.bind fun k => k.get? (q :: qs) := by
  rw [add_cons, get?_dir_cons, lookup_setEntry, lookup_entriesOf, lookup_entriesOf]
  by_cases hq : q = name
  · rw [if_pos hq, if_pos hq, Option.bind_some]
  · rw [if_neg hq, if_neg hq, Option.bind_assoc]
    congr 1
    funext k
    rw [← get?_append, List.singleton_append]

theorem get?_add_self (new : Node) (n : Option Node) (p : Place) :
    (add new n p).get? p = some new := by
  induction p generalizing n with
  | nil => rw [add, get?_nil]
  | cons name p ih => rw [get?_add_cons, if_pos rfl, ih]

/-- On the way to what is added there are directories. -/
theorem get?_add_above (new : Node) {q : Place} :
    ∀ {p : Place} (n : Option Node), q <+: p → q ≠ p →
      ∃ entries, (add new n p).get? q = some (dir entries) := by
  induction q with
  | nil =>
    intro p n _ hne
    obtain ⟨name, p, rfl⟩ := List.exists_cons_of_ne_nil hne.symm
    exact ⟨_, by rw [add_cons, get?_nil]⟩
  | cons name q ih =>
    intro p n hstarts hne
    obtain ⟨p, rfl, hrest⟩ := List.cons_prefix_iff.1 hstarts
    rw [get?_add_cons, if_pos rfl]
    exact ih _ hrest fun heq => hne (heq ▸ rfl)

/-- What is neither on the way nor below stays. -/
theorem get?_add_beside (new : Node) {p : Place} :
    ∀ {q : Place} (n : Option Node), ¬ p <+: q → ¬ q <+: p →
      (add new n p).get? q = n.bind fun k => k.get? q := by
  induction p with
  | nil => exact fun _ h _ => absurd List.nil_prefix h
  | cons name p ih =>
    intro q n hpq hqp
    cases q with
    | nil => exact absurd List.nil_prefix hqp
    | cons name' q =>
      rw [get?_add_cons]
      by_cases hname : name' = name
      · subst hname
        rw [List.cons_prefix_cons, and_iff_right rfl] at hpq hqp
        rw [if_pos rfl, ih _ hpq hqp, Option.bind_assoc]
        congr 1
        funext k
        rw [← get?_append, List.singleton_append]
      · rw [if_neg hname]

/-- What is on a disk after a file has been added: the file, directories on the way to it, nothing
below it, and elsewhere what was there. -/
theorem get?_add_file (content : ByteArray) (mode : Nat) (n : Option Node) (p q : Place) :
    p = q ∧ (add (file content mode) n p).get? q = some (file content mode) ∨
      (q <+: p ∧ q ≠ p ∧ ∃ entries, (add (file content mode) n p).get? q = some (dir entries)) ∨
      (p <+: q ∧ p ≠ q ∧ (add (file content mode) n p).get? q = none) ∨
      ¬ p <+: q ∧ ¬ q <+: p ∧
        (add (file content mode) n p).get? q = n.bind fun k => k.get? q := by
  by_cases heq : p = q
  · subst heq
    exact Or.inl ⟨rfl, get?_add_self _ n p⟩
  · by_cases hqp : q <+: p
    · exact Or.inr (Or.inl ⟨hqp, Ne.symm heq, get?_add_above _ n hqp (Ne.symm heq)⟩)
    · by_cases hpq : p <+: q
      · refine Or.inr (Or.inr (Or.inl ⟨hpq, heq, ?_⟩))
        obtain ⟨rest, rfl⟩ := hpq
        obtain ⟨name, rest, rfl⟩ := List.exists_cons_of_ne_nil (l := rest) (by simpa using heq)
        rw [get?_append, get?_add_self]
        rfl
      · exact Or.inr (Or.inr (Or.inr ⟨hpq, hqp, get?_add_beside _ n hpq hqp⟩))

theorem isWellFormed_add {new : Node} (hnew : new.isWellFormed = true) {p : Place} :
    ∀ {n : Option Node}, (∀ name ∈ p, name.IsEntry) →
      (∀ k ∈ n, k.isWellFormed = true) → (add new n p).isWellFormed = true := by
  induction p with
  | nil =>
    intro n _ _
    rw [add]
    exact hnew
  | cons name p ih =>
    intro n hp hn
    rw [List.forall_mem_cons] at hp
    -- what may be a directory has well-formed entries
    have hentries : (dir (entriesOf n)).isWellFormed = true := by
      rcases n with _ | (_ | _ | entries)
      · rfl
      · rfl
      · rfl
      · exact hn _ rfl
    obtain ⟨hnodup, hall⟩ := isWellFormed_dir_iff.1 hentries
    rw [add_cons, isWellFormed_dir_iff]
    refine ⟨nodup_setEntry _ _ hnodup, fun e he => ?_⟩
    rcases mem_setEntry he with rfl | he
    · refine ⟨hp.1, ih hp.2 fun k hk => ?_⟩
      exact (hall _ ((lookup_eq_some_iff_mem hnodup).1 hk)).2
    · exact hall e he

/-! ### Directories that hold files -/

/-- `n.Holds files` says that `files` are in the directory `n`, each at the names of its path, and
that nothing else is but directories. -/
structure Holds (n : Node) (files : List (String × ByteArray)) : Prop where
  exists_entries : ∃ entries, n = dir entries
  ne_link (p : Place) (target : List UInt8) : n.get? p ≠ some (link target)
  file_iff (p : Place) (content : ByteArray) :
    (∃ mode, n.get? p = some (file content mode)) ↔
      ∃ path, Path.names path = p ∧ (path, content) ∈ files

/-- A directory with the given files. -/
def layOut : List (String × ByteArray) → Node
  | [] => dir []
  | f :: fs => add (file f.2 420) (some (layOut fs)) (Path.names f.1)

/-- Exactly the files have their names. -/
theorem Holds.file_names_iff {n : Node} {files : List (String × ByteArray)} (h : n.Holds files)
    (path : String) (content : ByteArray) :
    (∃ mode, n.get? (Path.names path) = some (file content mode)) ↔ (path, content) ∈ files := by
  rw [h.file_iff]
  constructor
  · rintro ⟨path', hsame, hmem⟩
    exact Path.names_injective hsame ▸ hmem
  · exact fun hmem => ⟨path, rfl, hmem⟩

theorem Holds.add {n : Node} {files : List (String × ByteArray)} (h : n.Holds files)
    {path : String} (hvisited : Path.AreVisited (path :: files.map Prod.fst))
    (hnew : path ∉ files.map Prod.fst) (content : ByteArray) (mode : Nat) :
    (add (file content mode) (some n) (Path.names path)).Holds ((path, content) :: files) where
  exists_entries := by
    obtain ⟨name, p, hnames⟩ := List.exists_cons_of_ne_nil (Path.names_ne_nil path)
    exact ⟨_, by rw [hnames, add_cons]⟩
  ne_link q target := by
    rcases get?_add_file content mode (some n) (Path.names path) q with
      ⟨-, hget⟩ | ⟨-, -, entries, hget⟩ | ⟨-, -, hget⟩ | ⟨-, -, hget⟩
    · simp [hget]
    · simp [hget]
    · simp [hget]
    · rw [hget]
      exact h.ne_link q target
  file_iff q content' := by
    have hself : path ∈ path :: files.map Prod.fst := List.mem_cons_self
    have hmem : ∀ {path'}, (path', content') ∈ (path, content) :: files →
        path' ∈ path :: files.map Prod.fst := List.mem_map_of_mem (f := Prod.fst)
    rcases get?_add_file content mode (some n) (Path.names path) q with
      ⟨rfl, hget⟩ | ⟨hstarts, hne, entries, hget⟩ | ⟨hstarts, hne, hget⟩ | ⟨hpq, -, hget⟩
    · have hnot : (path, content') ∉ files := fun hin =>
        hnew (List.mem_map_of_mem (f := Prod.fst) hin)
      simp [hget, hnot, Path.names_injective.eq_iff, eq_comm]
    · -- a directory on the way, so no file has its path
      refine iff_of_false (by simp [hget]) ?_
      rintro ⟨path', rfl, hin⟩
      rw [hvisited.eq_of_starts path' (hmem hin) path hself
        (Path.names_prefix_names_iff.1 hstarts)] at hne
      exact hne rfl
    · refine iff_of_false (by simp [hget]) ?_
      rintro ⟨path', rfl, hin⟩
      rw [hvisited.eq_of_starts path hself path' (hmem hin)
        (Path.names_prefix_names_iff.1 hstarts)] at hne
      exact hne rfl
    · rw [hget, Option.bind_some, h.file_iff]
      refine exists_congr fun path' => and_congr_right ?_
      rintro rfl
      have hne : path' ≠ path := by
        rintro rfl
        exact hpq (List.prefix_refl _)
      simp [hne]

theorem holds_layOut :
    ∀ {files : List (String × ByteArray)}, (files.map Prod.fst).Nodup →
      Path.AreVisited (files.map Prod.fst) →
      (layOut files).isWellFormed = true ∧ (layOut files).Holds files := by
  intro files
  induction files with
  | nil =>
    -- there is nothing but the directory itself
    intro _ _
    refine ⟨rfl, ⟨[], rfl⟩, fun p target => ?_, fun p content => ?_⟩
    · cases p <;> simp [layOut, get?]
    · cases p <;> simp [layOut, get?]
  | cons f files ih =>
    intro hnodup hvisited
    obtain ⟨hnew, hnodup⟩ := List.nodup_cons.1 hnodup
    obtain ⟨hwell, hholds⟩ := ih hnodup hvisited.tail
    refine ⟨isWellFormed_add rfl (hvisited.isCanonical _ List.mem_cons_self).isEntry ?_,
      hholds.add hvisited hnew f.2 420⟩
    rintro k ⟨⟩
    exact hwell

namespace Holds

variable {n : Node} {files : List (String × ByteArray)} (h : n.Holds files)
include h

/-- A visit comes to the files of the directory. -/
theorem perm_files (hwell : n.isWellFormed = true) (hnodup : (files.map Prod.fst).Nodup)
    (hvisited : Path.AreVisited (files.map Prod.fst)) :
    (n.files.map Path.ofNames).Perm (files.map Prod.fst) := by
  -- the places of files are the names of paths
  have hplaces : n.files.Perm ((files.map Prod.fst).map Path.names) := by
    rw [List.perm_ext_iff_of_nodup (nodup_files hwell) (hnodup.map Path.names_injective)]
    intro p
    rw [mem_files_iff hwell, List.mem_map]
    constructor
    · rintro ⟨⟨content, mode, hfile⟩, -⟩
      obtain ⟨path, hpath, hmem⟩ := (h.file_iff p content).1 ⟨mode, hfile⟩
      exact ⟨path, List.mem_map_of_mem (f := Prod.fst) hmem, hpath⟩
    · rintro ⟨path, hpath, rfl⟩
      obtain ⟨⟨_, content⟩, hmem, rfl⟩ := List.mem_map.1 hpath
      obtain ⟨mode, hfile⟩ := (h.file_names_iff _ content).2 hmem
      exact ⟨⟨content, mode, hfile⟩, hvisited.notMem_ignoredNames hpath⟩
  have hshown : Path.ofNames ∘ Path.names = id := funext Path.ofNames_names
  have hpaths := hplaces.map Path.ofNames
  rwa [List.map_map, hshown, List.map_id] at hpaths

omit h in
/-- New contents for one file. -/
theorem insert {t : MemoryTree} (h : n.Holds t.files) {path : String} {old : ByteArray}
    (hpath : Path.strip path = path) (hmem : (path, old) ∈ t.files) (new : ByteArray) :
    (n.mapFiles fun p content => if p = Path.names path then new else content).Holds
      (t.insert path new).files where
  exists_entries := by
    obtain ⟨entries, rfl⟩ := h.exists_entries
    exact ⟨_, mapFiles_dir _ _⟩
  ne_link p target := by
    rw [Ne, get?_mapFiles_eq_link_iff]
    exact h.ne_link p target
  file_iff p content := by
    simp only [get?_mapFiles_eq_file_iff, MemoryTree.mem_files_insert hpath]
    by_cases hp : p = Path.names path
    · subst hp
      obtain ⟨mode, hfile⟩ := (h.file_names_iff path old).2 hmem
      simp [hfile, Path.names_injective.eq_iff, eq_comm]
    · simp only [if_neg hp, exists_eq_right]
      rw [h.file_iff]
      refine exists_congr fun path' => and_congr_right ?_
      rintro rfl
      have hne : path' ≠ path := by
        rintro rfl
        exact hp rfl
      rw [if_neg hne]

end Holds

/-! ### Directories without links -/

/-- Names that meet no link lead to their place, if there is something. -/
theorem walk_of_no_link {top n : Node} {p : Place} (hn : top.get? p = some n)
    (hlink : ∀ q target, n.get? q ≠ some (link target)) {names : List Name}
    (hnames : ∀ name ∈ names, name.IsEntry) :
    (walk top p names).isAtLink = false ∧
      (walk top p names).place? = (n.get? names).map fun _ => p ++ names := by
  induction names generalizing p n with
  | nil =>
    rw [walk, get?_nil, List.append_nil]
    exact ⟨rfl, rfl⟩
  | cons name names ih =>
    rw [List.forall_mem_cons] at hnames
    obtain ⟨hempty, hdot, hdots, -⟩ := hnames.1
    cases n with
    | file content mode =>
      rw [walk, hn]
      exact ⟨rfl, rfl⟩
    | link target => exact absurd rfl (hlink [] target)
    | dir entries =>
      rw [walk, hn, get?_dir_cons]
      simp only [hempty, hdot, hdots, decide_false, Bool.or_self, Bool.false_eq_true, if_false]
      cases hlookup : entries.lookup name with
      | none => exact ⟨rfl, rfl⟩
      | some k =>
        -- the entry is no link, so the walk goes on from it
        have hk : top.get? (p ++ [name]) = some k := by
          rw [get?_append, hn, Option.bind_some, get?_dir_cons, hlookup, Option.bind_some, get?_nil]
        have hbelow : ∀ q target, k.get? q ≠ some (link target) := by
          intro q target hq
          refine hlink (name :: q) target ?_
          rw [get?_dir_cons, hlookup]
          exact hq
        have hrest := ih hk hbelow hnames.2
        rw [List.append_assoc, List.singleton_append] at hrest
        cases k with
        | file content mode => exact hrest
        | link target => exact absurd rfl (hbelow [] target)
        | dir entries' => exact hrest

/-- So they find what is there. -/
theorem find?_append_of_no_link {top n : Node} {base p : Place} {xs names : List Name}
    (hp : top.resolve? base xs = some p) (hn : top.get? p = some n)
    (hlink : ∀ q target, n.get? q ≠ some (link target))
    (hnames : ∀ name ∈ names, name.IsEntry) : top.find? base (xs ++ names) = n.get? names := by
  obtain ⟨hstraight, hplace⟩ := walk_of_no_link hn hlink hnames
  rw [find?, resolve?_append_eq hp (Walk.ne_atLink hstraight), hplace]
  cases hget : n.get? names with
  | none => rfl
  | some k => simp [get?_append, hn, hget]

end Node

namespace DirectoryTree

/-- `t.Holds files` says that `t` is a directory, not in a dry run, that holds `files`. -/
structure Holds (t : DirectoryTree) (files : List (String × ByteArray)) : Prop where
  isWellFormed : t.disk.isWellFormed = true
  dryRun_eq : t.dryRun = false
  pending_eq : t.pending = []
  exists_node : ∃ n, t.disk.find? t.base (Path.names t.root) = some n ∧ n.Holds files

/-- A disk with the given files and nothing else. -/
def ofFiles (files : List (String × ByteArray)) : DirectoryTree :=
  ⟨Node.layOut files, [], "", false, []⟩

/-- Files that can be laid out together. -/
theorem holds_ofFiles {files : List (String × ByteArray)} (hnodup : (files.map Prod.fst).Nodup)
    (hvisited : Path.AreVisited (files.map Prod.fst)) : (ofFiles files).Holds files := by
  obtain ⟨hwell, hholds⟩ := Node.holds_layOut hnodup hvisited
  refine ⟨hwell, rfl, rfl, Node.layOut files, ?_, hholds⟩
  obtain ⟨entries, hentries⟩ := hholds.exists_entries
  have hwalk : Node.walk (Node.layOut files) [] (Path.names "") = .arrived [] := by
    rw [hentries]
    rfl
  show (Node.layOut files).find? [] (Path.names "") = some (Node.layOut files)
  rw [Node.find?, Node.resolve?, Node.resolveWithin, hwalk]
  simp [Except.toOption]

namespace Holds

variable {t : DirectoryTree} {files : List (String × ByteArray)}

/-- Exactly the files are read by canonical paths. -/
theorem read_eq_some_iff (h : t.Holds files) {path : String} (hpath : Path.IsCanonical path)
    {content : ByteArray} : t.read path = some content ↔ (path, content) ∈ files := by
  obtain ⟨n, hfind, hn⟩ := h.exists_node
  obtain ⟨p, hp, hget⟩ := Option.bind_eq_some_iff.1 hfind
  -- nothing is kept aside, and the names of the path lead from the directory to its place
  rw [← hn.file_names_iff path content, read_eq, h.pending_eq, file?,
    locate_of_isCanonical t hpath]
  simp only [List.lookup_nil, Option.none_or, Node.file?,
    Node.find?_append_of_no_link hp hget hn.ne_link hpath.isEntry]
  cases n.get? (Path.names path) with
  | none => simp
  | some k => cases k <;> simp

theorem read_eq {s : MemoryTree} (h : t.Holds s.files) {path : String}
    (hpath : Path.IsCanonical path) : t.read path = s.read path :=
  Option.ext fun content => by
    rw [h.read_eq_some_iff hpath, MemoryTree.mem_files_iff_read hpath.strip]

/-- A visit comes to exactly the files. -/
theorem perm_paths (h : t.Holds files) (hnodup : (files.map Prod.fst).Nodup)
    (hvisited : Path.AreVisited (files.map Prod.fst)) : t.paths.Perm (files.map Prod.fst) := by
  obtain ⟨n, hfind, hn⟩ := h.exists_node
  obtain ⟨p, -, hget⟩ := Option.bind_eq_some_iff.1 hfind
  rw [paths, visit, hfind]
  exact hn.perm_files (Node.isWellFormed_of_get? h.isWellFormed hget) hnodup hvisited

/-- Writing a file gives new contents to it and to no other. -/
theorem exists_overwrite {s : MemoryTree} (h : t.Holds s.files) {path : String} {old : ByteArray}
    (hpath : Path.IsCanonical path) (hmem : (path, old) ∈ s.files) (new : ByteArray) :
    ∃ t', (t.overwrite path new).value = .ok t' ∧ t'.Holds (s.insert path new).files ∧
      t'.paths = t.paths := by
  obtain ⟨n, hfind, hn⟩ := h.exists_node
  obtain ⟨p, hp, hget⟩ := Option.bind_eq_some_iff.1 hfind
  obtain ⟨mode, hold⟩ := (hn.file_names_iff path old).2 hmem
  have hfile : t.IsFileAt path (p ++ Path.names path) old mode :=
    { isWellFormed := h.isWellFormed
      get? := by rw [Node.get?_append, hget]; exact hold
      pathOf? := pathOf?_eq_some_iff.2
        ⟨p, _, hp, rfl, Path.isText_of_mem_names, Path.ofNames_names path⟩
      ne_empty := hpath.ne_empty }
  refine ⟨_, hfile.overwrite new, ?_, ?_⟩
  · rw [h.dryRun_eq, if_neg Bool.false_ne_true]
    refine ⟨(Node.isWellFormed_mapFiles _ _).trans h.isWellFormed, h.dryRun_eq, h.pending_eq, _, ?_,
      hn.insert hpath.strip hmem new⟩
    -- the place of the file is below that of the directory
    simp only [withContents, Node.find?, Node.resolve?_mapFiles, hp, Option.bind_some,
      Node.get?_mapFiles, hget, Option.map_some, List.append_cancel_left_eq]
  · rw [h.dryRun_eq, if_neg Bool.false_ne_true, paths_withContents]

end Holds

end DirectoryTree

end Codemod
