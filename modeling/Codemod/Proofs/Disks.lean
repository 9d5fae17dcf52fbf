import Codemod.Disk
import Codemod.Proofs.Names
import Codemod.Proofs.Trees

/-!
# Disks whose files change

A migration that writes to a disk puts new contents into files and leaves all else alone: what there
is, where it is, what kind it is of, where links lead and which modes files have.  Such a change is a
map over the files, by their places, and everything that does not read contents is blind to it.

## Main definitions

* `Node.isWellFormed` — names are names, and none comes twice in a directory.
* `Node.mapFiles` — a disk with new contents for its files.

## Main results

* `Node.get?_mapFiles`, `Node.files_mapFiles`, `Node.resolve?_mapFiles` — what stays.
* `Node.set_eq_mapFiles` — replacing a file in its place is such a change.
* `Node.mem_files_iff` — the files that a visit comes to.
* `Node.nodup_files` — it comes to none twice.
* `Node.resolve?_append_eq` — names lead on from where the names before them lead.
-/

namespace Codemod

namespace Node

/-! ### Induction -/

/-- Induction over all nodes of a disk. -/
@[elab_as_elim]
theorem induct {motive : Node → Prop} (file : ∀ content mode, motive (.file content mode))
    (link : ∀ target, motive (.link target))
    (dir : ∀ entries, (∀ e ∈ entries, motive e.2) → motive (.dir entries)) (n : Node) : motive n :=
  @Node.rec motive (fun entries => ∀ e ∈ entries, motive e.2) (fun e => motive e.2) file link dir
    (by simp) (fun _ _ hhead htail => List.forall_mem_cons.2 ⟨hhead, htail⟩) (fun _ _ h => h) n

/-! ### Places -/

@[simp]
theorem get?_nil (n : Node) : n.get? [] = some n := by
  cases n <;> rfl

theorem get?_dir_cons (entries : List (Name × Node)) (name : Name) (p : Place) :
    (dir entries).get? (name :: p) = (entries.lookup name).bind fun n => n.get? p := by
  rw [get?]

theorem get?_append (n : Node) (p q : Place) :
    n.get? (p ++ q) = (n.get? p).bind fun k => k.get? q := by
  induction p generalizing n with
  | nil => simp
  | cons name p ih =>
    cases n with
    | file content mode => rfl
    | link target => rfl
    | dir entries =>
      rw [List.cons_append, get?_dir_cons, get?_dir_cons, Option.bind_assoc]
      simp only [ih]

/-- What is in something is in a directory. -/
theorem exists_dir_of_get? {n k : Node} {p : Place} {name : Name}
    (h : n.get? (p ++ [name]) = some k) : ∃ entries, n.get? p = some (dir entries) := by
  rw [get?_append] at h
  obtain ⟨m, hm, hk⟩ := Option.bind_eq_some_iff.1 h
  cases m with
  | file content mode => cases hk
  | link target => cases hk
  | dir entries => exact ⟨entries, hm⟩

/-! ### Well-formed disks -/

mutual

/-- `n.isWellFormed` tells whether all names in `n` are names of entries, none of which comes twice
in a directory.  On a real disk they are. -/
def isWellFormed : Node → Bool
  | file _ _ => true
  | link _ => true
  | dir entries => decide (entries.map Prod.fst).Nodup && areWellFormed entries

/-- `areWellFormed entries` tells whether the names of `entries` are names of entries and what they
stand for is well formed. -/
def areWellFormed : List (Name × Node) → Bool
  | [] => true
  | (name, n) :: es => decide (Name.IsEntry name) && n.isWellFormed && areWellFormed es

end

theorem areWellFormed_iff {entries : List (Name × Node)} :
    areWellFormed entries = true ↔ ∀ e ∈ entries, Name.IsEntry e.1 ∧ e.2.isWellFormed = true := by
  induction entries with
  | nil => simp [areWellFormed]
  | cons e entries ih =>
    obtain ⟨name, n⟩ := e
    simp [areWellFormed, ih]

theorem isWellFormed_dir_iff {entries : List (Name × Node)} :
    (dir entries).isWellFormed = true ↔
      (entries.map Prod.fst).Nodup ∧
        ∀ e ∈ entries, Name.IsEntry e.1 ∧ e.2.isWellFormed = true := by
  rw [isWellFormed, Bool.and_eq_true, decide_eq_true_iff, areWellFormed_iff]

theorem isWellFormed_of_lookup {entries : List (Name × Node)} {name : Name} {n : Node}
    (h : (dir entries).isWellFormed = true) (hn : entries.lookup name = some n) :
    Name.IsEntry name ∧ n.isWellFormed = true := by
  obtain ⟨hnodup, hall⟩ := isWellFormed_dir_iff.1 h
  exact hall _ ((lookup_eq_some_iff_mem hnodup).1 hn)

/-- What is at a place of a well-formed disk is well formed. -/
theorem isWellFormed_of_get? {n k : Node} {p : Place} (h : n.isWellFormed = true)
    (hk : n.get? p = some k) : k.isWellFormed = true := by
  induction p generalizing n with
  | nil =>
    rw [get?_nil] at hk
    exact Option.some.inj hk ▸ h
  | cons name p ih =>
    cases n with
    | file content mode => cases hk
    | link target => cases hk
    | dir entries =>
      rw [get?_dir_cons] at hk
      obtain ⟨n', hn', hk⟩ := Option.bind_eq_some_iff.1 hk
      exact ih (isWellFormed_of_lookup h hn').2 hk

/-- The way to a place of a well-formed disk is made of names. -/
theorem isEntry_of_get? {n k : Node} {p : Place} (h : n.isWellFormed = true)
    (hk : n.get? p = some k) : ∀ name ∈ p, Name.IsEntry name := by
  induction p generalizing n with
  | nil => simp
  | cons name p ih =>
    cases n with
    | file content mode => cases hk
    | link target => cases hk
    | dir entries =>
      rw [get?_dir_cons] at hk
      obtain ⟨n', hn', hk⟩ := Option.bind_eq_some_iff.1 hk
      obtain ⟨hname, hn'⟩ := isWellFormed_of_lookup h hn'
      exact List.forall_mem_cons.2 ⟨hname, ih hn' hk⟩

/-! ### New contents -/

mutual

/-- A disk with new contents for its files, given by place and old contents. -/
def mapFiles : (Place → ByteArray → ByteArray) → Node → Node
  | f, file content mode => file (f [] content) mode
  | _, link target => link target
  | f, dir entries => dir (mapEntries f entries)

/-- Entries with new contents for their files. -/
def mapEntries : (Place → ByteArray → ByteArray) → List (Name × Node) → List (Name × Node)
  | _, [] => []
  | f, (name, n) :: es => (name, n.mapFiles fun p => f (name :: p)) :: mapEntries f es

end

@[simp]
theorem mapFiles_file (f : Place → ByteArray → ByteArray) (content : ByteArray) (mode : Nat) :
    (file content mode).mapFiles f = file (f [] content) mode := by
  rw [mapFiles]

@[simp]
theorem mapFiles_link (f : Place → ByteArray → ByteArray) (target : List UInt8) :
    (link target).mapFiles f = link target := by
  rw [mapFiles]

theorem mapEntries_eq_map (f : Place → ByteArray → ByteArray) (entries : List (Name × Node)) :
    mapEntries f entries = entries.map fun e => (e.1, e.2.mapFiles fun p => f (e.1 :: p)) := by
  induction entries with
  | nil => rw [mapEntries, List.map_nil]
  | cons e entries ih =>
    obtain ⟨name, n⟩ := e
    rw [mapEntries, ih, List.map_cons]

theorem mapFiles_dir (f : Place → ByteArray → ByteArray) (entries : List (Name × Node)) :
    (dir entries).mapFiles f =
      dir (entries.map fun e => (e.1, e.2.mapFiles fun p => f (e.1 :: p))) := by
  rw [mapFiles, mapEntries_eq_map]

theorem lookup_mapEntries (f : Place → ByteArray → ByteArray) (name : Name)
    (entries : List (Name × Node)) :
    (entries.map fun e => (e.1, e.2.mapFiles fun p => f (e.1 :: p))).lookup name =
      (entries.lookup name).map (mapFiles fun p => f (name :: p)) := by
  induction entries with
  | nil => rfl
  | cons e entries ih =>
    obtain ⟨name', n⟩ := e
    simp only [List.map_cons, lookup_file_cons]
    by_cases h : name = name'
    · simp [h]
    · rw [if_neg h, if_neg h, ih]

/-- What is at a place has new contents for its own files. -/
theorem get?_mapFiles (f : Place → ByteArray → ByteArray) (n : Node) (p : Place) :
    (n.mapFiles f).get? p = (n.get? p).map (mapFiles fun q => f (p ++ q)) := by
  -- below an entry the map sees places that start with its name
  induction p generalizing n f with
  | nil => simp
  | cons name p ih =>
    cases n with
    | file content mode => rw [mapFiles_file]; rfl
    | link target => rw [mapFiles_link]; rfl
    | dir entries =>
      rw [mapFiles_dir, get?_dir_cons, get?_dir_cons, lookup_mapEntries]
      cases entries.lookup name with
      | none => rfl
      | some k => exact ih (fun q => f (name :: q)) k

theorem get?_mapFiles_eq_file_iff {f : Place → ByteArray → ByteArray} {n : Node} {p : Place}
    {content : ByteArray} {mode : Nat} :
    (n.mapFiles f).get? p = some (file content mode) ↔
      ∃ old, n.get? p = some (file old mode) ∧ f p old = content := by
  rw [get?_mapFiles]
  cases n.get? p with
  | none => simp
  | some k => cases k <;> simp [mapFiles_dir, and_comm]

theorem get?_mapFiles_eq_link_iff {f : Place → ByteArray → ByteArray} {n : Node} {p : Place}
    {target : List UInt8} :
    (n.mapFiles f).get? p = some (link target) ↔ n.get? p = some (link target) := by
  rw [get?_mapFiles]
  cases n.get? p with
  | none => simp
  | some k => cases k <;> simp [mapFiles_dir]

/-- The file at a place, its contents and its mode. -/
def fileAt? (n : Node) (p : Place) : Option (ByteArray × Nat) :=
  match n.get? p with
  | some (file content mode) => some (content, mode)
  | _ => none

theorem fileAt?_eq_some_iff {n : Node} {p : Place} {content : ByteArray} {mode : Nat} :
    n.fileAt? p = some (content, mode) ↔ n.get? p = some (file content mode) := by
  rw [fileAt?]
  rcases n.get? p with _ | (_ | _ | _) <;> simp

theorem fileAt?_mapFiles (f : Place → ByteArray → ByteArray) (n : Node) (p : Place) :
    (n.mapFiles f).fileAt? p = (n.fileAt? p).map fun c => (f p c.1, c.2) := by
  rw [fileAt?, fileAt?, get?_mapFiles]
  rcases n.get? p with _ | (_ | _ | _) <;> simp [mapFiles_dir]

/-- Contents changed twice. -/
theorem mapFiles_mapFiles (f g : Place → ByteArray → ByteArray) (n : Node) :
    (n.mapFiles f).mapFiles g = n.mapFiles fun p content => g p (f p content) := by
  induction n using induct generalizing f g with
  | file content mode => simp
  | link target => simp
  | dir entries ih =>
    rw [mapFiles_dir, mapFiles_dir, mapFiles_dir, List.map_map]
    congr 1
    refine List.map_congr_left fun e he => ?_
    exact Prod.ext rfl (ih e he _ _)

/-- Only the contents that are there count. -/
theorem mapFiles_congr {f g : Place → ByteArray → ByteArray} {n : Node}
    (h : n.isWellFormed = true)
    (hfg : ∀ p content mode, n.get? p = some (file content mode) → f p content = g p content) :
    n.mapFiles f = n.mapFiles g := by
  induction n using induct generalizing f g with
  | file content mode => rw [mapFiles_file, mapFiles_file, hfg [] content mode rfl]
  | link target => rw [mapFiles_link, mapFiles_link]
  | dir entries ih =>
    obtain ⟨hnodup, hall⟩ := isWellFormed_dir_iff.1 h
    rw [mapFiles_dir, mapFiles_dir]
    congr 1
    refine List.map_congr_left fun e he => Prod.ext rfl ?_
    refine ih e he (hall e he).2 fun p content mode hp => hfg _ content mode ?_
    rw [get?_dir_cons, (lookup_eq_some_iff_mem hnodup).2 he]
    exact hp

/-- Nothing new. -/
theorem mapFiles_id (n : Node) : (n.mapFiles fun _ content => content) = n := by
  induction n using induct with
  | file content mode => simp
  | link target => simp
  | dir entries ih =>
    rw [mapFiles_dir]
    congr 1
    conv_rhs => rw [← List.map_id entries]
    exact List.map_congr_left fun e he => Prod.ext rfl (ih e he)

theorem isWellFormed_mapFiles (f : Place → ByteArray → ByteArray) (n : Node) :
    (n.mapFiles f).isWellFormed = n.isWellFormed := by
  rw [Bool.eq_iff_iff]
  induction n using induct generalizing f with
  | file content mode => simp [isWellFormed]
  | link target => simp [isWellFormed]
  | dir entries ih =>
    rw [mapFiles_dir, isWellFormed_dir_iff, isWellFormed_dir_iff, List.map_map, List.forall_mem_map]
    refine and_congr Iff.rfl (forall₂_congr fun e he => ?_)
    rw [ih e he]

/-- Replacing a file in its place gives it new contents. -/
theorem set_eq_mapFiles {content new : ByteArray} {mode : Nat} :
    ∀ {place : Place} {n : Node}, n.isWellFormed = true →
      n.get? place = some (file content mode) →
      set (file new mode) n place = n.mapFiles fun p b => if p = place then new else b := by
  intro place
  induction place with
  | nil =>
    intro n _ hfile
    rw [get?_nil] at hfile
    cases hfile
    simp [set]
  | cons name place ih =>
    intro n h hfile
    cases n with
    | file content' mode' => cases hfile
    | link target => cases hfile
    | dir entries =>
      obtain ⟨hnodup, hall⟩ := isWellFormed_dir_iff.1 h
      rw [get?_dir_cons] at hfile
      obtain ⟨n, hn, hfile⟩ := Option.bind_eq_some_iff.1 hfile
      rw [set, mapFiles_dir]
      congr 1
      refine List.map_congr_left fun e he => ?_
      obtain ⟨name', n'⟩ := e
      by_cases hname : name' = name
      · -- no other entry has the name
        subst hname
        have hsame : n' = n := by
          rw [(lookup_eq_some_iff_mem hnodup).2 he] at hn
          exact Option.some.inj hn
        subst hsame
        simp [ih (hall _ he).2 hfile]
      · simp [hname, mapFiles_id]

/-! ### The files of a visit -/

theorem mem_entryFiles {name : Name} {fs : List (List Name)} {entries : List (Name × Node)} :
    (name, fs) ∈ entryFiles entries ↔
      ∃ n, (name, n) ∈ entries ∧ n.isIgnored name = false ∧ fs = n.files := by
  induction entries with
  | nil => simp [entryFiles]
  | cons e entries ih =>
    obtain ⟨name', n'⟩ := e
    rw [entryFiles]
    by_cases hignored : n'.isIgnored name' = true
    · rw [if_pos hignored, ih]
      constructor
      · rintro ⟨n, hn, hrest⟩
        exact ⟨n, List.mem_cons_of_mem _ hn, hrest⟩
      · rintro ⟨n, hn, hvisited, rfl⟩
        rcases List.mem_cons.1 hn with heq | hn
        · cases heq
          rw [hignored] at hvisited
          cases hvisited
        · exact ⟨n, hn, hvisited, rfl⟩
    · rw [if_neg hignored, List.mem_cons, ih]
      constructor
      · rintro (heq | ⟨n, hn, hrest⟩)
        · cases heq
          exact ⟨n', List.mem_cons_self, by simpa using hignored, rfl⟩
        · exact ⟨n, List.mem_cons_of_mem _ hn, hrest⟩
      · rintro ⟨n, hn, hvisited, rfl⟩
        rcases List.mem_cons.1 hn with heq | hn
        · cases heq
          exact Or.inl rfl
        · exact Or.inr ⟨n, hn, hvisited, rfl⟩

theorem mem_files_dir {entries : List (Name × Node)} {names : List Name} :
    names ∈ (dir entries).files ↔
      ∃ name n rest, (name, n) ∈ entries ∧ n.isIgnored name = false ∧ rest ∈ n.files ∧
        names = name :: rest := by
  rw [files, List.mem_flatMap]
  constructor
  · rintro ⟨⟨name, fs⟩, hmem, hnames⟩
    obtain ⟨n, hn, hvisited, rfl⟩ := mem_entryFiles.1 ((Name.perm_sortByName _).mem_iff.1 hmem)
    obtain ⟨rest, hrest, rfl⟩ := List.mem_map.1 hnames
    exact ⟨name, n, rest, hn, hvisited, hrest, rfl⟩
  · rintro ⟨name, n, rest, hn, hvisited, hrest, rfl⟩
    exact ⟨(name, n.files),
      (Name.perm_sortByName _).mem_iff.2 (mem_entryFiles.2 ⟨n, hn, hvisited, rfl⟩),
      List.mem_map.2 ⟨rest, hrest, rfl⟩⟩

/-- A visit comes to the files that no link and no ignored directory is on the way to. -/
theorem mem_files_iff {n : Node} (h : n.isWellFormed = true) {names : List Name} :
    names ∈ n.files ↔
      (∃ content mode, n.get? names = some (file content mode)) ∧
        ∀ name ∈ names.dropLast, name ∉ ignoredNames.map Name.ofText := by
  induction n using induct generalizing names with
  | file content mode =>
    rw [files, List.mem_singleton]
    cases names <;> simp [get?]
  | link target =>
    rw [files]
    cases names <;> simp [get?]
  | dir entries ih =>
    obtain ⟨hnodup, hall⟩ := isWellFormed_dir_iff.1 h
    rw [mem_files_dir]
    constructor
    · rintro ⟨name, n, rest, hn, hvisited, hrest, rfl⟩
      obtain ⟨⟨content, mode, hfile⟩, hnames⟩ := (ih _ hn (hall _ hn).2).1 hrest
      refine ⟨⟨content, mode, ?_⟩, ?_⟩
      · rw [get?_dir_cons, (lookup_eq_some_iff_mem hnodup).2 hn]
        exact hfile
      · cases rest with
        | nil => simp
        | cons name' rest =>
          -- the first name is that of a directory, for there are names below it
          rw [List.dropLast_cons_cons, List.forall_mem_cons]
          refine ⟨?_, hnames⟩
          cases n with
          | file content mode => cases hfile
          | link target => cases hfile
          | dir entries' => simpa [isIgnored] using hvisited
    · rintro ⟨⟨content, mode, hfile⟩, hnames⟩
      cases names with
      | nil => cases hfile
      | cons name rest =>
        rw [get?_dir_cons] at hfile
        obtain ⟨k, hk, hfile⟩ := Option.bind_eq_some_iff.1 hfile
        have hmem := (lookup_eq_some_iff_mem hnodup).1 hk
        have hrest : ∀ name ∈ rest.dropLast, name ∉ ignoredNames.map Name.ofText := by
          intro name' hname'
          cases rest with
          | nil => cases hname'
          | cons r rest => exact hnames name' (List.mem_cons_of_mem _ hname')
        refine ⟨name, k, rest, hmem, ?_, (ih _ hmem (hall _ hmem).2).2 ⟨⟨_, _, hfile⟩, hrest⟩, rfl⟩
        cases k with
        | file content mode => rfl
        | link target => rfl
        | dir entries' =>
          cases rest with
          | nil => cases hfile
          | cons r rest => simpa [isIgnored] using hnames name List.mem_cons_self

/-- Every file that is visited is there, without links on the way. -/
theorem get?_of_mem_files {n : Node} (h : n.isWellFormed = true) {names : List Name}
    (hmem : names ∈ n.files) :
    (∃ content mode, n.get? names = some (file content mode)) ∧
      ∀ name ∈ names, Name.IsEntry name := by
  obtain ⟨⟨content, mode, hfile⟩, -⟩ := (mem_files_iff h).1 hmem
  exact ⟨⟨content, mode, hfile⟩, isEntry_of_get? h hfile⟩

theorem map_fst_entryFiles_sublist (entries : List (Name × Node)) :
    ((entryFiles entries).map Prod.fst).Sublist (entries.map Prod.fst) := by
  induction entries with
  | nil => exact List.Sublist.refl _
  | cons e entries ih =>
    obtain ⟨name, n⟩ := e
    rw [entryFiles, List.map_cons]
    split
    · exact ih.cons name
    · exact ih.cons_cons name

/-- A visit comes to no file twice. -/
theorem nodup_files {n : Node} (h : n.isWellFormed = true) : n.files.Nodup := by
  induction n using induct with
  | file content mode => simp [files]
  | link target => simp [files]
  | dir entries ih =>
    obtain ⟨hnodup, hall⟩ := isWellFormed_dir_iff.1 h
    have hnames : (entryFiles entries).Pairwise fun e e' => e.1 ≠ e'.1 :=
      List.pairwise_map.1 (hnodup.sublist (map_fst_entryFiles_sublist entries))
    rw [files, ((Name.perm_sortByName _).flatMap_right _).nodup_iff, List.nodup_flatMap]
    constructor
    · rintro ⟨name, fs⟩ hmem
      obtain ⟨n, hn, -, rfl⟩ := mem_entryFiles.1 hmem
      exact (ih _ hn (hall _ hn).2).map (List.cons_injective)
    · -- the files of different entries differ in their first names
      refine hnames.imp fun hne => ?_
      simp only [Function.onFun, List.disjoint_left, List.mem_map]
      rintro _ ⟨rest, -, rfl⟩ ⟨rest', -, heq⟩
      exact hne (List.cons.inj heq).1.symm

theorem isIgnored_mapFiles (f : Place → ByteArray → ByteArray) (name : Name) (n : Node) :
    (n.mapFiles f).isIgnored name = n.isIgnored name := by
  cases n with
  | file content mode => rw [mapFiles_file]; rfl
  | link target => rw [mapFiles_link]
  | dir entries => rw [mapFiles_dir]; rfl

/-- New contents are the same files. -/
theorem files_mapFiles (f : Place → ByteArray → ByteArray) (n : Node) :
    (n.mapFiles f).files = n.files := by
  induction n using induct generalizing f with
  | file content mode => rw [mapFiles_file, files, files]
  | link target => rw [mapFiles_link]
  | dir entries ih =>
    -- the names decide the order of a visit, and they stay
    have hentries : entryFiles (entries.map fun e => (e.1, e.2.mapFiles fun p => f (e.1 :: p))) =
        entryFiles entries := by
      induction entries with
      | nil => rfl
      | cons e entries ihe =>
        obtain ⟨name, n⟩ := e
        rw [List.forall_mem_cons] at ih
        rw [List.map_cons, entryFiles, entryFiles, isIgnored_mapFiles, ih.1, ihe ih.2]
    rw [mapFiles_dir, files, files, hentries]

/-! ### Following names -/

/-- New contents do not change the way. -/
theorem walk_mapFiles (f : Place → ByteArray → ByteArray) (top : Node) :
    ∀ (names : List Name) (p : Place), walk (top.mapFiles f) p names = walk top p names := by
  intro names
  induction names with
  | nil => intro p; rw [walk, walk]
  | cons name names ih =>
    intro p
    rw [walk, walk, get?_mapFiles]
    cases top.get? p with
    | none => rfl
    | some n =>
      rw [Option.map_some]
      cases n with
      | file content mode => rw [mapFiles_file]
      | link target => rw [mapFiles_link]
      | dir entries =>
        rw [mapFiles_dir]
        -- a step looks for directories and links, and a map changes neither
        simp only [ih, lookup_mapEntries (fun q => f (p ++ q))]
        cases entries.lookup name with
        | none => rfl
        | some n => cases n <;> simp [mapFiles_dir]

theorem resolveWithin_mapFiles (f : Place → ByteArray → ByteArray) (top : Node) :
    ∀ (links : Nat) (p : Place) (names : List Name),
      resolveWithin (top.mapFiles f) links p names = resolveWithin top links p names := by
  intro links
  induction links with
  | zero =>
    intro p names
    rw [resolveWithin, resolveWithin, walk_mapFiles]
  | succ links ih =>
    intro p names
    rw [resolveWithin, resolveWithin, walk_mapFiles]
    simp only [ih]

theorem resolve?_mapFiles (f : Place → ByteArray → ByteArray) (top : Node) (p : Place)
    (names : List Name) : (top.mapFiles f).resolve? p names = top.resolve? p names := by
  rw [resolve?, resolve?, resolveWithin_mapFiles]

/-- Names after names lead on from the place that the first lead to. -/
theorem walk_append (top : Node) (ys : List Name) :
    ∀ (xs : List Name) (p : Place),
      walk top p (xs ++ ys) =
        match walk top p xs with
        | .arrived q => walk top q ys
        | .atLink q target rest => .atLink q target (rest ++ ys)
        | .lost why => .lost why := by
  intro xs
  induction xs with
  | nil => intro p; rw [List.nil_append, walk]
  | cons x xs ih =>
    intro p
    rw [List.cons_append, walk, walk]
    split
    · split
      · exact ih p
      · split
        · exact ih p.dropLast
        · split
          · rfl
          · rfl
          · exact ih _
    · rfl
    · rfl

/-- The place that names have led to. -/
def Walk.place? : Walk → Option Place
  | .arrived p => some p
  | _ => none

theorem resolveWithin_append_of_arrived {top : Node} {p q : Place} {xs ys : List Name}
    (hxs : walk top p xs = .arrived q)
    (hlink : ∀ place target rest, walk top q ys ≠ .atLink place target rest) (links : Nat) :
    (resolveWithin top links p (xs ++ ys)).toOption = (walk top q ys).place? := by
  rw [resolveWithin, walk_append, hxs]
  cases hwalk : walk top q ys with
  | arrived r => simp only [hwalk, Walk.place?, Except.toOption]
  | lost why => simp only [hwalk, Walk.place?, Except.toOption]
  | atLink place target rest => exact absurd hwalk (hlink place target rest)

theorem resolveWithin_append {top : Node} {q : Place} {ys : List Name}
    (hlink : ∀ place target rest, walk top q ys ≠ .atLink place target rest) :
    ∀ {links : Nat} {p : Place} {xs : List Name},
      (resolveWithin top links p xs).toOption = some q →
      (resolveWithin top links p (xs ++ ys)).toOption = (walk top q ys).place? := by
  intro links
  induction links with
  | zero =>
    intro p xs h
    rw [resolveWithin] at h
    cases hxs : walk top p xs with
    | arrived q' =>
      rw [hxs] at h
      cases h
      exact resolveWithin_append_of_arrived hxs hlink 0
    | lost why => rw [hxs] at h; cases h
    | atLink q' target rest => rw [hxs] at h; cases h
  | succ links ih =>
    intro p xs h
    rw [resolveWithin] at h
    cases hxs : walk top p xs with
    | arrived q' =>
      rw [hxs] at h
      cases h
      exact resolveWithin_append_of_arrived hxs hlink (links + 1)
    | lost why => rw [hxs] at h; cases h
    | atLink q' target rest =>
      -- one link is followed, and the names after it are followed with the rest
      rw [hxs] at h
      rw [resolveWithin, walk_append, hxs]
      simp only at h ⊢
      rw [← List.append_assoc]
      exact ih h

/-- Names that lead to a file end with its name, in a directory that the others lead to. -/
theorem walk_of_arrived_file {top : Node} {p q : Place} {names : List Name} {last : Name}
    {content : ByteArray} {mode : Nat} (h : walk top p (names ++ [last]) = .arrived q)
    (hfile : top.get? q = some (file content mode)) :
    ∃ place, walk top p names = .arrived place ∧ q = place ++ [last] := by
  rw [walk_append] at h
  cases hnames : walk top p names with
  | lost why => simp [hnames] at h
  | atLink place target rest => simp [hnames] at h
  | arrived place =>
    simp only [hnames] at h
    refine ⟨place, rfl, ?_⟩
    rw [walk] at h
    rcases hplace : top.get? place with _ | (_ | _ | entries)
    · simp [hplace] at h
    · simp [hplace] at h
    · simp [hplace] at h
    · -- a name that stays in the directory or goes up leads to a directory
      have hup : ∃ entries', top.get? place.dropLast = some (dir entries') := by
        rcases List.eq_nil_or_concat' place with rfl | ⟨above, name, rfl⟩
        · exact ⟨entries, hplace⟩
        · rw [List.dropLast_concat]
          exact exists_dir_of_get? hplace
      simp only [hplace, walk] at h
      split at h
      · cases h
        simp [hplace] at hfile
      · split at h
        · cases h
          obtain ⟨entries', hup⟩ := hup
          simp [hup] at hfile
        · rcases hlast : entries.lookup last with _ | (_ | _ | _)
          · simp [hlast] at h
          · simp only [hlast, Walk.arrived.injEq] at h
            exact h.symm
          · simp [hlast] at h
          · simp only [hlast, Walk.arrived.injEq] at h
            exact h.symm

/-- Names lead on from where the names before them lead, unless there is a link on the way. -/
theorem resolve?_append_eq {top : Node} {p q : Place} {xs ys : List Name}
    (hxs : top.resolve? p xs = some q)
    (hlink : ∀ place target rest, walk top q ys ≠ .atLink place target rest) :
    top.resolve? p (xs ++ ys) = (walk top q ys).place? :=
  resolveWithin_append hlink hxs

theorem resolve?_append {top : Node} {p q r : Place} {xs ys : List Name}
    (hxs : top.resolve? p xs = some q) (hys : walk top q ys = .arrived r) :
    top.resolve? p (xs ++ ys) = some r := by
  rw [resolve?_append_eq hxs (by simp [hys]), hys, Walk.place?]

/-- The names of a place lead there, unless there is a link. -/
theorem walk_of_get? {top k : Node} (hk : ∀ target, k ≠ link target) :
    ∀ {names : List Name} {p : Place}, (∀ name ∈ names, Name.IsEntry name) →
      top.get? (p ++ names) = some k → walk top p names = .arrived (p ++ names) := by
  intro names
  induction names with
  | nil => intro p _ _; rw [walk, List.append_nil]
  | cons name names ih =>
    intro p hnames hget
    rw [List.forall_mem_cons] at hnames
    have hrest := ih (p := p ++ [name]) hnames.2 (by simpa using hget)
    rw [get?_append] at hget
    obtain ⟨n, hn, hget⟩ := Option.bind_eq_some_iff.1 hget
    cases n with
    | file content mode => cases hget
    | link target => cases hget
    | dir entries =>
      rw [get?_dir_cons] at hget
      obtain ⟨n', hn', hget⟩ := Option.bind_eq_some_iff.1 hget
      obtain ⟨hempty, hdot, hdots, -⟩ := hnames.1
      rw [walk, hn]
      simp only [hempty, hdot, hdots, decide_false, Bool.or_self, Bool.false_eq_true, if_false, hn']
      rw [List.append_assoc, List.singleton_append] at hrest
      cases n' with
      | file content mode => exact hrest
      | dir entries' => exact hrest
      | link target =>
        -- a link is no directory, so it is what the names lead to
        cases names with
        | nil => exact absurd (Option.some.inj hget).symm (hk target)
        | cons name' names => cases hget

end Node

end Codemod
