import Codemod.Proofs.DryRun
import Codemod.Proofs.Layouts
import Mathlib.Data.Set.Defs

/-!
# Spellings of a path

A disk knows a file by its place, and many paths lead to one place: `a.ts`, `./a.ts` and `//a.ts`
do.  What a dry run keeps aside it knows by the path as it is written, but for slashes at the start.
So a dry run answers like the disk as long as every file goes by one spelling, and not any longer.

## Main definitions

* `DirectoryTree.place?` — the place of the file that a path leads to.
* `Call`, `answers`, `after` — what a tree answers to calls, and the tree after them.
* `DirectoryTree.recording`, `DirectoryTree.overwritten` — a directory in a dry run and a directory
  on a disk, after the same files have been written.

## Main results

* `DirectoryTree.put_of_place?` — writing by any path that leads to a file changes that file.
* `DirectoryTree.read_recording`, `DirectoryTree.read_overwritten` — what is read after writes.
* `answers_alike` — with one spelling for every file a dry run answers like the disk.
* `dryRun_answers_alike_iff` — **a dry run answers like the disk just for paths that spell no file
  in two ways.**
-/

namespace Codemod

/-! ### Disks without links -/

namespace Node

/-- `n.IsLinkFree` says that there are only files and directories in `n`. -/
def IsLinkFree (n : Node) : Prop := ∀ p target, n.get? p ≠ some (link target)

theorem isLinkFree_file (content : ByteArray) (mode : Nat) : (file content mode).IsLinkFree := by
  rintro (_ | ⟨name, p⟩) target h
  · cases h
  · cases h

theorem isLinkFree_dir {entries : List (Name × Node)} (h : ∀ e ∈ entries, e.2.IsLinkFree) :
    (dir entries).IsLinkFree := by
  rintro (_ | ⟨name, p⟩) target hlink
  · cases hlink
  · rw [get?_dir_cons] at hlink
    obtain ⟨n, hn, hbelow⟩ := Option.bind_eq_some_iff.1 hlink
    obtain ⟨left, right, rfl, -⟩ := List.lookup_eq_some_iff.1 hn
    exact h (name, n) (by simp) p target hbelow

/-- Without links names are followed to their end. -/
theorem IsLinkFree.walk_ne_atLink {top : Node} (h : top.IsLinkFree) :
    ∀ (names : List Name) (p q : Place) (target : List UInt8) (rest : List Name),
      walk top p names ≠ .atLink q target rest := by
  intro names
  induction names with
  | nil =>
    intro p q target rest
    simp [walk]
  | cons name names ih =>
    intro p q target rest
    rw [walk]
    rcases hp : top.get? p with _ | (_ | _ | entries)
    · simp
    · simp
    · simp
    · simp only
      split
      · exact ih _ q target rest
      · split
        · exact ih _ q target rest
        · rcases hname : entries.lookup name with _ | (_ | target' | _)
          · simp
          · exact ih _ q target rest
          · -- the entry would be a link
            refine absurd ?_ (h (p ++ [name]) target')
            rw [get?_append, hp, Option.bind_some, get?_dir_cons, hname, Option.bind_some, get?_nil]
          · exact ih _ q target rest

theorem IsLinkFree.resolve? {top : Node} (h : top.IsLinkFree) (p : Place) (names : List Name) :
    top.resolve? p names = (walk top p names).place? := by
  have harrived : walk top p [] = .arrived p := by rw [walk]
  exact resolveWithin_append_of_arrived harrived (h.walk_ne_atLink names p) linkLimit

end Node

namespace DirectoryTree

/-! ### The place of a path -/

/-- The place of the file that a path leads to. -/
def place? (t : DirectoryTree) (path : String) : Option Place :=
  ((t.locate path).toOption.bind (t.disk.resolve? t.base)).filter fun p =>
    (t.disk.fileAt? p).isSome

/-- Slashes at the start of a path do not matter. -/
theorem place?_congr_strip (t : DirectoryTree) {path q : String}
    (h : Path.strip path = Path.strip q) : t.place? path = t.place? q := by
  have hlocate : (t.locate path).toOption = (t.locate q).toOption := by
    simp only [locate, h]
    split <;> rfl
  rw [place?, place?, hlocate]

theorem place?_withContents (t : DirectoryTree) (f : Place → ByteArray → ByteArray)
    (pending : List (String × ByteArray)) (path : String) :
    (t.withContents f pending).place? path = t.place? path := by
  simp only [place?, withContents, locate, Node.fileAt?_mapFiles, Option.isSome_map]
  congr 2
  funext names
  exact Node.resolve?_mapFiles f t.disk t.base names

theorem file?_eq_bind (t : DirectoryTree) (path : String) :
    t.file? path = (t.place? path).bind t.disk.fileAt? := by
  rw [file?, place?]
  cases t.locate path with
  | error e => rfl
  | ok names =>
    simp only [Except.toOption, Option.bind_some, Node.file?, Node.find?]
    cases t.disk.resolve? t.base names with
    | none => rfl
    | some p =>
      simp only [Option.bind_some, Option.filter_some]
      rcases hp : t.disk.get? p with _ | (_ | _ | _) <;> simp [Node.fileAt?, hp]

/-- What is known of a path that leads to a file. -/
theorem exists_of_place? {t : DirectoryTree} {path : String} {p : Place}
    (h : t.place? path = some p) :
    ∃ names content mode, t.locate path = .ok names ∧ t.disk.resolve? t.base names = some p ∧
      t.disk.fileAt? p = some (content, mode) := by
  obtain ⟨hplace, hfile⟩ := Option.filter_eq_some_iff.1 h
  obtain ⟨names, hnames, hresolve⟩ := Option.bind_eq_some_iff.1 hplace
  obtain ⟨⟨content, mode⟩, hfile⟩ := Option.isSome_iff_exists.1 hfile
  refine ⟨names, content, mode, ?_, hresolve, hfile⟩
  cases hlocate : t.locate path with
  | error e => simp [hlocate, Except.toOption] at hnames
  | ok names' =>
    simp only [hlocate, Except.toOption, Option.some.injEq] at hnames
    rw [hnames]

section Plain

variable {t : DirectoryTree} (hdisk : t.disk.isWellFormed = true) (hlinks : t.disk.IsLinkFree)
include hdisk hlinks

/-- **Writing by any path that leads to a file changes that file.** -/
theorem put_of_place? {path : String} {p : Place} {names : List Name} {content : ByteArray}
    {mode : Nat} (hlocate : t.locate path = .ok names)
    (hresolve : t.disk.resolve? t.base names = some p)
    (hfile : t.disk.fileAt? p = some (content, mode)) (new : ByteArray) :
    put t.disk t.base names (.file new mode) =
      t.disk.mapFiles fun q b => if q = p then new else b := by
  have hget := Node.fileAt?_eq_some_iff.1 hfile
  have hne : names ≠ [] := by
    rw [locate] at hlocate
    split at hlocate
    · cases hlocate
    · cases hlocate
      simp [Path.names_ne_nil]
  obtain ⟨init, last, rfl⟩ := (List.eq_nil_or_concat' names).resolve_left hne
  have hwalk : Node.walk t.disk t.base (init ++ [last]) = .arrived p := by
    rw [hlinks.resolve?] at hresolve
    cases hwalk : Node.walk t.disk t.base (init ++ [last]) with
    | arrived q =>
      rw [hwalk] at hresolve
      cases hresolve
      rfl
    | atLink q target rest => simp [hwalk, Node.Walk.place?] at hresolve
    | lost why => simp [hwalk, Node.Walk.place?] at hresolve
  obtain ⟨place, hinit, rfl⟩ := Node.walk_of_arrived_file hwalk hget
  have hparent : t.disk.resolve? t.base init = some place := by
    rw [hlinks.resolve?, hinit]
    rfl
  rw [put, List.dropLast_concat, List.getLast?_concat, hparent]
  exact Node.set_eq_mapFiles hdisk hget

end Plain

/-! ### Trees after writes -/

/-- What the latest write by a path of the given kind has written; the latest comes first. -/
def latest? (isOfKind : String → Bool) (writes : List (String × ByteArray)) : Option ByteArray :=
  (writes.find? fun w => isOfKind w.1).map Prod.snd

theorem latest?_cons (isOfKind : String → Bool) (path : String) (content : ByteArray)
    (writes : List (String × ByteArray)) :
    latest? isOfKind ((path, content) :: writes) =
      if isOfKind path then some content else latest? isOfKind writes := by
  rw [latest?, List.find?_cons]
  cases isOfKind path <;> rfl

/-- Two kinds that agree on what has been written. -/
theorem latest?_congr {isOfKind isOfKind' : String → Bool} {writes : List (String × ByteArray)}
    (h : ∀ w ∈ writes, isOfKind w.1 = isOfKind' w.1) :
    latest? isOfKind writes = latest? isOfKind' writes := by
  induction writes with
  | nil => rfl
  | cons w writes ih =>
    rw [List.forall_mem_cons] at h
    rw [latest?_cons, latest?_cons, h.1, ih h.2]

/-- A directory in a dry run, after files have been written. -/
def recording (t : DirectoryTree) (writes : List (String × ByteArray)) : DirectoryTree :=
  t.keeping (writes.foldr (fun w pending => insertFile (Path.strip w.1) w.2 pending) [])

/-- A directory on a disk, after files have been written. -/
def overwritten (t : DirectoryTree) (writes : List (String × ByteArray)) : DirectoryTree :=
  ({ t with dryRun := false } : DirectoryTree).withContents
    (fun p old => (latest? (fun path => t.place? path = some p) writes).getD old) []

theorem overwritten_nil (t : DirectoryTree) :
    t.overwritten [] = { t with dryRun := false, pending := [] } :=
  withContents_id _ []

theorem lookup_recording (t : DirectoryTree) (writes : List (String × ByteArray)) (key : String) :
    (t.recording writes).pending.lookup key =
      latest? (fun path => Path.strip path = key) writes := by
  induction writes with
  | nil => rfl
  | cons w writes ih =>
    have hstep : (t.recording (w :: writes)).pending =
        insertFile (Path.strip w.1) w.2 (t.recording writes).pending := rfl
    rw [hstep, lookup_insertFile, ih, latest?_cons]
    by_cases hkey : key = Path.strip w.1
    · simp [hkey]
    · have hne : ¬ Path.strip w.1 = key := fun heq => hkey heq.symm
      simp [hkey, hne]

/-- A dry run reads back what has been written by the same path. -/
theorem read_recording (t : DirectoryTree) (writes : List (String × ByteArray)) (path : String) :
    (t.recording writes).read path =
      (latest? (fun q => Path.strip q = Path.strip path) writes).or
        ((t.place? path).bind fun p => (t.disk.fileAt? p).map Prod.fst) := by
  have hfile : (t.recording writes).file? path = (t.place? path).bind t.disk.fileAt? :=
    t.file?_eq_bind path
  rw [read_eq, lookup_recording, hfile, Option.map_bind]
  rfl

/-- The disk reads back what has been written to the same place. -/
theorem read_overwritten (t : DirectoryTree) (writes : List (String × ByteArray)) (path : String) :
    (t.overwritten writes).read path =
      (t.place? path).bind fun p => (t.disk.fileAt? p).map fun c =>
        (latest? (fun q => t.place? q = some p) writes).getD c.1 := by
  have hplace : (t.overwritten writes).place? path = t.place? path :=
    place?_withContents _ _ _ path
  have hpending : (t.overwritten writes).pending.lookup (Path.strip path) = none := rfl
  rw [read_eq, hpending, Option.none_or, file?_eq_bind, hplace, Option.map_bind]
  refine Option.bind_congr fun p _ => ?_
  rw [Function.comp_apply, overwritten, withContents, Node.fileAt?_mapFiles, Option.map_map]
  rfl

theorem overwrite_of_place?_eq_none {t : DirectoryTree} {path : String} (h : t.place? path = none)
    (content : ByteArray) : (t.overwrite path content).value = .error (t.refusal path) := by
  refine overwrite_of_file?_eq_none ?_ content
  rw [file?_eq_bind, h, Option.bind_none]

theorem overwrite_recording {t : DirectoryTree} {path : String} {p : Place}
    (h : t.place? path = some p) (writes : List (String × ByteArray)) (content : ByteArray) :
    ((t.recording writes).overwrite path content).value =
      .ok (t.recording ((path, content) :: writes)) := by
  obtain ⟨names, old, mode, hlocate, -, hfile⟩ := exists_of_place? h
  have hlocate' : (t.recording writes).locate path = .ok names := hlocate
  have hfound : (t.recording writes).disk.file? (t.recording writes).base names =
      some (old, mode) := by
    have hbind := t.file?_eq_bind path
    rw [h, Option.bind_some, hfile, file?, hlocate] at hbind
    exact hbind
  rw [overwrite, hlocate']
  simp only [hfound]
  rfl

section Plain

variable {t : DirectoryTree} (hdisk : t.disk.isWellFormed = true) (hlinks : t.disk.IsLinkFree)
include hdisk hlinks

theorem overwrite_overwritten {path : String} {p : Place} (h : t.place? path = some p)
    (writes : List (String × ByteArray)) (content : ByteArray) :
    ((t.overwritten writes).overwrite path content).value =
      .ok (t.overwritten ((path, content) :: writes)) := by
  have hplace : (t.overwritten writes).place? path = some p :=
    (place?_withContents _ _ _ path).trans h
  have hdisk' : (t.overwritten writes).disk.isWellFormed = true :=
    (Node.isWellFormed_mapFiles _ _).trans hdisk
  have hlinks' : (t.overwritten writes).disk.IsLinkFree := fun q target hq =>
    hlinks q target (Node.get?_mapFiles_eq_link_iff.1 hq)
  obtain ⟨names, old, mode, hlocate, hresolve, hfile⟩ := exists_of_place? hplace
  have hfound : (t.overwritten writes).disk.file? (t.overwritten writes).base names =
      some (old, mode) := by
    have hbind := (t.overwritten writes).file?_eq_bind path
    rw [hplace, Option.bind_some, hfile, file?, hlocate] at hbind
    exact hbind
  have hwritten : { t.overwritten writes with
      disk := put (t.overwritten writes).disk (t.overwritten writes).base names
        (.file content mode) } = t.overwritten ((path, content) :: writes) := by
    rw [put_of_place? hdisk' hlinks' hlocate hresolve hfile]
    show (t.overwritten writes).withContents (fun q b => if q = p then content else b) [] = _
    rw [overwritten, withContents_withContents, overwritten]
    congr 1
    funext q b
    rw [latest?_cons, h]
    by_cases hq : q = p
    · simp [hq]
    · have hne : ¬ some p = some q := fun heq => hq (Option.some.inj heq).symm
      simp [hq, hne]
  rw [overwrite, hlocate]
  simp only [hfound]
  exact congrArg Except.ok hwritten

end Plain

end DirectoryTree

/-! ### Calls -/

/-- What can be asked of a tree. -/
inductive Call
  | overwrite (path : String) (content : ByteArray)
  | read (path : String)

/-- What a tree answers. -/
inductive Answer
  | written
  | refused (e : MigrationError)
  | found (content : Option ByteArray)

/-- The path of a call. -/
def Call.path : Call → String
  | overwrite path _ => path
  | read path => path

section Calls

variable {τ : Type} [FileTree τ]

/-- The answer to a call, and the tree after it. -/
def answer (t : τ) : Call → Answer × τ
  | .overwrite path content =>
    match (FileTree.overwrite t path content).value with
    | .ok t' => (.written, t')
    | .error e => (.refused e, t)
  | .read path => (.found (FileTree.read t path), t)

theorem answer_read (t : τ) (path : String) :
    answer t (.read path) = (.found (FileTree.read t path), t) := rfl

/-- The answers to calls, one after another. -/
def answers (t : τ) : List Call → List Answer
  | [] => []
  | c :: cs => (answer t c).1 :: answers (answer t c).2 cs

/-- The tree after calls. -/
def after (t : τ) (calls : List Call) : τ := calls.foldl (fun t c => (answer t c).2) t

end Calls

open DirectoryTree

/-- A write in a dry run: it is kept aside, or there is no such file. -/
theorem answer_recording (t : DirectoryTree) (writes : List (String × ByteArray)) (path : String)
    (content : ByteArray) :
    answer (t.recording writes) (.overwrite path content) =
      match t.place? path with
      | some _ => (.written, t.recording ((path, content) :: writes))
      | none => (.refused (t.refusal path), t.recording writes) := by
  cases hplace : t.place? path with
  | none =>
    have hplace' : (t.recording writes).place? path = none := hplace
    have hvalue : (FileTree.overwrite (t.recording writes) path content).value =
        .error ((t.recording writes).refusal path) := overwrite_of_place?_eq_none hplace' content
    rw [answer, hvalue]
    rfl
  | some p =>
    have hvalue : (FileTree.overwrite (t.recording writes) path content).value =
        .ok (t.recording ((path, content) :: writes)) := overwrite_recording hplace writes content
    rw [answer, hvalue]

/-- A write to a disk of files and directories. -/
theorem answer_overwritten {t : DirectoryTree} (hdisk : t.disk.isWellFormed = true)
    (hlinks : t.disk.IsLinkFree) (writes : List (String × ByteArray)) (path : String)
    (content : ByteArray) :
    answer (t.overwritten writes) (.overwrite path content) =
      match t.place? path with
      | some _ => (.written, t.overwritten ((path, content) :: writes))
      | none => (.refused (t.refusal path), t.overwritten writes) := by
  cases hplace : t.place? path with
  | none =>
    have hplace' : (t.overwritten writes).place? path = none :=
      (place?_withContents _ _ _ path).trans hplace
    have hvalue : (FileTree.overwrite (t.overwritten writes) path content).value =
        .error ((t.overwritten writes).refusal path) :=
      overwrite_of_place?_eq_none hplace' content
    rw [answer, hvalue]
    rfl
  | some p =>
    have hvalue : (FileTree.overwrite (t.overwritten writes) path content).value =
        .ok (t.overwritten ((path, content) :: writes)) :=
      overwrite_overwritten hdisk hlinks hplace writes content
    rw [answer, hvalue]

/-- Whatever is called, a dry run stays on the disk as it is. -/
theorem exists_after_recording (t : DirectoryTree) :
    ∀ (calls : List Call) (writes : List (String × ByteArray)),
      ∃ writes', after (t.recording writes) calls = t.recording writes' := by
  intro calls
  induction calls with
  | nil => exact fun writes => ⟨writes, rfl⟩
  | cons c calls ih =>
    intro writes
    have hstep : ∃ writes', (answer (t.recording writes) c).2 = t.recording writes' := by
      cases c with
      | read path => exact ⟨writes, rfl⟩
      | overwrite path content =>
        rw [answer_recording]
        cases t.place? path with
        | none => exact ⟨writes, rfl⟩
        | some p => exact ⟨_, rfl⟩
    obtain ⟨writes', hwrites'⟩ := hstep
    rw [after, List.foldl_cons, hwrites']
    exact ih writes'

/-- `SpellsApart t paths` says that no file of `t` goes by two spellings among `paths`. -/
def SpellsApart (t : DirectoryTree) (paths : Set String) : Prop :=
  ∀ path ∈ paths, ∀ q ∈ paths, ∀ p, t.place? path = some p → t.place? q = some p →
    Path.strip path = Path.strip q

section Plain

variable {t : DirectoryTree} {paths : Set String}

/-- What has been written is read back alike. -/
theorem read_alike (hapart : SpellsApart t paths) {writes : List (String × ByteArray)}
    (hwrites : ∀ w ∈ writes, w.1 ∈ paths ∧ (t.place? w.1).isSome) {path : String}
    (hpath : path ∈ paths) : (t.recording writes).read path = (t.overwritten writes).read path := by
  rw [read_recording, read_overwritten]
  cases hplace : t.place? path with
  | none =>
    -- nothing has been written by this path, for it leads nowhere
    have hnone : latest? (fun q => Path.strip q = Path.strip path) writes = none := by
      rw [latest?, Option.map_eq_none_iff, List.find?_eq_none]
      intro w hw hstrip
      have hsame := t.place?_congr_strip (of_decide_eq_true hstrip)
      have hsome := (hwrites w hw).2
      rw [hsame, hplace] at hsome
      cases hsome
    rw [hnone]
    rfl
  | some p =>
    obtain ⟨names, old, mode, -, -, hfile⟩ := exists_of_place? hplace
    have hkinds : latest? (fun q => Path.strip q = Path.strip path) writes =
        latest? (fun q => t.place? q = some p) writes := by
      refine latest?_congr fun w hw => decide_eq_decide.2 ⟨fun hstrip => ?_, fun hw' => ?_⟩
      · rw [t.place?_congr_strip hstrip, hplace]
      · exact hapart w.1 (hwrites w hw).1 path hpath p hw' hplace
    rw [hkinds, Option.bind_some, Option.bind_some, hfile]
    cases latest? (fun q => decide (t.place? q = some p)) writes <;> rfl

variable (hdisk : t.disk.isWellFormed = true) (hlinks : t.disk.IsLinkFree)
include hdisk hlinks

/-- **With one spelling for every file a dry run answers like the disk.** -/
theorem answers_alike (hapart : SpellsApart t paths) :
    ∀ (calls : List Call), (∀ c ∈ calls, c.path ∈ paths) →
      ∀ writes : List (String × ByteArray),
        (∀ w ∈ writes, w.1 ∈ paths ∧ (t.place? w.1).isSome) →
        answers (t.recording writes) calls = answers (t.overwritten writes) calls := by
  intro calls
  induction calls with
  | nil => exact fun _ _ _ => rfl
  | cons c calls ih =>
    intro hcalls writes hwrites
    rw [List.forall_mem_cons] at hcalls
    rw [answers, answers]
    cases c with
    | read path =>
      have hread : FileTree.read (t.recording writes) path =
          FileTree.read (t.overwritten writes) path := read_alike hapart hwrites hcalls.1
      rw [answer_read, answer_read, hread, ih hcalls.2 writes hwrites]
    | overwrite path content =>
      rw [answer_recording, answer_overwritten hdisk hlinks]
      cases hplace : t.place? path with
      | none => rw [ih hcalls.2 writes hwrites]
      | some p =>
        have hsome : (t.place? path).isSome := by
          rw [hplace]
          rfl
        have hnext : ∀ w ∈ (path, content) :: writes, w.1 ∈ paths ∧ (t.place? w.1).isSome :=
          List.forall_mem_cons.2 ⟨⟨hcalls.1, hsome⟩, hwrites⟩
        rw [ih hcalls.2 _ hnext]

/-- A file that goes by two spellings is written by one and read by the other. -/
theorem strip_eq_of_answers_alike {path q : String} {p : Place} (hpath : t.place? path = some p)
    (hq : t.place? q = some p)
    (h : ∀ content, answers (t.recording []) [.overwrite path content, .read q] =
      answers (t.overwritten []) [.overwrite path content, .read q]) :
    Path.strip path = Path.strip q := by
  obtain ⟨names, old, mode, -, -, hfile⟩ := exists_of_place? hpath
  -- what is written differs from what is there
  obtain ⟨new, hnew⟩ : ∃ new : ByteArray, new ≠ old := by
    refine ⟨old.push 0, fun heq => ?_⟩
    have hsize := congrArg ByteArray.size heq
    simp at hsize
  by_contra hne
  have hdryRead : FileTree.read (t.recording [(path, new)]) q = some old := by
    show (t.recording [(path, new)]).read q = some old
    rw [read_recording, hq, Option.bind_some, hfile, latest?_cons]
    simp [hne, latest?]
  have hrealRead : FileTree.read (t.overwritten [(path, new)]) q = some new := by
    show (t.overwritten [(path, new)]).read q = some new
    rw [read_overwritten, hq, Option.bind_some, hfile, latest?_cons]
    simp [hpath]
  have hcalls := h new
  simp only [answers, answer_recording, answer_overwritten hdisk hlinks, hpath, answer_read,
    hdryRead, hrealRead, List.cons.injEq, Answer.found.injEq, Option.some.injEq] at hcalls
  exact hnew hcalls.2.1.symm

end Plain

/-- **A dry run answers like the disk just for paths that spell no file in two ways**, on a disk of
files and directories.  Whatever is called, the disk stays as it is. -/
theorem dryRun_answers_alike_iff (disk : Node) (hdisk : disk.isWellFormed = true)
    (hlinks : disk.IsLinkFree) (base : Place) (root : String) (paths : Set String) :
    ((∀ calls : List Call, (∀ c ∈ calls, c.path ∈ paths) →
        answers (⟨disk, base, root, true, []⟩ : DirectoryTree) calls =
          answers (⟨disk, base, root, false, []⟩ : DirectoryTree) calls) ↔
      SpellsApart ⟨disk, base, root, true, []⟩ paths) ∧
      ∀ calls : List Call,
        (after (⟨disk, base, root, true, []⟩ : DirectoryTree) calls).disk = disk := by
  have hreal : (⟨disk, base, root, true, []⟩ : DirectoryTree).overwritten [] =
      ⟨disk, base, root, false, []⟩ := overwritten_nil _
  refine ⟨⟨fun h path hpath q hq place hplace hplace' => ?_, fun hapart calls hcalls => ?_⟩,
    fun calls => ?_⟩
  · refine strip_eq_of_answers_alike (t := ⟨disk, base, root, true, []⟩) hdisk hlinks hplace hplace'
      fun content => ?_
    rw [hreal]
    refine h _ fun c hc => ?_
    rcases List.mem_pair.1 hc with rfl | rfl
    · exact hpath
    · exact hq
  · rw [← hreal]
    exact answers_alike (t := ⟨disk, base, root, true, []⟩) hdisk hlinks hapart calls hcalls []
      (by simp)
  · obtain ⟨writes, hwrites⟩ :=
      exists_after_recording (⟨disk, base, root, true, []⟩ : DirectoryTree) calls []
    exact congrArg DirectoryTree.disk hwrites

def spelledDisk : Node :=
  .dir [("a.ts", .file "old".toUTF8 420), ("src", .dir [("b.ts", .file "old".toUTF8 493)])]

theorem isLinkFree_spelledDisk : spelledDisk.IsLinkFree := by
  have hsrc : (Node.dir [("b.ts", .file "old".toUTF8 493)]).IsLinkFree :=
    Node.isLinkFree_dir (List.forall_mem_singleton.2 (Node.isLinkFree_file _ _))
  refine Node.isLinkFree_dir (List.forall_mem_cons.2 ⟨Node.isLinkFree_file _ _, ?_⟩)
  exact List.forall_mem_singleton.2 hsrc

/-- Slashes at the start are no other spelling, and a dot is. -/
theorem dryRun_answers_alike_spelled :
    spelledDisk.isWellFormed = true ∧ spelledDisk.IsLinkFree ∧
      (∀ calls : List Call,
        (∀ c ∈ calls, c.path ∈ ({"a.ts", "//a.ts", "src//b.ts"} : Set String)) →
        answers (⟨spelledDisk, [], "", true, []⟩ : DirectoryTree) calls =
          answers (⟨spelledDisk, [], "", false, []⟩ : DirectoryTree) calls) ∧
      ¬ ∀ calls : List Call, (∀ c ∈ calls, c.path ∈ ({"src/b.ts", "src/./b.ts"} : Set String)) →
        answers (⟨spelledDisk, [], "", true, []⟩ : DirectoryTree) calls =
          answers (⟨spelledDisk, [], "", false, []⟩ : DirectoryTree) calls := by
  have hdisk : spelledDisk.isWellFormed = true := by decide +kernel
  refine ⟨hdisk, isLinkFree_spelledDisk, ?_, ?_⟩
  · refine (dryRun_answers_alike_iff spelledDisk hdisk isLinkFree_spelledDisk [] "" _).1.2 ?_
    have ha : place? ⟨spelledDisk, [], "", true, []⟩ "a.ts" = some (["a.ts"] : Place) := by
      decide +kernel
    have ha' : place? ⟨spelledDisk, [], "", true, []⟩ "//a.ts" = some (["a.ts"] : Place) := by
      decide +kernel
    have hb : place? ⟨spelledDisk, [], "", true, []⟩ "src//b.ts" =
        some (["src", "b.ts"] : Place) := by decide +kernel
    have hsame : Path.strip "a.ts" = Path.strip "//a.ts" := by decide +kernel
    rintro path (rfl | rfl | rfl) q (rfl | rfl | rfl) p hpath hq <;> simp_all
  · rw [(dryRun_answers_alike_iff spelledDisk hdisk isLinkFree_spelledDisk [] "" _).1]
    intro hapart
    have hstrip := hapart "src/b.ts" (Or.inl rfl) "src/./b.ts" (Or.inr rfl) ["src", "b.ts"]
      (by decide +kernel) (by decide +kernel)
    exact absurd hstrip (by decide +kernel)

/-- What has been written by one spelling is not read back by another. -/
theorem dryRun_answers_differ :
    ¬ ∀ disk : Node, disk.isWellFormed = true → disk.IsLinkFree → ∀ base root,
      ∀ calls : List Call,
        answers (⟨disk, base, root, true, []⟩ : DirectoryTree) calls =
          answers (⟨disk, base, root, false, []⟩ : DirectoryTree) calls := by
  intro h
  have hdisk : spelledDisk.isWellFormed = true := by decide +kernel
  have hdot : place? ⟨spelledDisk, [], "", true, []⟩ "./a.ts" = some (["a.ts"] : Place) := by
    decide +kernel
  have hplain : place? ⟨spelledDisk, [], "", true, []⟩ "a.ts" = some (["a.ts"] : Place) := by
    decide +kernel
  have hstrip := strip_eq_of_answers_alike hdisk isLinkFree_spelledDisk hdot hplain
    fun content => by
      rw [overwritten_nil]
      exact h spelledDisk hdisk isLinkFree_spelledDisk [] "" _
  exact absurd hstrip (by decide +kernel)

end Codemod
