import Codemod.Tree.Memory
import Mathlib.Data.List.Nodup
import Mathlib.Data.List.Perm.Basic

/-!
# Trees whose files stand alone

A migration sees a tree through three operations only.  `IsolatedTree` collects what they must keep
to so that writing one file leaves all others as they are, and trees in memory keep to it, in
whatever order their files are visited.

## Main definitions

* `IsolatedTree` — the laws.
* `VisitOrder`, `VisitedTree` — a tree in memory with another order of its files.

## Main results

* `MemoryTree.read_insert` — what is read after a file has been set.
* `MemoryTree.ext_read` — a tree is known from what is read from it.
-/

namespace Codemod

/-- A file of the tree can always be written, and writing it changes no other file. -/
class IsolatedTree (τ : Type) [FileTree τ] : Prop where
  /-- Slashes at the start of a path do not matter. -/
  read_strip (t : τ) (path : String) : FileTree.read t (Path.strip path) = FileTree.read t path
  /-- The paths of a tree have no slashes at their start. -/
  strip_of_mem_paths {t : τ} {path : String} : path ∈ FileTree.paths t → Path.strip path = path
  nodup_paths (t : τ) : (FileTree.paths t).Nodup
  /-- What can be read is listed. -/
  mem_paths_of_read {t : τ} {path : String} {bytes : ByteArray} :
    FileTree.read t path = some bytes → Path.strip path ∈ FileTree.paths t
  /-- A file that can be read can be written. -/
  exists_overwrite {t : τ} {path : String} {bytes : ByteArray} (content : ByteArray) :
    FileTree.read t path = some bytes →
      ∃ t', (FileTree.overwrite t path content).value = .ok t' ∧
        (FileTree.paths t').Perm (FileTree.paths t) ∧
        ∀ q, FileTree.read t' q =
          if Path.strip q = Path.strip path then some content else FileTree.read t q

/-! ### Lists of files -/

theorem lookup_file_cons {α β : Type} [BEq α] [LawfulBEq α] [DecidableEq α] (path q : α)
    (content : β) (fs : List (α × β)) :
    ((path, content) :: fs).lookup q = if q = path then some content else fs.lookup q := by
  rw [List.lookup_cons]
  by_cases hq : q = path
  · simp [hq]
  · simp [beq_eq_false_iff_ne.2 hq, hq]

theorem lookup_insertFile (path q : String) (content : ByteArray) :
    ∀ fs : List (String × ByteArray),
      (insertFile path content fs).lookup q = if q = path then some content else fs.lookup q := by
  intro fs
  induction fs with
  | nil => exact lookup_file_cons path q content []
  | cons f fs ih =>
    obtain ⟨name, bytes⟩ := f
    rw [insertFile]
    by_cases hf : name = path
    · -- the file is the first of the list
      subst hf
      rw [if_pos rfl, lookup_file_cons, lookup_file_cons]
      by_cases hq : q = name <;> simp [hq]
    · rw [if_neg hf]
      by_cases hlt : path < name
      · rw [if_pos hlt, lookup_file_cons]
      · rw [if_neg hlt, lookup_file_cons, lookup_file_cons, ih]
        by_cases hq : q = name
        · subst hq
          simp [hf]
        · simp [hq]

/-- Setting a file that is there keeps the paths. -/
theorem map_fst_insertFile {path : String} (content : ByteArray) :
    ∀ {fs : List (String × ByteArray)}, (fs.Pairwise fun f g => f.1 < g.1) →
      path ∈ fs.map Prod.fst → (insertFile path content fs).map Prod.fst = fs.map Prod.fst := by
  intro fs
  induction fs with
  | nil => intro _ h; simp at h
  | cons f fs ih =>
    intro hs hmem
    obtain ⟨hf, hfs⟩ := List.pairwise_cons.1 hs
    unfold insertFile
    by_cases heq : f.1 = path
    · simp [heq]
    · -- the path comes later, so it is not less than the first
      have hmem' : path ∈ fs.map Prod.fst := by
        rcases List.mem_cons.1 hmem with h | h
        · exact absurd h.symm heq
        · exact h
      obtain ⟨g, hg, rfl⟩ := List.mem_map.1 hmem'
      have hnlt : ¬g.1 < f.1 := String.lt_asymm (hf g hg)
      rw [if_neg heq, if_neg hnlt, List.map_cons, List.map_cons, ih hfs hmem']

/-- Where no path comes twice, a file is there exactly when it is found. -/
theorem lookup_eq_some_iff_mem {α β : Type} [BEq α] [LawfulBEq α] [DecidableEq α] {path : α}
    {content : β} :
    ∀ {fs : List (α × β)}, (fs.map Prod.fst).Nodup →
      (fs.lookup path = some content ↔ (path, content) ∈ fs) := by
  intro fs
  induction fs with
  | nil => simp
  | cons f fs ih =>
    intro hs
    obtain ⟨hf, hfs⟩ := List.nodup_cons.1 hs
    obtain ⟨name, content'⟩ := f
    by_cases h : path = name
    · subst h
      have hnot : (path, content) ∉ fs := fun hmem => hf (List.mem_map.2 ⟨_, hmem, rfl⟩)
      simp [hnot, eq_comm]
    · rw [lookup_file_cons, if_neg h, ih hfs]
      simp [h]

/-! ### Trees in memory -/

namespace MemoryTree

theorem read_strip (t : MemoryTree) (path : String) : t.read (Path.strip path) = t.read path := by
  rw [read, read, Path.strip_strip]

/-- Setting a file changes what is read for its path and nothing else. -/
theorem read_insert (t : MemoryTree) (path q : String) (content : ByteArray) :
    (t.insert path content).read q =
      if Path.strip q = Path.strip path then some content else t.read q :=
  lookup_insertFile (Path.strip path) (Path.strip q) content t.files

theorem pairwise_paths (t : MemoryTree) : (t.files.map Prod.fst).Pairwise (· < ·) :=
  List.pairwise_map.2 t.sorted

theorem nodup_paths (t : MemoryTree) : (t.files.map Prod.fst).Nodup :=
  t.pairwise_paths.imp String.ne_of_lt

theorem mem_paths_of_read {t : MemoryTree} {path : String} {bytes : ByteArray}
    (h : t.read path = some bytes) : Path.strip path ∈ t.files.map Prod.fst :=
  List.mem_map_of_mem (f := Prod.fst) ((lookup_eq_some_iff_mem t.nodup_paths).1 h)

/-- The files after one has been set. -/
theorem mem_files_insert {t : MemoryTree} {path : String} (h : Path.strip path = path)
    {new : ByteArray} {path' : String} {content : ByteArray} :
    (path', content) ∈ (t.insert path new).files ↔
      if path' = path then new = content else (path', content) ∈ t.files := by
  have hlookup : (t.insert path new).files.lookup path' =
      if path' = path then some new else t.files.lookup path' := by
    show (insertFile (Path.strip path) new t.files).lookup path' = _
    rw [h, lookup_insertFile]
  rw [← lookup_eq_some_iff_mem (t.insert path new).nodup_paths, hlookup]
  split
  · rw [Option.some.injEq]
  · exact lookup_eq_some_iff_mem t.nodup_paths

/-- What is read by a path without slashes at its start is the file of this path. -/
theorem mem_files_iff_read {t : MemoryTree} {path : String} {content : ByteArray}
    (h : Path.strip path = path) : (path, content) ∈ t.files ↔ t.read path = some content := by
  rw [read, h, lookup_eq_some_iff_mem t.nodup_paths]

theorem strip_of_mem_paths {t : MemoryTree} {path : String} (h : path ∈ t.files.map Prod.fst) :
    Path.strip path = path := by
  obtain ⟨f, hf, rfl⟩ := List.mem_map.1 h
  exact t.stripped f hf

theorem overwrite_of_read {t : MemoryTree} {path : String} {bytes : ByteArray}
    (content : ByteArray) (h : t.read path = some bytes) :
    t.overwrite path content = .ok (t.insert path content) := by
  simp [overwrite, contains, h]

theorem paths_insert {t : MemoryTree} {path : String} {bytes : ByteArray} (content : ByteArray)
    (h : t.read path = some bytes) :
    (t.insert path content).files.map Prod.fst = t.files.map Prod.fst :=
  map_fst_insertFile content t.sorted (mem_paths_of_read h)

/-- A tree is known from what is read from it. -/
theorem ext_read {s t : MemoryTree} (h : ∀ path, s.read path = t.read path) : s = t := by
  have hmem : ∀ (s t : MemoryTree), (∀ path, s.read path = t.read path) →
      ∀ f ∈ s.files, f ∈ t.files := by
    intro s t h f hf
    have hread : s.read f.1 = some f.2 := by
      rw [read, s.stripped f hf]
      exact (lookup_eq_some_iff_mem s.nodup_paths).2 hf
    rw [h, read, s.stripped f hf] at hread
    exact (lookup_eq_some_iff_mem t.nodup_paths).1 hread
  have hnodup : ∀ t : MemoryTree, t.files.Nodup := fun t => List.Nodup.of_map _ t.nodup_paths
  have hperm : s.files.Perm t.files :=
    (List.perm_ext_iff_of_nodup (hnodup s) (hnodup t)).2 fun f =>
      ⟨hmem s t h f, hmem t s (fun path => (h path).symm) f⟩
  have hfiles : s.files = t.files :=
    hperm.eq_of_pairwise (fun f g _ _ hfg hgf => absurd hgf (String.lt_asymm hfg))
      s.sorted t.sorted
  cases s
  cases t
  simpa using hfiles

end MemoryTree

instance : IsolatedTree MemoryTree where
  read_strip := MemoryTree.read_strip
  strip_of_mem_paths := MemoryTree.strip_of_mem_paths
  nodup_paths := MemoryTree.nodup_paths
  mem_paths_of_read := MemoryTree.mem_paths_of_read
  exists_overwrite content h :=
    ⟨_, MemoryTree.overwrite_of_read content h, .of_eq (MemoryTree.paths_insert content h),
      fun q => MemoryTree.read_insert _ _ q content⟩

/-! ### Other orders of visiting -/

/-- An order to visit the files of a tree in; it may change whenever the tree does. -/
structure VisitOrder where
  visit : MemoryTree → List String
  /-- Every file is visited once. -/
  perm (t : MemoryTree) : (visit t).Perm (FileTree.paths t)

/-- A tree in memory whose files are visited in a given order. -/
structure VisitedTree (order : VisitOrder) where
  tree : MemoryTree

instance (order : VisitOrder) : FileTree (VisitedTree order) where
  load t path := pure (t.tree.read path)
  overwrite t path content := pure ((t.tree.overwrite path content).map VisitedTree.mk)
  paths t := order.visit t.tree

instance (order : VisitOrder) : IsolatedTree (VisitedTree order) where
  read_strip t := t.tree.read_strip
  strip_of_mem_paths h := MemoryTree.strip_of_mem_paths ((order.perm _).mem_iff.1 h)
  nodup_paths t := (order.perm t.tree).nodup_iff.2 t.tree.nodup_paths
  mem_paths_of_read h := (order.perm _).mem_iff.2 (MemoryTree.mem_paths_of_read h)
  exists_overwrite {t path bytes} content h := by
    refine ⟨⟨t.tree.insert path content⟩, ?_, ?_, fun q => t.tree.read_insert path q content⟩
    · show (t.tree.overwrite path content).map VisitedTree.mk = _
      rw [MemoryTree.overwrite_of_read content h]
      rfl
    · have hpaths : FileTree.paths (t.tree.insert path content) = FileTree.paths t.tree :=
        MemoryTree.paths_insert content h
      exact (order.perm _).trans (hpaths ▸ (order.perm _).symm)

end Codemod
