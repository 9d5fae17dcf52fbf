import Codemod.Path
import Codemod.Tree

/-!
# Trees in memory

## Main definitions

* `MemoryTree` — files by their paths, in the order of the paths.
* `MemoryTree.insert` — adds a file.
-/

namespace Codemod

/-- Files by their paths, in the order of the paths. -/
structure MemoryTree where
  files : List (String × ByteArray)
  /-- A path comes once, after all that are less. -/
  sorted : files.Pairwise fun f g => f.1 < g.1
  /-- No path starts with a slash. -/
  stripped : ∀ f ∈ files, Path.strip f.1 = f.1

/-- Sets the contents for a path, in the order of paths. -/
def insertFile (path : String) (content : ByteArray) :
    List (String × ByteArray) → List (String × ByteArray)
  | [] => [(path, content)]
  | f :: fs =>
    if f.1 = path then (path, content) :: fs
    else if path < f.1 then (path, content) :: f :: fs
    else f :: insertFile path content fs

/-- Every file after an insertion is the new one or an old one. -/
theorem mem_insertFile {path : String} {content : ByteArray} {fs : List (String × ByteArray)}
    {f : String × ByteArray} (h : f ∈ insertFile path content fs) :
    f = (path, content) ∨ f ∈ fs := by
  induction fs with
  | nil => exact Or.inl (by simpa [insertFile] using h)
  | cons g fs ih =>
    unfold insertFile at h
    split at h
    · rcases List.mem_cons.1 h with rfl | h
      · exact Or.inl rfl
      · exact Or.inr (List.mem_cons_of_mem _ h)
    · split at h
      · exact List.mem_cons.1 h
      · rcases List.mem_cons.1 h with rfl | h
        · exact Or.inr List.mem_cons_self
        · exact (ih h).imp_right (List.mem_cons_of_mem _)

/-- An insertion keeps the order of the paths. -/
theorem pairwise_insertFile {path : String} {content : ByteArray}
    {fs : List (String × ByteArray)} (h : fs.Pairwise fun f g => f.1 < g.1) :
    (insertFile path content fs).Pairwise fun f g => f.1 < g.1 := by
  induction fs with
  | nil => simp [insertFile]
  | cons g fs ih =>
    obtain ⟨hg, hfs⟩ := List.pairwise_cons.1 h
    unfold insertFile
    split
    · next heq =>
      subst heq
      exact List.pairwise_cons.2 ⟨hg, hfs⟩
    · next hne =>
      split
      · next hlt =>
        refine List.pairwise_cons.2 ⟨fun f hf => ?_, h⟩
        rcases List.mem_cons.1 hf with rfl | hf
        · exact hlt
        · exact String.lt_trans hlt (hg f hf)
      · next hle =>
        have hlt : g.1 < path :=
          String.not_le.1 fun hpg => hne (String.le_antisymm (String.not_lt.1 hle) hpg)
        refine List.pairwise_cons.2 ⟨fun f hf => ?_, ih hfs⟩
        rcases mem_insertFile hf with rfl | hf
        · exact hlt
        · exact hg f hf

namespace MemoryTree

/-- A tree without files. -/
def empty : MemoryTree := ⟨[], List.Pairwise.nil, by simp⟩

instance : Inhabited MemoryTree := ⟨empty⟩

/-- Adds a file, or replaces the one that is there. -/
def insert (t : MemoryTree) (path : String) (content : ByteArray) : MemoryTree where
  files := insertFile (Path.strip path) content t.files
  sorted := pairwise_insertFile t.sorted
  stripped f hf := by
    rcases mem_insertFile hf with rfl | hf
    · exact Path.strip_strip path
    · exact t.stripped f hf

/-- A tree of files. -/
def ofFiles (files : List (String × ByteArray)) : MemoryTree :=
  files.foldl (fun t f => t.insert f.1 f.2) empty

/-- The contents of the file of a path. -/
def read (t : MemoryTree) (path : String) : Option ByteArray := t.files.lookup (Path.strip path)

/-- `t.contains path` tells whether there is a file of `path`. -/
def contains (t : MemoryTree) (path : String) : Bool := (t.read path).isSome

/-- The contents of a file as text. -/
def readText (t : MemoryTree) (path : String) : Option String :=
  (t.read path).bind String.fromUTF8?

/-- Replaces the contents of a file that is there. -/
def overwrite (t : MemoryTree) (path : String) (content : ByteArray) :
    Except MigrationError MemoryTree :=
  if t.contains path then .ok (t.insert path content)
  else .error (.internal ("Cannot overwrite missing file: " ++ path))

instance : FileTree MemoryTree where
  load t path := pure (t.read path)
  overwrite t path content := pure (t.overwrite path content)
  paths t := t.files.map Prod.fst

end MemoryTree

end Codemod
