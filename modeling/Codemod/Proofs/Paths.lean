import Codemod.Selector
import Mathlib.Data.List.Infix

/-!
# Paths and their names

A path is a text, and it is compared as one.  What it stands for are the names between its slashes.
A path below a root starts with the names of the root and goes on after them, and this is what the
comparison of the texts comes to, however the root is written.

## Main definitions

* `Path.IsName` — the names of files and directories.
* `Path.IsCanonical` — paths that are made of names.
* `Path.IsBelow` — a path is below a root, name by name.
* `Path.within`, `Path.IsAtOrBelow` — names in a directory, and directories below a root.
* `InScope` — a path is below one of the scope roots.

## Main results

* `Path.split_join`, `Path.join_split` — paths and their names.
* `Path.append_slash_prefix_iff` — a text with a slash after it starts a path exactly when its names
  do and the path goes on.
* `Path.isBelow_within` — what is in a directory below a root is below the root.
* `Selector.inScope_iff` — the scope test of a selector, name by name.
-/

namespace Codemod

namespace Path

theorem pieces_eq_splitOn {α : Type} [DecidableEq α] (separator : α) (l : List α) :
    pieces separator l = l.splitOn separator := by
  induction l with
  | nil => rfl
  | cons c l ih =>
    rw [pieces, ih, List.splitOn_cons_eq_if_modifyHead]
    by_cases hc : c = separator
    · simp [hc]
    · obtain ⟨p, ps, hps⟩ := List.exists_cons_of_ne_nil (List.splitOn_ne_nil separator l)
      simp [hc, hps]

theorem splitChars_eq_splitOn (cs : List Char) : splitChars cs = cs.splitOn '/' :=
  pieces_eq_splitOn '/' cs

theorem splitChars_ne_nil (cs : List Char) : splitChars cs ≠ [] := by
  rw [splitChars_eq_splitOn]
  exact List.splitOn_ne_nil '/' cs

theorem splitChars_append_slash (a b : List Char) :
    splitChars (a ++ '/' :: b) = splitChars a ++ splitChars b := by
  simp only [splitChars_eq_splitOn, List.splitOn_append_cons_self]

theorem intercalate_splitChars (cs : List Char) : ['/'].intercalate (splitChars cs) = cs := by
  rw [splitChars_eq_splitOn, List.intercalate_splitOn]

/-- Names with further names after them. -/
theorem intercalate_append {ps qs : List (List Char)} (hps : ps ≠ []) (hqs : qs ≠ []) :
    ['/'].intercalate (ps ++ qs) = ['/'].intercalate ps ++ '/' :: ['/'].intercalate qs := by
  induction ps with
  | nil => exact absurd rfl hps
  | cons p ps ih =>
    cases ps with
    | nil =>
      rw [List.singleton_append, List.intercalate_cons_of_ne_nil hqs, List.intercalate_singleton,
        List.append_assoc, List.singleton_append]
    | cons p' ps =>
      rw [List.cons_append, List.intercalate_cons_of_ne_nil (by simp), ih (by simp),
        List.intercalate_cons_cons, List.append_assoc _ (['/'].intercalate (p' :: ps))]

/-- A text with a slash after it starts a path exactly when its names do and the path goes on after
them. -/
theorem append_slash_prefix_iff {a b : List Char} :
    a ++ ['/'] <+: b ↔ splitChars a <+: splitChars b ∧ splitChars a ≠ splitChars b := by
  constructor
  · rintro ⟨rest, rfl⟩
    rw [List.append_assoc, List.singleton_append, splitChars_append_slash]
    refine ⟨List.prefix_append _ _, fun heq => ?_⟩
    exact splitChars_ne_nil rest (List.append_right_eq_self.1 heq.symm)
  · rintro ⟨⟨names, hnames⟩, hne⟩
    have hrest : names ≠ [] := by
      rintro rfl
      exact hne (by simpa using hnames)
    refine ⟨['/'].intercalate names, ?_⟩
    have hjoin := intercalate_append (splitChars_ne_nil a) hrest
    rw [hnames, intercalate_splitChars, intercalate_splitChars] at hjoin
    rw [hjoin, List.append_assoc, List.singleton_append]

/-! ### Names -/

/-- `IsName name` says that `name` can be the name of a file or a directory. -/
def IsName (name : String) : Prop :=
  name ≠ "" ∧ name ≠ "." ∧ name ≠ ".." ∧ '/' ∉ name.toList

instance (name : String) : Decidable (IsName name) :=
  inferInstanceAs (Decidable (_ ∧ _))

theorem toList_join (names : List String) :
    (join names).toList = ['/'].intercalate (names.map String.toList) :=
  String.toList_intercalate

/-- The names of a path that is made of names. -/
theorem split_join {names : List String} (hne : names ≠ []) (h : ∀ name ∈ names, IsName name) :
    split (join names) = names := by
  have hslash : ∀ cs ∈ names.map String.toList, '/' ∉ cs := by
    intro cs hcs
    obtain ⟨name, hname, rfl⟩ := List.mem_map.1 hcs
    exact (h name hname).2.2.2
  rw [split, toList_join, splitChars_eq_splitOn, List.splitOn_intercalate '/' hslash (by simpa),
    List.map_map]
  simp

/-- A path that is made of names has no slash at its start. -/
theorem strip_join {names : List String} (h : ∀ name ∈ names, IsName name) :
    strip (join names) = join names := by
  cases names with
  | nil => rfl
  | cons name names =>
    obtain ⟨hne, -, -, hslash⟩ := h name List.mem_cons_self
    have hstart : ∃ rest, (join (name :: names)).toList = name.toList ++ rest := by
      rw [toList_join, List.map_cons]
      cases names with
      | nil => exact ⟨[], by simp⟩
      | cons name' names =>
        rw [List.intercalate_cons_of_ne_nil (by simp), List.append_assoc]
        exact ⟨_, rfl⟩
    obtain ⟨rest, hjoin⟩ := hstart
    obtain ⟨c, cs, hcs⟩ := List.exists_cons_of_ne_nil (l := name.toList) (by simpa using hne)
    have hc : c ≠ '/' := by
      rintro rfl
      exact hslash (by simp [hcs])
    rw [hcs, List.cons_append] at hjoin
    rw [strip, stripChars, hjoin, List.dropWhile_cons_of_neg (by simpa using hc), ← hjoin,
      String.ofList_toList]

/-- The names of a path make the path. -/
theorem join_split (path : String) : join (split path) = path := by
  have hchars : (splitChars path.toList).map (String.toList ∘ String.ofList) =
      splitChars path.toList := by
    simp [Function.comp_def]
  rw [← String.toList_inj, toList_join, split, List.map_map, hchars, intercalate_splitChars]

theorem split_ne_nil (path : String) : split path ≠ [] := by
  simp [split, splitChars_ne_nil]

/-! ### Canonical paths -/

/-- `IsCanonical path` says that `path` is made of names. -/
def IsCanonical (path : String) : Prop := ∀ name ∈ split path, IsName name

instance (path : String) : Decidable (IsCanonical path) :=
  inferInstanceAs (Decidable (∀ name ∈ split path, IsName name))

namespace IsCanonical

variable {path : String} (h : IsCanonical path)
include h

theorem strip : strip path = path := by
  have hstrip := strip_join h
  rwa [join_split] at hstrip

theorem ne_empty : path ≠ "" := by
  rintro rfl
  exact (h "" List.mem_cons_self).1 rfl

theorem dots_notMem_split : ".." ∉ split path :=
  fun hmem => (h ".." hmem).2.2.1 rfl

end IsCanonical

/-! ### Below a root -/

/-- The names of a root.  A slash at its end adds none. -/
def rootNames (root : String) : List String :=
  let cs := stripChars root.toList
  (splitChars (if cs.getLast? = some '/' then cs.dropLast else cs)).map String.ofList

/-- `IsBelow root path` says that `path` is below `root`: the names of `root` are its first names,
and there are more.  Below an empty root is everything. -/
def IsBelow (root path : String) : Prop :=
  strip root = "" ∨
    (rootNames root <+: split (strip path) ∧ rootNames root ≠ split (strip path))

instance (root path : String) : Decidable (IsBelow root path) :=
  inferInstanceAs (Decidable (_ ∨ _))

/-! ### In a directory -/

/-- The path of a name in a directory.  The empty path is that of the whole tree. -/
def within (dir name : String) : String := if dir = "" then name else dir ++ "/" ++ name

/-- `IsAtOrBelow root dir` says that the directory `dir` is `root` or below it: the names of `root`
are its first names. -/
def IsAtOrBelow (root dir : String) : Prop :=
  strip root = "" ∨ rootNames root <+: split (strip dir)

instance (root dir : String) : Decidable (IsAtOrBelow root dir) :=
  inferInstanceAs (Decidable (_ ∨ _))

theorem stripChars_append_of_ne_nil {dir : List Char} (h : stripChars dir ≠ []) (rest : List Char) :
    stripChars (dir ++ rest) = stripChars dir ++ rest := by
  rw [stripChars, stripChars, List.dropWhile_append]
  have hempty : (dir.dropWhile (· = '/')).isEmpty = false := by
    simpa [stripChars] using h
  rw [hempty, if_neg Bool.false_ne_true]

/-- Only an empty root has no names of its own. -/
theorem strip_eq_empty_of_rootNames {root : String} (h : rootNames root <+: [""]) :
    strip root = "" := by
  rw [rootNames] at h
  have hstripped := stripChars_stripChars root.toList
  generalize hcs : stripChars root.toList = cs at h hstripped
  have hsplit : splitChars (if cs.getLast? = some '/' then cs.dropLast else cs) = splitChars [] := by
    rcases List.prefix_cons_iff.1 h with hnil | ⟨names, hone, hnames⟩
    · exact absurd (List.map_eq_nil_iff.1 hnil) (splitChars_ne_nil _)
    · rw [List.prefix_nil.1 hnames] at hone
      exact List.map_injective_iff.2 (fun _ _ => String.ofList_injective) hone
  have hchars := congrArg (['/'].intercalate ·) hsplit
  simp only [intercalate_splitChars] at hchars
  have hnil : cs = [] := by
    by_cases hlast : cs.getLast? = some '/'
    · -- the root would be one slash, but those are stripped
      rw [if_pos hlast] at hchars
      rw [← List.dropLast_append_getLast? _ hlast, hchars] at hstripped
      cases hstripped
    · rwa [if_neg hlast] at hchars
  rw [strip, hcs, hnil]

/-- A name in a directory that is a root, or below it, is below the root. -/
theorem isBelow_within {root dir : String} (h : IsAtOrBelow root dir) (name : String) :
    IsBelow root (within dir name) := by
  rcases h with h | h
  · exact Or.inl h
  · by_cases hdir : stripChars dir.toList = []
    · -- a directory without names is below an empty root only
      rw [strip, hdir] at h
      exact Or.inl (strip_eq_empty_of_rootNames h)
    · have hne : dir ≠ "" := by
        rintro rfl
        exact hdir rfl
      have hchars : stripChars (within dir name).toList =
          stripChars dir.toList ++ '/' :: name.toList := by
        rw [within, if_neg hne]
        simp [stripChars_append_of_ne_nil hdir]
      have hsplit : split (strip (within dir name)) = split (strip dir) ++ split name := by
        rw [strip, hchars, split, String.toList_ofList, splitChars_append_slash, List.map_append,
          strip, split, split, String.toList_ofList]
      rw [IsBelow, hsplit]
      refine Or.inr ⟨h.trans (List.prefix_append _ _), fun heq => ?_⟩
      have hlength := h.length_le
      rw [heq, List.length_append] at hlength
      have hpos := List.length_pos_iff.2 (split_ne_nil name)
      omega

end Path

/-! ### Scope -/

/-- `InScope roots path` says that `path` is below one of the scope roots `roots`. -/
def InScope (roots : List String) (path : String) : Prop :=
  ∃ root ∈ roots, Path.IsBelow root path

instance (roots : List String) (path : String) : Decidable (InScope roots path) :=
  inferInstanceAs (Decidable (∃ root ∈ roots, Path.IsBelow root path))

namespace Selector

/-- What paths below a root start with is the root with one slash at its end. -/
theorem scopeStart_eq {root : String} (hne : Path.stripChars root.toList ≠ []) :
    scopeStart root =
      (if (Path.stripChars root.toList).getLast? = some '/'
        then (Path.stripChars root.toList).dropLast
        else Path.stripChars root.toList) ++ ['/'] := by
  rw [scopeStart]
  by_cases hlast : (Path.stripChars root.toList).getLast? = some '/'
  · simp only [hlast, decide_true, Bool.or_true, if_true]
    exact (List.dropLast_append_getLast? _ hlast).symm
  · simp only [hlast, decide_false, Bool.or_false, if_false, List.isEmpty_iff, hne]

/-- The scope test compares names. -/
theorem scopeStart_isPrefixOf_iff (root path : String) :
    (scopeStart root).isPrefixOf (Path.stripChars path.toList) = true ↔
      Path.IsBelow root path := by
  have hstrip : Path.strip root = "" ↔ Path.stripChars root.toList = [] := by
    rw [Path.strip, ← String.toList_inj, String.toList_ofList, String.toList_empty]
  rw [List.isPrefixOf_iff_prefix, Path.IsBelow, hstrip]
  by_cases hroot : Path.stripChars root.toList = []
  · simp [scopeStart, hroot]
  · have hinj : Function.Injective String.ofList := fun _ _ => String.ofList_injective
    rw [scopeStart_eq hroot, Path.append_slash_prefix_iff, or_iff_right hroot, Path.rootNames,
      Path.split, Path.strip, String.toList_ofList, List.prefix_map_iff_of_injective hinj,
      (List.map_injective_iff.2 hinj).ne_iff]

/-- The roots of a selector are those that it is made for. -/
theorem roots_of_ofPatterns {roots patterns : List String} {s : Selector}
    (h : ofPatterns roots patterns = .ok s) : s.roots = roots.map scopeStart := by
  rw [ofPatterns] at h
  cases hglobs : globsOf patterns with
  | error e => rw [hglobs] at h; cases h
  | ok globs => rw [hglobs] at h; cases h; rfl

/-- **The scope test of a selector, name by name.** -/
theorem inScope_iff {roots patterns : List String} {s : Selector}
    (h : ofPatterns roots patterns = .ok s) (path : String) :
    s.inScope path = true ↔ InScope roots path := by
  simp only [inScope, roots_of_ofPatterns h, List.any_map, List.any_eq_true, Function.comp_apply,
    scopeStart_isPrefixOf_iff, InScope]

end Selector

end Codemod
