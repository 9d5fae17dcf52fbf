import Codemod.Proofs.Namings
import Mathlib.Data.List.Nodup

/-!
# Namings are interchangeable

A pattern that ends in a segment and an extension stands for the same set of patterns, whichever mark
is before the segment.  Any pattern can be taken apart at its last slash and its last dot, and either
nothing comes of it or its parts are there; segments without marks leave one way only to take it
apart, so that neither their order nor their repetition is seen.

## Main definitions

* `Naming.IsExtension` — what an extension looks like.
* `Naming.Parts` — the parts of a pattern that ends in a segment and an extension.
* `Naming.Parts.dotted`, `Naming.Parts.dashed`, `Naming.Parts.bare` — the ways to spell it.

## Main results

* `Naming.siblings_cases` — a pattern has nothing besides it, or it is spelled from parts.
* `Naming.segmentOf?_eq_some_iff` — which segment a name ends in.
* `expand_interchanges_namings` — **both spellings stand for one set, others for themselves.**
-/

namespace Codemod

namespace Naming

/-! ### Taking any pattern apart -/

theorem exists_last_of_mem {c : Char} {cs : List Char} (h : c ∈ cs) :
    ∃ before after, cs = before ++ c :: after ∧ c ∉ after := by
  obtain ⟨after, before, hreverse, hafter⟩ :=
    List.eq_append_cons_of_mem (List.mem_reverse.2 h)
  refine ⟨before.reverse, after.reverse, ?_, by simpa using hafter⟩
  rw [← List.reverse_reverse cs, hreverse]
  simp

/-- Any pattern is a directory and a name. -/
theorem exists_splitDirectory (cs : List Char) :
    ∃ dir name, splitDirectory cs = (dir, name) ∧ cs = dir ++ name ∧ Glob.IsNames dir ∧
      '/' ∉ name := by
  by_cases hslash : '/' ∈ cs
  · obtain ⟨before, name, rfl, hname⟩ := exists_last_of_mem hslash
    have hdir : Glob.IsNames (before ++ ['/']) := Or.inr (by simp)
    have hcs : before ++ '/' :: name = before ++ ['/'] ++ name := by simp
    refine ⟨before ++ ['/'], name, ?_, hcs, hdir, hname⟩
    rw [hcs, splitDirectory_append hdir hname]
  · exact ⟨[], cs, splitDirectory_append (Or.inl rfl) hslash, rfl, Or.inl rfl, hslash⟩

theorem splitExtension?_eq_some {name head extension : List Char}
    (h : splitExtension? name = some (head, extension)) :
    ∃ rest, extension = '.' :: rest ∧ '.' ∉ rest ∧ name = head ++ '.' :: rest := by
  rw [splitExtension?] at h
  obtain ⟨hlast, -⟩ := Option.filter_eq_some_iff.1 h
  by_cases hdot : '.' ∈ name
  · obtain ⟨before, rest, rfl, hrest⟩ := exists_last_of_mem hdot
    rw [splitAtLast?_append hrest] at hlast
    cases hlast
    exact ⟨rest, rfl, hrest, rfl⟩
  · rw [splitAtLast?_of_notMem hdot] at hlast
    cases hlast

theorem segmentOf?_eq_some {n : Naming} {name stem : List Char} {s : String}
    (h : n.segmentOf? name = some (s, stem)) :
    s ∈ n.segments ∧ stem ≠ [] ∧ ∃ mark ∈ marks, name = stem ++ mark :: s.toList := by
  rw [segmentOf?] at h
  obtain ⟨t, ht, hfound⟩ := List.exists_of_findSome?_eq_some h
  obtain ⟨stem', hstem, heq⟩ := Option.map_eq_some_iff.1 hfound
  cases heq
  exact ⟨ht, stem?_eq_some_iff.1 hstem⟩

/-- Which segment a name ends in: segments without marks do not stand in each other's way. -/
theorem segmentOf?_eq_some_iff {n : Naming} (hsegments : ∀ t ∈ n.segments, IsUnmarked t.toList)
    {name stem : List Char} {s : String} :
    n.segmentOf? name = some (s, stem) ↔
      s ∈ n.segments ∧ stem ≠ [] ∧ ∃ mark ∈ marks, name = stem ++ mark :: s.toList := by
  constructor
  · exact segmentOf?_eq_some
  · rintro ⟨hs, hstem, mark, hmark, rfl⟩
    exact segmentOf?_append hsegments hs hstem hmark

theorem isUnmarked_of_forall {cs : List Char} (h : ∀ c ∈ ['.', '-', '/'], c ∉ cs) :
    IsUnmarked cs :=
  fun mark hmark => h mark (List.mem_append_left ['/'] hmark)

/-! ### The parts of a pattern -/

/-- `IsExtension e` says that `e` is a dot and a text without dots and slashes. -/
def IsExtension (e : String) : Prop := ∃ rest, e.toList = '.' :: rest ∧ '.' ∉ rest ∧ '/' ∉ rest

/-- The parts of a pattern that ends in a segment and an extension. -/
structure Parts (n : Naming) where
  /-- The directory, which is empty or ends with a slash. -/
  dir : String
  stem : String
  segment : String
  /-- The extension with its dot. -/
  extension : String
  isNames_dir : Glob.IsNames dir.toList
  stem_ne_empty : stem ≠ ""
  slash_notMem_stem : '/' ∉ stem.toList
  segment_mem : segment ∈ n.segments
  isExtension : IsExtension extension

namespace Parts

variable {n : Naming}

/-- The pattern with a text between its stem and its extension. -/
def spelled (p : n.Parts) (middle : String) : String := p.dir ++ p.stem ++ middle ++ p.extension

/-- The pattern with a dot before its segment. -/
def dotted (p : n.Parts) : String := p.spelled ("." ++ p.segment)

/-- The pattern with a dash before its segment. -/
def dashed (p : n.Parts) : String := p.spelled ("-" ++ p.segment)

/-- The pattern without its segment. -/
def bare (p : n.Parts) : String := p.spelled ""

/-- The patterns that stand for the pattern, however it is spelled. -/
def namings (p : n.Parts) : List String :=
  [p.dotted, p.dashed] ++ if p.segment ∈ n.removable then [p.bare] else []

theorem toList_spelled (p : n.Parts) (middle : String) :
    (p.spelled middle).toList =
      p.dir.toList ++ p.stem.toList ++ middle.toList ++ p.extension.toList := by
  simp [spelled]

theorem dot_mem_spelled (p : n.Parts) (middle : String) : '.' ∈ (p.spelled middle).toList := by
  obtain ⟨rest, hextension, -⟩ := p.isExtension
  simp [toList_spelled, hextension]

theorem toList_marked (p : n.Parts) (mark : Char) :
    (p.spelled (String.ofList [mark] ++ p.segment)).toList =
      p.dir.toList ++ (p.stem.toList ++ mark :: p.segment.toList ++ p.extension.toList) := by
  simp [toList_spelled]

theorem namings_eq (p : n.Parts) :
    p.namings =
      [String.ofList (p.dir.toList ++ p.stem.toList ++ '.' :: p.segment.toList ++
          p.extension.toList),
        String.ofList (p.dir.toList ++ p.stem.toList ++ '-' :: p.segment.toList ++
          p.extension.toList)] ++
      if p.segment ∈ n.removable then
        [String.ofList (p.dir.toList ++ p.stem.toList ++ p.extension.toList)] else [] := by
  have hform : ∀ middle : String, p.spelled middle =
      String.ofList (p.dir.toList ++ p.stem.toList ++ middle.toList ++ p.extension.toList) := by
    intro middle
    rw [← toList_spelled, String.ofList_toList]
  simp [namings, dotted, dashed, bare, hform]

theorem mem_namings_iff (p : n.Parts) {x : String} :
    x ∈ p.namings ↔ x = p.dotted ∨ x = p.dashed ∨ p.segment ∈ n.removable ∧ x = p.bare := by
  rw [namings]
  by_cases hremovable : p.segment ∈ n.removable <;> simp [hremovable]

theorem dotted_ne_dashed (p : n.Parts) : p.dotted ≠ p.dashed := by
  intro h
  have hchars := congrArg String.toList h
  simp [dotted, dashed, toList_spelled] at hchars

/-- A pattern in one of the two spellings has all of them besides it. -/
theorem siblings_spelled (hsegments : ∀ t ∈ n.segments, ∀ c ∈ ['.', '-', '/'], c ∉ t.toList)
    (p : n.Parts) (mark : Char) (hmark : mark ∈ marks) :
    n.siblings (p.spelled (String.ofList [mark] ++ p.segment)).toList = p.namings := by
  obtain ⟨rest, hextension, hdot, hslash⟩ := p.isExtension
  have hunmarked : ∀ t ∈ n.segments, IsUnmarked t.toList := fun t ht =>
    isUnmarked_of_forall (hsegments t ht)
  have hslashes : ∀ cs ∈ [p.stem.toList, p.segment.toList, rest], '/' ∉ cs := by
    simp [p.slash_notMem_stem, hsegments _ p.segment_mem, hslash]
  have hstem : p.stem.toList ≠ [] := by simpa using p.stem_ne_empty
  rw [toList_marked, namings_eq, hextension]
  exact siblings_append hunmarked p.segment_mem hstem hmark p.isNames_dir hslashes hdot

end Parts

/-- A pattern has nothing besides it, or it is in one of the two spellings and has all of them besides
it. -/
theorem siblings_cases (n : Naming) (pattern : String) :
    n.siblings pattern.toList = [] ∨
      ∃ p : n.Parts, (pattern = p.dotted ∨ pattern = p.dashed) ∧
        n.siblings pattern.toList = p.namings := by
  obtain ⟨dir, name, hsplit, hpattern, hdir, hname⟩ := exists_splitDirectory pattern.toList
  cases hext : splitExtension? name with
  | none => exact Or.inl (by simp [siblings, hsplit, hext])
  | some parted =>
    obtain ⟨head, extension⟩ := parted
    cases hsegment : n.segmentOf? head with
    | none => exact Or.inl (by simp [siblings, hsplit, hext, hsegment])
    | some found =>
      obtain ⟨s, stem⟩ := found
      obtain ⟨rest, rfl, hdot, rfl⟩ := splitExtension?_eq_some hext
      obtain ⟨hs, hstem, mark, hmark, rfl⟩ := segmentOf?_eq_some hsegment
      have hslash : '/' ∉ stem ∧ '/' ∉ rest := by
        simp only [List.mem_append, List.mem_cons, not_or] at hname
        exact ⟨hname.1.1, hname.2.2⟩
      let p : n.Parts :=
        { dir := String.ofList dir
          stem := String.ofList stem
          segment := s
          extension := String.ofList ('.' :: rest)
          isNames_dir := by simpa using hdir
          stem_ne_empty := by simpa using hstem
          slash_notMem_stem := by simpa using hslash.1
          segment_mem := hs
          isExtension := ⟨rest, by simp, hdot, hslash.2⟩ }
      have hspelled : pattern = p.spelled (String.ofList [mark] ++ s) := by
        rw [← String.toList_inj, hpattern]
        rw [p.toList_marked mark]
        simp [p]
      refine Or.inr ⟨p, ?_, ?_⟩
      · simp only [marks, List.mem_cons, List.not_mem_nil, or_false] at hmark
        rcases hmark with rfl | rfl
        · exact Or.inl hspelled
        · exact Or.inr hspelled
      · rw [Parts.namings_eq]
        simp only [siblings, hsplit, hext, hsegment, p, String.toList_ofList, List.append_nil]

/-! ### The set of a pattern -/

theorem prefix_foldl_insertNew (ys : List String) :
    ∀ xs : List String, xs <+: ys.foldl insertNew xs := by
  induction ys with
  | nil => exact fun xs => List.prefix_rfl
  | cons y ys ih =>
    intro xs
    refine List.IsPrefix.trans ?_ (ih (insertNew xs y))
    rw [insertNew]
    split
    · exact List.prefix_rfl
    · exact List.prefix_append _ _

theorem nodup_foldl_insertNew (ys : List String) :
    ∀ {xs : List String}, xs.Nodup → (ys.foldl insertNew xs).Nodup := by
  induction ys with
  | nil => exact id
  | cons y ys ih =>
    intro xs hxs
    refine ih ?_
    rw [insertNew]
    split
    · exact hxs
    · next hy =>
      rw [← List.concat_eq_append]
      exact hxs.concat hy

/-- The pattern that is given comes first. -/
theorem head?_patternsFor (n : Naming) (p : String) : (n.patternsFor p).head? = some p := by
  obtain ⟨others, hothers⟩ := prefix_foldl_insertNew (n.siblings p.toList) [p]
  rw [patternsFor, ← hothers]
  rfl

theorem nodup_patternsFor (n : Naming) (p : String) : (n.patternsFor p).Nodup :=
  nodup_foldl_insertNew _ (List.nodup_singleton p)

/-- Vocabularies with the same segments expand every pattern alike, events included. -/
theorem expand_congr {n n' : Naming} (hsegments : ∀ t ∈ n.segments, IsUnmarked t.toList)
    (hsame : ∀ s, s ∈ n'.segments ↔ s ∈ n.segments)
    (hremovable : ∀ s, s ∈ n'.removable ↔ s ∈ n.removable) (p : String) :
    n'.expand p = n.expand p := by
  have hsegments' : ∀ t ∈ n'.segments, IsUnmarked t.toList := fun t ht =>
    hsegments t ((hsame t).1 ht)
  have hfound : ∀ name, n'.segmentOf? name = n.segmentOf? name := by
    intro name
    ext ⟨s, stem⟩
    rw [segmentOf?_eq_some_iff hsegments', segmentOf?_eq_some_iff hsegments, hsame]
  have hsiblings : n'.siblings p.toList = n.siblings p.toList := by
    simp only [siblings, hfound, hremovable]
  rw [expand, expand, patternsFor, patternsFor, hsiblings]

end Naming

/-- **Both spellings stand for one set, others for themselves.**  Segments may be written anywhere in
the directory and the stem, and in any order, once or more often, in the vocabulary. -/
theorem expand_interchanges_namings (n : Naming)
    (hsegments : ∀ s ∈ n.segments, ∀ c ∈ ['.', '-', '/'], c ∉ s.toList) :
    (∀ parts : n.Parts, ∀ p ∈ [parts.dotted, parts.dashed],
      (n.expand p).value.head? = some p ∧ (n.expand p).value.Nodup ∧
        ∀ x, x ∈ (n.expand p).value ↔
          x = parts.dotted ∨ x = parts.dashed ∨
            parts.segment ∈ n.removable ∧ x = parts.bare) ∧
    (∀ p, (n.expand p).value = [p] ↔
      ∀ parts : n.Parts, p ≠ parts.dotted ∧ p ≠ parts.dashed) ∧
    ∀ n' : Naming, (∀ s, s ∈ n'.segments ↔ s ∈ n.segments) →
      (∀ s, s ∈ n'.removable ↔ s ∈ n.removable) → ∀ p, n'.expand p = n.expand p := by
  have hsiblings : ∀ parts : n.Parts, ∀ p ∈ [parts.dotted, parts.dashed],
      n.siblings p.toList = parts.namings := by
    intro parts p hp
    simp only [List.mem_cons, List.not_mem_nil, or_false] at hp
    rcases hp with rfl | rfl
    · exact parts.siblings_spelled hsegments '.' (by decide)
    · exact parts.siblings_spelled hsegments '-' (by decide)
  have hmem : ∀ parts : n.Parts, ∀ p ∈ [parts.dotted, parts.dashed], ∀ x,
      x ∈ n.patternsFor p ↔ x ∈ parts.namings := by
    intro parts p hp x
    rw [Naming.mem_patternsFor_iff, hsiblings parts p hp, or_iff_right_iff_imp]
    rintro rfl
    simp only [List.mem_cons, List.not_mem_nil, or_false] at hp
    exact parts.mem_namings_iff.2 (hp.imp_right Or.inl)
  refine ⟨fun parts p hp => ?_, fun p => ?_, fun n' hsame hremovable p => ?_⟩
  · rw [Naming.value_expand]
    refine ⟨n.head?_patternsFor p, n.nodup_patternsFor p, fun x => ?_⟩
    rw [hmem parts p hp, parts.mem_namings_iff]
  · rw [Naming.value_expand]
    constructor
    · intro halone parts
      -- both spellings would be in the set, and they differ
      have hother : p ∉ [parts.dotted, parts.dashed] := by
        intro hp
        have hdotted := (hmem parts p hp _).2 (parts.mem_namings_iff.2 (Or.inl rfl))
        have hdashed := (hmem parts p hp _).2 (parts.mem_namings_iff.2 (Or.inr (Or.inl rfl)))
        rw [halone, List.mem_singleton] at hdotted hdashed
        exact parts.dotted_ne_dashed (hdotted.trans hdashed.symm)
      simpa using hother
    · intro hshape
      rcases n.siblings_cases p with hnone | ⟨parts, hp, -⟩
      · rw [Naming.patternsFor, hnone]
        rfl
      · exact absurd hp (not_or.2 (hshape parts))
  · exact Naming.expand_congr (fun t ht => Naming.isUnmarked_of_forall (hsegments t ht)) hsame
      hremovable p

/-- A pattern that has its segment in its directory and its stem too. -/
def repeatingParts : Naming.Parts ⟨["pipe", "component"], ["component"]⟩ where
  dir := "a.component.ts/"
  stem := "b.component-pipe"
  segment := "component"
  extension := ".ts"
  isNames_dir := Or.inr (by decide)
  stem_ne_empty := by decide
  slash_notMem_stem := by decide
  segment_mem := by decide
  isExtension := ⟨['t', 's'], by decide, by decide, by decide⟩

/-- The vocabulary repeats itself, and a pattern without an extension is not expanded. -/
theorem expand_interchanges_namings_repeating :
    (∀ s ∈ ["pipe", "component"], ∀ c ∈ ['.', '-', '/'], c ∉ s.toList) ∧
      (∀ x, x ∈ ((⟨["component", "pipe", "component"], ["component"]⟩ : Naming).expand
            "a.component.ts/b.component-pipe-component.ts").value ↔
          x = "a.component.ts/b.component-pipe.component.ts" ∨
            x = "a.component.ts/b.component-pipe-component.ts" ∨
            x = "a.component.ts/b.component-pipe.ts") ∧
      ((⟨["pipe", "component"], ["component"]⟩ : Naming).expand "**/*").value = ["**/*"] := by
  have hsegments : ∀ s ∈ ["pipe", "component"], ∀ c ∈ ['.', '-', '/'], c ∉ s.toList := by simp
  obtain ⟨hspelled, halone, hvocabulary⟩ :=
    expand_interchanges_namings ⟨["pipe", "component"], ["component"]⟩ hsegments
  refine ⟨hsegments, fun x => ?_, (halone "**/*").2 fun parts => ?_⟩
  · have hdotted : repeatingParts.dotted = "a.component.ts/b.component-pipe.component.ts" := by
      decide
    have hdashed : repeatingParts.dashed = "a.component.ts/b.component-pipe-component.ts" := by
      decide
    have hbare : repeatingParts.bare = "a.component.ts/b.component-pipe.ts" := by decide
    have hremovable : repeatingParts.segment ∈ ["component"] := by decide
    have hmem := (hspelled repeatingParts _ (List.mem_cons_of_mem _ List.mem_cons_self)).2.2 x
    rw [hdotted, hdashed, hbare, and_iff_right hremovable] at hmem
    rw [hvocabulary ⟨["component", "pipe", "component"], ["component"]⟩ (by simp) (by simp)]
    exact hmem
  · -- the pattern has no dot, and the parts have one
    have hdot : '.' ∉ "**/*".toList := by decide
    constructor
    · intro h
      exact hdot (h ▸ parts.dot_mem_spelled _)
    · intro h
      exact hdot (h ▸ parts.dot_mem_spelled _)

end Codemod
