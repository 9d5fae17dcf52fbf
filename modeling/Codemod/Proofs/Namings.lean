import Codemod.Naming
import Codemod.Proofs.Globs
import Codemod.Proofs.Paths

/-!
# Every naming is selected

A pattern that is written for one way of naming files is meant for all of them.  It is taken apart at
its last slash, its last dot and the dot or dash before its segment, and put together again in every
way; a selector then matches each of the patterns that come out.  Segments without dots and dashes
are found where they are, whatever the stem before them looks like, so that files are selected
however they are named.

## Main definitions

* `Naming.marks` — what stands before a segment.
* `Naming.IsLetters` — a text of ASCII letters.

## Main results

* `Naming.siblings_append` — the patterns besides one that ends in a segment.
* `Naming.mem_expandAll_iff` — the patterns that patterns are expanded to.
* `Selector.isMatched_iff` — which paths the patterns of a selector name.
* `selects_every_naming` — **a pattern for one naming selects the files of all namings.**
-/

namespace Codemod

namespace Naming

/-! ### Taking a pattern apart -/

theorem splitAtLast?_of_notMem {c : Char} {cs : List Char} (h : c ∉ cs) :
    splitAtLast? c cs = none := by
  induction cs with
  | nil => rfl
  | cons x xs ih =>
    rw [List.mem_cons, not_or] at h
    rw [splitAtLast?, ih h.2]
    simp [Ne.symm h.1]

theorem splitAtLast?_append {c : Char} {after : List Char} (h : c ∉ after) (before : List Char) :
    splitAtLast? c (before ++ c :: after) = some (before, c :: after) := by
  induction before with
  | nil =>
    rw [List.nil_append, splitAtLast?, splitAtLast?_of_notMem h]
    simp
  | cons x xs ih => rw [List.cons_append, splitAtLast?, ih]

/-- The directory of a pattern is empty or ends with a slash. -/
theorem splitDirectory_append {dir name : List Char} (hdir : Glob.IsNames dir) (hname : '/' ∉ name) :
    splitDirectory (dir ++ name) = (dir, name) := by
  rcases hdir with rfl | hdir
  · rw [List.nil_append, splitDirectory, splitAtLast?_of_notMem hname]
  · obtain ⟨before, rfl⟩ := List.getLast?_eq_some_iff.1 hdir
    rw [List.append_assoc, List.singleton_append, splitDirectory, splitAtLast?_append hname]
    rfl

theorem splitExtension?_append {head extension : List Char} (hhead : head ≠ [])
    (hextension : '.' ∉ extension) :
    splitExtension? (head ++ '.' :: extension) = some (head, '.' :: extension) := by
  rw [splitExtension?, splitAtLast?_append hextension, Option.filter_some]
  simp [hhead]

theorem dropEnding?_eq_some_iff {ending cs rest : List Char} :
    dropEnding? ending cs = some rest ↔ cs = rest ++ ending := by
  rw [dropEnding?]
  constructor
  · intro h
    split at h
    · next hsuffix =>
      obtain ⟨front, rfl⟩ := List.isSuffixOf_iff_suffix.1 hsuffix
      have htake : (front ++ ending).take ((front ++ ending).length - ending.length) = front :=
        List.take_left' (by simp)
      rw [htake, Option.some.injEq] at h
      rw [h]
    · cases h
  · rintro rfl
    rw [if_pos (List.isSuffixOf_iff_suffix.2 (List.suffix_append _ _)), List.take_left' (by simp)]

/-- What stands before a segment. -/
def marks : List Char := ['.', '-']

theorem stem?_eq_some_iff {name segment stem : List Char} :
    stem? name segment = some stem ↔
      stem ≠ [] ∧ ∃ mark ∈ marks, name = stem ++ mark :: segment := by
  have hstem : ∀ before : List Char, ∀ rest,
      (dropEnding? ['.'] before).or (dropEnding? ['-'] before) = some rest ↔
        ∃ mark ∈ marks, before = rest ++ [mark] := by
    intro before rest
    simp only [marks, List.mem_cons, List.not_mem_nil, or_false, exists_eq_or_imp,
      exists_eq_left, ← dropEnding?_eq_some_iff]
    cases hdot : dropEnding? ['.'] before with
    | none => simp
    | some dotted =>
      -- a text that ends in a dot does not end in a dash
      have hdash : dropEnding? ['-'] before = none := by
        cases hdash : dropEnding? ['-'] before with
        | none => rfl
        | some dashed =>
          have heq := (dropEnding?_eq_some_iff.1 hdot).symm.trans (dropEnding?_eq_some_iff.1 hdash)
          simp at heq
      simp [hdash]
  simp only [stem?, bind, Option.bind_eq_some_iff, hstem, dropEnding?_eq_some_iff]
  constructor
  · rintro ⟨before, rfl, rest, ⟨mark, hmark, rfl⟩, h⟩
    by_cases hrest : rest = []
    · simp [hrest] at h
    · have hstem : rest = stem := by simpa [hrest] using h
      subst hstem
      exact ⟨hrest, mark, hmark, by simp⟩
  · rintro ⟨hne, mark, hmark, rfl⟩
    exact ⟨stem ++ [mark], by simp, stem, ⟨mark, hmark, rfl⟩, by simp [hne]⟩

/-! ### Segments -/

/-- `IsLetters s` says that `s` is a text of letters. -/
def IsLetters (s : String) : Prop := ∀ c ∈ s.toList, c.isAlpha = true

instance (s : String) : Decidable (IsLetters s) :=
  decidable_of_iff (s.toList.all Char.isAlpha = true) List.all_eq_true

/-- `IsUnmarked cs` says that `cs` has neither dots nor dashes. -/
def IsUnmarked (cs : List Char) : Prop := ∀ mark ∈ marks, mark ∉ cs

/-- A name ends in one segment only, after the last of its marks. -/
theorem eq_of_append_mark {stem stem' s t : List Char} {mark mark' : Char} (hs : IsUnmarked s)
    (ht : IsUnmarked t) (hmark : mark ∈ marks) (hmark' : mark' ∈ marks)
    (h : stem ++ mark :: s = stem' ++ mark' :: t) : stem = stem' ∧ s = t := by
  rcases List.append_eq_append_iff.1 h with ⟨more, hstem, hrest⟩ | ⟨more, hstem, hrest⟩
  · cases more with
    | nil => simpa [hstem, and_comm] using (List.cons.inj hrest).2
    | cons c more =>
      obtain ⟨-, rfl⟩ := List.cons.inj hrest
      exact absurd (by simp) (hs mark' hmark')
  · cases more with
    | nil => simpa [hstem, eq_comm] using (List.cons.inj hrest).2
    | cons c more =>
      obtain ⟨-, rfl⟩ := List.cons.inj hrest
      exact absurd (by simp) (ht mark hmark)

section Siblings

variable {n : Naming} (hsegments : ∀ t ∈ n.segments, IsUnmarked t.toList) {s : String}
  (hs : s ∈ n.segments) {stem : List Char} (hstem : stem ≠ []) {mark : Char} (hmark : mark ∈ marks)
include hsegments hs hstem hmark

/-- The segment of a name is found, whatever segments come before it. -/
theorem segmentOf?_append : n.segmentOf? (stem ++ mark :: s.toList) = some (s, stem) := by
  have hself : stem? (stem ++ mark :: s.toList) s.toList = some stem :=
    stem?_eq_some_iff.2 ⟨hstem, mark, hmark, rfl⟩
  rw [segmentOf?]
  cases hfound : n.segments.findSome? fun t =>
      (stem? (stem ++ mark :: s.toList) t.toList).map fun stem => (t, stem) with
  | none =>
    have hnone := List.findSome?_eq_none_iff.1 hfound s hs
    simp [hself] at hnone
  | some r =>
    -- what is found is a segment that the name ends in, and there is only one
    obtain ⟨t, ht, hr⟩ := List.exists_of_findSome?_eq_some hfound
    obtain ⟨stem', hstem', rfl⟩ := Option.map_eq_some_iff.1 hr
    obtain ⟨-, mark', hmark', hname⟩ := stem?_eq_some_iff.1 hstem'
    obtain ⟨rfl, hst⟩ :=
      eq_of_append_mark (hsegments s hs) (hsegments t ht) hmark hmark' hname
    rw [String.toList_inj.1 hst]

/-- The patterns besides one that ends in a segment: with a dot, with a dash, and without the segment
if it can be left out. -/
theorem siblings_append {dir extension : List Char} (hdir : Glob.IsNames dir)
    (hslash : ∀ cs ∈ [stem, s.toList, extension], '/' ∉ cs) (hextension : '.' ∉ extension) :
    n.siblings (dir ++ (stem ++ mark :: s.toList ++ '.' :: extension)) =
      [String.ofList (dir ++ stem ++ '.' :: s.toList ++ '.' :: extension),
        String.ofList (dir ++ stem ++ '-' :: s.toList ++ '.' :: extension)] ++
      if s ∈ n.removable then [String.ofList (dir ++ stem ++ '.' :: extension)] else [] := by
  have hname : '/' ∉ stem ++ mark :: s.toList ++ '.' :: extension := by
    have hne : '/' ≠ mark := by
      rintro rfl
      simp [marks] at hmark
    simp only [List.forall_mem_cons] at hslash
    simp [hslash, hne]
  have hhead : stem ++ mark :: s.toList ≠ [] := by simp
  simp only [siblings, splitDirectory_append hdir hname, splitExtension?_append hhead hextension,
    segmentOf?_append hsegments hs hstem hmark, List.append_nil]

end Siblings

/-! ### Expanding patterns -/

theorem mem_foldl_insertNew {x : String} {ys : List String} :
    ∀ {xs : List String}, x ∈ ys.foldl insertNew xs ↔ x ∈ xs ∨ x ∈ ys := by
  induction ys with
  | nil => simp
  | cons y ys ih =>
    intro xs
    have hinsert : x ∈ insertNew xs y ↔ x ∈ xs ∨ x = y := by
      rw [insertNew]
      by_cases hy : y ∈ xs
      · rw [if_pos hy]
        exact ⟨Or.inl, fun h => h.elim id fun h => h ▸ hy⟩
      · rw [if_neg hy, List.mem_append, List.mem_singleton]
    rw [List.foldl_cons, ih, hinsert, List.mem_cons, or_assoc]

theorem value_expand (n : Naming) (p : String) : (n.expand p).value = n.patternsFor p := by
  rw [expand]
  by_cases h : 1 < (n.patternsFor p).length <;> simp [h]

/-- A pattern stands for itself and for those besides it. -/
theorem mem_patternsFor_iff {n : Naming} {p x : String} :
    x ∈ n.patternsFor p ↔ x = p ∨ x ∈ n.siblings p.toList := by
  rw [patternsFor, mem_foldl_insertNew, List.mem_singleton]

theorem mem_expandInto_iff {n : Naming} {x : String} :
    ∀ {ps found : List String},
      x ∈ (n.expandInto found ps).value ↔ x ∈ found ∨ ∃ p ∈ ps, x ∈ n.patternsFor p := by
  intro ps
  induction ps with
  | nil => simp [expandInto]
  | cons p ps ih =>
    intro found
    rw [expandInto, Logged.value_bind, ih, value_expand, mem_foldl_insertNew,
      List.exists_mem_cons_iff, or_assoc]

/-- The patterns that patterns are expanded to. -/
theorem mem_expandAll_iff {n : Naming} {ps : List String} {x : String} :
    x ∈ (n.expandAll ps).value ↔ ∃ p ∈ ps, x ∈ n.patternsFor p := by
  rw [expandAll, mem_expandInto_iff]
  simp

end Naming

/-! ### Patterns of a selector -/

namespace Selector

/-- Globs are read from patterns one by one. -/
theorem globsOf_eq_ok_iff {ps : List String} {globs : List Glob} :
    globsOf ps = .ok globs ↔
      ps.map (fun p => Glob.parse (Path.strip p).toList) = globs.map .ok := by
  induction ps generalizing globs with
  | nil => cases globs <;> simp [globsOf]
  | cons p ps ih =>
    rw [globsOf]
    cases hparse : Glob.parse (Path.strip p).toList with
    | error e =>
      cases globs <;> simp [hparse, bind, Except.bind, throw, throwThe, MonadExceptOf.throw]
    | ok glob =>
      cases hrest : globsOf ps with
      | error e =>
        cases globs <;> simp [hparse, bind, Except.bind, pure, Except.pure, ← ih, hrest]
      | ok globs' =>
        cases globs <;> simp [hparse, bind, Except.bind, pure, Except.pure, ← ih, hrest]

variable {roots ps : List String}

theorem globs_of_ofPatterns {s : Selector} (h : ofPatterns roots ps = .ok s) :
    ps.map (fun p => Glob.parse (Path.strip p).toList) = s.globs.map .ok := by
  rw [ofPatterns] at h
  cases hglobs : globsOf ps with
  | error e =>
    rw [hglobs] at h
    cases h
  | ok globs =>
    rw [hglobs] at h
    cases h
    exact globsOf_eq_ok_iff.1 hglobs

/-- Every pattern of a selector is one of its globs. -/
theorem parse_of_ofPatterns {s : Selector} (h : ofPatterns roots ps = .ok s) {p : String}
    (hp : p ∈ ps) : ∃ g ∈ s.globs, Glob.parse (Path.strip p).toList = .ok g := by
  have hread : Glob.parse (Path.strip p).toList ∈ s.globs.map Except.ok := by
    rw [← globs_of_ofPatterns h]
    exact List.mem_map.2 ⟨p, hp, rfl⟩
  obtain ⟨g, hg, hok⟩ := List.mem_map.1 hread
  exact ⟨g, hg, hok.symm⟩

/-- There is a selector for patterns that are globs. -/
theorem exists_ofPatterns (roots : List String)
    (h : ∀ p ∈ ps, ∃ g, Glob.parse (Path.strip p).toList = .ok g) :
    ∃ s, ofPatterns roots ps = .ok s := by
  have hglobs : globsOf ps =
      .ok (ps.map fun p => (Glob.parse (Path.strip p).toList).toOption.getD []) := by
    rw [globsOf_eq_ok_iff, List.map_map]
    refine List.map_congr_left fun p hp => ?_
    obtain ⟨g, hg⟩ := h p hp
    simp [hg, Except.toOption]
  rw [ofPatterns, hglobs]
  exact ⟨_, rfl⟩

/-- **The patterns of a selector name the paths that their globs stand for.** -/
theorem isMatched_iff {s : Selector} (h : ofPatterns roots ps = .ok s) (path : String) :
    s.isMatched path = true ↔ ∃ p ∈ ps, ∃ g, Glob.parse (Path.strip p).toList = .ok g ∧
      Glob.Matches g (Path.stripChars path.toList) := by
  rw [isMatched, List.any_eq_true]
  constructor
  · rintro ⟨g, hg, haccepts⟩
    have hread : Except.ok g ∈ ps.map fun p => Glob.parse (Path.strip p).toList := by
      rw [globs_of_ofPatterns h]
      exact List.mem_map_of_mem hg
    obtain ⟨p, hp, hparse⟩ := List.mem_map.1 hread
    exact ⟨p, hp, g, hparse, (Glob.accepts_iff_matches hparse _).1 haccepts⟩
  · rintro ⟨p, hp, g, hparse, hmatches⟩
    obtain ⟨g', hg', hparse'⟩ := parse_of_ofPatterns h hp
    obtain rfl := Except.ok.inj (hparse.symm.trans hparse')
    exact ⟨g, hg', (Glob.accepts_iff_matches hparse _).2 hmatches⟩

end Selector

/-! ### Patterns for endings -/

/-- `Glob.IsPlain c` says that `c` stands for itself in a glob. -/
def Glob.IsPlain (c : Char) : Prop := c ≠ '?' ∧ c ≠ '*' ∧ c ≠ '['

theorem Glob.parseFrom_plain {lit : List Char} :
    ∀ {prev : Option Char} {read : List GlobToken}, (∀ c ∈ lit, IsPlain c) →
      parseFrom prev read 0 lit = .ok (read.reverse ++ lit.map .char) := by
  induction lit with
  | nil => simp [parseFrom]
  | cons c lit ih =>
    intro prev read hplain
    obtain ⟨⟨hquestion, hstar, hclass⟩, hlit⟩ := List.forall_mem_cons.1 hplain
    have htoken : readToken prev c lit = .ok (.char c, 0) := by
      rw [readToken, if_neg hquestion, if_neg hstar, if_neg hclass]
    have hpush : push (.char c) read = .char c :: read := by
      unfold push
      split <;> simp
    rw [parseFrom, htoken]
    simp only [hpush]
    rw [ih hlit]
    simp

/-- The pattern of all files, in any directory, whose names have an ending. -/
def Naming.patternOfEnding (ending : List Char) : String := String.ofList ("**/*".toList ++ ending)

theorem Naming.patternOfEnding_eq (ending : List Char) :
    patternOfEnding ending = String.ofList ('*' :: '*' :: '/' :: '*' :: ending) := by
  have hstem : "**/*".toList = ['*', '*', '/', '*'] := by simp
  exact congrArg (fun cs => String.ofList (cs ++ ending)) hstem

namespace Glob

variable {ending : List Char} (h : ∀ c ∈ ending, IsPlain c)
include h

theorem parse_patternOfEnding :
    parse (Path.strip (Naming.patternOfEnding ending)).toList =
      .ok (.anyNames :: .anySequence :: ending.map .char) := by
  have hstrip : (Path.strip (Naming.patternOfEnding ending)).toList =
      '*' :: '*' :: '/' :: '*' :: ending := by
    simp [Naming.patternOfEnding_eq, Path.strip, Path.stripChars]
  have hstar : ending.takeWhile (· = '*') = [] := by
    cases ending with
    | nil => rfl
    | cons c ending => simp [(h c List.mem_cons_self).2.1]
  have hnames : readToken none '*' ('*' :: '/' :: '*' :: ending) = .ok (.anyNames, 2) := by
    simp [readToken, readStars]
  have hsequence : readToken (some '/') '*' ending = .ok (.anySequence, 0) := by
    simp [readToken, readStars, hstar]
  rw [hstrip, parse, parseFrom, hnames]
  show parseFrom (some '/') [.anyNames] 0 ('*' :: ending) = _
  rw [parseFrom, hsequence]
  show parseFrom (some '*') [.anySequence, .anyNames] 0 ending = _
  rw [parseFrom_plain h]
  rfl

omit h in
theorem matches_literal (cs : List Char) : Matches (cs.map .char) cs := by
  induction cs with
  | nil => exact .nil
  | cons c cs ih => exact .one (by simp [GlobToken.fits]) ih

end Glob

/-- A name in a directory, without the slashes at the start of the path. -/
theorem Path.stripChars_within (dir : String) {name : String} (hslash : '/' ∉ name.toList) :
    ∃ names, Glob.IsNames names ∧ stripChars (within dir name).toList = names ++ name.toList := by
  have hfront : ∃ front, Glob.IsNames front ∧ (within dir name).toList = front ++ name.toList := by
    by_cases hdir : dir = ""
    · exact ⟨[], Or.inl rfl, by simp [within, hdir]⟩
    · exact ⟨dir.toList ++ ['/'], Or.inr (by simp), by simp [within, hdir]⟩
  obtain ⟨front, hnames, hpath⟩ := hfront
  have hname : stripChars name.toList = name.toList := by
    cases hchars : name.toList with
    | nil => rfl
    | cons c cs =>
      rw [hchars, List.mem_cons, not_or] at hslash
      exact List.dropWhile_cons_of_neg (by simpa using Ne.symm hslash.1)
  obtain ⟨slashes, hslashes⟩ : stripChars front <:+ front := List.dropWhile_suffix _
  rw [← hslashes] at hnames
  refine ⟨stripChars front, hnames.of_append, ?_⟩
  rw [hpath]
  by_cases hempty : stripChars front = []
  · rw [stripChars, List.dropWhile_append, ← stripChars, ← stripChars, hempty, hname]
    rfl
  · exact stripChars_append_of_ne_nil hempty _

/-- A file whose name has an ending is named by the pattern of the ending. -/
theorem Glob.matches_within {ending : List Char} (dir : String) {stem name : String}
    (hslash : '/' ∉ name.toList) (hname : name.toList = stem.toList ++ ending) :
    Matches (.anyNames :: .anySequence :: ending.map .char)
      (Path.stripChars (Path.within dir name).toList) := by
  obtain ⟨names, hnames, hpath⟩ := Path.stripChars_within dir hslash
  rw [hpath, hname]
  refine .names hnames (.sequence (fun hmem => hslash ?_) (matches_literal ending))
  rw [hname]
  exact List.mem_append_left _ hmem

/-! ### All namings -/

namespace Naming

theorem IsLetters.notMem {s : String} (h : IsLetters s) {c : Char} (hc : c.isAlpha = false) :
    c ∉ s.toList := by
  intro hmem
  rw [h c hmem] at hc
  cases hc

theorem IsLetters.isUnmarked {s : String} (h : IsLetters s) : IsUnmarked s.toList := by
  intro mark hmark
  simp only [marks, List.mem_cons, List.not_mem_nil, or_false] at hmark
  rcases hmark with rfl | rfl
  · exact h.notMem rfl
  · exact h.notMem rfl

/-- `IsEnding cs` says that `cs`, as the ending of a name, stands for itself in a pattern. -/
def IsEnding (cs : List Char) : Prop := ∀ c ∈ cs, Glob.IsPlain c ∧ c ≠ '/'

theorem IsLetters.isEnding {s : String} (h : IsLetters s) : IsEnding s.toList := by
  intro c hc
  refine ⟨⟨?_, ?_, ?_⟩, ?_⟩
  · rintro rfl
    exact h.notMem rfl hc
  · rintro rfl
    exact h.notMem rfl hc
  · rintro rfl
    exact h.notMem rfl hc
  · rintro rfl
    exact h.notMem rfl hc

theorem isEnding_mark_append {mark : Char} (hmark : mark ∈ marks) {cs : List Char}
    (h : IsEnding cs) : IsEnding (mark :: cs) := by
  refine List.forall_mem_cons.2 ⟨?_, h⟩
  simp only [marks, List.mem_cons, List.not_mem_nil, or_false] at hmark
  rcases hmark with rfl | rfl
  · exact ⟨⟨by decide, by decide, by decide⟩, by decide⟩
  · exact ⟨⟨by decide, by decide, by decide⟩, by decide⟩

/-- The ending of file names with a segment and an extension. -/
def segmentEnding (mark : Char) (s e : String) : List Char := mark :: s.toList ++ '.' :: e.toList

theorem isEnding_extension {e : String} (he : IsLetters e) : IsEnding ('.' :: e.toList) :=
  isEnding_mark_append List.mem_cons_self he.isEnding

theorem isEnding_segmentEnding {mark : Char} (hmark : mark ∈ marks) {s e : String}
    (hs : IsLetters s) (he : IsLetters e) : IsEnding (segmentEnding mark s e) :=
  isEnding_mark_append hmark (List.forall_mem_append.2 ⟨hs.isEnding, isEnding_extension he⟩)

section Endings

variable {n : Naming} (hsegments : ∀ t ∈ n.segments, IsLetters t) {s e : String}
  (hs : s ∈ n.segments) (he : IsLetters e) {mark : Char} (hmark : mark ∈ marks)
include hsegments hs he hmark

/-- The pattern of an ending with a segment is expanded to those of all namings. -/
theorem mem_expandAll_ending {x : String} :
    x ∈ (n.expandAll [patternOfEnding (segmentEnding mark s e)]).value ↔
      (∃ mark' ∈ marks, x = patternOfEnding (segmentEnding mark' s e)) ∨
        s ∈ n.removable ∧ x = patternOfEnding ('.' :: e.toList) := by
  have hslash : ∀ cs ∈ [['*'], s.toList, e.toList], '/' ∉ cs := by
    simp [(hsegments s hs).notMem, he.notMem]
  have hpattern : (patternOfEnding (segmentEnding mark s e)).toList =
      "**/".toList ++ (['*'] ++ mark :: s.toList ++ '.' :: e.toList) := by
    simp [patternOfEnding_eq, segmentEnding]
  have hsiblings : n.siblings (patternOfEnding (segmentEnding mark s e)).toList =
      marks.map (fun mark' => patternOfEnding (segmentEnding mark' s e)) ++
        if s ∈ n.removable then [patternOfEnding ('.' :: e.toList)] else [] := by
    rw [hpattern, siblings_append (fun t ht => (hsegments t ht).isUnmarked) hs (by simp) hmark
      (Or.inr rfl) hslash (he.notMem rfl)]
    simp [marks, patternOfEnding_eq, segmentEnding]
  simp only [mem_expandAll_iff, List.mem_singleton, exists_eq_left, mem_patternsFor_iff, hsiblings,
    List.mem_append, List.mem_map]
  constructor
  · rintro (rfl | ⟨mark', hmark', rfl⟩ | h)
    · exact Or.inl ⟨mark, hmark, rfl⟩
    · exact Or.inl ⟨mark', hmark', rfl⟩
    · by_cases hremovable : s ∈ n.removable
      · exact Or.inr ⟨hremovable, by simpa [hremovable] using h⟩
      · simp [hremovable] at h
  · rintro (⟨mark', hmark', rfl⟩ | ⟨hremovable, rfl⟩)
    · exact Or.inr (Or.inl ⟨mark', hmark', rfl⟩)
    · exact Or.inr (Or.inr (by simp [hremovable]))

end Endings

end Naming

/-- A selector selects, below its roots, what has an ending that one of its patterns is for. -/
theorem Selector.selects_within {roots ps : List String} {selector : Selector}
    (hselector : ofPatterns roots ps = .ok selector) {ending : List Char}
    (hmem : Naming.patternOfEnding ending ∈ ps)
    (hending : Naming.IsEnding ending) {root dir : String} (hroot : root ∈ roots)
    (hdir : Path.IsAtOrBelow root dir) {stem name : String} (hstem : '/' ∉ stem.toList)
    (hname : name.toList = stem.toList ++ ending) :
    selector.selects (Path.within dir name) = true := by
  have hslash : '/' ∉ name.toList := by
    rw [hname, List.mem_append, not_or]
    exact ⟨hstem, fun h => (hending _ h).2 rfl⟩
  rw [selects, Bool.and_eq_true]
  constructor
  · exact (inScope_iff hselector _).2 ⟨root, hroot, Path.isBelow_within hdir name⟩
  · exact (isMatched_iff hselector _).2 ⟨_, hmem, _,
      Glob.parse_patternOfEnding fun c hc => (hending c hc).1, Glob.matches_within dir hslash hname⟩

/-- **A pattern for one naming selects the files of all namings.**  The segment is one of the
vocabulary, whatever others there are, and the files are in any directory at or below a root, under
any stem, be there dots, dashes, segments or whole endings in it. -/
theorem selects_every_naming (n : Naming) (hsegments : ∀ t ∈ n.segments, Naming.IsLetters t)
    (s e : String) (hs : s ∈ n.segments) (he : Naming.IsLetters e) (roots : List String)
    (root dir stem : String) (hroot : root ∈ roots) (hdir : Path.IsAtOrBelow root dir)
    (hstem : '/' ∉ stem.toList) (mark : String) (hmark : mark ∈ [".", "-"]) :
    ∃ selector,
      Selector.ofPatterns roots (n.expandAll ["**/*" ++ mark ++ s ++ "." ++ e]).value =
        .ok selector ∧
      selector.selects (Path.within dir (stem ++ "." ++ s ++ "." ++ e)) = true ∧
      selector.selects (Path.within dir (stem ++ "-" ++ s ++ "." ++ e)) = true ∧
      (s ∈ n.removable → selector.selects (Path.within dir (stem ++ "." ++ e)) = true) := by
  have hmark' : ∃ c ∈ Naming.marks, mark = String.ofList [c] := by
    simp only [List.mem_cons, List.not_mem_nil, or_false] at hmark
    rcases hmark with rfl | rfl
    · exact ⟨'.', by decide, rfl⟩
    · exact ⟨'-', by decide, rfl⟩
  obtain ⟨c, hc, rfl⟩ := hmark'
  have hpattern : "**/*" ++ String.ofList [c] ++ s ++ "." ++ e =
      Naming.patternOfEnding (Naming.segmentEnding c s e) := by
    rw [← String.toList_inj]
    simp [Naming.patternOfEnding_eq, Naming.segmentEnding]
  have hmem := fun x : String => Naming.mem_expandAll_ending hsegments hs he hc (x := x)
  have hsegment : ∀ mark' ∈ Naming.marks, Naming.IsEnding (Naming.segmentEnding mark' s e) :=
    fun mark' h => Naming.isEnding_segmentEnding h (hsegments s hs) he
  have hextension := Naming.isEnding_extension he
  rw [hpattern]
  obtain ⟨selector, hselector⟩ : ∃ selector, Selector.ofPatterns roots
      (n.expandAll [Naming.patternOfEnding (Naming.segmentEnding c s e)]).value = .ok selector := by
    refine Selector.exists_ofPatterns roots fun p hp => ?_
    rcases (hmem p).1 hp with ⟨mark', hmark', rfl⟩ | ⟨-, rfl⟩
    · exact ⟨_, Glob.parse_patternOfEnding fun c hc => (hsegment mark' hmark' c hc).1⟩
    · exact ⟨_, Glob.parse_patternOfEnding fun c hc => (hextension c hc).1⟩
  -- the ending of each file is that of one of the patterns
  have hselects : ∀ mark' ∈ Naming.marks, ∀ name : String,
      name.toList = stem.toList ++ Naming.segmentEnding mark' s e →
        selector.selects (Path.within dir name) = true := fun mark' hmark' name hname =>
    selector.selects_within hselector ((hmem _).2 (Or.inl ⟨mark', hmark', rfl⟩))
      (hsegment mark' hmark') hroot hdir hstem hname
  refine ⟨selector, hselector, hselects '.' (by decide) _ ?_, hselects '-' (by decide) _ ?_,
    fun hremovable => ?_⟩
  · simp [Naming.segmentEnding]
  · simp [Naming.segmentEnding]
  · refine Selector.selects_within hselector ((hmem _).2 (Or.inr ⟨hremovable, rfl⟩)) hextension hroot
      hdir hstem ?_
    simp

/-- A stem that looks like a file name, in a directory that does so too. -/
theorem selects_every_naming_in_stem :
    (∀ t ∈ ["pipe", "component"], Naming.IsLetters t) ∧ Naming.IsLetters "ts" ∧
      Path.IsAtOrBelow "/src/lib" "src/lib/a.component.ts" ∧
      ∃ selector,
        Selector.ofPatterns ["src/app/", "/src/lib"]
          ((⟨["pipe", "component"], ["component"]⟩ : Naming).expandAll
            ["**/*" ++ "-" ++ "component" ++ "." ++ "ts"]).value = .ok selector ∧
        selector.selects "src/lib/a.component.ts/b.component.ts-c.component.ts" = true ∧
        selector.selects "src/lib/a.component.ts/b.component.ts-c-component.ts" = true ∧
        selector.selects "src/lib/a.component.ts/b.component.ts-c.ts" = true := by
  have hsegments : ∀ t ∈ ["pipe", "component"], Naming.IsLetters t := by decide
  have he : Naming.IsLetters "ts" := by decide
  have hdir : Path.IsAtOrBelow "/src/lib" "src/lib/a.component.ts" := by decide
  obtain ⟨selector, hselector, hdot, hdash, hnone⟩ :=
    selects_every_naming ⟨["pipe", "component"], ["component"]⟩ hsegments "component" "ts"
      (by decide) he ["src/app/", "/src/lib"] "/src/lib" "src/lib/a.component.ts"
      "b.component.ts-c" (by decide) hdir (by decide) "-" (by decide)
  exact ⟨hsegments, he, hdir, selector, hselector, hdot, hdash, hnone (by decide)⟩

end Codemod
