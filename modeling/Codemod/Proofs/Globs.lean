import Codemod.Glob
import Mathlib.Data.List.Chain
import Mathlib.Data.List.Infix

/-!
# What globs stand for

A path is tried on a glob by taking its wildcards as short as can be, and longer ones after.  A trial
that meets the end of the path ends all others, since they would have even less of the path left.
`Matches` tells the paths that a glob stands for without any trial, and no path is lost: where trials
are given up, none of those that are left would have come to an end.

## Main definitions

* `Glob.Matches` — a glob stands for a path.
* `Glob.sequenceStops`, `Glob.nameStops` — where a path can go on after a wildcard.
* `Glob.Follows` — which part may stand after which.

## Main results

* `Glob.firstDecided_eq_accepted_iff` — one of several trials is accepted.
* `Glob.tryOn_exact` — what a trial comes to.
* `Glob.isChain_of_parse` — any names start where a name starts, in every glob that has been read.
* `Glob.accepts_iff_matches` — **a glob that has been read accepts exactly what it stands for.**
-/

namespace Codemod.Glob

/-- `IsNames cs` says that `cs` is whole names, each with the slash after it. -/
def IsNames (cs : List Char) : Prop := cs = [] ∨ cs.getLast? = some '/'

/-- `Matches g path` says that the glob `g` stands for `path`. -/
inductive Matches : Glob → List Char → Prop
  | nil : Matches [] []
  /-- One character. -/
  | one {t : GlobToken} {g : Glob} {c : Char} {path : List Char} :
      GlobToken.fits c t = true → Matches g path → Matches (t :: g) (c :: path)
  /-- Any part of a name. -/
  | sequence {g : Glob} {part rest : List Char} :
      '/' ∉ part → Matches g rest → Matches (.anySequence :: g) (part ++ rest)
  /-- Any number of names. -/
  | names {g : Glob} {names rest : List Char} :
      IsNames names → Matches g rest → Matches (.anyNames :: g) (names ++ rest)
  /-- All the names that are left, the last one without a slash. -/
  | everything {g : Glob} {path : List Char} : Matches g [] → Matches (.anyNames :: g) path

/-! ### Where a path can go on -/

/-- What can be left of a path after any part of a name, the longest first. -/
def sequenceStops : List Char → List (List Char)
  | [] => [[]]
  | c :: cs => (c :: cs) :: if c = '/' then [] else sequenceStops cs

/-- What can be left of a path after any number of names, the longest first. -/
def nameStops : (here : Bool) → List Char → List (List Char)
  | _, [] => [[]]
  | here, c :: cs => (if here then [c :: cs] else []) ++ nameStops (c = '/') cs

theorem mem_sequenceStops_iff {path z : List Char} :
    z ∈ sequenceStops path ↔ ∃ part, '/' ∉ part ∧ path = part ++ z := by
  induction path with
  | nil =>
    rw [sequenceStops, List.mem_singleton]
    constructor
    · rintro rfl
      exact ⟨[], by simp⟩
    · rintro ⟨part, -, h⟩
      exact (List.append_eq_nil_iff.1 h.symm).2
  | cons c cs ih =>
    rw [sequenceStops, List.mem_cons]
    constructor
    · rintro (rfl | h)
      · exact ⟨[], by simp⟩
      · by_cases hc : c = '/'
        · simp [hc] at h
        · rw [if_neg hc, ih] at h
          obtain ⟨part, hpart, rfl⟩ := h
          exact ⟨c :: part, by simp [hpart, Ne.symm hc], rfl⟩
    · rintro ⟨part, hpart, h⟩
      cases part with
      | nil => exact Or.inl h.symm
      | cons d part =>
        obtain ⟨rfl, rfl⟩ := List.cons.inj h
        rw [List.mem_cons, not_or] at hpart
        rw [if_neg (Ne.symm hpart.1), ih]
        exact Or.inr ⟨part, hpart.2, rfl⟩

theorem mem_nameStops_iff {path z : List Char} {here : Bool} :
    z ∈ nameStops here path ↔
      z = [] ∨ ∃ names, path = names ++ z ∧
        (names.getLast? = some '/' ∨ names = [] ∧ here = true) := by
  induction path generalizing here with
  | nil =>
    rw [nameStops, List.mem_singleton]
    constructor
    · exact Or.inl
    · rintro (rfl | ⟨names, h, -⟩)
      · rfl
      · exact (List.append_eq_nil_iff.1 h.symm).2
  | cons c cs ih =>
    rw [nameStops, List.mem_append, ih]
    constructor
    · rintro (h | rfl | ⟨names, rfl, h⟩)
      · by_cases hhere : here = true
        · rw [if_pos hhere, List.mem_singleton] at h
          exact Or.inr ⟨[], by simp [h], Or.inr ⟨rfl, hhere⟩⟩
        · simp [hhere] at h
      · exact Or.inl rfl
      · refine Or.inr ⟨c :: names, rfl, Or.inl ?_⟩
        rcases h with h | ⟨rfl, hc⟩
        · simp [List.getLast?_cons, h]
        · simpa using hc
    · rintro (rfl | ⟨names, h, hnames⟩)
      · exact Or.inr (Or.inl rfl)
      · cases names with
        | nil =>
          rw [List.nil_append] at h
          rcases hnames with hlast | ⟨-, hhere⟩
          · simp at hlast
          · simp [hhere, h]
        | cons d names =>
          obtain ⟨rfl, rfl⟩ := List.cons.inj h
          refine Or.inr (Or.inr ⟨names, rfl, ?_⟩)
          rcases hnames with hlast | ⟨hnil, -⟩
          · rw [List.getLast?_cons] at hlast
            cases hn : names.getLast? with
            | none =>
              rw [hn, Option.getD_none, Option.some.injEq] at hlast
              exact Or.inr ⟨List.getLast?_eq_none_iff.1 hn, by simpa using hlast⟩
            | some d =>
              rw [hn, Option.getD_some] at hlast
              exact Or.inl hlast
          · cases hnil

theorem mem_nameStops_true_iff {path z : List Char} :
    z ∈ nameStops true path ↔ z = [] ∨ ∃ names, IsNames names ∧ path = names ++ z := by
  rw [mem_nameStops_iff]
  simp only [IsNames, and_true]
  constructor
  · rintro (rfl | ⟨names, hpath, hnames⟩)
    · exact Or.inl rfl
    · exact Or.inr ⟨names, hnames.symm, hpath⟩
  · rintro (rfl | ⟨names, hnames, hpath⟩)
    · exact Or.inl rfl
    · exact Or.inr ⟨names, hpath, hnames.symm⟩

theorem IsNames.append {a b : List Char} (ha : IsNames a) (hb : IsNames b) : IsNames (a ++ b) := by
  rcases hb with rfl | hb
  · rwa [List.append_nil]
  · exact Or.inr (by simp [List.getLast?_append, hb])

theorem IsNames.of_append {a b : List Char} (h : IsNames (a ++ b)) : IsNames b := by
  rcases h with h | h
  · exact Or.inl (List.append_eq_nil_iff.1 h).2
  · cases hb : b.getLast? with
    | none => exact Or.inl (List.getLast?_eq_none_iff.1 hb)
    | some c =>
      rw [List.getLast?_append, hb, Option.some_or] at h
      exact Or.inr (hb.trans h)

theorem mem_nameStops_trans {path y z : List Char} (hy : y ∈ nameStops true z)
    (hz : z ∈ nameStops true path) : y ∈ nameStops true path := by
  rw [mem_nameStops_true_iff] at hy hz ⊢
  rcases hy with rfl | ⟨names, hnames, rfl⟩
  · exact Or.inl rfl
  · rcases hz with hz | ⟨front, hfront, rfl⟩
    · exact Or.inl (List.append_eq_nil_iff.1 hz).2
    · exact Or.inr ⟨front ++ names, hfront.append hnames, (List.append_assoc ..).symm⟩

/-- A place where a name starts is one in every part of the path that it belongs to. -/
theorem mem_nameStops_of_suffix {path y z : List Char} (hy : y ∈ nameStops true path)
    (hz : z <:+ path) (hyz : y <:+ z) : y ∈ nameStops true z := by
  rw [mem_nameStops_true_iff] at hy ⊢
  rcases hy with rfl | ⟨names, hnames, hpath⟩
  · exact Or.inl rfl
  · obtain ⟨front, rfl⟩ := hz
    obtain ⟨middle, rfl⟩ := hyz
    rw [← List.append_assoc] at hpath
    rw [← List.append_cancel_right hpath] at hnames
    exact Or.inr ⟨middle, hnames.of_append, rfl⟩

theorem suffix_of_mem_sequenceStops {path z : List Char} (h : z ∈ sequenceStops path) :
    z <:+ path := by
  obtain ⟨part, -, rfl⟩ := mem_sequenceStops_iff.1 h
  exact List.suffix_append part z

theorem suffix_of_mem_nameStops {path z : List Char} {here : Bool} (h : z ∈ nameStops here path) :
    z <:+ path := by
  rcases mem_nameStops_iff.1 h with rfl | ⟨names, rfl, -⟩
  · exact List.nil_suffix
  · exact List.suffix_append names z

/-! ### Trials, one after another -/

/-- The first trial that is not refused decides. -/
def firstDecided : List Trial → Trial
  | [] => .refused
  | .refused :: ts => firstDecided ts
  | t :: _ => t

theorem trySequence_eq (rest : List Char → Trial) (path : List Char) :
    trySequence rest path = firstDecided ((sequenceStops path).map rest) := by
  induction path with
  | nil =>
    rw [trySequence, sequenceStops, List.map_singleton]
    cases rest [] <;> rfl
  | cons c cs ih =>
    rw [trySequence, sequenceStops, List.map_cons]
    cases rest (c :: cs) with
    | refused => by_cases hc : c = '/' <;> simp [hc, firstDecided, ih]
    | accepted => rfl
    | exhausted => rfl

theorem tryNames_eq (rest : List Char → Trial) (here : Bool) (path : List Char) :
    tryNames rest here path = firstDecided ((nameStops here path).map rest) := by
  induction path generalizing here with
  | nil =>
    rw [tryNames, nameStops, List.map_singleton]
    cases rest [] <;> rfl
  | cons c cs ih =>
    rw [tryNames, nameStops]
    cases here with
    | false => simp [ih]
    | true =>
      rw [if_pos rfl, if_pos rfl, List.singleton_append, List.map_cons]
      cases rest (c :: cs) with
      | refused => simp [firstDecided, ih]
      | accepted => rfl
      | exhausted => rfl

section FirstDecided

variable {f : List Char → Trial} {stops : List (List Char)}

/-- A trial that ends all others comes after some that are refused, and those after it have less of
the path left. -/
theorem exists_exhausted (hstops : stops.Pairwise fun y z => z <:+ y)
    (h : firstDecided (stops.map f) = .exhausted) :
    ∃ z ∈ stops, f z = .exhausted ∧ ∀ y ∈ stops, f y = .refused ∨ y <:+ z := by
  induction stops with
  | nil => cases h
  | cons z stops ih =>
    obtain ⟨hz, hstops⟩ := List.pairwise_cons.1 hstops
    rw [List.map_cons] at h
    cases htrial : f z with
    | refused =>
      rw [htrial, firstDecided] at h
      obtain ⟨w, hw, hend, hothers⟩ := ih hstops h
      exact ⟨w, List.mem_cons_of_mem _ hw, hend,
        List.forall_mem_cons.2 ⟨Or.inl htrial, hothers⟩⟩
    | accepted =>
      rw [htrial] at h
      cases h
    | exhausted =>
      exact ⟨z, List.mem_cons_self, htrial,
        List.forall_mem_cons.2 ⟨Or.inr List.suffix_rfl, fun y hy => Or.inr (hz y hy)⟩⟩

/-- One of several trials is accepted, unless there are none to accept. -/
theorem firstDecided_eq_accepted_iff {M : List Char → Prop}
    (hstops : stops.Pairwise fun y z => z <:+ y) (haccepted : ∀ z ∈ stops, f z = .accepted ↔ M z)
    (hexhausted : ∀ z ∈ stops, f z = .exhausted → ∀ y ∈ stops, y <:+ z → ¬ M y) :
    firstDecided (stops.map f) = .accepted ↔ ∃ z ∈ stops, M z := by
  induction stops with
  | nil => simp [firstDecided]
  | cons z stops ih =>
    obtain ⟨hz, hstops⟩ := List.pairwise_cons.1 hstops
    have haccepted' : ∀ y ∈ stops, f y = .accepted ↔ M y := fun y hy =>
      haccepted y (List.mem_cons_of_mem _ hy)
    have hexhausted' : ∀ y ∈ stops, f y = .exhausted → ∀ w ∈ stops, w <:+ y → ¬ M w :=
      fun y hy hend w hw =>
        hexhausted y (List.mem_cons_of_mem _ hy) hend w (List.mem_cons_of_mem _ hw)
    have hself := haccepted z List.mem_cons_self
    rw [List.map_cons, List.exists_mem_cons_iff, ← hself]
    cases htrial : f z with
    | accepted => simp [firstDecided]
    | refused => simpa [firstDecided] using ih hstops haccepted' hexhausted'
    | exhausted =>
      -- whatever comes after has less of the path left
      have hnone : ∀ y ∈ stops, ¬ M y := fun y hy =>
        hexhausted z List.mem_cons_self htrial y (List.mem_cons_of_mem _ hy) (hz y hy)
      simpa [firstDecided] using hnone

end FirstDecided

theorem pairwise_sequenceStops (path : List Char) :
    (sequenceStops path).Pairwise fun y z => z <:+ y := by
  induction path with
  | nil => simp [sequenceStops]
  | cons c cs ih =>
    rw [sequenceStops, List.pairwise_cons]
    by_cases hc : c = '/'
    · simp [hc]
    · rw [if_neg hc]
      exact ⟨fun z hz => (suffix_of_mem_sequenceStops hz).trans (List.suffix_cons c cs), ih⟩

theorem pairwise_nameStops (here : Bool) (path : List Char) :
    (nameStops here path).Pairwise fun y z => z <:+ y := by
  induction path generalizing here with
  | nil => simp [nameStops]
  | cons c cs ih =>
    rw [nameStops]
    cases here with
    | false => exact ih _
    | true =>
      rw [if_pos rfl, List.singleton_append, List.pairwise_cons]
      exact ⟨fun z hz => (suffix_of_mem_nameStops hz).trans (List.suffix_cons c cs), ih _⟩

/-! ### What a trial comes to -/

section Matches

variable {t : GlobToken} {g : Glob} {path : List Char}

theorem matches_nil_iff : Matches [] path ↔ path = [] := by
  constructor
  · rintro ⟨⟩
    rfl
  · rintro rfl
    exact .nil

theorem matches_sequence_iff :
    Matches (.anySequence :: g) path ↔ ∃ z ∈ sequenceStops path, Matches g z := by
  simp only [mem_sequenceStops_iff]
  constructor
  · intro h
    cases h with
    | one hfits _ => cases hfits
    | sequence hpart hrest => exact ⟨_, ⟨_, hpart, rfl⟩, hrest⟩
  · rintro ⟨z, ⟨part, hpart, rfl⟩, hrest⟩
    exact .sequence hpart hrest

theorem matches_names_iff :
    Matches (.anyNames :: g) path ↔ ∃ z ∈ nameStops true path, Matches g z := by
  simp only [mem_nameStops_true_iff]
  constructor
  · intro h
    cases h with
    | one hfits _ => cases hfits
    | names hnames hrest => exact ⟨_, Or.inr ⟨_, hnames, rfl⟩, hrest⟩
    | everything hrest => exact ⟨[], Or.inl rfl, hrest⟩
  · rintro ⟨z, rfl | ⟨names, hnames, rfl⟩, hrest⟩
    · exact .everything hrest
    · exact .names hnames hrest

/-- `IsOne t` says that the part `t` stands for one character. -/
def IsOne (t : GlobToken) : Prop := t ≠ .anySequence ∧ t ≠ .anyNames

theorem matches_one_iff (ht : IsOne t) :
    Matches (t :: g) path ↔ ∃ c rest, path = c :: rest ∧ GlobToken.fits c t = true ∧
      Matches g rest := by
  constructor
  · intro h
    cases h with
    | one hfits hrest => exact ⟨_, _, rfl, hfits, hrest⟩
    | sequence _ _ => exact absurd rfl ht.1
    | names _ _ => exact absurd rfl ht.2
    | everything _ => exact absurd rfl ht.2
  · rintro ⟨c, rest, rfl, hfits, hrest⟩
    exact .one hfits hrest

theorem tryOn_one_nil (ht : IsOne t) : tryOn (t :: g) [] = .exhausted := by
  cases t with
  | anySequence => exact absurd rfl ht.1
  | anyNames => exact absurd rfl ht.2
  | _ => rfl

theorem tryOn_one_cons (ht : IsOne t) (c : Char) (rest : List Char) :
    tryOn (t :: g) (c :: rest) = if GlobToken.fits c t then tryOn g rest else .refused := by
  cases t with
  | anySequence => exact absurd rfl ht.1
  | anyNames => exact absurd rfl ht.2
  | _ => rfl

end Matches

/-- `Follows s t` says that the part `t` may stand after `s`.  Any names only start where a name
starts. -/
def Follows (s t : GlobToken) : Prop := t = .anyNames → s = .char '/' ∨ s = .anyNames

/-- `IsPlaced g path z` says that the glob `g` can be tried on `z`, which is left of `path`.  One
that starts with any names is tried at the start of a name only. -/
def IsPlaced (g : Glob) (path z : List Char) : Prop :=
  z <:+ path ∧ (g.head? = some .anyNames → z ∈ nameStops true path)

/-- `IsExact g path` says what the trial of `g` on `path` comes to: it is accepted exactly if `g`
stands for `path`, and if it ends all others then `g` stands for nothing that is left of `path`. -/
structure IsExact (g : Glob) (path : List Char) : Prop where
  accepted_iff : tryOn g path = .accepted ↔ Matches g path
  not_matches : tryOn g path = .exhausted → ∀ z, IsPlaced g path z → ¬ Matches g z

section Exact

variable {t : GlobToken} {g : Glob}

theorem isExact_nil (path : List Char) : IsExact [] path := by
  constructor
  · rw [tryOn, matches_nil_iff]
    cases path <;> simp
  · intro hend
    rw [tryOn] at hend
    cases path <;> simp at hend

theorem isExact_one (ht : IsOne t) (hslash : g.head? = some .anyNames → t = .char '/')
    (hg : ∀ path, IsExact g path) (path : List Char) : IsExact (t :: g) path := by
  constructor
  · rw [matches_one_iff ht]
    cases path with
    | nil => simp [tryOn_one_nil ht]
    | cons c rest =>
      rw [tryOn_one_cons ht]
      by_cases hfits : GlobToken.fits c t = true
      · simp [hfits, (hg rest).accepted_iff]
      · simp [hfits]
  · intro hend z hz hmatches
    obtain ⟨d, left, rfl, hd, hleft⟩ := (matches_one_iff ht).1 hmatches
    cases path with
    | nil => cases List.suffix_nil.1 hz.1
    | cons c rest =>
      rw [tryOn_one_cons ht] at hend
      by_cases hfits : GlobToken.fits c t = true
      · rw [if_pos hfits] at hend
        refine (hg rest).not_matches hend left ⟨?_, fun hnames => ?_⟩ hleft
        · rcases List.suffix_cons_iff.1 hz.1 with heq | hsuffix
          · rw [(List.cons.inj heq).2]
          · exact (List.suffix_cons d left).trans hsuffix
        · -- the character before the names is a slash, in the path too
          obtain rfl : d = '/' := by
            rw [hslash hnames] at hd
            simpa [GlobToken.fits] using hd
          rw [mem_nameStops_true_iff]
          rcases List.suffix_cons_iff.1 hz.1 with heq | ⟨front, rfl⟩
          · exact Or.inr ⟨[], Or.inl rfl, (List.cons.inj heq).2.symm⟩
          · exact Or.inr ⟨front ++ ['/'], Or.inr (by simp), by simp⟩
      · rw [if_neg hfits] at hend
        cases hend

/-- Trials that are all exact, at places that get shorter. -/
theorem isExact_of_stops {g' : Glob} {path : List Char} {stops : List Char → List (List Char)}
    (hstops : (stops path).Pairwise fun y z => z <:+ y)
    (htry : tryOn g' path = firstDecided ((stops path).map (tryOn g)))
    (hmatches : ∀ z, Matches g' z ↔ ∃ y ∈ stops z, Matches g y) (hg : ∀ z, IsExact g z)
    (hplaced : ∀ y ∈ stops path, ∀ z ∈ stops path, y <:+ z → IsPlaced g z y)
    (hleft : ∀ z, IsPlaced g' path z → ∀ y ∈ stops z, ∀ w ∈ stops path,
      y ∈ stops path ∨ IsPlaced g w y) : IsExact g' path := by
  have hnone : ∀ {y z}, tryOn g z = .exhausted → IsPlaced g z y → ¬ Matches g y :=
    fun hz hy => (hg _).not_matches hz _ hy
  constructor
  · rw [htry, hmatches]
    exact firstDecided_eq_accepted_iff hstops (fun z _ => (hg z).accepted_iff)
      fun z hz hend y hy hsuffix => hnone hend (hplaced y hy z hz hsuffix)
  · intro hend z hz h
    rw [htry] at hend
    obtain ⟨w, hw, hend, hothers⟩ := exists_exhausted hstops hend
    obtain ⟨y, hy, hyMatches⟩ := (hmatches z).1 h
    rcases hleft z hz y hy w hw with hmem | hshort
    · rcases hothers y hmem with hrefused | hsuffix
      · rw [(hg y).accepted_iff.2 hyMatches] at hrefused
        cases hrefused
      · exact hnone hend (hplaced y hmem w hw hsuffix) hyMatches
    · exact hnone hend hshort hyMatches

theorem isExact_sequence (hnames : g.head? ≠ some .anyNames) (hg : ∀ path, IsExact g path)
    (path : List Char) : IsExact (.anySequence :: g) path := by
  have hplaced : ∀ {y z}, y <:+ z → IsPlaced g z y := fun h => ⟨h, fun h => absurd h hnames⟩
  refine isExact_of_stops (pairwise_sequenceStops path) ?_ (fun z => matches_sequence_iff) hg
    (fun y _ z _ => hplaced) ?_
  · rw [tryOn, trySequence_eq]
  · intro z hz y hy w hw
    have hyPath : y <:+ path := (suffix_of_mem_sequenceStops hy).trans hz.1
    rcases List.suffix_or_suffix_of_suffix hyPath (suffix_of_mem_sequenceStops hw) with h | h
    · exact Or.inr (hplaced h)
    · -- what is before it is part of what is before the other, and there is no slash in that
      obtain ⟨part, hpart, hpath⟩ := mem_sequenceStops_iff.1 hw
      obtain ⟨front, rfl⟩ := hyPath
      obtain ⟨middle, rfl⟩ := h
      rw [← List.append_assoc] at hpath
      have hfront : part = front ++ middle := (List.append_cancel_right hpath).symm
      exact Or.inl (mem_sequenceStops_iff.2 ⟨front, fun h => hpart (by simp [hfront, h]), rfl⟩)

theorem isExact_names (hg : ∀ path, IsExact g path) (path : List Char) :
    IsExact (.anyNames :: g) path := by
  refine isExact_of_stops (pairwise_nameStops true path) ?_ (fun z => matches_names_iff) hg ?_ ?_
  · rw [tryOn, tryNames_eq]
  · intro y hy z hz hyz
    exact ⟨hyz, fun _ => mem_nameStops_of_suffix hy (suffix_of_mem_nameStops hz) hyz⟩
  · intro z hz y hy w hw
    exact Or.inl (mem_nameStops_trans hy (hz.2 rfl))

end Exact

/-- What a trial comes to, for a glob whose names start where names start. -/
theorem tryOn_exact {g : Glob} (h : g.IsChain Follows) : ∀ path, IsExact g path := by
  induction g with
  | nil => exact isExact_nil
  | cons t g ih =>
    obtain ⟨hfollows, hg⟩ := List.isChain_cons.1 h
    have hnames : g.head? = some .anyNames → t = .char '/' ∨ t = .anyNames := fun hhead =>
      hfollows .anyNames hhead rfl
    cases t with
    | anySequence => exact isExact_sequence (fun hhead => by simpa using hnames hhead) (ih hg)
    | anyNames => exact isExact_names (ih hg)
    | _ =>
      refine isExact_one ⟨by simp, by simp⟩ (fun hhead => ?_) (ih hg)
      simpa using hnames hhead

/-! ### Globs that have been read -/

theorem takeWhile_append_bracket {before : List Char} (h : ']' ∉ before) (after : List Char) :
    (before ++ ']' :: after).takeWhile (· ≠ ']') = before := by
  rw [List.takeWhile_append_of_pos fun c hc => ?_]
  · simp
  · simpa using fun heq : c = ']' => h (heq ▸ hc)

theorem exists_append_of_contains {others : List Char} (h : others.contains ']' = true) :
    ∃ after, ']' ∉ others.takeWhile (· ≠ ']') ∧
      others = others.takeWhile (· ≠ ']') ++ ']' :: after := by
  have hmem : ']' ∈ others := by simpa using h
  obtain ⟨before, after, rfl, hbefore⟩ := List.eq_append_cons_of_mem hmem
  refine ⟨after, ?_⟩
  rw [takeWhile_append_bracket hbefore]
  exact ⟨hbefore, rfl⟩

/-- `IsClassBody body` says that `body` can stand between the brackets of a class: it is a first
character, be it a closing bracket, and others.  An exclamation mark before them turns the class
round. -/
inductive IsClassBody : (body : List Char) → Prop
  | within {first : Char} {others : List Char} :
      first ≠ '!' → ']' ∉ others → IsClassBody (first :: others)
  | except {first : Char} {others : List Char} :
      ']' ∉ others → IsClassBody ('!' :: first :: others)

/-- A class has a body, and a bracket after it. -/
theorem isClassBody_of_readClass {rest : List Char} {t : GlobToken} {n : Nat}
    (h : readClass rest = .ok (t, n)) :
    t ≠ .anyNames ∧
      ∃ body after, rest = body ++ ']' :: after ∧ IsClassBody body ∧
        n = (body ++ [']']).length := by
  rw [readClass] at h
  by_cases hnegated : rest.head? = some '!'
  · obtain ⟨body, rfl⟩ := List.head?_eq_some_iff.1 hnegated
    simp only [List.head?_cons, if_true, List.drop_one, List.tail_cons] at h
    cases body with
    | nil => cases h
    | cons first others =>
      simp only at h
      split at h
      · next hclosed =>
        cases h
        obtain ⟨after, hothers, hafter⟩ := exists_append_of_contains hclosed
        refine ⟨by simp, '!' :: first :: others.takeWhile (· ≠ ']'), after, ?_, .except hothers,
          by simp⟩
        rw [List.cons_append, List.cons_append, ← hafter]
      · cases h
  · simp only [hnegated, if_false] at h
    cases rest with
    | nil => cases h
    | cons first others =>
      simp only at h
      split at h
      · next hclosed =>
        cases h
        obtain ⟨after, hothers, hafter⟩ := exists_append_of_contains hclosed
        have hfirst : first ≠ '!' := by simpa using hnegated
        refine ⟨by simp, first :: others.takeWhile (· ≠ ']'), after, ?_, .within hfirst hothers,
          by simp⟩
        rw [List.cons_append, ← hafter]
      · cases h

/-- A class ends with its bracket. -/
theorem getLast?_of_readClass {rest : List Char} {t : GlobToken} {n : Nat}
    (h : readClass rest = .ok (t, n)) : t ≠ .anyNames ∧ (rest.take n).getLast? = some ']' := by
  obtain ⟨ht, body, after, rfl, -, rfl⟩ := isClassBody_of_readClass h
  have hsplit : body ++ ']' :: after = (body ++ [']']) ++ after := by
    rw [List.append_assoc, List.singleton_append]
  exact ⟨ht, by rw [hsplit, List.take_left, List.getLast?_concat]⟩

/-- What a part that has been read looks back at, and what it leaves behind. -/
theorem readToken_ok {prev : Option Char} {c : Char} {rest : List Char} {t : GlobToken} {n : Nat}
    (h : readToken prev c rest = .ok (t, n)) :
    t = .anyNames ∧ prev.all (· = '/') = true ∨
      t ≠ .anyNames ∧ ((rest.take n).getLast?.or (some c) = some '/' → t = .char '/') := by
  rw [readToken] at h
  by_cases hquestion : c = '?'
  · rw [if_pos hquestion] at h
    cases h
    exact Or.inr ⟨by simp, by simp [hquestion]⟩
  rw [if_neg hquestion] at h
  by_cases hstar : c = '*'
  · rw [if_pos hstar, readStars] at h
    split at h
    · cases h
      exact Or.inr ⟨by simp, by simp [hstar]⟩
    · by_cases hprev : prev.all (· = '/') = true
      · rw [if_pos hprev] at h
        refine Or.inl ⟨?_, hprev⟩
        split at h
        · cases h
          rfl
        · split at h
          · cases h
            rfl
          · cases h
      · rw [if_neg hprev] at h
        cases h
    · cases h
  rw [if_neg hstar] at h
  by_cases hclass : c = '['
  · rw [if_pos hclass] at h
    obtain ⟨ht, hlast⟩ := getLast?_of_readClass h
    exact Or.inr ⟨ht, by simp [hlast]⟩
  · rw [if_neg hclass] at h
    cases h
    exact Or.inr ⟨by simp, by simp⟩

/-- `MayGoOn read` says that any names may stand after the parts `read`, of which the last stands
first. -/
def MayGoOn (read : List GlobToken) : Prop := ∀ t ∈ read.head?, t = .char '/' ∨ t = .anyNames

/-- A part is added, unless it is one of any names after another. -/
theorem push_cases (t : GlobToken) (read : List GlobToken) :
    push t read = t :: read ∨ push t read = read ∧ read.head? = some .anyNames := by
  unfold push
  split
  · split
    · exact Or.inr ⟨rfl, rfl⟩
    · exact Or.inl rfl
  · exact Or.inl rfl

theorem isChain_push {t : GlobToken} {read : List GlobToken}
    (hread : read.IsChain fun s t => Follows t s) (ht : t = .anyNames → MayGoOn read) :
    (push t read).IsChain fun s t => Follows t s := by
  rcases push_cases t read with hpush | ⟨hpush, -⟩
  · rw [hpush]
    exact List.isChain_cons.2 ⟨fun s hs heq => ht heq s hs, hread⟩
  · rwa [hpush]

theorem mayGoOn_push {t : GlobToken} {read : List GlobToken} (ht : t = .char '/' ∨ t = .anyNames) :
    MayGoOn (push t read) := by
  intro s hs
  rcases push_cases t read with hpush | ⟨hpush, hhead⟩
  · rw [hpush, List.head?_cons, Option.mem_some_iff] at hs
    rwa [← hs]
  · rw [hpush, hhead, Option.mem_some_iff] at hs
    exact Or.inr hs.symm

/-- The rest of a pattern is read so that any names start where a name starts.  The character before
it is the last one that is passed over. -/
theorem isChain_of_parseFrom {g : Glob} :
    ∀ {cs : List Char} {prev : Option Char} {read : List GlobToken} {skip : Nat},
      (read.IsChain fun s t => Follows t s) →
      (((cs.take skip).getLast?.or prev).all (· = '/') = true → MayGoOn read) →
      parseFrom prev read skip cs = .ok g → g.IsChain Follows := by
  intro cs
  induction cs with
  | nil =>
    intro prev read skip hread _ h
    rw [parseFrom, Except.ok.injEq] at h
    rw [← h, List.isChain_reverse]
    exact hread
  | cons c rest ih =>
    intro prev read skip hread hready h
    cases skip with
    | succ skip =>
      rw [parseFrom] at h
      refine ih hread (fun hprev => hready ?_) h
      rw [List.take_succ_cons, List.getLast?_cons, Option.some_or]
      cases hlast : (rest.take skip).getLast? <;> simpa [hlast] using hprev
    | zero =>
      rw [parseFrom] at h
      cases htoken : readToken prev c rest with
      | error e =>
        rw [htoken] at h
        cases h
      | ok r =>
        obtain ⟨t, n⟩ := r
        rw [htoken] at h
        rcases readToken_ok htoken with ⟨rfl, hprev⟩ | ⟨ht, hslash⟩
        · exact ih (isChain_push hread fun _ => hready (by simpa using hprev))
            (fun _ => mayGoOn_push (Or.inr rfl)) h
        · refine ih (isChain_push hread fun heq => absurd heq ht) (fun hprev => ?_) h
          refine mayGoOn_push (Or.inl (hslash ?_))
          cases hlast : (rest.take n).getLast? <;> simpa [hlast] using hprev

theorem isChain_of_parse {pattern : List Char} {g : Glob} (h : parse pattern = .ok g) :
    g.IsChain Follows :=
  isChain_of_parseFrom .nil (fun _ => by rintro s ⟨⟩) h

/-- **A glob that has been read accepts exactly what it stands for.** -/
theorem accepts_iff_matches {pattern : List Char} {g : Glob} (h : parse pattern = .ok g)
    (path : List Char) : g.accepts path = true ↔ Matches g path := by
  rw [accepts, decide_eq_true_eq]
  exact (tryOn_exact (isChain_of_parse h) path).accepted_iff

end Codemod.Glob
