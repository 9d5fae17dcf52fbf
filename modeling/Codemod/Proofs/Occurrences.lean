import Codemod.Proofs.Words

/-!
# Occurrences of whole words

A text that is replaced as a whole word need not be a word: it can hold any characters, and it can
overlap itself.  What is replaced are then the leftmost of its whole occurrences that do not
overlap: the text falls into gaps with `old` between them, `new` takes the place of each `old`, and
in no gap does a whole occurrence start.  Whether an occurrence is whole is seen from its neighbours
in the text as it was.

## Main definitions

* `IsWhole` — an occurrence between two texts that touches no other word.
* `WholeAt` — a whole occurrence at a place of a text.
* `LeftmostGaps` — the gaps between the leftmost whole occurrences.
* `MarksOccurrences` — the same from a place of a text on, for induction.

## Main results

* `marksOccurrences_nil_cons`, `marksOccurrences_cons_cons` — gaps, place by place.
* `exists_marksOccurrences`, `MarksOccurrences.unique` — there are such gaps, and no others.
* `replaceWords_replaces_leftmost` — **exactly the leftmost whole occurrences are replaced.**
-/

namespace Codemod

variable {old before after rest : List Char}

/-! ### Whole occurrences -/

/-- `IsWhole before old after` says that `old` touches no other word between `before` and `after`:
if its first or its last character belongs to a word, the character next to it does not. -/
def IsWhole (before old after : List Char) : Prop :=
  (∀ c ∈ old.head?, isIdentifierChar c = true →
      ∀ d ∈ before.getLast?, isIdentifierChar d = false) ∧
    ∀ c ∈ old.getLast?, isIdentifierChar c = true → ∀ d ∈ after.head?, isIdentifierChar d = false

/-- `WholeAt old before rest` says that a whole occurrence of `old` starts between `before` and
`rest`. -/
def WholeAt (old before rest : List Char) : Prop :=
  ∃ after, old ++ after = rest ∧ IsWhole before old after

theorem startsWithWord_eq_any (cs : List Char) :
    startsWithWord cs = cs.head?.any isIdentifierChar := by
  cases cs <;> rfl

theorem isBounded_iff_isWhole :
    isBounded old before.getLast? after = true ↔ IsWhole before old after := by
  have hguard (a b : Option Char) :
      (!(a.any isIdentifierChar && b.any isIdentifierChar)) = true ↔
        ∀ c ∈ a, isIdentifierChar c = true → ∀ d ∈ b, isIdentifierChar d = false := by
    cases a with
    | none => simp
    | some c => cases b <;> cases hc : isIdentifierChar c <;> simp [hc]
  rw [isBounded, startsWithWord_eq_any, startsWithWord_eq_any, Bool.and_eq_true, hguard, hguard,
    IsWhole]

/-- The test that is made at every place. -/
theorem wholeAt_iff : WholeAt old before rest ↔
    (old.isPrefixOf rest && isBounded old before.getLast? (rest.drop old.length)) = true := by
  rw [Bool.and_eq_true, List.isPrefixOf_iff_prefix, isBounded_iff_isWhole]
  constructor
  · rintro ⟨after, rfl, hwhole⟩
    exact ⟨List.prefix_append old after, by rwa [List.drop_left]⟩
  · rintro ⟨⟨after, rfl⟩, hwhole⟩
    exact ⟨after, rfl, by rwa [List.drop_left] at hwhole⟩

/-- A whole occurrence is replaced, and the text after it follows it as it was. -/
theorem replaceWordsFrom_of_isWhole (new : List Char) (hold : old ≠ [])
    (h : IsWhole before old after) :
    replaceWordsFrom old new before.getLast? 0 (old ++ after) =
      new ++ replaceWordsFrom old new (before ++ old).getLast? 0 after := by
  have htest := wholeAt_iff.1 ⟨after, rfl, h⟩
  obtain ⟨c, x, rfl⟩ := List.exists_cons_of_ne_nil hold
  have hlast : (before ++ c :: x).getLast? = x.getLast?.or (some c) := by
    rw [List.getLast?_append, List.getLast?_cons]
    cases x.getLast? <;> rfl
  rw [List.cons_append] at htest ⊢
  rw [replaceWordsFrom, if_pos htest, List.length_cons, Nat.add_sub_cancel, replaceWordsFrom_skip,
    hlast]

/-- A character where no whole occurrence starts is copied. -/
theorem replaceWordsFrom_of_not_wholeAt {c : Char} (new : List Char)
    (h : ¬ WholeAt old before (c :: rest)) :
    replaceWordsFrom old new before.getLast? 0 (c :: rest) =
      c :: replaceWordsFrom old new (before ++ [c]).getLast? 0 rest := by
  rw [replaceWordsFrom, if_neg (mt wholeAt_iff.2 h), List.getLast?_concat]

/-! ### Gaps -/

/-- `LeftmostGaps old text gaps` says that `gaps` are what stands between the leftmost whole
occurrences of `old` in `text`. -/
structure LeftmostGaps (old text : List Char) (gaps : List (List Char)) : Prop where
  ne_nil : gaps ≠ []
  /-- The text is the gaps with `old` between them. -/
  intercalate_eq : old.intercalate gaps = text
  /-- What stands between two gaps is a whole occurrence. -/
  isWhole : ∀ done x y todo, gaps = done ++ x :: y :: todo →
    IsWhole (old.intercalate (done ++ [x])) old (old.intercalate (y :: todo))
  /-- No whole occurrence starts inside a gap. -/
  not_wholeAt : ∀ done x y todo, gaps = done ++ (x ++ y) :: todo → y ≠ [] →
    ¬ WholeAt old (old.intercalate (done ++ [x])) (old.intercalate (y :: todo))

/-- `MarksOccurrences old before gaps` says that in the text of `gaps`, which stands after
`before`, a whole occurrence of `old` starts exactly where a gap ends and another follows. -/
def MarksOccurrences (old before : List Char) (gaps : List (List Char)) : Prop :=
  ∀ done x y todo, gaps = done ++ (x ++ y) :: todo →
    (WholeAt old (before ++ old.intercalate (done ++ [x])) (old.intercalate (y :: todo)) ↔
      y = [] ∧ todo ≠ [])

variable {gaps : List (List Char)}

theorem wholeAt_append_iff : WholeAt old before (old ++ after) ↔ IsWhole before old after := by
  constructor
  · rintro ⟨after', h, hwhole⟩
    rwa [List.append_cancel_left h] at hwhole
  · exact fun hwhole => ⟨after, rfl, hwhole⟩

theorem not_wholeAt_nil (hold : old ≠ []) : ¬ WholeAt old before [] := by
  rintro ⟨after, h, -⟩
  exact hold (List.append_eq_nil_iff.1 h).1

theorem intercalate_nil_cons (hne : gaps ≠ []) :
    old.intercalate ([] :: gaps) = old ++ old.intercalate gaps := by
  rw [List.intercalate_cons_of_ne_nil hne, List.nil_append]

/-- What is said of the ends of gaps and of the places inside them, said of all places at once. -/
theorem leftmostGaps_iff (hold : old ≠ []) {text : List Char} :
    LeftmostGaps old text gaps ↔
      gaps ≠ [] ∧ old.intercalate gaps = text ∧ MarksOccurrences old [] gaps := by
  constructor
  · intro h
    refine ⟨h.ne_nil, h.intercalate_eq, fun done x y todo hgaps => ?_⟩
    rw [List.nil_append]
    cases y with
    | cons c y => simpa using h.not_wholeAt done x (c :: y) todo hgaps (List.cons_ne_nil _ _)
    | nil =>
      cases todo with
      -- the last gap ends with the text, where nothing but the empty text starts
      | nil => simpa using not_wholeAt_nil hold
      | cons z todo =>
        rw [intercalate_nil_cons (List.cons_ne_nil _ _), wholeAt_append_iff]
        simpa using h.isWhole done x z todo (by simpa using hgaps)
  · rintro ⟨hne, htext, hmarks⟩
    refine ⟨hne, htext, fun done x y todo hgaps => ?_, fun done x y todo hgaps hy hwhole => ?_⟩
    · have hwhole := (hmarks done x [] (y :: todo) (by simpa using hgaps)).2
        ⟨rfl, List.cons_ne_nil _ _⟩
      rwa [intercalate_nil_cons (List.cons_ne_nil _ _), wholeAt_append_iff] at hwhole
    · exact hy ((hmarks done x y todo hgaps).1 hwhole).1

/-- An empty gap in front: it ends at once, and the other gaps stand after `old`. -/
theorem marksOccurrences_nil_cons :
    MarksOccurrences old before ([] :: gaps) ↔
      (WholeAt old before (old.intercalate ([] :: gaps)) ↔ gaps ≠ []) ∧
        MarksOccurrences old (before ++ old) gaps := by
  have hplace (done : List (List Char)) (x : List Char) :
      before ++ old.intercalate ([] :: done ++ [x]) =
        before ++ old ++ old.intercalate (done ++ [x]) := by
    rw [List.cons_append, intercalate_nil_cons (by simp), List.append_assoc]
  constructor
  · intro h
    refine ⟨by simpa using h [] [] [] gaps rfl, fun done x y todo hgaps => ?_⟩
    rw [← hplace]
    exact h ([] :: done) x y todo (by rw [hgaps, List.cons_append])
  · rintro ⟨hfirst, h⟩ done x y todo hgaps
    cases done with
    | nil =>
      obtain ⟨hxy, rfl⟩ := List.cons.inj hgaps
      obtain ⟨rfl, rfl⟩ := List.append_eq_nil_iff.1 hxy.symm
      simpa using hfirst
    | cons d done =>
      obtain ⟨rfl, hrest⟩ := List.cons.inj hgaps
      rw [hplace]
      exact h done x y todo hrest

/-- A character in front: no whole occurrence starts at it, and the gap goes on after it. -/
theorem marksOccurrences_cons_cons {c : Char} {g : List Char} :
    MarksOccurrences old before ((c :: g) :: gaps) ↔
      ¬ WholeAt old before (old.intercalate ((c :: g) :: gaps)) ∧
        MarksOccurrences old (before ++ [c]) (g :: gaps) := by
  have hplace (x : List Char) (gs : List (List Char)) :
      before ++ old.intercalate ((c :: x) :: gs) = before ++ [c] ++ old.intercalate (x :: gs) := by
    rw [List.intercalate_cons_cons_left, List.append_assoc, List.singleton_append]
  constructor
  · intro h
    refine ⟨by simpa using h [] [] (c :: g) gaps rfl, fun done x y todo hgaps => ?_⟩
    cases done with
    | nil =>
      obtain ⟨rfl, rfl⟩ := List.cons.inj hgaps
      rw [List.nil_append, ← hplace]
      exact h [] (c :: x) y gaps rfl
    | cons d done =>
      obtain ⟨rfl, rfl⟩ := List.cons.inj hgaps
      rw [List.cons_append, ← hplace]
      exact h ((c :: g) :: done) x y todo rfl
  · rintro ⟨hfirst, h⟩ done x y todo hgaps
    cases done with
    | nil =>
      -- the place is in the first gap: at its first character or after it
      obtain ⟨hxy, rfl⟩ := List.cons.inj hgaps
      cases x with
      | nil =>
        obtain rfl : c :: g = y := hxy
        simpa using hfirst
      | cons d x =>
        obtain ⟨rfl, rfl⟩ := List.cons.inj hxy
        rw [List.nil_append, hplace]
        exact h [] x y gaps rfl
    | cons d done =>
      obtain ⟨rfl, rfl⟩ := List.cons.inj hgaps
      rw [List.cons_append, hplace]
      exact h (g :: done) x y todo rfl

theorem marksOccurrences_singleton_nil (hold : old ≠ []) : MarksOccurrences old before [[]] :=
  marksOccurrences_nil_cons.2 ⟨by simpa using not_wholeAt_nil hold, fun _ _ _ _ h => by simp at h⟩

/-- The scan of a text marks its occurrences and puts `new` in their place.  The induction is on the
length of the text, since a whole occurrence is left behind in one step. -/
theorem exists_marksOccurrences (new : List Char) (hold : old ≠ []) :
    ∀ (n : Nat) (before rest : List Char), rest.length = n →
      ∃ gaps, gaps ≠ [] ∧ old.intercalate gaps = rest ∧ MarksOccurrences old before gaps ∧
        replaceWordsFrom old new before.getLast? 0 rest = new.intercalate gaps := by
  intro n
  induction n using Nat.strongRecOn with
  | ind n ih =>
    intro before rest hn
    cases rest with
    | nil =>
      exact ⟨[[]], List.cons_ne_nil _ _, List.intercalate_singleton,
        marksOccurrences_singleton_nil hold, by rw [List.intercalate_singleton]; rfl⟩
    | cons c rest =>
      by_cases hwhole : WholeAt old before (c :: rest)
      · -- the first gap is empty, and the scan goes on behind `old`
        obtain ⟨after, hafter, hbounded⟩ := hwhole
        have hlength : after.length < n := by
          have hpos := List.length_pos_iff.2 hold
          rw [← hn, ← hafter, List.length_append]
          omega
        obtain ⟨gaps, hne, rfl, hmarks, hresult⟩ := ih _ hlength (before ++ old) after rfl
        refine ⟨[] :: gaps, List.cons_ne_nil _ _, ?_, marksOccurrences_nil_cons.2 ⟨?_, hmarks⟩, ?_⟩
        · rw [intercalate_nil_cons hne, hafter]
        · rw [intercalate_nil_cons hne, wholeAt_append_iff]
          exact iff_of_true hbounded hne
        · rw [← hafter, replaceWordsFrom_of_isWhole new hold hbounded, hresult,
            intercalate_nil_cons hne]
      · -- the character lengthens the first gap of the rest
        have hlength : rest.length < n := by rw [← hn, List.length_cons]; omega
        obtain ⟨gaps, hne, rfl, hmarks, hresult⟩ := ih _ hlength (before ++ [c]) rest rfl
        obtain ⟨g, gaps, rfl⟩ := List.exists_cons_of_ne_nil hne
        refine ⟨(c :: g) :: gaps, List.cons_ne_nil _ _, List.intercalate_cons_cons_left,
          marksOccurrences_cons_cons.2 ⟨?_, hmarks⟩, ?_⟩
        · rwa [List.intercalate_cons_cons_left]
        · rw [replaceWordsFrom_of_not_wholeAt new hwhole, hresult, List.intercalate_cons_cons_left]

/-- Occurrences are marked in one way only. -/
theorem MarksOccurrences.unique (hold : old ≠ []) :
    ∀ (n : Nat) {before : List Char} {gaps gaps' : List (List Char)},
      (old.intercalate gaps).length = n → gaps ≠ [] → gaps' ≠ [] →
      old.intercalate gaps' = old.intercalate gaps → MarksOccurrences old before gaps →
      MarksOccurrences old before gaps' → gaps' = gaps := by
  intro n
  induction n using Nat.strongRecOn with
  | ind n ih =>
    intro before gaps gaps' hn hne hne' heq hmarks hmarks'
    obtain ⟨g, gs, rfl⟩ := List.exists_cons_of_ne_nil hne
    obtain ⟨g', gs', rfl⟩ := List.exists_cons_of_ne_nil hne'
    -- the first gaps are both empty or both start with the first character of the text
    cases g with
    | nil =>
      obtain ⟨hwhole, hrest⟩ := marksOccurrences_nil_cons.1 hmarks
      cases g' with
      | nil =>
        obtain ⟨hwhole', hrest'⟩ := marksOccurrences_nil_cons.1 hmarks'
        rw [heq, hwhole] at hwhole'
        by_cases hgs : gs = []
        · rw [hgs, not_not.1 (mt hwhole'.2 (not_not.2 hgs))]
        · have hgs' := hwhole'.1 hgs
          rw [intercalate_nil_cons hgs, intercalate_nil_cons hgs'] at heq
          rw [intercalate_nil_cons hgs, List.length_append] at hn
          have hpos := List.length_pos_iff.2 hold
          rw [ih _ (by omega) rfl hgs hgs' (List.append_cancel_left heq) hrest hrest']
      | cons c g' =>
        have hnone := (marksOccurrences_cons_cons.1 hmarks').1
        rw [heq, hwhole, not_not] at hnone
        rw [hnone, List.intercalate_singleton, List.intercalate_cons_cons_left] at heq
        cases heq
    | cons c g =>
      obtain ⟨hnone, hrest⟩ := marksOccurrences_cons_cons.1 hmarks
      cases g' with
      | nil =>
        have hwhole' := (marksOccurrences_nil_cons.1 hmarks').1
        rw [← heq, hwhole', not_not] at hnone
        rw [hnone, List.intercalate_singleton, List.intercalate_cons_cons_left] at heq
        cases heq
      | cons c' g' =>
        have hrest' := (marksOccurrences_cons_cons.1 hmarks').2
        rw [List.intercalate_cons_cons_left, List.intercalate_cons_cons_left] at heq
        obtain ⟨rfl, htail⟩ := List.cons.inj heq
        rw [List.intercalate_cons_cons_left, List.length_cons] at hn
        obtain ⟨rfl, rfl⟩ := List.cons.inj (ih _ (by omega) rfl (List.cons_ne_nil _ _)
          (List.cons_ne_nil _ _) htail hrest hrest')
        rfl

/-- **Exactly the leftmost whole occurrences are replaced.**  Whatever characters `old` has, the
text falls into gaps with `old` between them, and the result is the same gaps with `new` between
them.  Each `old` between two gaps is a whole occurrence in the text as it was, and no whole
occurrence starts inside a gap; there is one way only to cut a text like this. -/
theorem replaceWords_replaces_leftmost (old new text : List Char) (hold : old ≠ []) :
    ∃ gaps, LeftmostGaps old text gaps ∧ replaceWords old new text = new.intercalate gaps ∧
      ∀ gaps', LeftmostGaps old text gaps' → gaps' = gaps := by
  obtain ⟨gaps, hne, htext, hmarks, hresult⟩ := exists_marksOccurrences new hold _ [] text rfl
  refine ⟨gaps, (leftmostGaps_iff hold).2 ⟨hne, htext, hmarks⟩, hresult, fun gaps' h => ?_⟩
  obtain ⟨hne', htext', hmarks'⟩ := (leftmostGaps_iff hold).1 h
  exact MarksOccurrences.unique hold _ rfl hne hne' (htext'.trans htext.symm) hmarks hmarks'

/-- The occurrences of `a.a` in `xa.a.a` overlap.  The first touches a word and is left, so that the
second is replaced. -/
theorem replaceWords_replaces_leftmost_overlapping :
    "a.a".toList ≠ [] ∧ ∃ gaps, LeftmostGaps "a.a".toList "xa.a.a".toList gaps ∧
      "b".toList.intercalate gaps = "xa.b".toList := by
  have hold : "a.a".toList ≠ [] := by decide
  obtain ⟨gaps, hgaps, hresult, -⟩ :=
    replaceWords_replaces_leftmost "a.a".toList "b".toList "xa.a.a".toList hold
  have hscan : replaceWords "a.a".toList "b".toList "xa.a.a".toList = "xa.b".toList := by decide
  exact ⟨hold, gaps, hgaps, hresult.symm.trans hscan⟩

end Codemod
