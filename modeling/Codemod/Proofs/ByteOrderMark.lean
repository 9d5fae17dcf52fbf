import Codemod.Proofs.Mentions
import Codemod.Proofs.Regions
import Mathlib.Data.List.Find

/-!
# Sources behind a byte-order mark

A provider that passes over a mark at the start of a source, and counts from behind it, gives places
that are three bytes too small.  So everything is looked for three bytes before it, where there may
be something else, or half a character.  A provider that counts the mark is not disturbed by it: as
far as renaming goes, a source behind any text is the source by itself.

## Main definitions

* `Syntax.Tree.advance`, `Syntax.Tree.retreat` — a tree with all places moved to the right or to the
  left.
* `Edit.advance`, `Edit.cover` — an edit of a source as one of the source behind a text.
* `Carries` — edits stay what they are when they are moved.

## Main results

* `applyEdits_of_carries` — moved edits make of the source behind the text what the edits make of
  the source.
* `plannedEdits_advance`, `exists_plannedEdits_dropped` — the plan for the source behind the text.
* `rename_advance` — a source is renamed behind a text like by itself, if all places count the text.
* `rename_of_dropped_mark` — **what a mark does to renaming.**
-/

namespace Codemod

open Syntax Text

/-! ### Text behind text -/

namespace Text

theorem cut?_add_blen (a s : List Char) (n : Nat) :
    cut? (n + blen a) (a ++ s) = (cut? n s).map fun p => (a ++ p.1, p.2) := by
  refine Option.ext fun ⟨x, y⟩ => ?_
  simp only [Option.map_eq_some_iff, Prod.mk.injEq, cut?_eq_some_iff, Prod.exists]
  constructor
  · rintro ⟨hsource, hlen⟩
    obtain ⟨m, rfl, hs⟩ := exists_append_of_blen_le hsource.symm (by omega)
    refine ⟨m, y, ⟨hs.symm, ?_⟩, rfl, rfl⟩
    rw [blen_append] at hlen
    omega
  · rintro ⟨m, y, ⟨rfl, rfl⟩, rfl, rfl⟩
    exact ⟨by simp, by rw [blen_append, Nat.add_comm]⟩

/-- A slice is found behind a text, as far behind as the text is long. -/
theorem slice?_add_blen (a s : List Char) (i j : Nat) :
    slice? (i + blen a) (j + blen a) (a ++ s) = slice? i j s := by
  have hsub : j + blen a - (i + blen a) = j - i := by omega
  rw [slice?, slice?, cut?_add_blen, hsub]
  simp only [Nat.add_le_add_iff_right]
  cases cut? i s <;> rfl

/-- A slice of a text with one more character: it is behind the character, or nothing before it, or
it starts with it. -/
theorem slice?_cons_eq_some {c : Char} {s x : List Char} {i j : Nat}
    (h : slice? i j (c :: s) = some x) :
    c.utf8Size ≤ i ∧ slice? (i - c.utf8Size) (j - c.utf8Size) s = some x ∨
      i = 0 ∧ j = 0 ∧ x = [] ∨
      i = 0 ∧ c.utf8Size ≤ j ∧ ∃ y, x = c :: y ∧ slice? 0 (j - c.utf8Size) s = some y := by
  obtain ⟨a, b, hsource, rfl, rfl⟩ := slice?_eq_some_iff.1 h
  cases a with
  | nil =>
    cases x with
    | nil => exact Or.inr (Or.inl ⟨rfl, rfl, rfl⟩)
    | cons d y =>
      obtain ⟨rfl, rfl⟩ := List.cons.inj hsource
      refine Or.inr (Or.inr ⟨rfl, ?_, y, rfl, slice?_eq_some_iff.2 ⟨[], b, rfl, rfl, ?_⟩⟩)
      · simp only [blen_nil, blen_cons]
        omega
      · simp only [blen_nil, blen_cons]
        omega
  | cons d a =>
    obtain ⟨rfl, rfl⟩ := List.cons.inj hsource
    refine Or.inl ⟨by simp, slice?_eq_some_iff.2 ⟨a, b, rfl, ?_, ?_⟩⟩
    · simp only [blen_cons]
      omega
    · simp only [blen_cons]
      omega

end Text

/-! ### Moved edits -/

namespace Edit

/-- An edit of a source as one of the source behind a text of `n` bytes. -/
def advance (n : Nat) (e : Edit) : Edit := { e with start := e.start + n, stop := e.stop + n }

/-- An edit of a source as one of the source behind a text.  At the start of the source it covers
the text. -/
def cover (a : List Char) (e : Edit) : Edit :=
  if e.start = 0 then { e with stop := e.stop + blen a, text := a ++ e.text }
  else e.advance (blen a)

end Edit

theorem splice_advance (a s : List Char) (e : Edit) :
    splice (a ++ s) (e.advance (blen a)) = a ++ splice s e := by
  simp only [splice, Edit.advance, cut?_add_blen]
  cases cut? e.start s with
  | none => rfl
  | some p =>
    cases cut? e.stop s with
    | none => rfl
    | some q => simp

/-- `Carries a move edits` says that `edits` stay what they are when `move` moves them behind the
text `a`. -/
structure Carries (a : List Char) (move : Edit → Edit) (edits : List Edit) : Prop where
  splice : ∀ e ∈ edits, ∀ s, Codemod.splice (a ++ s) (move e) = a ++ Codemod.splice s e
  sameEffect : ∀ e ∈ edits, ∀ f ∈ edits, (move e).sameEffect (move f) = e.sameEffect f
  overlaps : ∀ e ∈ edits, ∀ f ∈ edits, (move e).overlaps (move f) = e.overlaps f
  start_le : ∀ e ∈ edits, ∀ f ∈ edits, (move e).start ≤ (move f).start ↔ e.start ≤ f.start

theorem carries_advance (a : List Char) (edits : List Edit) :
    Carries a (Edit.advance (blen a)) edits where
  splice e _ s := splice_advance a s e
  sameEffect e _ f _ := by
    rw [Bool.eq_iff_iff, Edit.sameEffect_iff, Edit.sameEffect_iff]
    simp [Edit.advance]
  overlaps e _ f _ := by simp [Edit.overlaps, Edit.advance]
  start_le e _ f _ := by simp [Edit.advance]

theorem carries_cover (a : List Char) {edits : List Edit} (h : ∀ e ∈ edits, e.start ≤ e.stop) :
    Carries a (Edit.cover a) edits where
  splice e _ s := by
    by_cases he : e.start = 0
    · simp only [Codemod.splice, Edit.cover, he, if_true, cut?_zero, cut?_add_blen]
      cases cut? e.stop s <;> simp
    · rw [Edit.cover, if_neg he, splice_advance]
  sameEffect e _ f _ := by
    rw [Bool.eq_iff_iff, Edit.sameEffect_iff, Edit.sameEffect_iff]
    by_cases he : e.start = 0 <;> by_cases hf : f.start = 0 <;>
      simp [Edit.cover, Edit.advance, he, hf]
    omega
  overlaps e he' f hf' := by
    have hle := h e he'
    have hle' := h f hf'
    rw [Bool.eq_iff_iff]
    by_cases he : e.start = 0 <;> by_cases hf : f.start = 0 <;>
      simp [Edit.overlaps, Edit.cover, Edit.advance, he, hf] <;> omega
  start_le e _ f _ := by
    by_cases he : e.start = 0 <;> by_cases hf : f.start = 0 <;>
      simp [Edit.cover, Edit.advance, he, hf]

theorem Carries.subset {a : List Char} {move : Edit → Edit} {edits others : List Edit}
    (h : Carries a move edits) (hsub : others ⊆ edits) : Carries a move others where
  splice e he := h.splice e (hsub he)
  sameEffect e he f hf := h.sameEffect e (hsub he) f (hsub hf)
  overlaps e he f hf := h.overlaps e (hsub he) f (hsub hf)
  start_le e he f hf := h.start_le e (hsub he) f (hsub hf)

/-- Edits that are made once, and edits that are refused, are so behind a text. -/
theorem dedupInto_of_carries {a : List Char} {move : Edit → Edit} :
    ∀ (es kept : List Edit), Carries a move (kept ++ es) →
      (dedupInto (kept.map move) (es.map move)).value.toOption =
        (dedupInto kept es).value.toOption.map (List.map move) := by
  intro es
  induction es with
  | nil => exact fun _ _ => rfl
  | cons e es ih =>
    intro kept h
    have he : e ∈ kept ++ e :: es := List.mem_append_right _ List.mem_cons_self
    have hkept : ∀ k ∈ kept, k ∈ kept ++ e :: es := fun k hk => List.mem_append_left _ hk
    have hany : (kept.map move).any (·.sameEffect (move e)) = kept.any (·.sameEffect e) := by
      rw [List.any_map, Bool.eq_iff_iff, List.any_eq_true, List.any_eq_true]
      refine exists_congr fun k => and_congr_right fun hk => ?_
      rw [Function.comp_apply, h.sameEffect k (hkept k hk) e he]
    have hfirst : kept.find? ((·.overlaps (move e)) ∘ move) = kept.find? (·.overlaps e) :=
      List.find?_congr fun k hk => h.overlaps k (hkept k hk) e he
    have hfind : (kept.map move).find? (·.overlaps (move e)) =
        (kept.find? (·.overlaps e)).map move := by
      rw [List.find?_map, hfirst]
    rw [List.map_cons, dedupInto, dedupInto, hany, hfind]
    by_cases hdup : kept.any (·.sameEffect e) = true
    · rw [if_pos hdup, if_pos hdup]
      exact ih kept (h.subset fun f hf =>
        List.mem_append.2 ((List.mem_append.1 hf).imp_right (List.mem_cons_of_mem e)))
    · rw [if_neg hdup, if_neg hdup]
      cases kept.find? (·.overlaps e) with
      | some k => rfl
      | none =>
        have hcarried : Carries a move (kept ++ [e] ++ es) := by simpa using h
        have hnext := ih _ hcarried
        rw [List.map_append] at hnext
        exact hnext

theorem foldl_splice_map {a : List Char} {move : Edit → Edit} :
    ∀ {es : List Edit}, (∀ e ∈ es, ∀ s, splice (a ++ s) (move e) = a ++ splice s e) →
      ∀ s, (es.map move).foldl splice (a ++ s) = a ++ es.foldl splice s := by
  intro es
  induction es with
  | nil => exact fun _ _ => rfl
  | cons e es ih =>
    intro h s
    rw [List.forall_mem_cons] at h
    rw [List.map_cons, List.foldl_cons, h.1, ih h.2, List.foldl_cons]

/-- **Moved edits make of the source behind the text what the edits make of the source.** -/
theorem applyEdits_of_carries {a s : List Char} {move : Edit → Edit} {edits : List Edit}
    (h : Carries a move edits) (hvalid : ∀ e ∈ edits, e.isValid s = true)
    (hvalid' : ∀ e ∈ edits, (move e).isValid (a ++ s) = true) :
    (applyEdits (a ++ s) (edits.map move)).value.toOption.map EditResult.source =
      ((applyEdits s edits).value.toOption.map EditResult.source).map (a ++ ·) := by
  rw [applyEdits_value_of_valid hvalid, applyEdits_value_of_valid (by simpa using hvalid')]
  have hdedup : (dedupInto [] (edits.map move)).value.toOption =
      (dedupInto [] edits).value.toOption.map (List.map move) := dedupInto_of_carries edits [] h
  cases hkept : (dedupInto [] edits).value with
  | error e =>
    rw [hkept] at hdedup
    cases hmoved : (dedupInto [] (edits.map move)).value with
    | error e' => rfl
    | ok kept' =>
      rw [hmoved] at hdedup
      cases hdedup
  | ok kept =>
    rw [hkept] at hdedup
    cases hmoved : (dedupInto [] (edits.map move)).value with
    | error e' =>
      rw [hmoved] at hdedup
      cases hdedup
    | ok kept' =>
      rw [hmoved] at hdedup
      cases hdedup
      -- the order of the places stays, and so the edits are made in the same order
      have hsub : ∀ e ∈ kept, e ∈ edits := fun e he =>
        ((dedupInto_ok hkept .nil).2.1 e he).resolve_left (by simp)
      have hsorted : (kept.map move).mergeSort (fun a b => b.start ≤ a.start) =
          (kept.mergeSort fun a b => b.start ≤ a.start).map move :=
        (List.map_mergeSort fun e he f hf =>
          decide_eq_decide.2 (h.start_le f (hsub f hf) e (hsub e he)).symm).symm
      have hsplice : ∀ e ∈ kept.mergeSort fun a b => b.start ≤ a.start,
          ∀ s, splice (a ++ s) (move e) = a ++ splice s e := fun e he =>
        h.splice e (hsub e (List.mem_mergeSort.1 he))
      simp only [Except.map, Except.toOption, Option.map_some, hsorted, foldl_splice_map hsplice]

/-! ### Moved trees -/

namespace Syntax

/-- An identifier further to the right. -/
def Identifier.advance (n : Nat) (i : Identifier) : Identifier := { i with start := i.start + n }

/-- A comment further to the right. -/
def CommentSpan.advance (n : Nat) (c : CommentSpan) : CommentSpan :=
  { c with start := c.start + n, stop := c.stop + n }

/-- A tree with all places further to the right. -/
def Tree.advance (n : Nat) (t : Tree) : Tree :=
  ⟨t.identifiers.map (·.advance n), t.comments.map (·.advance n)⟩

/-- An identifier further to the left. -/
def Identifier.retreat (n : Nat) (i : Identifier) : Identifier := { i with start := i.start - n }

/-- A comment further to the left. -/
def CommentSpan.retreat (n : Nat) (c : CommentSpan) : CommentSpan :=
  { c with start := c.start - n, stop := c.stop - n }

/-- A tree with all places further to the left.  Identifiers that would be before the start are
left out. -/
def Tree.retreat (n : Nat) (t : Tree) : Tree :=
  ⟨(t.identifiers.filter (n ≤ ·.start)).map (·.retreat n), t.comments.map (·.retreat n)⟩

/-- `t.HasClearHead n` says that nothing of `t` starts at the offset `n` if a comment is at the
start of the source. -/
def Tree.HasClearHead (n : Nat) (t : Tree) : Prop :=
  ∀ c ∈ t.comments, c.start = 0 →
    (∀ i ∈ t.identifiers, i.start ≠ n) ∧ ∀ d ∈ t.comments, d.start ≠ n

theorem CommentSpan.text?_advance (a s : List Char) (c : CommentSpan) :
    (c.advance (blen a)).text? (a ++ s) = c.text? s :=
  slice?_add_blen a s c.start c.stop

theorem Tree.CommentsIn.advance {t : Tree} {s : List Char} (h : t.CommentsIn s) (a : List Char) :
    (t.advance (blen a)).CommentsIn (a ++ s) := by
  intro c hc
  obtain ⟨d, hd, rfl⟩ := List.mem_map.1 hc
  rw [CommentSpan.text?_advance]
  exact h d hd

end Syntax

section Plan

variable (rules : List Rule)

theorem identifierEdit?_advance (a s : List Char) (i : Identifier) :
    identifierEdit? rules (a ++ s) (i.advance (blen a)) =
      (identifierEdit? rules s i).map (Edit.advance (blen a)) := by
  have hstop : i.start + blen a + blen i.name.toList = i.start + blen i.name.toList + blen a := by
    omega
  simp only [identifierEdit?, Identifier.advance, hstop, slice?_add_blen]
  cases newName? rules i.name.toList with
  | none => rfl
  | some new =>
    simp only
    by_cases hspelt : slice? i.start (i.start + blen i.name.toList) s = some i.name.toList
    · rw [if_pos hspelt, if_pos hspelt]
      rfl
    · rw [if_neg hspelt, if_neg hspelt]
      rfl

theorem commentEdit?_advance (a s : List Char) (c : CommentSpan) :
    commentEdit? rules (a ++ s) (c.advance (blen a)) =
      (commentEdit? rules s c).map (Edit.advance (blen a)) := by
  rw [commentEdit?, commentEdit?, commentEdit, commentEdit, CommentSpan.text?_advance]
  cases c.text? s with
  | none => rfl
  | some text =>
    simp only [Option.map_some, Option.join_some]
    by_cases hsame : renameText rules text = text
    · rw [if_pos hsame, if_pos hsame]
      rfl
    · rw [if_neg hsame, if_neg hsame]
      rfl

/-- The plan for a source behind a text. -/
theorem plannedEdits_advance (a s : List Char) (t : Tree) :
    plannedEdits rules (a ++ s) (t.advance (blen a)) =
      (plannedEdits rules s t).map (Edit.advance (blen a)) := by
  simp only [plannedEdits, identifierEdits, Tree.advance, List.filterMap_map, List.map_append,
    List.map_filterMap, Function.comp_def, identifierEdit?_advance, commentEdit?_advance]

theorem start_of_identifierEdit? {s : List Char} {i : Identifier} {e : Edit}
    (h : identifierEdit? rules s i = some e) : e.start = i.start := by
  rw [identifierEdit?_eq_map] at h
  obtain ⟨r, hr, rfl⟩ := Option.map_eq_some_iff.1 h
  exact (identifierRegion?_eq_some_iff.1 hr).2.2.1

theorem start_of_commentEdit? {s : List Char} {c : CommentSpan} {e : Edit}
    (h : commentEdit? rules s c = some e) : e.start = c.start := by
  rw [commentEdit?, commentEdit] at h
  cases htext : c.text? s with
  | none => simp [htext] at h
  | some text =>
    simp only [htext, Option.map_some, Option.join_some] at h
    split at h
    · cases h
    · cases h
      rfl

section Dropped

variable {c : Char} (s : List Char)

/-- A comment behind the character is read further to the left. -/
theorem commentEdit?_dropped {k : CommentSpan} (hstart : c.utf8Size ≤ k.start)
    (hstop : c.utf8Size ≤ k.stop) :
    commentEdit? rules (c :: s) k =
      (commentEdit? rules s (k.retreat c.utf8Size)).map (Edit.advance c.utf8Size) := by
  have hadvance : (k.retreat c.utf8Size).advance (blen [c]) = k := by
    simp [CommentSpan.retreat, CommentSpan.advance, Nat.sub_add_cancel hstart,
      Nat.sub_add_cancel hstop]
  have hmoved := commentEdit?_advance rules [c] s (k.retreat c.utf8Size)
  rw [hadvance] at hmoved
  simpa using hmoved

variable (hc : isIdentifierChar c = false)
include hc

/-- No identifier is found at a place before the end of the character. -/
theorem identifierEdit?_dropped (i : Identifier) :
    identifierEdit? rules (c :: s) i =
      if c.utf8Size ≤ i.start then
        (identifierEdit? rules s (i.retreat c.utf8Size)).map (Edit.advance c.utf8Size)
      else none := by
  by_cases hi : c.utf8Size ≤ i.start
  · have hadvance : (i.retreat c.utf8Size).advance (blen [c]) = i := by
      simp [Identifier.retreat, Identifier.advance, Nat.sub_add_cancel hi]
    have hmoved := identifierEdit?_advance rules [c] s (i.retreat c.utf8Size)
    rw [hadvance] at hmoved
    rw [if_pos hi]
    simpa using hmoved
  · rw [if_neg hi, identifierEdit?_eq_map, Option.map_eq_none_iff]
    by_contra hne
    obtain ⟨r, hr⟩ := Option.ne_none_iff_exists'.1 hne
    obtain ⟨hspelt, hnew, -⟩ := identifierRegion?_eq_some_iff.1 hr
    have hword := isWord_of_isIdentifier (isIdentifier_of_newName? hnew)
    -- the name would be nothing, or start with the character
    rcases slice?_cons_eq_some hspelt with ⟨hle, -⟩ | ⟨-, -, hname⟩ | ⟨-, -, y, hname, -⟩
    · exact hi hle
    · exact hword.1 hname
    · have hfirst := hword.2 c (hname ▸ List.mem_cons_self)
      rw [hc] at hfirst
      cases hfirst

/-- A comment at the start is read with the character before it, and without its end. -/
theorem commentEdit?_dropped_zero {k : CommentSpan} (hstart : k.start = 0)
    (htext : (k.text? (c :: s)).isSome) :
    commentEdit? rules (c :: s) k =
      (commentEdit? rules s (k.retreat c.utf8Size)).map (Edit.cover [c]) := by
  obtain ⟨x, hx⟩ := Option.isSome_iff_exists.1 htext
  have hsize : 0 < c.utf8Size := Char.utf8Size_pos c
  rw [commentEdit?, commentEdit?, commentEdit, commentEdit, hx]
  rcases slice?_cons_eq_some hx with ⟨hle, -⟩ | ⟨-, hstop, rfl⟩ | ⟨-, hstop, y, rfl, hy⟩
  · omega
  · have hretreat : (k.retreat c.utf8Size).text? s = some [] := by
      rw [CommentSpan.text?, CommentSpan.retreat, hstart, hstop]
      simp [slice?]
    rw [hretreat]
    simp [renameText_nil]
  · have hretreat : (k.retreat c.utf8Size).text? s = some y := by
      rw [CommentSpan.text?, CommentSpan.retreat, hstart, Nat.zero_sub, hy]
    rw [hretreat]
    simp only [Option.map_some, Option.join_some, renameText_cons_between rules hc,
      List.cons.injEq, true_and]
    by_cases hsame : renameText rules y = y
    · rw [if_pos hsame, if_pos hsame]
      rfl
    · rw [if_neg hsame, if_neg hsame]
      simp [Edit.cover, CommentSpan.retreat, hstart, Nat.sub_add_cancel hstop]

/-- The plan for a tree whose places are too small by a character: it is that for the tree further
to the left. -/
theorem plannedEdits_dropped_eq_map {t : Tree} {move : Edit → Edit}
    (hidentifiers : ∀ i ∈ t.identifiers, c.utf8Size ≤ i.start →
      ∀ e ∈ identifierEdit? rules s (i.retreat c.utf8Size), e.advance c.utf8Size = move e)
    (hcomments : ∀ k ∈ t.comments, commentEdit? rules (c :: s) k =
      (commentEdit? rules s (k.retreat c.utf8Size)).map move) :
    plannedEdits rules (c :: s) t =
      (plannedEdits rules s (t.retreat c.utf8Size)).map move := by
  simp only [plannedEdits, identifierEdits, Tree.retreat, List.filterMap_map, List.map_append,
    List.map_filterMap, List.filterMap_filter, Function.comp_def]
  congr 1
  · refine List.filterMap_congr fun i hi => ?_
    rw [identifierEdit?_dropped rules s hc]
    by_cases hle : c.utf8Size ≤ i.start
    · rw [if_pos hle, if_pos (decide_eq_true hle)]
      exact Option.map_congr fun e he => hidentifiers i hi hle e he
    · rw [if_neg hle, if_neg (by simpa using hle)]
      rfl
  · exact List.filterMap_congr hcomments

theorem exists_plannedEdits_dropped {t : Tree}
    (htexts : ∀ k ∈ t.comments, (k.text? (c :: s)).isSome) (hclear : t.HasClearHead c.utf8Size) :
    ∃ move, Carries [c] move (plannedEdits rules s (t.retreat c.utf8Size)) ∧
      plannedEdits rules (c :: s) t =
        (plannedEdits rules s (t.retreat c.utf8Size)).map move := by
  have hblen : blen [c] = c.utf8Size := by simp
  -- a comment is at the start or behind the character, for else its text would be no text
  have hplaces : ∀ k ∈ t.comments, k.start ≠ 0 → c.utf8Size ≤ k.start ∧ c.utf8Size ≤ k.stop := by
    intro k hk hstart
    obtain ⟨x, hx⟩ := Option.isSome_iff_exists.1 (htexts k hk)
    have hle := (slice?_isSome_iff.1 (htexts k hk)).1
    rcases slice?_cons_eq_some hx with ⟨hsize, -⟩ | ⟨hzero, -⟩ | ⟨hzero, -⟩
    · omega
    · exact absurd hzero hstart
    · exact absurd hzero hstart
  by_cases hhead : ∃ k ∈ t.comments, k.start = 0
  · obtain ⟨first, hfirst, hzero⟩ := hhead
    obtain ⟨hids, hcomments⟩ := hclear first hfirst hzero
    -- all edits at the start of the source are those of comments that start there
    have hcover : ∀ e : Edit, e.start ≠ 0 → e.advance c.utf8Size = e.cover [c] := by
      intro e he
      rw [Edit.cover, if_neg he, hblen]
    refine ⟨Edit.cover [c], carries_cover [c] fun e he =>
      Edit.start_le_stop (isValid_of_mem_plannedEdits he), ?_⟩
    refine plannedEdits_dropped_eq_map rules s hc (fun i hi hle e he => hcover e ?_) fun k hk => ?_
    · have hne := hids i hi
      rw [start_of_identifierEdit? rules he, Identifier.retreat]
      simp only
      omega
    · by_cases hk0 : k.start = 0
      · exact commentEdit?_dropped_zero rules s hc hk0 (htexts k hk)
      · have hne := hcomments k hk
        obtain ⟨hstart, hstop⟩ := hplaces k hk hk0
        rw [commentEdit?_dropped rules s hstart hstop]
        refine Option.map_congr fun e he => hcover e ?_
        rw [start_of_commentEdit? rules he, CommentSpan.retreat]
        simp only
        omega
  · refine ⟨Edit.advance c.utf8Size, hblen ▸ carries_advance [c] _, ?_⟩
    refine plannedEdits_dropped_eq_map rules s hc (fun _ _ _ _ _ => rfl) fun k hk => ?_
    obtain ⟨hstart, hstop⟩ := hplaces k hk fun hzero => hhead ⟨k, hk, hzero⟩
    exact commentEdit?_dropped rules s hstart hstop

end Dropped

end Plan

/-! ### Renaming -/

theorem eq_ok_of_toOption {ε α : Type} {x : Except ε α} {a : α} (h : x.toOption = some a) :
    x = .ok a := by
  cases x with
  | error e => cases h
  | ok b => cases h; rfl

/-- What is planned for a source behind a text decides what it becomes. -/
theorem rename_behind {provider provider' : Provider} {path : String} {a s : List Char}
    {rules : List Rule} {tree tree' : Tree} {move : Edit → Edit}
    (hparse : provider path s = .ok tree) (hcomments : tree.CommentsIn s)
    (hparse' : provider' path (a ++ s) = .ok tree') (hcomments' : tree'.CommentsIn (a ++ s))
    (hmove : Carries a move (plannedEdits rules s tree))
    (hplan : plannedEdits rules (a ++ s) tree' = (plannedEdits rules s tree).map move) :
    (rename provider' path (a ++ s) rules).value.toOption =
      (rename provider path s rules).value.toOption.map (a ++ ·) := by
  have htoOption : ∀ x : Except EditError EditResult,
      ((x.map EditResult.source).mapError RenameError.edit).toOption =
        x.toOption.map EditResult.source := by
    rintro (e | r) <;> rfl
  have hvalid : ∀ e ∈ plannedEdits rules s tree, (move e).isValid (a ++ s) = true := by
    intro e he
    have hmem : move e ∈ plannedEdits rules (a ++ s) tree' := by
      rw [hplan]
      exact List.mem_map_of_mem he
    exact isValid_of_mem_plannedEdits hmem
  rw [rename_value (renameEdits_value rules hparse hcomments),
    rename_value (renameEdits_value rules hparse' hcomments'), htoOption, htoOption, hplan,
    applyEdits_of_carries hmove (fun _ => isValid_of_mem_plannedEdits) hvalid]

/-- A source is renamed behind a text like by itself, if all places count the text. -/
theorem rename_advance {provider counting : Provider} {path : String} {s : List Char}
    (rules : List Rule) (a : List Char)
    (hcomments : ∀ tree ∈ (provider path s).toOption, tree.CommentsIn s)
    (hcounting : (counting path (a ++ s)).toOption =
      (provider path s).toOption.map (Tree.advance (blen a))) :
    (rename counting path (a ++ s) rules).value ≠ .error .badComment ∧
      (rename counting path (a ++ s) rules).value.toOption =
        (rename provider path s rules).value.toOption.map (a ++ ·) := by
  cases hparse : provider path s with
  | error message =>
    have hfails : ∃ message', counting path (a ++ s) = .error message' := by
      cases hparse' : counting path (a ++ s) with
      | error message' => exact ⟨message', rfl⟩
      | ok tree => simp [hparse, hparse', Except.toOption] at hcounting
    obtain ⟨message', hparse'⟩ := hfails
    by_cases hrules : (identifierRules rules).isEmpty = true
    · simp [rename, renameEdits, hrules, Logged.andThen, Except.toOption]
    · simp [rename, renameEdits, hrules, hparse, hparse', Logged.andThen, Except.toOption]
  | ok tree =>
    rw [hparse] at hcounting hcomments
    replace hcounting := eq_ok_of_toOption hcounting
    have hin := hcomments tree rfl
    exact ⟨rename_ne_badComment_of_plan (renameEdits_value rules hcounting (hin.advance a)),
      rename_behind hparse hin hcounting (hin.advance a) (carries_advance a _)
        (plannedEdits_advance rules a s tree)⟩

/-- The byte-order mark. -/
def mark : Char := Char.ofNat 0xFEFF

theorem utf8Size_mark : mark.utf8Size = 3 := by decide

theorem commentsIn_retreat {c : Char} {s : List Char} {t : Tree} (h : t.CommentsIn (c :: s)) :
    (t.retreat c.utf8Size).CommentsIn s := by
  intro k hk
  obtain ⟨d, hd, rfl⟩ := List.mem_map.1 hk
  obtain ⟨x, hx⟩ := Option.isSome_iff_exists.1 (h d hd)
  rw [CommentSpan.text?, CommentSpan.retreat]
  rcases slice?_cons_eq_some hx with ⟨-, hslice⟩ | ⟨hstart, hstop, -⟩ | ⟨hstart, -, y, -, hslice⟩
  · exact Option.isSome_of_eq_some hslice
  · simp [hstart, hstop, slice?]
  · rw [hstart, Nat.zero_sub]
    exact Option.isSome_of_eq_some hslice

/-- **What a mark does to renaming**, if the provider passes over it and counts from behind it.  The
renaming breaks off where a comment is no part of the source three bytes before its place.  Else it
makes of the source what it would with everything three bytes further to the left.  It is not
disturbed if the provider counts the mark. -/
theorem rename_of_dropped_mark (provider : Provider) (path : String) (s : List Char)
    (rules : List Rule)
    (hdrops : (provider path (mark :: s)).toOption = (provider path s).toOption)
    (hcomments : ∀ tree ∈ (provider path s).toOption, tree.CommentsIn s) :
    (∀ tree ∈ (provider path s).toOption,
      ((rename provider path (mark :: s) rules).value = .error .badComment ↔
        identifierRules rules ≠ [] ∧ ∃ c ∈ tree.comments, c.text? (mark :: s) = none) ∧
      (tree.CommentsIn (mark :: s) → tree.HasClearHead 3 →
        (rename provider path (mark :: s) rules).value.toOption = (rename
          (fun _ _ => .ok (tree.retreat 3)) path s rules).value.toOption.map (mark :: ·))) ∧
      ∀ counting : Provider,
        (counting path (mark :: s)).toOption = (provider path s).toOption.map (Tree.advance 3) →
        (rename counting path (mark :: s) rules).value ≠ .error .badComment ∧
          (rename counting path (mark :: s) rules).value.toOption =
            (rename provider path s rules).value.toOption.map (mark :: ·) := by
  refine ⟨fun tree htree => ⟨?_, fun hin hclear => ?_⟩, fun counting hcounting => ?_⟩
  · exact rename_eq_badComment_iff rules (eq_ok_of_toOption (hdrops.trans htree))
  · have hword : isIdentifierChar mark = false := by decide
    rw [← utf8Size_mark] at hclear ⊢
    obtain ⟨move, hmove, hplan⟩ := exists_plannedEdits_dropped rules s hword hin hclear
    exact rename_behind (a := [mark]) rfl (commentsIn_retreat hin)
      (eq_ok_of_toOption (hdrops.trans htree)) hin hmove hplan
  · exact rename_advance rules [mark] hcomments hcounting

/-- The provider for TypeScript passes over a mark and counts from behind it. -/
theorem typeScript_mark {s : List Char} (h : s.head? ≠ some mark) (path : String) :
    typeScript path (mark :: s) = typeScript path s := by
  have hparse : TypeScript.parse? (dialectOf path) (mark :: s) =
      TypeScript.parse? (dialectOf path) s := by
    cases s with
    | nil => rfl
    | cons c rest =>
      have hc : c.toNat ≠ 0xFEFF := by
        intro heq
        refine h (congrArg some ?_)
        rw [← Char.ofNat_toNat c, heq]
        rfl
      have hmark : mark.toNat = 0xFEFF := by decide
      simp only [TypeScript.parse?, hmark, if_true, if_neg hc]
  rw [typeScript, hparse, typeScript]

def olderSource : List Char := "// oldest\nold".toList

def olderTree : Tree := ⟨[⟨"old", 10⟩], [⟨0, 9, .line⟩]⟩

theorem typeScript_olderSource : typeScript "a.ts" olderSource = .ok olderTree := by
  decide +kernel

/-- Behind a mark a word of the comment is changed that only starts with the old name, and the
identifier is not. -/
theorem rename_of_dropped_mark_older :
    (typeScript "a.ts" (mark :: olderSource)).toOption =
        (typeScript "a.ts" olderSource).toOption ∧
      (∀ tree ∈ (typeScript "a.ts" olderSource).toOption, tree.CommentsIn olderSource) ∧
      (rename typeScript "a.ts" olderSource [.word "old".toList "new".toList]).value =
        .ok "// oldest\nnew".toList ∧
      (rename typeScript "a.ts" (mark :: olderSource)
          [.word "old".toList "new".toList]).value.toOption =
        some (mark :: "// newest\nold".toList) ∧
      (rename (fun _ _ => .ok (olderTree.advance 3)) "a.ts" (mark :: olderSource)
          [.word "old".toList "new".toList]).value.toOption =
        some (mark :: "// oldest\nnew".toList) := by
  have hdrops : (typeScript "a.ts" (mark :: olderSource)).toOption =
      (typeScript "a.ts" olderSource).toOption := by
    rw [typeScript_mark (by decide) "a.ts"]
  have hcomments : ∀ tree ∈ (typeScript "a.ts" olderSource).toOption,
      tree.CommentsIn olderSource := by
    rw [typeScript_olderSource]
    rintro tree ⟨⟩
    show ∀ c ∈ olderTree.comments, (c.text? olderSource).isSome
    decide +kernel
  have hresult : (rename typeScript "a.ts" olderSource [.word "old".toList "new".toList]).value =
      .ok "// oldest\nnew".toList := by decide +kernel
  obtain ⟨htree, hcounting⟩ := rename_of_dropped_mark typeScript "a.ts" olderSource
    [.word "old".toList "new".toList] hdrops hcomments
  refine ⟨hdrops, hcomments, hresult, ?_, ?_⟩
  · have hin : ∀ c ∈ olderTree.comments, (c.text? (mark :: olderSource)).isSome := by
      decide +kernel
    have hclear : olderTree.HasClearHead 3 := by
      simp [Tree.HasClearHead, olderTree]
    rw [(htree olderTree (by rw [typeScript_olderSource]; rfl)).2 hin hclear]
    decide +kernel
  · have hadvance : some (olderTree.advance 3) =
        (typeScript "a.ts" olderSource).toOption.map (Tree.advance 3) := by
      rw [typeScript_olderSource]
      rfl
    rw [(hcounting (fun _ _ => .ok (olderTree.advance 3)) hadvance).2, hresult]
    rfl

/-- A mark that the provider passes over disturbs renaming. -/
theorem mark_disturbs_rename :
    ¬ ∀ provider : Provider,
      (∀ path s, s.head? ≠ some mark → provider path (mark :: s) = provider path s) →
      ∀ path s, s.head? ≠ some mark →
        (∀ tree, provider path s = .ok tree → tree.CommentsIn s ∧ ∀ i ∈ tree.identifiers,
          (slice? i.start (i.start + blen i.name.toList) s).isSome) →
        ∀ rules : List Rule, (∀ r ∈ rules, r.identifier?.isSome) →
          (rename provider path (mark :: s) rules).value ≠ .error .badComment ∧
          (rename provider path (mark :: s) rules).value.toOption =
            (rename provider path s rules).value.toOption.map (mark :: ·) := by
  intro h
  have htree : typeScript "a.ts" "old".toList = .ok ⟨[⟨"old", 0⟩], []⟩ := by decide +kernel
  have hplaces : ∀ tree, typeScript "a.ts" "old".toList = .ok tree → tree.CommentsIn "old".toList ∧
      ∀ i ∈ tree.identifiers,
        (slice? i.start (i.start + blen i.name.toList) "old".toList).isSome := by
    rw [htree]
    rintro tree ⟨⟩
    exact ⟨by simp [Tree.CommentsIn], by decide +kernel⟩
  obtain ⟨-, hsame⟩ := h typeScript (fun path _ hs => typeScript_mark hs path) "a.ts" "old".toList
    (by decide) hplaces [.word "old".toList "new".toList] (by decide)
  exact absurd hsame (by decide +kernel)

end Codemod
