import Codemod.Edit
import Mathlib.Data.List.Basic

/-!
# Splicing edits into a source

Edits are spliced in from the last to the first.  Since none of those that are made touches another,
this is the same as to read the source once from its start: the text up to an edit is copied, the
text of the edit follows, and reading goes on where the edit stops.

## Main definitions

* `Edit.Compatible` — two edits that can both be made.
* `Edit.InOrder` — edits in the order of their places, none of them touching the next.
* `assembleFrom` — the source with edits made from the first to the last.
* `Assembled` — the same as a relation, for induction.

## Main results

* `Assembled.foldl_splice_reverse` — splicing is assembling.
* `dedupInto_cons` — what can happen to an edit.
* `exists_dedupInto`, `dedupInto_ok`, `dedupInto_error` — which edits are kept, and what is refused.
* `exists_applyEdits`, `applyEdits_ok`, `applyEdits_error` — the same for a whole application.
-/

namespace Codemod

open Text

namespace Edit

/-! ### Single edits and pairs -/

/-- A valid edit cuts the source in three. -/
theorem isValid_iff {e : Edit} {source : List Char} :
    e.isValid source = true ↔
      ∃ a old c, a ++ (old ++ c) = source ∧ blen a = e.start ∧ blen a + blen old = e.stop := by
  rw [isValid, Option.isSome_iff_exists]
  constructor
  · rintro ⟨old, h⟩
    obtain ⟨a, c, hsource, hstart, hstop⟩ := slice?_eq_some_iff.1 h
    exact ⟨a, old, c, hsource, hstart, hstop⟩
  · rintro ⟨a, old, c, hsource, hstart, hstop⟩
    exact ⟨old, slice?_eq_some_iff.2 ⟨a, c, hsource, hstart, hstop⟩⟩

theorem start_le_stop {e : Edit} {source : List Char} (h : e.isValid source = true) :
    e.start ≤ e.stop := by
  obtain ⟨a, old, c, -, hstart, hstop⟩ := isValid_iff.1 h
  omega

theorem isPlace_start {e : Edit} {source : List Char} (h : e.isValid source = true) :
    IsPlace e.start source := (slice?_isSome_iff.1 h).2.1

theorem sameEffect_iff {a b : Edit} :
    a.sameEffect b = true ↔ a.start = b.start ∧ a.stop = b.stop ∧ a.text = b.text := by
  simp [sameEffect, and_assoc]

theorem overlaps_comm (a b : Edit) : a.overlaps b = b.overlaps a := by
  rw [overlaps, overlaps, Bool.and_comm]
  congr 1
  exact decide_eq_decide.2 eq_comm

/-- `a.Compatible b` says that the edits `a` and `b` can both be made, be it once. -/
def Compatible (a b : Edit) : Prop := a.sameEffect b = true ∨ a.overlaps b = false

/-- `InOrder es` says that the edits `es` are in the order of their places, and that each stops
before the next starts. -/
def InOrder (es : List Edit) : Prop := es.Pairwise fun a b => a.start < b.start ∧ a.stop ≤ b.start

end Edit

/-! ### Assembling -/

/-- The source from an offset on, with edits made from the first to the last. -/
def assembleFrom (source : List Char) : (pos : Nat) → List Edit → List Char
  | pos, [] => (slice? pos (blen source) source).getD []
  | pos, e :: es => (slice? pos e.start source).getD [] ++ e.text ++ assembleFrom source e.stop es

theorem assembleFrom_nil (a b : List Char) : assembleFrom (a ++ b) (blen a) [] = b := by
  have h : slice? (blen a) (blen (a ++ b)) (a ++ b) = some b :=
    slice?_eq_some_iff.2 ⟨a, [], by simp, rfl, by simp⟩
  rw [assembleFrom, h, Option.getD_some]

theorem assembleFrom_cons (a gap old c : List Char) {e : Edit} (es : List Edit)
    (hstart : blen a + blen gap = e.start) :
    assembleFrom (a ++ (gap ++ (old ++ c))) (blen a) (e :: es) =
      gap ++ e.text ++ assembleFrom (a ++ (gap ++ (old ++ c))) e.stop es := by
  have h : slice? (blen a) e.start (a ++ (gap ++ (old ++ c))) = some gap :=
    slice?_eq_some_iff.2 ⟨a, old ++ c, rfl, rfl, hstart⟩
  rw [assembleFrom, h, Option.getD_some]

/-- Text before the first edit is copied. -/
theorem assembleFrom_copy {source a x b : List Char} (hsource : a ++ (x ++ b) = source)
    {es : List Edit} (hvalid : ∀ e ∈ es, e.isValid source = true)
    (hstart : ∀ e ∈ es, blen a + blen x ≤ e.start) :
    assembleFrom source (blen a) es = x ++ assembleFrom source (blen a + blen x) es := by
  subst hsource
  have hax : blen (a ++ x) = blen a + blen x := blen_append a x
  cases es with
  | nil =>
    have h := assembleFrom_nil (a ++ x) b
    rw [hax, List.append_assoc] at h
    rw [assembleFrom_nil, h]
  | cons e es =>
    obtain ⟨p, q, hpq, hp⟩ := Edit.isPlace_start (hvalid e List.mem_cons_self)
    have hle : blen (a ++ x) ≤ blen p := by
      rw [hax, hp]
      exact hstart e List.mem_cons_self
    obtain ⟨gap, rfl, rfl⟩ :=
      exists_append_of_blen_le ((List.append_assoc a x b).trans hpq.symm) hle
    have h₁ := assembleFrom_cons a (x ++ gap) [] q es (by rw [← hp]; simp [blen_append])
    have h₂ := assembleFrom_cons (a ++ x) gap [] q es (by rw [← hp, blen_append (a ++ x)])
    simp only [List.nil_append, List.append_assoc, hax] at h₁ h₂
    rw [h₁, h₂]

theorem splice_append {a old : List Char} (c : List Char) {e : Edit} (hstart : blen a = e.start)
    (hstop : blen a + blen old = e.stop) : splice (a ++ (old ++ c)) e = a ++ (e.text ++ c) := by
  have h₁ : cut? e.start (a ++ (old ++ c)) = some (a, old ++ c) :=
    cut?_eq_some_iff.2 ⟨rfl, hstart⟩
  have h₂ : cut? e.stop (a ++ (old ++ c)) = some (a ++ old, c) :=
    cut?_eq_some_iff.2 ⟨by simp, by rw [blen_append, hstop]⟩
  rw [splice, h₁, h₂]
  simp

/-- The text `out` that edits make of `rest`, which stands after `before`: what comes before an edit is
copied, the edit gives its own text, and the others go on after it. -/
inductive Assembled : (before rest : List Char) → List Edit → (out : List Char) → Prop
  | nil {before rest : List Char} : Assembled before rest [] rest
  | cons {before gap old rest out : List Char} {e : Edit} {es : List Edit} :
      blen (before ++ gap) = e.start → blen (before ++ gap ++ old) = e.stop →
        Assembled (before ++ gap ++ old) rest es out →
          Assembled before (gap ++ (old ++ rest)) (e :: es) (gap ++ (e.text ++ out))

/-- Valid edits in order assemble what stands after the offset. -/
theorem assembled_assembleFrom {source : List Char} :
    ∀ {es : List Edit} {a rest : List Char}, a ++ rest = source →
      (∀ e ∈ es, e.isValid source = true) → Edit.InOrder es → (∀ e ∈ es, blen a ≤ e.start) →
      Assembled a rest es (assembleFrom source (blen a) es) := by
  intro es
  induction es with
  | nil =>
    rintro a rest rfl - - -
    rw [assembleFrom_nil]
    exact .nil
  | cons e es ih =>
    intro a rest hsource hvalid horder hstart
    obtain ⟨hhead, htail⟩ := List.pairwise_cons.1 horder
    rw [List.forall_mem_cons] at hvalid hstart
    obtain ⟨p, old, c, hp, hps, hpe⟩ := Edit.isValid_iff.1 hvalid.1
    obtain ⟨gap, rfl, rfl⟩ :=
      exists_append_of_blen_le (hsource.trans hp.symm) (hps.symm ▸ hstart.1)
    have hstop : blen (a ++ gap ++ old) = e.stop := (blen_append _ old).trans hpe
    have hrest : Assembled (a ++ gap ++ old) c es (assembleFrom source e.stop es) :=
      hstop ▸ ih ((List.append_assoc _ old c).trans hp) hvalid.2 htail fun f hf =>
        hstop ▸ (hhead f hf).2
    have hcons := assembleFrom_cons a gap old c es ((blen_append a gap).symm.trans hps)
    rw [hsource, List.append_assoc] at hcons
    rw [hcons]
    exact .cons hps hstop hrest

/-- Splicing from the last edit to the first assembles from the first to the last. -/
theorem Assembled.foldl_splice_reverse {before rest out : List Char} {es : List Edit}
    (h : Assembled before rest es out) :
    es.reverse.foldl splice (before ++ rest) = before ++ out := by
  induction h with
  | nil => rfl
  | @cons before gap old rest out e es hstart hstop _ ih =>
    -- everything up to the end of the first edit is left alone by the others
    have hsplice := splice_append out hstart ((blen_append _ old).symm.trans hstop)
    rw [List.append_assoc (before ++ gap), List.append_assoc (before ++ gap)] at ih
    rw [List.reverse_cons, List.foldl_append, ← List.append_assoc before, ih, List.foldl_cons,
      List.foldl_nil, hsplice, List.append_assoc]

/-! ### Which edits are kept -/

/-- The three things that can happen to an edit: it is a double of one that is kept, it is refused
for the first of those that it overlaps, or it is kept. -/
theorem dedupInto_cons (kept : List Edit) (e : Edit) (es : List Edit) :
    (∃ k ∈ kept, k.sameEffect e = true ∧
        (dedupInto kept (e :: es)).value = (dedupInto kept es).value) ∨
      (∃ k, kept.find? (·.overlaps e) = some k ∧ (∀ l ∈ kept, l.sameEffect e = false) ∧
        (dedupInto kept (e :: es)).value = .error (.conflict k e)) ∨
      ((∀ k ∈ kept, k.overlaps e = false) ∧
        (dedupInto kept (e :: es)).value = (dedupInto (kept ++ [e]) es).value) := by
  rw [dedupInto]
  by_cases hdup : kept.any (·.sameEffect e) = true
  · obtain ⟨k, hk, hsame⟩ := List.any_eq_true.1 hdup
    rw [if_pos hdup]
    exact Or.inl ⟨k, hk, hsame, rfl⟩
  · rw [if_neg hdup]
    cases hfind : kept.find? (·.overlaps e) with
    | some k => exact Or.inr (Or.inl ⟨k, rfl, by simpa using hdup, rfl⟩)
    | none =>
      refine Or.inr (Or.inr ⟨fun k hk => ?_, rfl⟩)
      simpa using List.find?_eq_none.1 hfind k hk

/-- Edits that are pairwise compatible with each other and with those kept are all taken. -/
theorem exists_dedupInto :
    ∀ (es kept : List Edit),
      (∀ a ∈ kept ++ es, ∀ b ∈ kept ++ es, a.Compatible b) →
      ∃ kept', (dedupInto kept es).value = .ok kept' := by
  intro es
  induction es with
  | nil => intro kept _; exact ⟨kept, rfl⟩
  | cons e es ih =>
    intro kept hall
    rcases dedupInto_cons kept e es with ⟨k, -, -, h⟩ | ⟨k, hfind, hne, -⟩ | ⟨-, h⟩
    · have hsub : ∀ a ∈ kept ++ es, a ∈ kept ++ e :: es := fun a ha =>
        List.mem_append.2 ((List.mem_append.1 ha).imp_right (List.mem_cons_of_mem e))
      rw [h]
      exact ih kept fun a ha b hb => hall a (hsub a ha) b (hsub b hb)
    · have hk := List.mem_of_find?_eq_some hfind
      have hover := List.find?_some (p := fun k : Edit => k.overlaps e) hfind
      rcases hall k (List.mem_append_left _ hk) e (by simp) with hsame | hfree
      · rw [hne k hk] at hsame
        cases hsame
      · rw [hfree] at hover
        cases hover
    · rw [h]
      exact ih (kept ++ [e]) (by simpa using hall)

/-- What is kept are some of the edits, one for each of them, and no two of these overlap. -/
theorem dedupInto_ok :
    ∀ {es kept kept' : List Edit}, (dedupInto kept es).value = .ok kept' →
      (kept.Pairwise fun a b => a.overlaps b = false) →
      (kept'.Pairwise fun a b => a.overlaps b = false) ∧ (∀ k ∈ kept', k ∈ kept ∨ k ∈ es) ∧
        (∀ k ∈ kept, k ∈ kept') ∧ ∀ e ∈ es, ∃ k ∈ kept', k.sameEffect e = true := by
  intro es
  induction es with
  | nil =>
    intro kept kept' h hpair
    have hkept : kept = kept' := Except.ok.inj h
    subst hkept
    exact ⟨hpair, fun k hk => Or.inl hk, fun k hk => hk, by simp⟩
  | cons e es ih =>
    intro kept kept' h hpair
    rcases dedupInto_cons kept e es with ⟨k, hk, hsame, heq⟩ | ⟨k, -, -, heq⟩ | ⟨hfree, heq⟩
    · obtain ⟨hpair', hfrom, hkeep, hrep⟩ := ih (heq ▸ h) hpair
      exact ⟨hpair', fun k hk => (hfrom k hk).imp_right (List.mem_cons_of_mem _), hkeep,
        List.forall_mem_cons.2 ⟨⟨k, hkeep k hk, hsame⟩, hrep⟩⟩
    · rw [heq] at h
      cases h
    · have hpair₁ : (kept ++ [e]).Pairwise fun a b => a.overlaps b = false :=
        List.pairwise_append.2 ⟨hpair, List.pairwise_singleton _ e, fun a ha b hb =>
          List.mem_singleton.1 hb ▸ hfree a ha⟩
      obtain ⟨hpair', hfrom, hkeep, hrep⟩ := ih (heq ▸ h) hpair₁
      refine ⟨hpair', fun k hk => ?_, fun k hk => hkeep k (List.mem_append_left _ hk),
        List.forall_mem_cons.2 ⟨⟨e, hkeep e (by simp), Edit.sameEffect_iff.2 ⟨rfl, rfl, rfl⟩⟩, hrep⟩⟩
      simpa [or_assoc] using hfrom k hk

/-- Nothing but a conflict is refused. -/
theorem dedupInto_error :
    ∀ {es kept : List Edit} {err : EditError}, (dedupInto kept es).value = .error err →
      ∃ a b, err = .conflict a b := by
  intro es
  induction es with
  | nil =>
    intro kept err h
    cases h
  | cons e es ih =>
    intro kept err h
    rcases dedupInto_cons kept e es with ⟨-, -, -, heq⟩ | ⟨k, -, -, heq⟩ | ⟨-, heq⟩
    · exact ih (heq ▸ h)
    · exact ⟨k, e, (Except.error.inj (heq ▸ h)).symm⟩
    · exact ih (heq ▸ h)

/-! ### Whole applications -/

theorem firstInvalid?_eq_none_iff {source : List Char} {edits : List Edit} :
    firstInvalid? source edits = none ↔ ∀ e ∈ edits, e.isValid source = true := by
  simp [firstInvalid?]

/-- What an application of valid edits comes to. -/
theorem applyEdits_value_of_valid {source : List Char} {edits : List Edit}
    (hvalid : ∀ e ∈ edits, e.isValid source = true) :
    (applyEdits source edits).value = (dedupInto [] edits).value.map fun kept =>
      let applied := kept.mergeSort fun a b => b.start ≤ a.start
      ⟨applied.foldl splice source, applied, statisticsOf source edits.length applied⟩ := by
  rw [applyEdits, firstInvalid?_eq_none_iff.2 hvalid]
  cases h : (dedupInto [] edits).value with
  | ok kept =>
    simp only [Logged.value_andThen_of_ok _ h]
    rfl
  | error err =>
    simp only [Logged.value_andThen_of_error _ h]
    rfl

/-- Valid edits that are pairwise compatible are applied. -/
theorem exists_applyEdits {source : List Char} {edits : List Edit}
    (hvalid : ∀ e ∈ edits, e.isValid source = true)
    (hall : ∀ a ∈ edits, ∀ b ∈ edits, a.Compatible b) :
    ∃ r, (applyEdits source edits).value = .ok r := by
  obtain ⟨kept, hkept⟩ := exists_dedupInto edits [] hall
  rw [applyEdits_value_of_valid hvalid, hkept]
  exact ⟨_, rfl⟩

/-- Valid edits are refused for a conflict only. -/
theorem applyEdits_error {source : List Char} {edits : List Edit} {err : EditError}
    (hvalid : ∀ e ∈ edits, e.isValid source = true)
    (h : (applyEdits source edits).value = .error err) : ∃ a b, err = .conflict a b := by
  rw [applyEdits_value_of_valid hvalid] at h
  cases hdedup : (dedupInto [] edits).value with
  | ok kept =>
    rw [hdedup] at h
    cases h
  | error err' =>
    rw [hdedup] at h
    cases h
    exact dedupInto_error hdedup

/-- Edits that do not overlap, from the last to the first, are in order when turned around. -/
theorem inOrder_reverse {source : List Char} {applied : List Edit}
    (hvalid : ∀ e ∈ applied, e.isValid source = true)
    (hsorted : applied.Pairwise fun a b => b.start ≤ a.start)
    (hfree : applied.Pairwise fun a b => a.overlaps b = false) : Edit.InOrder applied.reverse := by
  refine List.pairwise_reverse.2 ((hsorted.and hfree).imp_of_mem ?_)
  rintro b a hb ha ⟨hle, hover⟩
  have hb' := Edit.start_le_stop (hvalid b hb)
  simp only [Edit.overlaps, Bool.or_eq_false_iff, Bool.and_eq_false_iff, decide_eq_false_iff_not]
    at hover
  omega

/-- Edits that are applied are valid, and their result is the source assembled from those that are
made. -/
theorem applyEdits_ok {source : List Char} {edits : List Edit} {r : EditResult}
    (hvalid : ∀ e ∈ edits, e.isValid source = true)
    (h : (applyEdits source edits).value = .ok r) :
    Edit.InOrder r.applied.reverse ∧ (∀ e ∈ r.applied, e ∈ edits) ∧
      (∀ e ∈ edits, ∃ k ∈ r.applied, k.sameEffect e = true) ∧
      r.source = assembleFrom source 0 r.applied.reverse := by
  rw [applyEdits_value_of_valid hvalid] at h
  cases hdedup : (dedupInto [] edits).value with
  | error err =>
    rw [hdedup] at h
    cases h
  | ok kept =>
    rw [hdedup] at h
    obtain rfl := Except.ok.inj h
    obtain ⟨hfree, hfrom, -, hrep⟩ := dedupInto_ok hdedup List.Pairwise.nil
    have hperm := List.mergeSort_perm kept fun a b => decide (b.start ≤ a.start)
    have hmem : ∀ e ∈ kept.mergeSort fun a b => decide (b.start ≤ a.start), e ∈ edits := by
      intro e he
      simpa using hfrom e (hperm.mem_iff.1 he)
    have hsorted : (kept.mergeSort fun a b => decide (b.start ≤ a.start)).Pairwise
        fun a b => b.start ≤ a.start := by
      refine (List.pairwise_mergeSort ?_ ?_ kept).imp of_decide_eq_true
      · intro a b c hab hbc
        simp only [decide_eq_true_eq] at *
        omega
      · intro a b
        simp only [Bool.or_eq_true, decide_eq_true_eq]
        omega
    have horder := inOrder_reverse (fun e he => hvalid e (hmem e he)) hsorted
      (hfree.perm hperm.symm fun {a b} hab => by rw [Edit.overlaps_comm, hab])
    refine ⟨horder, hmem, ?_, ?_⟩
    · intro e he
      obtain ⟨k, hk, hsame⟩ := hrep e he
      exact ⟨k, hperm.mem_iff.2 hk, hsame⟩
    · have hassembled := assembled_assembleFrom (a := []) rfl
        (fun e he => hvalid e (hmem e (List.mem_reverse.1 he))) horder (fun e _ => Nat.zero_le _)
      have hfold := hassembled.foldl_splice_reverse
      rw [List.reverse_reverse] at hfold
      exact hfold

end Codemod
