import Codemod.Proofs.Splice
import Mathlib.Data.List.Sort

/-!
# What edits make of a source

Neither the order in which edits are given nor edits given twice count for what is made of a source:
what counts are the effects, a span and a text each.  The effects that are made have different
starts, so there is one way to list them from the first to the last, and the new source is the old
one assembled from this list.

## Main definitions

* `Edit.effect` — the span and the text of an edit.
* `Edit.Enumerates` — edits in ascending order with the effects of other edits, each of them once.

## Main results

* `Edit.Enumerates.map_effect_eq` — effects are enumerated in one way only.
* `enumerates_applied` — the edits that are made enumerate those that were given.
* `applyEdits_assembles_enumeration` — **splicing from the back is assembling from the front.**
-/

namespace Codemod

open Text

namespace Edit

/-! ### Effects -/

/-- What an edit does, wherever it comes from. -/
def effect (e : Edit) : Nat × Nat × List Char := (e.start, e.stop, e.text)

theorem sameEffect_iff_effect_eq {a b : Edit} : a.sameEffect b = true ↔ a.effect = b.effect := by
  simp [sameEffect_iff, effect]

theorem mem_map_effect {es : List Edit} {e : Edit} :
    e.effect ∈ es.map effect ↔ ∃ k ∈ es, k.sameEffect e = true := by
  simp only [List.mem_map, sameEffect_iff_effect_eq]

/-- Effects in the order of their places, as `InOrder` says it of edits. -/
theorem inOrder_iff {es : List Edit} :
    InOrder es ↔ (es.map effect).Pairwise fun x y => x.1 < y.1 ∧ x.2.1 ≤ y.1 := by
  rw [List.pairwise_map]
  rfl

/-- `Enumerates es edits` says that the edits `es` are in ascending order of their starts and have
the effects of `edits`. -/
structure Enumerates (es edits : List Edit) : Prop where
  ascending : es.Pairwise fun a b => a.start < b.start
  mem_iff : ∀ x, x ∈ es.map effect ↔ x ∈ edits.map effect

namespace Enumerates

variable {es es' edits edits' : List Edit}

theorem of_perm (h : Enumerates es edits) (hperm : edits.Perm edits') : Enumerates es edits' :=
  ⟨h.ascending, fun x => (h.mem_iff x).trans (hperm.map effect).mem_iff⟩

/-- Effects are enumerated in one way only. -/
theorem map_effect_eq (h : Enumerates es edits) (h' : Enumerates es' edits) :
    es.map effect = es'.map effect := by
  -- a list that ascends strictly is determined by its members
  let before (x y : Nat × Nat × List Char) : Prop := x.1 < y.1
  have : Std.Irrefl before := ⟨fun x => Nat.lt_irrefl x.1⟩
  have : Std.Antisymm before := ⟨fun x y hxy hyx => absurd hyx (Nat.lt_asymm hxy)⟩
  have hsorted {l : List Edit} (hl : l.Pairwise fun a b => a.start < b.start) :
      (l.map effect).Pairwise before := List.pairwise_map.2 hl
  exact (hsorted h.ascending).eq_of_mem_iff (hsorted h'.ascending) fun x =>
    (h.mem_iff x).trans (h'.mem_iff x).symm

/-- Every effect is listed once. -/
theorem nodup_map_effect (h : Enumerates es edits) : (es.map effect).Nodup :=
  List.pairwise_map.2 (h.ascending.imp fun hlt heq => Nat.ne_of_lt hlt (congrArg Prod.fst heq))

theorem length_le (h : Enumerates es edits) : es.length ≤ edits.length := by
  have hsub := List.subperm_of_subset h.nodup_map_effect fun x hx => (h.mem_iff x).1 hx
  simpa using hsub.length_le

theorem isValid {source : List Char} (h : Enumerates es edits)
    (hvalid : ∀ e ∈ edits, e.isValid source = true) : ∀ e ∈ es, e.isValid source = true := by
  intro e he
  obtain ⟨k, hk, hsame⟩ := mem_map_effect.1 ((h.mem_iff e.effect).1 (List.mem_map_of_mem he))
  obtain ⟨hstart, hstop, -⟩ := sameEffect_iff.1 hsame
  rw [Edit.isValid, ← hstart, ← hstop]
  exact hvalid k hk

end Enumerates

end Edit

/-- What is assembled depends on the effects alone. -/
theorem assembleFrom_congr (source : List Char) :
    ∀ {es es' : List Edit} (pos : Nat), es.map Edit.effect = es'.map Edit.effect →
      assembleFrom source pos es = assembleFrom source pos es' := by
  intro es
  induction es with
  | nil =>
    intro es' pos h
    rw [List.map_eq_nil_iff.1 h.symm]
  | cons e es ih =>
    intro es' pos h
    obtain ⟨e', es', rfl, heffect, hrest⟩ := List.map_eq_cons_iff.1 h.symm
    obtain ⟨hstart, hstop, htext⟩ : e'.start = e.start ∧ e'.stop = e.stop ∧ e'.text = e.text :=
      Edit.sameEffect_iff.1 (Edit.sameEffect_iff_effect_eq.2 heffect)
    rw [assembleFrom, assembleFrom, hstart, hstop, htext, ih e.stop hrest.symm]

/-! ### Successful applications -/

section Applied

variable {source : List Char} {edits : List Edit} {r : EditResult}
  (h : (applyEdits source edits).value = .ok r)
include h

/-- Edits are applied only if all of them are valid. -/
theorem isValid_of_applyEdits : ∀ e ∈ edits, e.isValid source = true := by
  rw [← firstInvalid?_eq_none_iff]
  cases hfirst : firstInvalid? source edits with
  | none => rfl
  | some e =>
    rw [applyEdits, hfirst] at h
    cases h

theorem statistics_of_applyEdits :
    r.statistics = statisticsOf source edits.length r.applied := by
  rw [applyEdits_value_of_valid (isValid_of_applyEdits h)] at h
  cases hdedup : (dedupInto [] edits).value with
  | error err =>
    rw [hdedup] at h
    cases h
  | ok kept =>
    rw [hdedup] at h
    obtain rfl := Except.ok.inj h
    rfl

/-- The edits that are made, turned around, enumerate those that were given. -/
theorem enumerates_applied : Edit.Enumerates r.applied.reverse edits := by
  obtain ⟨horder, hfrom, hrep, -⟩ := applyEdits_ok (isValid_of_applyEdits h) h
  refine ⟨horder.imp And.left, fun x => ?_⟩
  rw [List.map_reverse, List.mem_reverse]
  constructor
  · intro hx
    obtain ⟨e, he, rfl⟩ := List.mem_map.1 hx
    exact List.mem_map_of_mem (hfrom e he)
  · intro hx
    obtain ⟨e, he, rfl⟩ := List.mem_map.1 hx
    exact Edit.mem_map_effect.2 (hrep e he)

theorem source_eq_assembleFrom {es : List Edit} (hes : Edit.Enumerates es edits) :
    r.source = assembleFrom source 0 es := by
  rw [(applyEdits_ok (isValid_of_applyEdits h) h).2.2.2]
  exact assembleFrom_congr source 0 ((enumerates_applied h).map_effect_eq hes)

/-- The effects of an application stand one after another, each stopping before the next starts. -/
theorem inOrder_of_enumerates {es : List Edit} (hes : Edit.Enumerates es edits) :
    Edit.InOrder es := by
  have horder := (applyEdits_ok (isValid_of_applyEdits h) h).1
  rwa [Edit.inOrder_iff, (enumerates_applied h).map_effect_eq hes, ← Edit.inOrder_iff] at horder

theorem assembled_of_enumerates {es : List Edit} (hes : Edit.Enumerates es edits) :
    Assembled [] source es r.source := by
  rw [source_eq_assembleFrom h hes]
  exact assembled_assembleFrom (List.nil_append source) (hes.isValid (isValid_of_applyEdits h))
    (inOrder_of_enumerates h hes) fun e _ => Nat.zero_le e.start

end Applied

/-- **Splicing from the back is assembling from the front.**  The effects of edits that are applied
can be listed in ascending order, and however they are listed, the new source is the text up to the
first edit, the text of this edit, the text from there to the next edit, and so on up to the text
after the last one.  So the source falls into the texts that edits replace, each at its own offsets,
and the texts between them, which are copied. -/
theorem applyEdits_assembles_enumeration {source : List Char} {edits : List Edit} {r : EditResult}
    (h : (applyEdits source edits).value = .ok r) :
    (∃ es, Edit.Enumerates es edits) ∧
      ∀ es, Edit.Enumerates es edits →
        Edit.InOrder es ∧ r.source = assembleFrom source 0 es ∧
          Assembled [] source es r.source := by
  refine ⟨⟨_, enumerates_applied h⟩, fun es hes => ?_⟩
  exact ⟨inOrder_of_enumerates h hes, source_eq_assembleFrom h hes, assembled_of_enumerates h hes⟩

/-- Edits that touch each other, among them insertions, in no order and with a double. -/
def touchingEdits : List Edit :=
  [⟨3, 3, "!".toList, .identifier⟩, ⟨0, 1, "left".toList, .comment⟩, ⟨4, 4, "\n".toList, .comment⟩,
    ⟨1, 3, [], .identifier⟩, ⟨0, 1, "left".toList, .identifier⟩]

/-- The effects of `touchingEdits` from the first to the last. -/
def touchingInOrder : List Edit :=
  [⟨0, 1, "left".toList, .comment⟩, ⟨1, 3, [], .identifier⟩, ⟨3, 3, "!".toList, .identifier⟩,
    ⟨4, 4, "\n".toList, .comment⟩]

theorem enumerates_touchingInOrder : Edit.Enumerates touchingInOrder touchingEdits where
  ascending := by decide
  mem_iff x := by
    simp only [touchingInOrder, touchingEdits, List.map_cons, List.map_nil, List.mem_cons]
    tauto

theorem exists_applyEdits_touchingEdits :
    ∃ r, (applyEdits "xéy".toList touchingEdits).value = .ok r := by
  refine exists_applyEdits (by decide +kernel) ?_
  unfold Edit.Compatible
  decide +kernel

theorem applyEdits_assembles_enumeration_touching :
    ∃ r, (applyEdits "xéy".toList touchingEdits).value = .ok r ∧
      Edit.Enumerates touchingInOrder touchingEdits ∧ r.source = "left!y\n".toList := by
  obtain ⟨r, h⟩ := exists_applyEdits_touchingEdits
  have hsource := ((applyEdits_assembles_enumeration h).2 _ enumerates_touchingInOrder).2.1
  exact ⟨r, h, enumerates_touchingInOrder, hsource.trans (by decide +kernel)⟩

end Codemod
