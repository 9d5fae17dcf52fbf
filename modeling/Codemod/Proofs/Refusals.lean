import Codemod.Proofs.Balance
import Mathlib.Data.List.Pairwise

/-!
# Refused edits

Edits are refused for the first of them that has no place in the source; if all have one, for the
first that conflicts with an edit before it.  Conflicts are looked for among the edits that were
kept, and doubles are not kept; but a double overlaps the same edits as the one kept for it, so that
nothing is missed, and the edit that is found is the first of all that were given.

## Main definitions

* `Text.IsInsideChar` — an offset between the bytes of one character.
* `Edit.IsMisplaced`, `Edit.Conflicts` — why an edit and a pair of edits are refused.
* `IsFirstConflict`, `Refusal` — the error that edits are refused with.
* `Represents` — edits among which the same is found first as among others.

## Main results

* `not_isPlace_iff` — an offset that is no place lies beyond the text or inside a character.
* `dedupInto_of_represents` — what can happen to an edit, in terms of all edits before it.
* `dedupInto_eq_error_iff` — which conflict is found.
* `applyEdits_refuses_exactly` — **when edits are refused, with which error, and that their order
  does not matter.**
-/

namespace Codemod

namespace Text

/-! ### Offsets that are no places -/

variable {n : Nat} {cs : List Char}

/-- `IsInsideChar n cs` says that the offset `n` falls between the bytes of a character of `cs`. -/
def IsInsideChar (n : Nat) (cs : List Char) : Prop :=
  ∃ a c b, a ++ c :: b = cs ∧ blen a < n ∧ n < blen a + c.utf8Size

theorem IsPlace.not_isInsideChar (h : IsPlace n cs) : ¬ IsInsideChar n cs := by
  rintro ⟨a, c, b, hcs, hlt, hgt⟩
  obtain ⟨p, q, hpq, rfl⟩ := h
  obtain ⟨m, rfl, hm⟩ := exists_append_of_blen_le (hcs.trans hpq.symm) hlt.le
  cases m with
  | nil => simp at hlt
  | cons d m =>
    obtain ⟨rfl, -⟩ := List.cons.inj hm
    simp only [blen_append, blen_cons] at hgt
    omega

theorem IsPlace.cons (c : Char) (h : IsPlace n cs) : IsPlace (c.utf8Size + n) (c :: cs) := by
  obtain ⟨a, b, rfl, rfl⟩ := h
  exact ⟨c :: a, b, rfl, rfl⟩

theorem IsInsideChar.cons (c : Char) (h : IsInsideChar n cs) :
    IsInsideChar (c.utf8Size + n) (c :: cs) := by
  obtain ⟨a, d, b, rfl, hlt, hgt⟩ := h
  exact ⟨c :: a, d, b, rfl, by rw [blen_cons]; omega, by rw [blen_cons]; omega⟩

theorem isPlace_or_isInsideChar (hle : n ≤ blen cs) : IsPlace n cs ∨ IsInsideChar n cs := by
  induction cs generalizing n with
  | nil => exact Or.inl ⟨[], [], rfl, by simp at hle; simp [hle]⟩
  | cons c cs ih =>
    rcases Nat.lt_or_ge n c.utf8Size with hlt | hge
    · rcases Nat.eq_zero_or_pos n with rfl | hpos
      · exact Or.inl ⟨[], c :: cs, rfl, rfl⟩
      · exact Or.inr ⟨[], c, cs, rfl, by simpa using hpos, by simpa using hlt⟩
    · obtain ⟨m, rfl⟩ := Nat.exists_eq_add_of_le hge
      rw [blen_cons] at hle
      exact (ih (by omega)).imp (IsPlace.cons c) (IsInsideChar.cons c)

/-- An offset that is no place lies beyond the text or inside a character. -/
theorem not_isPlace_iff : ¬ IsPlace n cs ↔ blen cs < n ∨ IsInsideChar n cs := by
  constructor
  · intro h
    rcases Nat.lt_or_ge (blen cs) n with hlt | hge
    · exact Or.inl hlt
    · exact Or.inr ((isPlace_or_isInsideChar hge).resolve_left h)
  · rintro (hlt | hinside) h
    · exact absurd h.le (by omega)
    · exact h.not_isInsideChar hinside

end Text

open Text

namespace Edit

/-! ### Why edits are refused -/

/-- `e.IsMisplaced source` says that `e` has no place in `source`: its offsets come in the wrong
order, pass the end or fall inside a character. -/
def IsMisplaced (e : Edit) (source : List Char) : Prop :=
  e.stop < e.start ∨ blen source < e.stop ∨ IsInsideChar e.start source ∨
    IsInsideChar e.stop source

theorem isMisplaced_iff {e : Edit} {source : List Char} :
    e.IsMisplaced source ↔ ¬ e.isValid source = true := by
  rw [isValid, slice?_isSome_iff, not_and_or, not_and_or, not_isPlace_iff, not_isPlace_iff,
    IsMisplaced]
  constructor
  · rintro (hlt | hend | hstart | hstop)
    · exact Or.inl (by omega)
    · exact Or.inr (Or.inr (Or.inl hend))
    · exact Or.inr (Or.inl (Or.inr hstart))
    · exact Or.inr (Or.inr (Or.inr hstop))
  · rintro (hlt | (hend | hstart) | (hend | hstop))
    · exact Or.inl (by omega)
    · -- a start beyond the end comes after the stop, or the stop is beyond the end too
      rcases Nat.lt_or_ge e.stop e.start with hlt | hge
      · exact Or.inl hlt
      · exact Or.inr (Or.inl (by omega))
    · exact Or.inr (Or.inr (Or.inl hstart))
    · exact Or.inr (Or.inl hend)
    · exact Or.inr (Or.inr (Or.inr hstop))

/-- `a.Conflicts b` says that the edits `a` and `b` touch the same text and differ. -/
def Conflicts (a b : Edit) : Prop := a.overlaps b = true ∧ a.sameEffect b = false

theorem not_conflicts_iff {a b : Edit} : ¬ a.Conflicts b ↔ a.Compatible b := by
  rw [Conflicts, Compatible, not_and_or, Bool.not_eq_true, Bool.not_eq_false, or_comm]

theorem sameEffect_comm (a b : Edit) : a.sameEffect b = b.sameEffect a := by
  rw [Bool.eq_iff_iff, sameEffect_iff_effect_eq, sameEffect_iff_effect_eq, eq_comm]

/-- Edits with the same effect overlap the same edits. -/
theorem overlaps_congr {a b : Edit} (h : a.sameEffect b = true) (e : Edit) :
    a.overlaps e = b.overlaps e := by
  obtain ⟨hstart, hstop, -⟩ := sameEffect_iff.1 h
  rw [overlaps, overlaps, hstart, hstop]

theorem sameEffect_congr {a b : Edit} (h : a.sameEffect b = true) (e : Edit) :
    a.sameEffect e = b.sameEffect e := by
  obtain ⟨hstart, hstop, htext⟩ := sameEffect_iff.1 h
  rw [sameEffect, sameEffect, hstart, hstop, htext]

theorem Conflicts.symm {a b : Edit} (h : a.Conflicts b) : b.Conflicts a :=
  ⟨by rw [overlaps_comm, h.1], by rw [sameEffect_comm, h.2]⟩

theorem conflicts_congr {a b : Edit} (h : a.sameEffect b = true) (e : Edit) :
    e.Conflicts a ↔ e.Conflicts b := by
  rw [Conflicts, Conflicts, overlaps_comm e a, overlaps_comm e b, sameEffect_comm e a,
    sameEffect_comm e b, overlaps_congr h, sameEffect_congr h]

theorem not_conflicts_self (a : Edit) : ¬ a.Conflicts a := by
  rintro ⟨-, hne⟩
  rw [sameEffect_iff_effect_eq.2 rfl] at hne
  cases hne

/-- Among edits of which none conflicts with one before it, no two conflict. -/
theorem forall_not_conflicts {es : List Edit} (h : es.Pairwise fun a b => ¬ a.Conflicts b) :
    ∀ a ∈ es, ∀ b ∈ es, ¬ a.Conflicts b := by
  have : Std.Symm fun a b : Edit => ¬ a.Conflicts b := ⟨fun _ _ hab hba => hab hba.symm⟩
  exact List.Pairwise.forall_of_forall (fun a _ => a.not_conflicts_self) h

/-- Edits in order do not conflict. -/
theorem InOrder.forall_not_conflicts {es : List Edit} (h : InOrder es) :
    ∀ a ∈ es, ∀ b ∈ es, ¬ a.Conflicts b := by
  refine Edit.forall_not_conflicts (h.imp ?_)
  rintro a b ⟨hlt, hle⟩ ⟨hover, -⟩
  simp only [overlaps, Bool.or_eq_true, Bool.and_eq_true, decide_eq_true_eq] at hover
  omega

end Edit

/-- `IsFirstConflict before first second` says that `second` is in conflict with one of the edits
`before`, of which no two conflict, and that `first` is the first of them that it overlaps. -/
def IsFirstConflict (before : List Edit) (first second : Edit) : Prop :=
  (before.Pairwise fun a b => ¬ a.Conflicts b) ∧ (∃ a ∈ before, a.Conflicts second) ∧
    before.find? (·.overlaps second) = some first

/-- `Refusal source edits e` says that `e` is the error that `edits` of `source` are refused
with. -/
inductive Refusal (source : List Char) (edits : List Edit) : EditError → Prop
  /-- The first edit that has no place in the source. -/
  | misplaced {before after : List Edit} {e : Edit} :
      edits = before ++ e :: after → (∀ a ∈ before, ¬ a.IsMisplaced source) →
        e.IsMisplaced source → Refusal source edits (.outOfBounds e.start e.stop (blen source))
  /-- The first edit that conflicts with one before it, if all have a place in the source. -/
  | conflict {before after : List Edit} {first second : Edit} :
      (∀ e ∈ edits, ¬ e.IsMisplaced source) → edits = before ++ second :: after →
        IsFirstConflict before first second → Refusal source edits (.conflict first second)

/-! ### The edits that are kept -/

/-- `Represents kept seen` says that the same is found first among the edits `kept` as among those
`seen`, whatever effect is looked for. -/
def Represents (kept seen : List Edit) : Prop :=
  ∀ p : Edit → Bool, (∀ a b, a.sameEffect b = true → p a = p b) → kept.find? p = seen.find? p

namespace Represents

variable {kept seen : List Edit} {e : Edit}

theorem find?_overlaps (h : Represents kept seen) (e : Edit) :
    kept.find? (·.overlaps e) = seen.find? (·.overlaps e) :=
  h _ fun _ _ hsame => Edit.overlaps_congr hsame e

theorem exists_sameEffect_iff (h : Represents kept seen) (e : Edit) :
    (∃ k ∈ kept, k.sameEffect e = true) ↔ ∃ k ∈ seen, k.sameEffect e = true := by
  have hfind := h (·.sameEffect e) fun _ _ hsame => Edit.sameEffect_congr hsame e
  rw [← List.find?_isSome, ← List.find?_isSome, hfind]

/-- A double need not be kept. -/
theorem append_double (h : Represents kept seen) (hdouble : ∃ k ∈ kept, k.sameEffect e = true) :
    Represents kept (seen ++ [e]) := by
  intro p hp
  rw [List.find?_append, ← h p hp]
  cases hfind : kept.find? p with
  | some k => rfl
  | none =>
    -- what is not found among the edits kept is not found at their double
    obtain ⟨k, hk, hsame⟩ := hdouble
    have hpe : ¬ p e = true := hp k e hsame ▸ List.find?_eq_none.1 hfind k hk
    simp [hpe]

theorem append (h : Represents kept seen) (e : Edit) :
    Represents (kept ++ [e]) (seen ++ [e]) := by
  intro p hp
  rw [List.find?_append, List.find?_append, h p hp]

end Represents

/-- What can happen to an edit after edits that do not conflict: it conflicts with one of them and
is refused for the first that it overlaps, or it conflicts with none. -/
theorem dedupInto_of_represents {kept seen : List Edit} (hrep : Represents kept seen)
    (hseen : seen.Pairwise fun a b => ¬ a.Conflicts b) (e : Edit) (es : List Edit) :
    (∃ k, seen.find? (·.overlaps e) = some k ∧ (∃ a ∈ seen, a.Conflicts e) ∧
        (dedupInto kept (e :: es)).value = .error (.conflict k e)) ∨
      ∃ kept', Represents kept' (seen ++ [e]) ∧ (∀ a ∈ seen, ¬ a.Conflicts e) ∧
        (dedupInto kept (e :: es)).value = (dedupInto kept' es).value := by
  rcases dedupInto_cons kept e es with ⟨k, hk, hsame, h⟩ | ⟨k, hfind, hne, h⟩ | ⟨hfree, h⟩
  · refine Or.inr ⟨kept, hrep.append_double ⟨k, hk, hsame⟩, fun a ha hconflict => ?_, h⟩
    -- what conflicts with the double conflicts with the edit seen before
    obtain ⟨l, hl, hlsame⟩ := (hrep.exists_sameEffect_iff e).1 ⟨k, hk, hsame⟩
    exact Edit.forall_not_conflicts hseen a ha l hl ((Edit.conflicts_congr hlsame a).2 hconflict)
  · rw [hrep.find?_overlaps] at hfind
    have hk := List.mem_of_find?_eq_some hfind
    have hover := List.find?_some (p := fun k : Edit => k.overlaps e) hfind
    have hapart : k.sameEffect e = false := by
      rw [← Bool.not_eq_true]
      intro hsame
      obtain ⟨l, hl, hlsame⟩ := (hrep.exists_sameEffect_iff e).2 ⟨k, hk, hsame⟩
      rw [hne l hl] at hlsame
      cases hlsame
    exact Or.inl ⟨k, hfind, ⟨k, hk, hover, hapart⟩, h⟩
  · have hnone : seen.find? (·.overlaps e) = none := by
      rw [← hrep.find?_overlaps, List.find?_eq_none]
      exact fun k hk => by simp [hfree k hk]
    exact Or.inr ⟨kept ++ [e], hrep.append e,
      fun a ha hconflict => List.find?_eq_none.1 hnone a ha hconflict.1, h⟩

/-- A list is split before its first element or before one of the others. -/
theorem exists_cons_eq_append_cons_iff {α : Type} {a : α} {l : List α} {p : List α → α → Prop} :
    (∃ before b after, a :: l = before ++ b :: after ∧ p before b) ↔
      p [] a ∨ ∃ before b after, l = before ++ b :: after ∧ p (a :: before) b := by
  constructor
  · rintro ⟨before, b, after, heq, hp⟩
    cases before with
    | nil =>
      obtain ⟨rfl, -⟩ := List.cons.inj heq
      exact Or.inl hp
    | cons d before =>
      obtain ⟨rfl, rfl⟩ := List.cons.inj heq
      exact Or.inr ⟨before, b, after, rfl, hp⟩
  · rintro (hp | ⟨before, b, after, rfl, hp⟩)
    · exact ⟨[], a, l, rfl, hp⟩
    · exact ⟨a :: before, b, after, rfl, hp⟩

/-- The error is the first conflict among the edits that were seen and those to come. -/
theorem dedupInto_eq_error_iff :
    ∀ {es kept seen : List Edit}, Represents kept seen →
      (seen.Pairwise fun a b => ¬ a.Conflicts b) → ∀ {err : EditError},
      (dedupInto kept es).value = .error err ↔
        ∃ before second after, es = before ++ second :: after ∧ ∃ first,
          IsFirstConflict (seen ++ before) first second ∧ err = .conflict first second := by
  intro es
  induction es with
  | nil =>
    intro kept seen _ _ err
    constructor
    · intro h
      cases h
    · rintro ⟨before, second, after, hes, -⟩
      simp at hes
  | cons e es ih =>
    intro kept seen hrep hseen err
    rw [exists_cons_eq_append_cons_iff, List.append_nil]
    rcases dedupInto_of_represents hrep hseen e es with
      ⟨k, hfind, hconflict, h⟩ | ⟨kept', hrep', hfree, h⟩
    · rw [h]
      constructor
      · intro herr
        exact Or.inl ⟨k, ⟨hseen, hconflict, hfind⟩, (Except.error.inj herr).symm⟩
      · rintro (⟨first, ⟨-, -, hfirst⟩, rfl⟩ | ⟨before, second, after, -, first, ⟨hpair, -⟩, -⟩)
        · rw [Option.some.inj (hfind.symm.trans hfirst)]
        · -- after the conflict the edits seen are no longer free of conflicts
          obtain ⟨a, ha, hae⟩ := hconflict
          have hapart := (List.pairwise_append.1 hpair).2.2 a ha e List.mem_cons_self
          exact absurd hae hapart
    · have hseen' : (seen ++ [e]).Pairwise fun a b => ¬ a.Conflicts b :=
        List.pairwise_append.2 ⟨hseen, List.pairwise_singleton _ e, fun a ha b hb =>
          List.mem_singleton.1 hb ▸ hfree a ha⟩
      rw [h, ih hrep' hseen', or_iff_right]
      · simp only [List.append_assoc, List.singleton_append]
      · rintro ⟨first, ⟨-, ⟨a, ha, hae⟩, -⟩, -⟩
        exact hfree a ha hae

/-! ### Whole applications -/

theorem firstInvalid?_eq_some_iff {source : List Char} {edits : List Edit} {e : Edit} :
    firstInvalid? source edits = some e ↔
      ∃ before after, edits = before ++ e :: after ∧ (∀ a ∈ before, ¬ a.IsMisplaced source) ∧
        e.IsMisplaced source := by
  rw [firstInvalid?, List.find?_eq_some_iff_append]
  simp only [Edit.isMisplaced_iff, not_not, Bool.not_not, Bool.not_eq_true', Bool.eq_false_iff,
    ne_eq]
  constructor
  · rintro ⟨he, before, after, hedits, hbefore⟩
    exact ⟨before, after, hedits, hbefore, he⟩
  · rintro ⟨before, after, hedits, hbefore, he⟩
    exact ⟨he, before, after, hedits, hbefore⟩

theorem forall_isValid_iff {source : List Char} {edits : List Edit} :
    (∀ e ∈ edits, e.isValid source = true) ↔ ∀ e ∈ edits, ¬ e.IsMisplaced source := by
  simp only [Edit.isMisplaced_iff, not_not]

/-- Edits are refused with the error of their refusal. -/
theorem applyEdits_eq_error_iff {source : List Char} {edits : List Edit} {err : EditError} :
    (applyEdits source edits).value = .error err ↔ Refusal source edits err := by
  cases hfirst : firstInvalid? source edits with
  | some e =>
    have hvalue : (applyEdits source edits).value =
        .error (.outOfBounds e.start e.stop (blen source)) := by rw [applyEdits, hfirst]; rfl
    rw [hvalue]
    constructor
    · intro h
      obtain rfl := Except.error.inj h
      obtain ⟨before, after, hedits, hbefore, he⟩ := firstInvalid?_eq_some_iff.1 hfirst
      exact .misplaced hedits hbefore he
    · rintro (⟨hedits, hbefore, he⟩ | ⟨hvalid, -, -⟩)
      · have hfirst' := firstInvalid?_eq_some_iff.2 ⟨_, _, hedits, hbefore, he⟩
        rw [Option.some.inj (hfirst.symm.trans hfirst')]
      · rw [firstInvalid?_eq_none_iff.2 (forall_isValid_iff.2 hvalid)] at hfirst
        cases hfirst
  | none =>
    have hvalid := firstInvalid?_eq_none_iff.1 hfirst
    have hempty : Represents [] [] := fun _ _ => rfl
    have hvalue : (applyEdits source edits).value = .error err ↔
        (dedupInto [] edits).value = .error err := by
      rw [applyEdits_value_of_valid hvalid]
      cases (dedupInto [] edits).value <;> simp [Except.map]
    rw [hvalue, dedupInto_eq_error_iff hempty List.Pairwise.nil]
    constructor
    · rintro ⟨before, second, after, hedits, first, hfirst, rfl⟩
      exact .conflict (forall_isValid_iff.1 hvalid) hedits hfirst
    · rintro (⟨hedits, hbefore, he⟩ | ⟨-, hedits, hfirst⟩)
      · rw [firstInvalid?_eq_some_iff.2 ⟨_, _, hedits, hbefore, he⟩] at hfirst
        cases hfirst
      · exact ⟨_, _, _, hedits, _, hfirst, rfl⟩

/-- Edits are applied if each has a place in the source and no two conflict. -/
theorem exists_applyEdits_eq_ok_iff {source : List Char} {edits : List Edit} :
    (∃ r, (applyEdits source edits).value = .ok r) ↔
      (∀ e ∈ edits, ¬ e.IsMisplaced source) ∧ ∀ a ∈ edits, ∀ b ∈ edits, ¬ a.Conflicts b := by
  constructor
  · rintro ⟨r, h⟩
    refine ⟨forall_isValid_iff.1 (isValid_of_applyEdits h), fun a ha b hb hconflict => ?_⟩
    -- the edits made in their place would conflict, too
    obtain ⟨horder, -, hmade, -⟩ := applyEdits_ok (isValid_of_applyEdits h) h
    obtain ⟨k, hk, hka⟩ := hmade a ha
    obtain ⟨l, hl, hlb⟩ := hmade b hb
    have hal : a.Conflicts l := (Edit.conflicts_congr hlb a).2 hconflict
    have hlk : l.Conflicts k := (Edit.conflicts_congr hka l).2 hal.symm
    exact horder.forall_not_conflicts l (List.mem_reverse.2 hl) k (List.mem_reverse.2 hk) hlk
  · rintro ⟨hplaced, hfree⟩
    exact exists_applyEdits (forall_isValid_iff.2 hplaced) fun a ha b hb =>
      Edit.not_conflicts_iff.1 (hfree a ha b hb)

/-- Edits in another order, if they are applied, make the same source with the same statistics. -/
theorem applyEdits_perm {source : List Char} {edits edits' : List Edit} {r r' : EditResult}
    (hperm : edits'.Perm edits) (h : (applyEdits source edits).value = .ok r)
    (h' : (applyEdits source edits').value = .ok r') :
    r'.source = r.source ∧ r'.statistics = r.statistics := by
  have hes := enumerates_applied h
  have hes' := (enumerates_applied h').of_perm hperm
  have heffect : r'.applied.map Edit.effect = r.applied.map Edit.effect := by
    simpa [List.map_reverse] using hes'.map_effect_eq hes
  refine ⟨?_, ?_⟩
  · rw [source_eq_assembleFrom h hes', source_eq_assembleFrom h' (enumerates_applied h')]
  · rw [statistics_of_applyEdits h, statistics_of_applyEdits h', hperm.length_eq,
      statisticsOf_congr source edits.length heffect]

/-- Edits are refused as out of bounds if one of them has no place in the source. -/
theorem exists_outOfBounds_iff {source : List Char} {edits : List Edit} :
    (∃ start stop length,
        (applyEdits source edits).value = .error (.outOfBounds start stop length)) ↔
      ∃ e ∈ edits, e.IsMisplaced source := by
  constructor
  · rintro ⟨start, stop, length, h⟩
    cases applyEdits_eq_error_iff.1 h with
    | misplaced hedits _ he => exact ⟨_, by simp [hedits], he⟩
  · rintro ⟨e, he, hmisplaced⟩
    cases hvalue : (applyEdits source edits).value with
    | ok r => exact absurd hmisplaced ((exists_applyEdits_eq_ok_iff.1 ⟨r, hvalue⟩).1 e he)
    | error err =>
      cases applyEdits_eq_error_iff.1 hvalue with
      | misplaced => exact ⟨_, _, _, rfl⟩
      | conflict hplaced => exact absurd hmisplaced (hplaced e he)

/-- Edits that all have a place are refused if two of them conflict. -/
theorem exists_conflict_iff {source : List Char} {edits : List Edit} :
    (∃ first second, (applyEdits source edits).value = .error (.conflict first second)) ↔
      (∀ e ∈ edits, ¬ e.IsMisplaced source) ∧ ∃ a ∈ edits, ∃ b ∈ edits, a.Conflicts b := by
  constructor
  · rintro ⟨first, second, h⟩
    cases applyEdits_eq_error_iff.1 h with
    | conflict hplaced hedits hfirst =>
      obtain ⟨-, ⟨a, ha, hab⟩, -⟩ := hfirst
      exact ⟨hplaced, a, by simp [hedits, ha], second, by simp [hedits], hab⟩
  · rintro ⟨hplaced, a, ha, b, hb, hab⟩
    cases hvalue : (applyEdits source edits).value with
    | ok r => exact absurd hab ((exists_applyEdits_eq_ok_iff.1 ⟨r, hvalue⟩).2 a ha b hb)
    | error err =>
      cases applyEdits_eq_error_iff.1 hvalue with
      | @misplaced _ _ e hedits _ he => exact absurd he (hplaced e (by simp [hedits]))
      | conflict => exact ⟨_, _, rfl⟩

/-- Edits in another order are refused or applied alike, and what they make is the same. -/
theorem applyEdits_toOption_perm (source : List Char) {edits edits' : List Edit}
    (hperm : edits'.Perm edits) :
    ((applyEdits source edits').value.toOption.map fun r => (r.source, r.statistics)) =
      (applyEdits source edits).value.toOption.map fun r => (r.source, r.statistics) := by
  have hok : (∃ r, (applyEdits source edits').value = .ok r) ↔
      ∃ r, (applyEdits source edits).value = .ok r := by
    simp only [exists_applyEdits_eq_ok_iff, hperm.mem_iff]
  cases hvalue : (applyEdits source edits).value with
  | ok r =>
    obtain ⟨r', hvalue'⟩ := hok.2 ⟨r, hvalue⟩
    obtain ⟨hsource, hstatistics⟩ := applyEdits_perm hperm hvalue hvalue'
    rw [hvalue']
    simp [Except.toOption, hsource, hstatistics]
  | error err =>
    cases hvalue' : (applyEdits source edits').value with
    | ok r' =>
      obtain ⟨r, hr⟩ := hok.1 ⟨r', hvalue'⟩
      rw [hvalue] at hr
      cases hr
    | error err' => rfl

/-- **When edits are refused, with which error, and that their order does not matter.**  Edits are
refused as out of bounds if one of them has no place in the source, and the first such edit is
named; otherwise they are refused for a conflict if two of them conflict, and the first edit that
conflicts with one before it is named with the first edit that it overlaps; otherwise they are
applied.  In another order the same edits are refused or applied alike, and what they make is the
same. -/
theorem applyEdits_refuses_exactly (source : List Char) (edits : List Edit) :
    (∀ err, (applyEdits source edits).value = .error err ↔ Refusal source edits err) ∧
      ((∃ start stop length,
          (applyEdits source edits).value = .error (.outOfBounds start stop length)) ↔
        ∃ e ∈ edits, e.IsMisplaced source) ∧
      ((∃ first second, (applyEdits source edits).value = .error (.conflict first second)) ↔
        (∀ e ∈ edits, ¬ e.IsMisplaced source) ∧ ∃ a ∈ edits, ∃ b ∈ edits, a.Conflicts b) ∧
      ((∃ r, (applyEdits source edits).value = .ok r) ↔
        (∀ e ∈ edits, ¬ e.IsMisplaced source) ∧ ∀ a ∈ edits, ∀ b ∈ edits, ¬ a.Conflicts b) ∧
      ∀ edits' : List Edit, edits'.Perm edits →
        ((applyEdits source edits').value.toOption.map fun r => (r.source, r.statistics)) =
          (applyEdits source edits).value.toOption.map fun r => (r.source, r.statistics) :=
  ⟨fun _ => applyEdits_eq_error_iff, exists_outOfBounds_iff, exists_conflict_iff,
    exists_applyEdits_eq_ok_iff, fun _ hperm => applyEdits_toOption_perm source hperm⟩

/-- A double, which is not kept, and an edit that conflicts with it. -/
def hiddenConflict : List Edit :=
  [⟨0, 2, "x".toList, .comment⟩, ⟨0, 2, "x".toList, .identifier⟩, ⟨1, 3, "y".toList, .identifier⟩]

/-- The conflict is named with the edit that is kept for the double.  An edit out of bounds is named
in its place, although it comes later. -/
theorem applyEdits_refuses_exactly_hidden :
    Refusal "abcd".toList hiddenConflict
        (.conflict ⟨0, 2, "x".toList, .comment⟩ ⟨1, 3, "y".toList, .identifier⟩) ∧
      Refusal "abcd".toList (hiddenConflict ++ [⟨4, 5, [], .comment⟩]) (.outOfBounds 4 5 4) :=
  ⟨((applyEdits_refuses_exactly _ _).1 _).1 (by decide +kernel),
    ((applyEdits_refuses_exactly _ _).1 _).1 (by decide +kernel)⟩

end Codemod
