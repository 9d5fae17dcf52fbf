import Codemod.Transform
import Mathlib.Data.List.Basic

/-!
# Rules that are barriers

Renamings wait for each other in a batch, and the batch is made at three places: before a renaming
that speaks of one of its names, before a rule of another kind, and at the end.  A rule of another
kind is therefore a barrier: what is done to code falls apart in front of it and behind it, whatever
the provider of the syntax makes of the texts in between, and where it fails nothing more is done.

## Main definitions

* `IsBarrier` — a barrier between two lists of rules.

## Main results

* `transformCodeFrom_append_cons` — at a barrier the batch that waits is made, and none waits behind.
* `transformCode_falls_apart_at_barriers` — **code after rules falls apart at barriers, and rules
  without renamings need no syntax.**
-/

namespace Codemod

open Syntax

/-- `IsBarrier xs ys` says that there is a barrier between the rules `xs` and `ys`: a rule that
renames no identifier stands at the end of `xs` or at the start of `ys`, or nothing comes before. -/
def IsBarrier (xs ys : List Rule) : Prop :=
  xs = [] ∨ (∃ r ∈ xs.getLast?, r.kind ≠ .identifier) ∨ ∃ r ∈ ys.head?, r.kind ≠ .identifier

section Barrier

variable (provider : Provider) (path : String) {r : Rule}

/-- At a barrier the batch that waits is made, and none waits behind it. -/
theorem transformCodeFrom_append_cons (hr : r.kind ≠ .identifier) (ys : List Rule) :
    ∀ (xs : List Rule) (source : List Char) (batch : List Rule),
      transformCodeFrom provider path source batch (xs ++ r :: ys) =
        (transformCodeFrom provider path source batch xs).andThen fun text =>
          transformCode provider path (r.applyToText text) ys := by
  intro xs
  induction xs with
  | nil =>
    intro source batch
    have hnone : ¬ r.identifier?.isSome = true := mt Rule.isSome_identifier?_iff.1 hr
    simp only [List.nil_append, transformCodeFrom, if_neg hnone]
    rfl
  | cons x xs ih =>
    intro source batch
    rw [List.cons_append, transformCodeFrom, transformCodeFrom]
    by_cases hx : x.identifier?.isSome = true
    · rw [if_pos hx, if_pos hx]
      by_cases hchain : isChained batch x = true
      · -- the batch is made before the barrier is reached
        rw [if_pos hchain, if_pos hchain, Logged.andThen_assoc]
        simp only [ih]
      · rw [if_neg hchain, if_neg hchain, ih]
    · rw [if_neg hx, if_neg hx, Logged.andThen_assoc]
      simp only [ih]

theorem transformCode_append_cons (hr : r.kind ≠ .identifier) (xs ys : List Rule)
    (source : List Char) :
    transformCode provider path source (xs ++ r :: ys) =
      (transformCode provider path source xs).andThen fun text =>
        transformCode provider path (r.applyToText text) ys :=
  transformCodeFrom_append_cons provider path hr ys xs source []

theorem transformCode_nil (source : List Char) :
    transformCode provider path source [] = pure (.ok source) := rfl

theorem transformCode_cons (hr : r.kind ≠ .identifier) (ys : List Rule) (source : List Char) :
    transformCode provider path source (r :: ys) =
      transformCode provider path (r.applyToText source) ys := by
  have h := transformCode_append_cons provider path hr [] ys source
  rwa [transformCode_nil, Logged.pure_andThen] at h

theorem transformCode_append {xs ys : List Rule} (h : IsBarrier xs ys) (source : List Char) :
    transformCode provider path source (xs ++ ys) =
      (transformCode provider path source xs).andThen fun text =>
        transformCode provider path text ys := by
  rcases h with rfl | ⟨r, hr, hkind⟩ | ⟨r, hr, hkind⟩
  · rw [List.nil_append, transformCode_nil, Logged.pure_andThen]
  · obtain ⟨front, rfl⟩ := List.getLast?_eq_some_iff.1 hr
    rw [List.append_assoc, List.singleton_append, transformCode_append_cons provider path hkind,
      transformCode_append_cons provider path hkind, Logged.andThen_assoc]
    simp only [transformCode_nil, Logged.pure_andThen]
  · obtain ⟨back, rfl⟩ := List.head?_eq_some_iff.1 hr
    rw [transformCode_append_cons provider path hkind]
    simp only [transformCode_cons provider path hkind]

/-- Rules that rename no identifier are applied to the text, and nobody asks for syntax. -/
theorem transformCode_of_forall_kind_ne {rules : List Rule}
    (h : ∀ r ∈ rules, r.kind ≠ .identifier) (source : List Char) :
    transformCode provider path source rules = pure (.ok (applyAll rules source)) := by
  induction rules generalizing source with
  | nil => rfl
  | cons r rules ih =>
    rw [List.forall_mem_cons] at h
    rw [transformCode_cons provider path h.1, ih h.2]
    rfl

end Barrier

/-- **Code after rules falls apart at barriers.**  Whatever the provider makes of the texts, and
wherever it fails, the rules in front of a barrier are applied first and the rules behind it to what
they give; a failure of the former is the answer, and the events are told in this order.  Rules that
rename no identifier are applied to the text for every provider, so that it is never asked. -/
theorem transformCode_falls_apart_at_barriers (provider : Provider) (path : String)
    (source : List Char) :
    (∀ xs ys, IsBarrier xs ys →
        transformCode provider path source (xs ++ ys) =
          (transformCode provider path source xs).andThen fun text =>
            transformCode provider path text ys) ∧
      ∀ rules : List Rule, (∀ r ∈ rules, r.kind ≠ .identifier) →
        transformCode provider path source rules = pure (.ok (applyAll rules source)) :=
  ⟨fun _ _ h => transformCode_append provider path h source,
    fun _ h => transformCode_of_forall_kind_ne provider path h source⟩

/-- A syntax that finds a name at the start of a text, and fails where there is an exclamation
mark. -/
def calmSyntax : Provider := fun _ source =>
  if '!' ∈ source then .error "too loud" else .ok ⟨[⟨"a", 0⟩], []⟩

def callRules : List Rule := [.word "a".toList "b".toList]

def loudRules : List Rule := [.word ";".toList "!".toList]

/-- The rule in front of the barrier is applied, and behind it the source can no longer be parsed.
The barrier alone is applied to a text that cannot. -/
theorem transformCode_falls_apart_at_barriers_loud :
    IsBarrier callRules (loudRules ++ callRules) ∧
      (transformCode calmSyntax "a.ts" "a;".toList callRules).value = .ok "b;".toList ∧
      (transformCode calmSyntax "a.ts" "a;".toList (callRules ++ (loudRules ++ callRules))).value =
        .error (.parse "a.ts" "too loud") ∧
      (∀ r ∈ loudRules, r.kind ≠ .identifier) ∧
      (transformCode calmSyntax "a.ts" "a!;".toList loudRules).value = .ok "a!!".toList := by
  have hbarrier : IsBarrier callRules (loudRules ++ callRules) :=
    Or.inr (Or.inr ⟨.word ";".toList "!".toList, rfl, by decide⟩)
  have hloud : ∀ r ∈ loudRules, r.kind ≠ .identifier := by decide
  have hfront : (transformCode calmSyntax "a.ts" "a;".toList callRules).value =
      .ok "b;".toList := by decide +kernel
  have hback : (transformCode calmSyntax "a.ts" "b;".toList (loudRules ++ callRules)).value =
      .error (.parse "a.ts" "too loud") := by decide +kernel
  refine ⟨hbarrier, hfront, ?_, hloud, ?_⟩
  · rw [(transformCode_falls_apart_at_barriers calmSyntax "a.ts" "a;".toList).1 _ _ hbarrier,
      Logged.value_andThen_of_ok _ hfront, hback]
  · rw [(transformCode_falls_apart_at_barriers calmSyntax "a.ts" "a!;".toList).2 _ hloud]
    decide

end Codemod
