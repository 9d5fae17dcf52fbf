import Codemod.Transform
import Mathlib.Data.List.Basic

/-!
# What a plan of edits holds

A provider may report comments that are no part of the source, and nothing is then said about the
file.  For all others the plan of a renaming is known in full: the edits of the identifiers, and then
those of the comments, each in the order reported.

## Main definitions

* `Syntax.Tree.CommentsIn`, `Syntax.Provider.Sound` — all comments are parts of the source.
* `plannedEdits` — the edits of a tree.

## Main results

* `renameEdits_value` — the plan is `plannedEdits`.
* `rename_value` — a renaming applies its plan.
* `rename_eq_badComment_iff` — when a renaming breaks off.
* `transform_ne_badComment` — a sound provider never breaks its promise.
-/

namespace Codemod

open Syntax

namespace Syntax

/-- `tree.CommentsIn source` says that all comments of `tree` are parts of `source`. -/
def Tree.CommentsIn (tree : Tree) (source : List Char) : Prop :=
  ∀ c ∈ tree.comments, (c.text? source).isSome

/-- `provider.Sound` says that all comments that `provider` reports are parts of the source. -/
def Provider.Sound (provider : Provider) : Prop :=
  ∀ path source tree, provider path source = .ok tree → tree.CommentsIn source

end Syntax

/-! ### Edits of comments -/

/-- The edit of a comment that is a part of the source. -/
def commentEdit? (rules : List Rule) (source : List Char) (c : CommentSpan) : Option Edit :=
  (commentEdit rules source c).join

theorem commentEdit?_eq_some_iff {rules : List Rule} {source : List Char} {c : CommentSpan}
    {e : Edit} :
    commentEdit? rules source c = some e ↔
      ∃ text, c.text? source = some text ∧ renameText rules text ≠ text ∧
        e = ⟨c.start, c.stop, renameText rules text, .comment⟩ := by
  rw [commentEdit?, commentEdit]
  cases c.text? source with
  | none => simp
  | some text => simp [eq_comm]

theorem commentEditsOf_eq {rules : List Rule} {source : List Char} :
    ∀ {cs : List CommentSpan}, (∀ c ∈ cs, (c.text? source).isSome) →
      commentEditsOf rules source cs = some (cs.filterMap (commentEdit? rules source)) := by
  intro cs
  induction cs with
  | nil => intro _; rfl
  | cons c cs ih =>
    intro h
    obtain ⟨text, htext⟩ := Option.isSome_iff_exists.1 (h c List.mem_cons_self)
    have hc : commentEdit rules source c = some (commentEdit? rules source c) := by
      rw [commentEdit?, commentEdit, htext]
      rfl
    have hcs := ih fun d hd => h d (List.mem_cons_of_mem _ hd)
    rw [commentEditsOf, hc, hcs, List.filterMap_cons]
    cases commentEdit? rules source c <;> rfl

theorem commentEditsOf_eq_none {rules : List Rule} {source : List Char} :
    ∀ {cs : List CommentSpan}, (∃ c ∈ cs, c.text? source = none) →
      commentEditsOf rules source cs = none := by
  intro cs
  induction cs with
  | nil => simp
  | cons c cs ih =>
    intro h
    rw [commentEditsOf]
    cases htext : c.text? source with
    | none => simp [commentEdit, htext]
    | some text =>
      have hrest : ∃ d ∈ cs, d.text? source = none := by
        simpa [htext] using h
      rw [ih hrest]
      cases commentEdit rules source c <;> rfl

/-! ### Batches that rename nothing -/

theorem newName?_of_identifierRules_eq_nil {rules : List Rule} (h : identifierRules rules = [])
    (name : List Char) : newName? rules name = none := by
  rw [newName?, Option.map_eq_none_iff, List.find?_eq_none]
  intro r hr hname
  have hnot := List.filter_eq_nil_iff.1 h r hr
  rw [of_decide_eq_true hname] at hnot
  exact hnot rfl

theorem renameText_of_identifierRules_eq_nil {rules : List Rule} (h : identifierRules rules = [])
    (text : List Char) : renameText rules text = text := by
  rw [renameText, h, List.foldl_nil]

/-! ### The plan -/

/-- The edits of a tree: those of its identifiers, then those of its comments. -/
def plannedEdits (rules : List Rule) (source : List Char) (tree : Tree) : List Edit :=
  identifierEdits rules source tree.identifiers ++
    tree.comments.filterMap (commentEdit? rules source)

theorem plannedEdits_of_identifierRules_eq_nil {rules : List Rule}
    (h : identifierRules rules = []) (source : List Char) (tree : Tree) :
    plannedEdits rules source tree = [] := by
  have hids : identifierEdits rules source tree.identifiers = [] := by
    refine List.filterMap_eq_nil_iff.2 fun i _ => ?_
    rw [identifierEdit?, newName?_of_identifierRules_eq_nil h]
  have hcs : tree.comments.filterMap (commentEdit? rules source) = [] := by
    refine List.filterMap_eq_nil_iff.2 fun c _ => ?_
    rw [commentEdit?, commentEdit]
    cases c.text? source with
    | none => rfl
    | some text =>
      rw [Option.map_some, renameText_of_identifierRules_eq_nil h, if_pos rfl]
      rfl
  rw [plannedEdits, hids, hcs, List.append_nil]

/-- The plan of a source that is parsed into a tree with all comments in the source. -/
theorem renameEdits_value {provider : Provider} {path : String} {source : List Char} {tree : Tree}
    (rules : List Rule) (hparse : provider path source = .ok tree)
    (hcs : tree.CommentsIn source) :
    (renameEdits provider path source rules).value = .ok (plannedEdits rules source tree) := by
  rw [renameEdits]
  by_cases h : identifierRules rules = []
  · rw [if_pos (by simp [h]), plannedEdits_of_identifierRules_eq_nil h]
    rfl
  · have hne : ¬(identifierRules rules).isEmpty = true := by simpa using h
    rw [if_neg hne, hparse]
    simp only [commentEdits, if_neg hne, commentEditsOf_eq hcs]
    rfl

theorem applyEdits_nil (source : List Char) :
    (applyEdits source []).value = .ok ⟨source, [], statisticsOf source 0 []⟩ := by
  have h : (dedupInto [] []).value = .ok [] := rfl
  rw [applyEdits, firstInvalid?, List.find?_nil]
  simp only [Logged.value_andThen_of_ok _ h, List.mergeSort_nil]
  rfl

/-- The edits of a plan are applied; a plan without edits needs no exception. -/
theorem rename_value {provider : Provider} {path : String} {source : List Char}
    {rules : List Rule} {edits : List Edit}
    (h : (renameEdits provider path source rules).value = .ok edits) :
    (rename provider path source rules).value =
      ((applyEdits source edits).value.map EditResult.source).mapError RenameError.edit := by
  rw [rename, Logged.value_andThen_of_ok _ h]
  cases edits with
  | nil =>
    rw [if_pos (by rfl), Logged.value_pure, applyEdits_nil]
    rfl
  | cons e es =>
    rw [if_neg (by simp), Logged.value_bind]
    cases (applyEdits source (e :: es)).value <;> rfl

theorem rename_ne_badComment_of_plan {provider : Provider} {path : String} {source : List Char}
    {rules : List Rule} {edits : List Edit}
    (h : (renameEdits provider path source rules).value = .ok edits) :
    (rename provider path source rules).value ≠ .error .badComment := by
  rw [rename_value h]
  cases (applyEdits source edits).value <;> simp [Except.map, Except.mapError]

/-- A batch that renames something breaks off at a comment that is no part of the source. -/
theorem rename_eq_badComment_iff {provider : Provider} {path : String} {source : List Char}
    {tree : Tree} (rules : List Rule) (hparse : provider path source = .ok tree) :
    (rename provider path source rules).value = .error .badComment ↔
      identifierRules rules ≠ [] ∧ ∃ c ∈ tree.comments, c.text? source = none := by
  by_cases hcs : tree.CommentsIn source
  · refine iff_of_false (rename_ne_badComment_of_plan (renameEdits_value rules hparse hcs)) ?_
    rintro ⟨-, c, hc, hnone⟩
    have hsome := hcs c hc
    rw [hnone] at hsome
    cases hsome
  · have hcut : ∃ c ∈ tree.comments, c.text? source = none := by
      simpa [Tree.CommentsIn] using hcs
    rw [and_iff_left hcut]
    by_cases hrules : identifierRules rules = []
    · have hplan : (renameEdits provider path source rules).value = .ok [] := by
        rw [renameEdits, if_pos (by simp [hrules])]
        rfl
      exact iff_of_false (rename_ne_badComment_of_plan hplan) (by simp [hrules])
    · have hne : ¬(identifierRules rules).isEmpty = true := by simpa using hrules
      have hplan : (renameEdits provider path source rules).value = .error .badComment := by
        rw [renameEdits, if_neg hne, hparse]
        simp only [commentEdits, if_neg hne, commentEditsOf_eq_none hcut]
        rfl
      rw [rename, Logged.value_andThen_of_error _ hplan]
      exact iff_of_true rfl hrules

/-- Without a tree nothing is planned: there is nothing to rename, or the source is refused. -/
theorem renameEdits_value_of_error {provider : Provider} {path message : String}
    {source : List Char} (rules : List Rule) (hparse : provider path source = .error message) :
    (renameEdits provider path source rules).value = .ok [] ∨
      (renameEdits provider path source rules).value = .error (.parse path message) := by
  rw [renameEdits, hparse]
  by_cases h : (identifierRules rules).isEmpty = true
  · rw [if_pos h]
    exact Or.inl rfl
  · rw [if_neg h]
    exact Or.inr rfl

/-! ### Sound providers -/

section Sound

variable {provider : Provider} (hsound : provider.Sound)
include hsound

theorem rename_ne_badComment (path : String) (source : List Char) (rules : List Rule) :
    (rename provider path source rules).value ≠ .error .badComment := by
  cases hparse : provider path source with
  | error message =>
    rcases renameEdits_value_of_error rules hparse with h | h
    · exact rename_ne_badComment_of_plan h
    · rw [rename, Logged.value_andThen_of_error _ h]
      simp
  | ok tree =>
    exact rename_ne_badComment_of_plan (renameEdits_value rules hparse (hsound _ _ _ hparse))

theorem renameBatch_ne_badComment (path : String) (source : List Char) (batch : List Rule) :
    (renameBatch provider path source batch).value ≠ .error .badComment := by
  rw [renameBatch]
  by_cases h : batch.isEmpty = true
  · rw [if_pos h]
    simp
  · rw [if_neg h]
    exact rename_ne_badComment hsound path source batch

theorem transformCodeFrom_ne_badComment (path : String) :
    ∀ (rules : List Rule) (source : List Char) (batch : List Rule),
      (transformCodeFrom provider path source batch rules).value ≠ .error .badComment := by
  -- a batch is flushed before the rest of the rules goes on from its text
  have hflush : ∀ (source : List Char) (batch : List Rule)
      (next : List Char → Logged (Except RenameError (List Char))),
      (∀ text, (next text).value ≠ .error .badComment) →
      ((renameBatch provider path source batch).andThen next).value ≠ .error .badComment := by
    intro source batch next hnext
    cases h : (renameBatch provider path source batch).value with
    | ok text =>
      rw [Logged.value_andThen_of_ok _ h]
      exact hnext text
    | error e =>
      rw [Logged.value_andThen_of_error _ h, ← h]
      exact renameBatch_ne_badComment hsound path source batch
  intro rules
  induction rules with
  | nil => exact renameBatch_ne_badComment hsound path
  | cons r rs ih =>
    intro source batch
    rw [transformCodeFrom]
    split
    · split
      · exact hflush _ _ _ fun text => ih text [r]
      · exact ih source (batch ++ [r])
    · exact hflush _ _ _ fun text => ih (r.applyToText text) []

theorem transform_ne_badComment (path : String) (source : List Char) (rules : RulePair) :
    (transform provider path source rules).value ≠ .error .badComment := by
  rw [transform]
  cases strategyOf path rules with
  | code =>
    have hcode := transformCodeFrom_ne_badComment hsound path rules.rules source []
    rw [← transformCode] at hcode
    cases h : (transformCode provider path source rules.rules).value with
    | ok text =>
      simp only [Logged.value_andThen_of_ok _ h]
      simp
    | error e =>
      simp only [Logged.value_andThen_of_error _ h]
      rw [h] at hcode
      simpa using hcode
  | markup => simp
  | text => simp

end Sound

end Codemod
