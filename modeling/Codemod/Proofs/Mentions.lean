import Codemod.Proofs.Batching

/-!
# Names in code and their mentions in comments

A batch of renamings gives an identifier in code the name that it looks up, once.  A comment that
mentions the identifier has all renamings of the batch applied to its text, one after another, so
that a later one also sees what an earlier one has brought in.  The two agree as long as it finds
nothing there.

## Main definitions

* `CodeStep`, `codeSteps` — what is done to code, in order, with the batches written out.
* `nameInCode` — what a batch makes of a name in code.
* `MentionedAlike` — a whole word of a comment becomes the same.

## Main results

* `transformCodeFrom_eq_runSteps` — the steps are what is done.
* `renameText_append` — a comment is renamed word by word.
* `mentionedAlike_iff` — **code and comments are renamed alike exactly when no new text of a batch is
  changed by the renamings after it.**
-/

namespace Codemod

open Syntax

/-! ### The batches of a list of rules -/

/-- A step of the work on code. -/
inductive CodeStep
  /-- Identifiers are renamed, all by one reading of the source. -/
  | rename (batch : List Rule)
  /-- A rule is applied to the whole text. -/
  | apply (r : Rule)

/-- The steps for rules while a batch waits. -/
def codeStepsFrom : (batch : List Rule) → List Rule → List CodeStep
  | batch, [] => [.rename batch]
  | batch, r :: rs =>
    if r.identifier?.isSome then
      if isChained batch r then .rename batch :: codeStepsFrom [r] rs
      else codeStepsFrom (batch ++ [r]) rs
    else .rename batch :: .apply r :: codeStepsFrom [] rs

/-- The steps for rules. -/
def codeSteps (rules : List Rule) : List CodeStep := codeStepsFrom [] rules

/-- Takes steps, one after another. -/
def runSteps (provider : Provider) (path : String) :
    List CodeStep → (source : List Char) → Logged (Except RenameError (List Char))
  | [], source => pure (.ok source)
  | .rename batch :: steps, source =>
    (renameBatch provider path source batch).andThen fun text => runSteps provider path steps text
  | .apply r :: steps, source => runSteps provider path steps (r.applyToText source)

/-- Code after rules is code after their steps. -/
theorem transformCodeFrom_eq_runSteps (provider : Provider) (path : String) :
    ∀ (rules : List Rule) (source : List Char) (batch : List Rule),
      transformCodeFrom provider path source batch rules =
        runSteps provider path (codeStepsFrom batch rules) source := by
  intro rules
  induction rules with
  | nil =>
    intro source batch
    simp only [transformCodeFrom, codeStepsFrom, runSteps, Logged.andThen_pure]
  | cons r rs ih =>
    intro source batch
    rw [transformCodeFrom, codeStepsFrom]
    split
    · split
      · rw [runSteps]
        simp only [ih]
      · exact ih source (batch ++ [r])
    · rw [runSteps]
      simp only [runSteps, ih]

/-- Every batch that is renamed by is one. -/
theorem isBatch_of_mem_codeStepsFrom :
    ∀ {rules batch waiting : List Rule}, IsBatch waiting →
      CodeStep.rename batch ∈ codeStepsFrom waiting rules → IsBatch batch := by
  intro rules
  induction rules with
  | nil =>
    intro batch waiting hwaiting hmem
    rw [codeStepsFrom, List.mem_singleton] at hmem
    injection hmem with heq
    exact heq ▸ hwaiting
  | cons r rs ih =>
    intro batch waiting hwaiting hmem
    rw [codeStepsFrom] at hmem
    split at hmem
    · next hr =>
      split at hmem
      · rcases List.mem_cons.1 hmem with heq | hmem
        · injection heq with heq
          exact heq ▸ hwaiting
        · exact ih (.singleton hr) hmem
      · next hchain => exact ih (hwaiting.append_singleton hr (by simpa using hchain)) hmem
    · simp only [List.mem_cons, CodeStep.rename.injEq, reduceCtorEq, false_or] at hmem
      rcases hmem with heq | hmem
      · exact heq ▸ hwaiting
      · exact ih .nil hmem

/-! ### Comments word by word -/

/-- `AreApart a b` says that `a` and `b`, side by side, share no word. -/
def AreApart (a b : List Char) : Prop :=
  a.getLast?.any isIdentifierChar = false ∨ startsWithWord b = false

theorem tokens_append {a b : List Char} (h : AreApart a b) :
    tokens (a ++ b) = tokens a ++ tokens b := by
  refine List.splitBy_append fun x hx y hy => ?_
  rw [areJoined]
  rcases h with h | h
  · rw [Option.mem_def.1 hx, Option.any_some] at h
    rw [h, Bool.false_and]
  · obtain ⟨rest, rfl⟩ := List.head?_eq_some_iff.1 hy
    rw [show isIdentifierChar y = false from h, Bool.and_false]

theorem tokens_word {w : List Char} (hw : IsWord w) : tokens w = [w] :=
  List.splitBy_of_isChain hw.1 hw.isChain

section Replace

variable {old : List Char} (new : List Char) (hold : IsWord old)
include hold

theorem replaceWords_append {a b : List Char} (h : AreApart a b) :
    replaceWords old new (a ++ b) = replaceWords old new a ++ replaceWords old new b := by
  simp only [replaceWords_eq_flatMap_tokens new hold, tokens_append h, List.flatMap_append]

theorem replaceWords_word {w : List Char} (hw : IsWord w) :
    replaceWords old new w = substitute old new w := by
  rw [replaceWords_eq_flatMap_tokens new hold, tokens_word hw, List.flatMap_singleton]

theorem replaceWords_of_notMem {text : List Char} (h : old ∉ tokens text) :
    replaceWords old new text = text := by
  have hkeep : ∀ w ∈ tokens text, substitute old new w = w := by
    intro w hw
    rw [substitute, if_neg]
    rintro rfl
    exact h hw
  rw [replaceWords_eq_flatMap_tokens new hold, List.flatMap_def, List.map_congr_left hkeep,
    List.map_id', flatten_tokens]

/-- What ends or starts between words still does. -/
theorem AreApart.replaceWords {a b : List Char} (h : AreApart a b) :
    AreApart (replaceWords old new a) (replaceWords old new b) := by
  rcases h with h | h
  · -- a character between words at the end is a token of its own, and it stays
    refine Or.inl ?_
    rcases List.eq_nil_or_concat a with rfl | ⟨x, c, rfl⟩
    · rfl
    · rw [List.concat_eq_append, List.getLast?_concat, Option.any_some] at h
      have hc : Codemod.replaceWords old new [c] = [c] :=
        replaceWordsFrom_between new hold h none []
      rw [List.concat_eq_append, replaceWords_append new hold (b := [c]) (Or.inr h), hc,
        List.getLast?_concat, Option.any_some, h]
  · refine Or.inr ?_
    cases b with
    | nil => rfl
    | cons c b =>
      rw [Codemod.replaceWords, replaceWordsFrom_between new hold h]
      exact h

end Replace

theorem renameText_cons {r : Rule} (hr : r.identifier?.isSome = true) (rs : List Rule)
    (text : List Char) :
    renameText (r :: rs) text = renameText rs (replaceWords r.old r.new text) := by
  have hrules : identifierRules (r :: rs) = r :: identifierRules rs := List.filter_cons_of_pos hr
  rw [renameText, hrules, List.foldl_cons, renameText]

theorem renameText_append_rules (rs qs : List Rule) (text : List Char) :
    renameText (rs ++ qs) text = renameText qs (renameText rs text) := by
  rw [renameText, identifierRules, List.filter_append, List.foldl_append]
  rfl

theorem isWord_old {r : Rule} (hr : r.identifier?.isSome = true) : IsWord r.old := by
  obtain ⟨old, hold⟩ := Option.isSome_iff_exists.1 hr
  obtain ⟨hid, new, rfl⟩ := Rule.identifier?_eq_some_iff.1 hold
  exact isWord_of_isIdentifier hid

section RenameText

variable {rules : List Rule} (hsome : ∀ r ∈ rules, r.identifier?.isSome = true)
include hsome

/-- Texts that share no word are renamed each by itself. -/
theorem renameText_append {a b : List Char} (h : AreApart a b) :
    renameText rules (a ++ b) = renameText rules a ++ renameText rules b := by
  induction rules generalizing a b with
  | nil => rfl
  | cons r rs ih =>
    rw [List.forall_mem_cons] at hsome
    have hold := isWord_old hsome.1
    simp only [renameText_cons hsome.1, replaceWords_append _ hold h]
    exact ih hsome.2 (h.replaceWords r.new hold)

/-- A text without the words that are renamed stays. -/
theorem renameText_of_notMem {text : List Char} (h : ∀ r ∈ rules, r.old ∉ tokens text) :
    renameText rules text = text := by
  induction rules with
  | nil => rfl
  | cons r rs ih =>
    rw [List.forall_mem_cons] at hsome h
    rw [renameText_cons hsome.1, replaceWords_of_notMem _ (isWord_old hsome.1) h.1, ih hsome.2 h.2]

end RenameText

/-- A character between words stays, and the text after it is renamed by itself. -/
theorem renameText_cons_between (rules : List Rule) {c : Char} (hc : isIdentifierChar c = false)
    (text : List Char) : renameText rules (c :: text) = c :: renameText rules text := by
  have hrules : ∀ text, renameText rules text = renameText (identifierRules rules) text := by
    intro text
    simp [renameText, identifierRules]
  have hsome : ∀ r ∈ identifierRules rules, r.identifier?.isSome = true := fun r hr =>
    (List.mem_filter.1 hr).2
  have hapart : AreApart [c] text := Or.inl (by simpa using hc)
  have halone : ∀ r ∈ identifierRules rules, r.old ∉ tokens [c] := by
    intro r hr hmem
    have htoken : tokens [c] = [[c]] := rfl
    rw [htoken, List.mem_singleton] at hmem
    exact (isWord_old (hsome r hr)).ne_singleton hc hmem
  rw [hrules, hrules text, ← List.singleton_append, renameText_append hsome hapart,
    renameText_of_notMem hsome halone]
  rfl

/-! ### Names and mentions -/

/-- What a batch makes of a name in code. -/
def nameInCode (batch : List Rule) (name : List Char) : List Char :=
  (newName? batch name).getD name

/-- `MentionedAlike batch name` says that wherever `name` stands as a whole word in a comment,
`batch` makes of it what it makes of it in code, and of the text around it what it makes of that by
itself. -/
def MentionedAlike (batch : List Rule) (name : List Char) : Prop :=
  ∀ before after, before.getLast?.any isIdentifierChar = false → startsWithWord after = false →
    renameText batch (before ++ (name ++ after)) =
      renameText batch before ++ (nameInCode batch name ++ renameText batch after)

namespace IsBatch

variable {batch : List Rule} {name : List Char}

/-- It is enough to look at the name alone. -/
theorem mentionedAlike_iff_alone (h : IsBatch batch) :
    MentionedAlike batch name ↔ renameText batch name = nameInCode batch name := by
  have hsome := h.isSome_identifier?
  constructor
  · intro halike
    have halone := halike [] [] rfl rfl
    simpa [renameText_nil] using halone
  · intro heq before after hbefore hafter
    rw [renameText_append hsome (Or.inl hbefore), renameText_append hsome (Or.inr hafter), heq]

/-- A name that the batch does not rename stays in comments. -/
theorem renameText_of_newName?_eq_none (h : IsBatch batch) (hname : IsWord name)
    (hnone : newName? batch name = none) : renameText batch name = name := by
  refine renameText_of_notMem h.isSome_identifier? fun r hr hmem => ?_
  rw [tokens_word hname, List.mem_singleton] at hmem
  rw [newName?, Option.map_eq_none_iff, List.find?_eq_none] at hnone
  obtain ⟨old, hold⟩ := Option.isSome_iff_exists.1 (h.isSome_identifier? r hr)
  obtain ⟨-, new, rfl⟩ := Rule.identifier?_eq_some_iff.1 hold
  subst hmem
  exact hnone _ hr (decide_eq_true hold)

variable {before after : List Rule} {r : Rule}

/-- No rule before one of the batch speaks of its name. -/
theorem old_ne_of_mem_before (h : IsBatch (before ++ r :: after)) : ∀ b ∈ before, b.old ≠ r.old :=
  fun b hb => ((List.pairwise_append.1 h.unchained).2.2 b hb r List.mem_cons_self).1

theorem isSome_identifier?_self (h : IsBatch (before ++ r :: after)) :
    r.identifier?.isSome = true :=
  h.isSome_identifier? r (by simp)

/-- In code a name of the batch becomes its new text. -/
theorem nameInCode_old (h : IsBatch (before ++ r :: after)) :
    nameInCode (before ++ r :: after) r.old = r.new := by
  have hbefore : newName? before r.old = none := newName?_eq_none h.old_ne_of_mem_before
  have hself : newName? (r :: after) r.old = some r.new := by
    rw [newName?_cons h.isSome_identifier?_self, if_pos rfl]
  rw [newName?, Option.map_eq_none_iff] at hbefore
  rw [newName?] at hself
  rw [nameInCode, newName?, List.find?_append, hbefore, Option.none_or, hself, Option.getD_some]

/-- In a comment the rules after its own go on with the new text. -/
theorem renameText_old (h : IsBatch (before ++ r :: after)) :
    renameText (before ++ r :: after) r.old = renameText after r.new := by
  have hr := h.isSome_identifier?_self
  have hold := isWord_old hr
  have hbefore : renameText before r.old = r.old := by
    refine renameText_of_notMem (fun b hb => h.isSome_identifier? b (by simp [hb])) ?_
    intro b hb hmem
    rw [tokens_word hold, List.mem_singleton] at hmem
    exact h.old_ne_of_mem_before b hb hmem
  rw [renameText_append_rules, hbefore, renameText_cons hr, replaceWords_word _ hold hold,
    substitute, if_pos rfl]

/-- Code and comments are renamed alike exactly when each new text is kept by the rules after its
own. -/
theorem forall_mentionedAlike_iff (h : IsBatch batch) :
    (∀ name, isIdentifier name = true → MentionedAlike batch name) ↔
      ∀ before r after, batch = before ++ r :: after → renameText after r.new = r.new := by
  constructor
  · rintro halike before r after rfl
    obtain ⟨old, hold⟩ := Option.isSome_iff_exists.1 h.isSome_identifier?_self
    obtain ⟨hid, new, rfl⟩ := Rule.identifier?_eq_some_iff.1 hold
    rw [← h.renameText_old]
    exact (h.mentionedAlike_iff_alone.1 (halike old hid)).trans h.nameInCode_old
  · intro hkept name hname
    rw [h.mentionedAlike_iff_alone]
    cases hnew : newName? batch name with
    | none =>
      rw [h.renameText_of_newName?_eq_none (isWord_of_isIdentifier hname) hnew, nameInCode, hnew,
        Option.getD_none]
    | some new =>
      obtain ⟨r, hfind, -⟩ := Option.map_eq_some_iff.1 hnew
      have hid := List.find?_some hfind
      obtain ⟨-, new', rfl⟩ := Rule.identifier?_eq_some_iff.1 (of_decide_eq_true hid)
      obtain ⟨before, after, rfl⟩ := List.append_of_mem (List.mem_of_find?_eq_some hfind)
      have hcode := h.nameInCode_old
      have hcomment := h.renameText_old
      rw [hkept before _ after rfl] at hcomment
      exact hcomment.trans hcode.symm

end IsBatch

/-! ### All rules -/

/-- **Code and comments are renamed alike exactly when no new text of a batch is changed by the
renamings after it.**  That is so when no later name is a word of it.  The batches are those of the
steps that are taken. -/
theorem mentionedAlike_iff (rules : List Rule) :
    (∀ provider path source, transformCode provider path source rules =
      runSteps provider path (codeSteps rules) source) ∧
    ∀ batch, CodeStep.rename batch ∈ codeSteps rules →
      ((∀ name, isIdentifier name = true → MentionedAlike batch name) ↔
          ∀ before r after, batch = before ++ r :: after → renameText after r.new = r.new) ∧
        ((batch.Pairwise fun r later => later.old ∉ tokens r.new) →
          ∀ name, isIdentifier name = true → MentionedAlike batch name) := by
  refine ⟨fun provider path source => transformCodeFrom_eq_runSteps provider path rules source [],
    fun batch hstep => ?_⟩
  have hbatch : IsBatch batch := isBatch_of_mem_codeStepsFrom .nil hstep
  refine ⟨hbatch.forall_mentionedAlike_iff, fun hwords => ?_⟩
  rw [hbatch.forall_mentionedAlike_iff]
  rintro before r after rfl
  have hafter : ∀ q ∈ after, q.identifier?.isSome = true := fun q hq =>
    hbatch.isSome_identifier? q (by simp [hq])
  exact renameText_of_notMem hafter (List.pairwise_cons.1 (List.pairwise_append.1 hwords).2.1).1

/-- A name becomes a path, and so does a call of it. -/
def pathRules : List Rule :=
  [.word "load".toList "api.load".toList, .word "fetch".toList "api.get(load)".toList]

theorem mentionedAlike_iff_pathRules :
    CodeStep.rename pathRules ∈ codeSteps pathRules ∧
      renameText pathRules "// load, fetch".toList = "// api.load, api.get(load)".toList := by
  have hstep : CodeStep.rename pathRules ∈ codeSteps pathRules := by
    have hsteps : codeSteps pathRules = [.rename pathRules] := by rfl
    rw [hsteps]
    exact List.mem_singleton_self _
  have hwords : pathRules.Pairwise fun r later => later.old ∉ tokens r.new := by decide +kernel
  refine ⟨hstep, ?_⟩
  obtain ⟨-, halike⟩ := mentionedAlike_iff pathRules
  have hfetch := (halike pathRules hstep).2 hwords "fetch".toList (by decide) "// load, ".toList []
    (by decide) rfl
  exact hfetch

/-- A name becomes a path that ends in the next name. -/
def coveredRules : List Rule := [.word ['a'] "x.b".toList, .word ['b'] ['c']]

/-- **A batch does not always rename code and comments alike.**  Of two renamings the second finds
its name in a path that the first brings in: it is not taken for one that speaks of the batch, and
only the comment sees it. -/
theorem not_forall_mentionedAlike :
    ¬∀ rules batch, CodeStep.rename batch ∈ codeSteps rules →
      ∀ name, isIdentifier name = true → MentionedAlike batch name := by
  intro h
  have hstep : CodeStep.rename coveredRules ∈ codeSteps coveredRules := List.mem_singleton_self _
  have halone := h coveredRules coveredRules hstep ['a'] (by decide) [] [] rfl rfl
  exact absurd halone (by decide)

end Codemod
