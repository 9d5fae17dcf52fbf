import Codemod.Transform
import Codemod.Proofs.Regions
import Codemod.Proofs.Words

/-!
# Batches of renamings

Renamings that wait in one batch are made at once, on one reading of the source, while rules applied
to a whole text are applied one after another.  A rule that speaks of a name of the batch starts a
new one.  Over a syntax that takes every word for an identifier, this is all it takes for both to
give the same text.

## Main definitions

* `wordSyntax` — the syntax in which every word is an identifier and nothing is a comment.
* `IsBatch` — what holds of the rules that wait.

## Main results

* `rename_wordSyntax` — a renaming gives every word its new name.
* `IsBatch.foldl_substitute` — in a batch, renaming at once and in turn are the same.
* `transformCode_eq_applyAll` — **batching keeps the meaning of rules applied in turn.**
-/

namespace Codemod

open Syntax Text

/-! ### Every word an identifier -/

/-- The words among the tokens of a text, the first token being at `pos`. -/
def wordsFrom : (pos : Nat) → List (List Char) → List Identifier
  | _, [] => []
  | pos, w :: ws =>
    if startsWithWord w then ⟨String.ofList w, pos⟩ :: wordsFrom (pos + blen w) ws
    else wordsFrom (pos + blen w) ws

/-- The syntax in which every word is an identifier and nothing is a comment. -/
def wordSyntax : Provider := fun _ source => .ok ⟨wordsFrom 0 (tokens source), []⟩

theorem wordsFrom_word {w : List Char} (hw : IsWord w) (pos : Nat) (ws : List (List Char)) :
    wordsFrom pos (w :: ws) = ⟨String.ofList w, pos⟩ :: wordsFrom (pos + blen w) ws := by
  have hstart : startsWithWord w = true := by simpa using hw.startsWithWord_append []
  rw [wordsFrom, if_pos hstart]

theorem wordsFrom_between {c : Char} (hc : isIdentifierChar c = false) (pos : Nat)
    (ws : List (List Char)) : wordsFrom pos ([c] :: ws) = wordsFrom (pos + blen [c]) ws := by
  rw [wordsFrom, if_neg (by simp [startsWithWord, hc])]

theorem le_start_of_mem_wordsFrom {i : Identifier} :
    ∀ {ws : List (List Char)} {pos : Nat}, i ∈ wordsFrom pos ws → pos ≤ i.start := by
  intro ws
  induction ws with
  | nil => intro pos h; cases h
  | cons w ws ih =>
    intro pos h
    rw [wordsFrom] at h
    split at h
    · rcases List.mem_cons.1 h with rfl | h
      · exact Nat.le_refl pos
      · exact Nat.le_trans (Nat.le_add_right pos _) (ih h)
    · exact Nat.le_trans (Nat.le_add_right pos _) (ih h)

/-- Words stand one after another. -/
theorem pairwise_wordsFrom :
    ∀ {ws : List (List Char)} (pos : Nat), (∀ w ∈ ws, w ≠ []) →
      (wordsFrom pos ws).Pairwise fun i j => i.start < j.start ∧ i.stop ≤ j.start := by
  intro ws
  induction ws with
  | nil => intro _ _; exact .nil
  | cons w ws ih =>
    intro pos hne
    rw [List.forall_mem_cons] at hne
    rw [wordsFrom]
    split
    · refine List.pairwise_cons.2 ⟨fun j hj => ?_, ih _ hne.2⟩
      have hle := le_start_of_mem_wordsFrom hj
      have hpos := blen_pos_iff.2 hne.1
      refine ⟨show pos < j.start by omega, ?_⟩
      rwa [Identifier.stop, String.toList_ofList]
    · exact ih _ hne.2

theorem laidOut_wordSyntax (source : List Char) :
    Tree.LaidOut ⟨wordsFrom 0 (tokens source), []⟩ source where
  commentsIn c hc := by cases hc
  comments c hc := by cases hc
  identifiers i hi j hj := by
    have hapart : (wordsFrom 0 (tokens source)).Pairwise
        fun i j => Apart i.start i.stop j.start j.stop :=
      (pairwise_wordsFrom 0 (tokenized_tokens source).ne_nil_of_mem).imp fun h =>
        apart_iff.2 (by omega)
    have : Std.Symm fun i j : Identifier => Apart i.start i.stop j.start j.stop :=
      ⟨fun _ _ => Apart.symm⟩
    by_cases hij : i = j
    · exact Or.inl hij
    · exact Or.inr (hapart.forall hi hj hij)
  apart i hi c hc := by cases hc

/-! ### Renaming every word -/

section Rename

variable (rules : List Rule) {source : List Char}

theorem newName?_between {c : Char} (hc : isIdentifierChar c = false) :
    newName? rules [c] = none := by
  refine Option.eq_none_iff_forall_ne_some.2 fun new hnew => ?_
  exact (isWord_of_isIdentifier (isIdentifier_of_newName? hnew)).ne_singleton hc rfl

/-- The edit of a word that is renamed. -/
theorem identifierEdit?_word {a w b : List Char} (hsource : a ++ (w ++ b) = source) :
    identifierEdit? rules source ⟨String.ofList w, blen a⟩ =
      (newName? rules w).map fun new => ⟨blen a, blen a + blen w, new, .identifier⟩ := by
  have hspelt : slice? (blen a) (blen a + blen w) source = some w :=
    slice?_eq_some_iff.2 ⟨a, b, hsource, rfl, rfl⟩
  simp only [identifierEdit?_eq_map, identifierRegion?, String.toList_ofList, if_pos hspelt,
    Option.map_map]
  rfl

/-- The edits of later words leave a token alone. -/
theorem assembleFrom_token {a w : List Char} {ws : List (List Char)}
    (hsource : a ++ (w ++ ws.flatten) = source) :
    assembleFrom source (blen a) (identifierEdits rules source (wordsFrom (blen (a ++ w)) ws)) =
      w ++ assembleFrom source (blen (a ++ w))
        (identifierEdits rules source (wordsFrom (blen (a ++ w)) ws)) := by
  rw [blen_append]
  refine assembleFrom_copy hsource (fun e he => ?_) fun e he => ?_
  · -- edits of identifiers are edits of a plan without comments
    have hplan : e ∈ plannedEdits rules source ⟨wordsFrom (blen a + blen w) ws, []⟩ :=
      List.mem_append_left _ he
    exact isValid_of_mem_plannedEdits hplan
  · obtain ⟨i, hi, hie⟩ := List.mem_filterMap.1 he
    rw [identifierEdit?_eq_map] at hie
    obtain ⟨r, hr, rfl⟩ := Option.map_eq_some_iff.1 hie
    have hstart := (identifierRegion?_eq_some_iff.1 hr).2.2.1
    have hle := le_start_of_mem_wordsFrom hi
    show blen a + blen w ≤ r.start
    omega

/-- Assembling the edits of words gives every word its new name. -/
theorem assembleFrom_wordsFrom {ws : List (List Char)} (h : Tokenized ws) :
    ∀ {a : List Char}, a ++ ws.flatten = source →
      assembleFrom source (blen a) (identifierEdits rules source (wordsFrom (blen a) ws)) =
        ws.flatMap fun w => (newName? rules w).getD w := by
  induction h with
  | nil =>
    rintro a rfl
    exact assembleFrom_nil a []
  | @word w ws hw _ _ ih =>
    intro a hsource
    rw [List.flatten_cons] at hsource
    have hrest := ih (a := a ++ w) (by rw [List.append_assoc, hsource])
    rw [wordsFrom_word hw, ← blen_append, identifierEdits, List.filterMap_cons,
      identifierEdit?_word rules hsource, ← identifierEdits, List.flatMap_cons, ← hrest]
    cases hnew : newName? rules w with
    | none => exact assembleFrom_token rules hsource
    | some new =>
      have hcons := assembleFrom_cons a [] w ws.flatten
        (identifierEdits rules source (wordsFrom (blen (a ++ w)) ws))
        (e := ⟨blen a, blen (a ++ w), new, .identifier⟩) rfl
      rw [List.nil_append, List.nil_append, hsource] at hcons
      rw [blen_append] at hcons ⊢
      exact hcons
  | @between c ws hc _ ih =>
    intro a hsource
    rw [List.flatten_cons] at hsource
    have hrest := ih (a := a ++ [c]) (by rw [List.append_assoc, hsource])
    rw [wordsFrom_between hc, ← blen_append, assembleFrom_token rules hsource, hrest,
      List.flatMap_cons, newName?_between rules hc, Option.getD_none]

/-- The edits of words are in order. -/
theorem inOrder_identifierEdits {ids : List Identifier}
    (h : ids.Pairwise fun i j => i.start < j.start ∧ i.stop ≤ j.start) :
    Edit.InOrder (identifierEdits rules source ids) := by
  refine h.filterMap _ fun i j hij e he f hf => ?_
  rw [identifierEdit?_eq_map] at he hf
  obtain ⟨r, hr, rfl⟩ := Option.map_eq_some_iff.1 he
  obtain ⟨q, hq, rfl⟩ := Option.map_eq_some_iff.1 hf
  obtain ⟨-, -, hrstart, hrold⟩ := identifierRegion?_eq_some_iff.1 hr
  obtain ⟨-, -, hqstart, -⟩ := identifierRegion?_eq_some_iff.1 hq
  show r.start < q.start ∧ r.stop ≤ q.start
  rw [Region.stop, hrstart, hqstart, hrold]
  exact hij

/-- A renaming gives every word its new name. -/
theorem rename_wordSyntax (path : String) (source : List Char) :
    (rename wordSyntax path source rules).value =
      .ok ((tokens source).flatMap fun w => (newName? rules w).getD w) := by
  have hapart := (laidOut_wordSyntax source).regions_apart rules
  have hplan : plannedEdits rules source ⟨wordsFrom 0 (tokens source), []⟩ =
      identifierEdits rules source (wordsFrom 0 (tokens source)) := List.append_nil _
  have horder : Edit.InOrder (plannedEdits rules source ⟨wordsFrom 0 (tokens source), []⟩) := by
    rw [hplan]
    exact inOrder_identifierEdits rules
      (pairwise_wordsFrom 0 (tokenized_tokens source).ne_nil_of_mem)
  have hread := readRegions_eq_assembleFrom (a := []) (fun r => standsIn_of_mem_regions) hapart
    source.length (Nat.le_refl _) rfl (editsOf_plannedEdits horder)
  have hassemble := assembleFrom_wordsFrom rules (tokenized_tokens source) (a := [])
    (flatten_tokens source)
  rw [rename_value_of_apart rules rfl (laidOut_wordSyntax source).commentsIn hapart]
  exact congrArg Except.ok (hread.trans (hplan ▸ hassemble))

end Rename

/-! ### At once and in turn -/

theorem newName?_cons {r : Rule} (hr : r.identifier?.isSome = true) (rs : List Rule)
    (name : List Char) :
    newName? (r :: rs) name = if name = r.old then some r.new else newName? rs name := by
  obtain ⟨old, hold⟩ := Option.isSome_iff_exists.1 hr
  obtain ⟨hid, new, rfl⟩ := Rule.identifier?_eq_some_iff.1 hold
  rw [newName?, List.find?_cons, hold]
  by_cases hname : name = old
  · simp [hname, Rule.old]
  · simp [hname, Ne.symm hname, Rule.old, newName?]

theorem newName?_eq_none {rules : List Rule} {name : List Char} (h : ∀ r ∈ rules, r.old ≠ name) :
    newName? rules name = none := by
  rw [newName?, Option.map_eq_none_iff, List.find?_eq_none]
  intro r hr hname
  obtain ⟨-, new, rfl⟩ := Rule.identifier?_eq_some_iff.1 (of_decide_eq_true hname)
  exact h _ hr rfl

/-- `IsBatch batch` says what holds of the rules `batch` that wait: they rename identifiers, and
none speaks of a name that one before it renames or brings in. -/
structure IsBatch (batch : List Rule) : Prop where
  isSome_identifier? : ∀ r ∈ batch, r.identifier?.isSome = true
  unchained : batch.Pairwise fun a b => a.old ≠ b.old ∧ a.new ≠ b.old

namespace IsBatch

variable {batch : List Rule} {r : Rule}

protected theorem nil : IsBatch [] := ⟨by simp, .nil⟩

theorem singleton (hr : r.identifier?.isSome = true) : IsBatch [r] :=
  ⟨by simpa using hr, List.pairwise_singleton _ r⟩

/-- A rule that speaks of no name of the batch can wait with it. -/
theorem append_singleton (h : IsBatch batch) (hr : r.identifier?.isSome = true)
    (hchain : isChained batch r = false) : IsBatch (batch ++ [r]) where
  isSome_identifier? q hq := by
    rcases List.mem_append.1 hq with hq | hq
    · exact h.isSome_identifier? q hq
    · rwa [List.mem_singleton.1 hq]
  unchained := by
    refine List.pairwise_append.2 ⟨h.unchained, List.pairwise_singleton _ r, fun b hb q hq => ?_⟩
    rw [List.mem_singleton.1 hq]
    simpa [isChained] using List.any_eq_false.1 hchain b hb

/-- **In a batch, renaming at once and in turn are the same.** -/
theorem foldl_substitute (h : IsBatch batch) (w : List Char) :
    batch.foldl (fun v r => substitute r.old r.new v) w = (newName? batch w).getD w := by
  obtain ⟨hsome, hpair⟩ := h
  induction batch generalizing w with
  | nil => rfl
  | cons r rs ih =>
    rw [List.forall_mem_cons] at hsome
    obtain ⟨hfirst, hrest⟩ := List.pairwise_cons.1 hpair
    rw [List.foldl_cons, ih _ hsome.2 hrest, newName?_cons hsome.1, substitute]
    by_cases hw : w = r.old
    · -- no rule of the rest speaks of the new name
      rw [if_pos hw, if_pos hw, newName?_eq_none fun q hq => (hfirst q hq).2.symm]
      rfl
    · rw [if_neg hw, if_neg hw]

end IsBatch

section Batch

variable {batch : List Rule} (hnew : ∀ r ∈ batch, isIdentifier r.new = true)
include hnew

/-- Renamings applied in turn to a whole text rename every token in turn. -/
theorem tokens_applyAll (hsome : ∀ r ∈ batch, r.identifier?.isSome = true) (text : List Char) :
    tokens (applyAll batch text) =
      (tokens text).map fun w => batch.foldl (fun v r => substitute r.old r.new v) w := by
  induction batch generalizing text with
  | nil => exact (List.map_id _).symm
  | cons r rs ih =>
    rw [List.forall_mem_cons] at hnew hsome
    obtain ⟨old, hold⟩ := Option.isSome_iff_exists.1 hsome.1
    obtain ⟨hid, new, rfl⟩ := Rule.identifier?_eq_some_iff.1 hold
    have hfirst : tokens (replaceWords old new text) = (tokens text).map (substitute old new) :=
      tokens_replaceWords (isWord_of_isIdentifier hid) (isWord_of_isIdentifier hnew.1) text
    have hrest := ih hnew.2 hsome.2 (replaceWords old new text)
    rw [hfirst, List.map_map] at hrest
    exact hrest

/-- A batch made at once gives what its rules give in turn. -/
theorem renameBatch_wordSyntax (h : IsBatch batch) (path : String) (source : List Char) :
    (renameBatch wordSyntax path source batch).value = .ok (applyAll batch source) := by
  have htokens := tokens_applyAll hnew h.isSome_identifier? source
  simp only [h.foldl_substitute] at htokens
  have hrename := rename_wordSyntax batch path source
  rw [List.flatMap_def, ← htokens, flatten_tokens] at hrename
  rw [renameBatch]
  cases batch with
  | nil => rfl
  | cons r rs => exact hrename

end Batch

/-! ### All rules -/

theorem applyAll_append (rs qs : List Rule) (text : List Char) :
    applyAll (rs ++ qs) text = applyAll qs (applyAll rs text) :=
  List.foldl_append

/-- The generalised form of `transformCode_eq_applyAll`, with a batch that waits. -/
theorem transformCodeFrom_wordSyntax (path : String) :
    ∀ (rules : List Rule) {batch : List Rule} (source : List Char), IsBatch batch →
      (∀ r ∈ batch ++ rules, r.identifier?.isSome = true → isIdentifier r.new = true) →
      (transformCodeFrom wordSyntax path source batch rules).value =
        .ok (applyAll (batch ++ rules) source) := by
  intro rules
  induction rules with
  | nil =>
    intro batch source hbatch hnew
    rw [List.append_nil] at hnew ⊢
    exact renameBatch_wordSyntax (fun r hr => hnew r hr (hbatch.isSome_identifier? r hr)) hbatch
      path source
  | cons r rs ih =>
    intro batch source hbatch hnew
    have hwait := renameBatch_wordSyntax (fun q hq =>
      hnew q (List.mem_append_left _ hq) (hbatch.isSome_identifier? q hq)) hbatch path source
    have hlater : ∀ q ∈ r :: rs, q.identifier?.isSome = true → isIdentifier q.new = true :=
      fun q hq => hnew q (List.mem_append_right _ hq)
    rw [transformCodeFrom]
    by_cases hr : r.identifier?.isSome = true
    · rw [if_pos hr]
      by_cases hchain : isChained batch r = true
      · -- the batch is made, and the rule starts a new one
        rw [if_pos hchain, Logged.value_andThen_of_ok _ hwait, applyAll_append]
        exact ih _ (.singleton hr) hlater
      · have hwaits := hbatch.append_singleton hr (Bool.not_eq_true _ ▸ hchain)
        have hmore := ih source hwaits (by simpa using hnew)
        rw [if_neg hchain, hmore, List.append_assoc, List.singleton_append]
    · -- the batch is made before a rule that is no renaming
      rw [if_neg hr, Logged.value_andThen_of_ok _ hwait, applyAll_append]
      exact ih _ .nil fun q hq => hlater q (List.mem_cons_of_mem r hq)

/-- **Batching keeps the meaning of rules applied in turn.**  Over a syntax that takes every word for
an identifier, code after rules of any kinds is its text with one rule after another applied to all
of it, provided that identifiers are renamed to identifiers. -/
theorem transformCode_eq_applyAll (path : String) (source : List Char) (rules : List Rule)
    (hnew : ∀ r ∈ rules, r.identifier?.isSome = true → isIdentifier r.new = true) :
    (transformCode wordSyntax path source rules).value = .ok (applyAll rules source) :=
  transformCodeFrom_wordSyntax path rules source .nil hnew

/-- Two names are swapped through a third.  After that come a text that is no identifier, a name that
was brought in before, a regular expression and a name that it brings in. -/
def swapRules : List Rule :=
  let replacements : List Replacement :=
    [⟨"a", "c", false⟩, ⟨"b", "a", false⟩, ⟨"c", "b", false⟩, ⟨"b.a", "a.b", false⟩,
      ⟨"a", "$x", false⟩, ⟨"x+", "a", true⟩, ⟨"a", "done", false⟩]
  (compileAll Regex.compile replacements).toOption.getD []

theorem transformCode_eq_applyAll_swap :
    (∀ r ∈ swapRules, r.identifier?.isSome = true → isIdentifier r.new = true) ∧
      (transformCode wordSyntax "a.ts" "a.b + 1a; b(c) xx.y".toList swapRules).value =
        .ok "$a.b + 1a; $a(b) done.y".toList := by
  have hnew : ∀ r ∈ swapRules, r.identifier?.isSome = true → isIdentifier r.new = true := by
    decide +kernel
  refine ⟨hnew, ?_⟩
  rw [transformCode_eq_applyAll _ _ _ hnew]
  decide +kernel

end Codemod
