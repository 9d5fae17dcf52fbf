import Codemod.Proofs.Validation
import Codemod.Proofs.WordMaps

/-!
# A second run

A migration that has been run leaves nothing to do for the next one, as long as no new text brings
back a word that has been replaced: neither the rule's own nor that of a rule before it.  Rules may
well follow each other, so that one replaces what another has brought in.  Each file sees its own
selection of the rules, in their order, and after the last of them none of their words is left.

## Main definitions

* `RuleSet.replacementsInOrder` — all replacements of a rule set, change set by change set.
* `RulePair.chosen`, `PreparedSet.rulesFor` — the rules that are applied to a file.
* `IsSettled` — a file is as a change set would have it.

## Main results

* `old_notMem_tokens_applyAll` — no word that a rule replaces is left.
* `applyAllSets_of_settled` — change sets that find nothing to do do nothing.
* `second_run_changes_nothing` — **a second run changes nothing.**
-/

namespace Codemod

open Syntax

/-! ### Rules one after another -/

theorem applyAll_cons {r : Rule} (hr : r.identifier?.isSome = true) (rs : List Rule)
    (text : List Char) :
    applyAll (r :: rs) text = applyAll rs (replaceWords r.old r.new text) := by
  obtain ⟨old, hold⟩ := Option.isSome_iff_exists.1 hr
  obtain ⟨-, new, rfl⟩ := Rule.identifier?_eq_some_iff.1 hold
  rfl

section Rules

variable {rules : List Rule} (hsome : ∀ r ∈ rules, r.identifier?.isSome = true)
include hsome

/-- A word that no rule brings in stays away. -/
theorem notMem_tokens_applyAll {w : List Char} (hnew : ∀ r ∈ rules, w ∉ tokens r.new) :
    ∀ {text : List Char}, w ∉ tokens text → w ∉ tokens (applyAll rules text) := by
  induction rules with
  | nil => exact fun h => h
  | cons r rs ih =>
    intro text hw
    rw [List.forall_mem_cons] at hsome hnew
    rw [applyAll_cons hsome.1]
    refine ih hsome.2 hnew.2 fun hmem => ?_
    rcases mem_tokens_replaceWords (isWord_old hsome.1) hmem with h | h
    · exact hw h.2
    · exact hnew.1 h

/-- No word that a rule replaces is left, if no rule brings back its own word or one that has been
replaced before. -/
theorem old_notMem_tokens_applyAll (hown : ∀ r ∈ rules, r.old ∉ tokens r.new)
    (hback : rules.Pairwise fun r later => r.old ∉ tokens later.new) :
    ∀ {text : List Char}, ∀ r ∈ rules, r.old ∉ tokens (applyAll rules text) := by
  induction rules with
  | nil => simp
  | cons r rs ih =>
    intro text
    rw [List.forall_mem_cons] at hsome hown
    rw [List.pairwise_cons] at hback
    rw [applyAll_cons hsome.1]
    refine List.forall_mem_cons.2 ⟨?_, ih hsome.2 hown.2 hback.2⟩
    -- the word is gone after its own rule, and the rules after it do not bring it back
    refine notMem_tokens_applyAll hsome.2 hback.1 fun hmem => ?_
    rcases mem_tokens_replaceWords (isWord_old hsome.1) hmem with h | h
    · exact h.1 rfl
    · exact hown.1 h

/-- A text without the words that are replaced stays. -/
theorem applyAll_of_notMem {text : List Char} (h : ∀ r ∈ rules, r.old ∉ tokens text) :
    applyAll rules text = text := by
  induction rules with
  | nil => rfl
  | cons r rs ih =>
    rw [List.forall_mem_cons] at hsome h
    rw [applyAll_cons hsome.1, replaceWords_of_notMem _ (isWord_old hsome.1) h.1]
    exact ih hsome.2 h.2

end Rules

/-! ### The rules for a file -/

/-- The rules of a change set that are applied to a file. -/
def RulePair.chosen (rules : RulePair) (path : String) : List Rule :=
  match strategyOf path rules with
  | .markup => rules.markupRules
  | .code | .text => rules.rules

/-- The rules of a change set that are applied to a file, none if it is not selected. -/
def PreparedSet.rulesFor (set : PreparedSet) (path : String) : List Rule :=
  if set.selector.selects path then set.rules.chosen path else []

/-- A file that is no code is taken as text. -/
theorem transform_of_ne_code {path : String} (h : FileKind.ofPath path ≠ .code)
    (provider : Provider) (source : List Char) (rules : RulePair) :
    transform provider path source rules =
      pure (.ok ⟨applyAll (rules.chosen path) source, strategyOf path rules⟩) := by
  have hstrategy : strategyOf path rules ≠ .code := by
    rw [strategyOf]
    cases hkind : FileKind.ofPath path with
    | code => exact absurd hkind h
    | markup =>
      simp only
      split <;> simp
    | other => simp
  rw [transform, RulePair.chosen]
  cases hcases : strategyOf path rules with
  | code => exact absurd hcases hstrategy
  | markup => rfl
  | text => rfl

theorem fromUTF8?_toUTF8 (s : String) : String.fromUTF8? s.toUTF8 = some s := by
  unfold String.fromUTF8?
  rw [String.toUTF8_eq_toByteArray, dif_pos s.isValidUTF8]
  rfl

section Migrated

variable {path : String} {sets : List PreparedSet}
  (hcode : ∀ set ∈ sets, set.selector.selects path = true → FileKind.ofPath path ≠ .code)
include hcode

/-- What becomes of a text: all rules for its file are applied, one after another. -/
theorem migrated_text (provider : Provider) (source : List Char) :
    migrated provider path sets (String.ofList source).toUTF8 =
      (String.ofList (applyAll (sets.flatMap (·.rulesFor path)) source)).toUTF8 := by
  induction sets generalizing source with
  | nil => rfl
  | cons set sets ih =>
    rw [List.forall_mem_cons] at hcode
    rw [migrated, List.foldl_cons, List.flatMap_cons, applyAll_append, PreparedSet.rewrite,
      PreparedSet.rulesFor]
    by_cases hselects : set.selector.selects path = true
    · rw [if_pos hselects, if_pos hselects, PreparedSet.rewriteText, fromUTF8?_toUTF8]
      simp only [transform_of_ne_code (hcode.1 hselects), Logged.value_pure, String.toList_ofList]
      exact ih hcode.2 _
    · rw [if_neg hselects, if_neg hselects]
      exact ih hcode.2 _

omit hcode in
theorem migrated_of_no_text (provider : Provider) {bytes : ByteArray}
    (h : String.fromUTF8? bytes = none) : migrated provider path sets bytes = bytes := by
  induction sets with
  | nil => rfl
  | cons set sets ih =>
    have hset : set.rewrite provider path bytes = bytes := by
      simp [PreparedSet.rewrite, PreparedSet.rewriteText, h]
    rw [migrated, List.foldl_cons, hset]
    exact ih

omit hcode in
theorem migrated_of_not_selects (provider : Provider)
    (h : ∀ set ∈ sets, set.selector.selects path = false) (bytes : ByteArray) :
    migrated provider path sets bytes = bytes := by
  induction sets with
  | nil => rfl
  | cons set sets ih =>
    rw [List.forall_mem_cons] at h
    have hset : set.rewrite provider path bytes = bytes := by simp [PreparedSet.rewrite, h.1]
    rw [migrated, List.foldl_cons, hset]
    exact ih h.2

omit hcode in
/-- A file that no change set selects is as it was. -/
theorem Changed.read_of_not_selected {τ : Type} [FileTree τ] [IsolatedTree τ] {provider : Provider}
    {t t' : τ} (h : Changed (migrated provider · sets) t t')
    (hnot : ∀ set ∈ sets, Path.strip path ∉ set.selector.select t) :
    FileTree.read t' path = FileTree.read t path := by
  rw [h.read]
  cases hbytes : FileTree.read t path with
  | none => rfl
  | some bytes =>
    -- the file is listed, so it is its path that is not selected
    have hselects : ∀ set ∈ sets, set.selector.selects (Path.strip path) = false := by
      intro set hset
      by_contra htrue
      exact hnot set hset
        (List.mem_filter.2 ⟨IsolatedTree.mem_paths_of_read hbytes, by simpa using htrue⟩)
    rw [Option.map_some, migrated_of_not_selects provider hselects]

/-- What is text after a migration has had all rules applied to it. -/
theorem exists_eq_applyAll {provider : Provider} {bytes : ByteArray} {source : String}
    (h : String.fromUTF8? (migrated provider path sets bytes) = some source) :
    ∃ text, source.toList = applyAll (sets.flatMap (·.rulesFor path)) text := by
  cases htext : String.fromUTF8? bytes with
  | none =>
    rw [migrated_of_no_text provider htext, htext] at h
    cases h
  | some text =>
    rw [← toUTF8_ofList_toList htext, migrated_text hcode, fromUTF8?_toUTF8] at h
    exact ⟨text.toList, by rw [← Option.some.inj h, String.toList_ofList]⟩

end Migrated

/-! ### The first run -/

section FirstRun

variable {τ : Type} [FileTree τ] {m : Migration}

/-- Without code nobody asks for syntax, so that any provider will do. -/
theorem applyToFiles_congr_provider (provider : Provider) (set : PreparedSet) :
    ∀ {paths : List String}, (∀ path ∈ paths, FileKind.ofPath path ≠ .code) →
      ∀ p : Progress τ, m.applyToFiles set paths p =
        ({ m with provider := provider } : Migration).applyToFiles set paths p := by
  intro paths
  induction paths with
  | nil => exact fun _ _ => rfl
  | cons path paths ih =>
    intro hcode p
    rw [List.forall_mem_cons] at hcode
    have hfile : m.applyToFile set path p =
        ({ m with provider := provider } : Migration).applyToFile set path p := by
      simp only [Migration.applyToFile, Migration.applyToSource, transform_of_ne_code hcode.1]
    rw [Migration.applyToFiles, Migration.applyToFiles, hfile]
    simp only [ih hcode.2]

/-- Change sets that select no code come to an end, and every file is changed by itself. -/
theorem exists_applyAllSets_of_no_code [IsolatedTree τ] :
    ∀ {sets : List PreparedSet} {p : Progress τ},
      (∀ set ∈ sets, ∀ path ∈ set.selector.select p.tree, FileKind.ofPath path ≠ .code) →
      ∃ q, (m.applyAllSets sets p).value = .ok q ∧
        Changed (migrated (fun _ _ => .error "") · sets) p.tree q.tree := by
  have hsound : Provider.Sound fun _ _ => .error "" := by
    intro path source tree h
    cases h
  intro sets
  induction sets with
  | nil => exact fun {p} _ => ⟨p, rfl, Changed.of_forall_eq fun _ _ _ => rfl⟩
  | cons set sets ih =>
    intro p hcode
    rw [List.forall_mem_cons] at hcode
    obtain ⟨q, hq, hchanged⟩ :=
      changed_apply (m := { m with provider := fun _ _ => .error "" }) hsound set p
    have happly : (m.apply set p).value = .ok q := by
      rw [← hq, Migration.apply, Migration.apply, Logged.value_within, Logged.value_within]
      simp only [Logged.value_bind, applyToFiles_congr_provider (fun _ _ => .error "") set hcode.1]
    -- the same files are there, so the same are selected
    have hcode' : ∀ set ∈ sets, ∀ path ∈ set.selector.select q.tree,
        FileKind.ofPath path ≠ .code := by
      intro set hset path hpath
      obtain ⟨hmem, hselects⟩ := List.mem_filter.1 hpath
      exact hcode.2 set hset path (List.mem_filter.2 ⟨hchanged.paths.mem_iff.1 hmem, hselects⟩)
    obtain ⟨q', hq', hchanged'⟩ := ih hcode'
    refine ⟨q', ?_, hchanged.trans hchanged'⟩
    rw [Migration.applyAllSets, Logged.value_andThen_of_ok _ happly, hq']

end FirstRun

/-! ### The second run -/

section SecondRun

variable {τ : Type} [FileTree τ] {m : Migration}

/-- `IsSettled m set tree path` says that the file of `path` in `tree` is as the rules of `set`
would have it.  One that is no text always is. -/
def IsSettled (m : Migration) (set : PreparedSet) (tree : τ) (path : String) : Prop :=
  ∀ bytes source, FileTree.read tree path = some bytes → String.fromUTF8? bytes = some source →
    ∃ strategy, (transform m.provider path source.toList set.rules).value =
      .ok ⟨source.toList, strategy⟩

/-- A file that is as the rules would have it is left alone. -/
theorem applyToFile_of_settled {set : PreparedSet} {path : String} {p : Progress τ}
    (h : IsSettled m set p.tree path) : (m.applyToFile set path p).value = .ok p := by
  rw [Migration.applyToFile_value]
  cases htext : (FileTree.read p.tree path).bind String.fromUTF8? with
  | none => rfl
  | some source =>
    obtain ⟨bytes, hread, htext⟩ := Option.bind_eq_some_iff.1 htext
    obtain ⟨strategy, htransform⟩ := h bytes source hread htext
    simp only [Migration.applyToSource, Logged.value_bind, htransform, if_true]
    rfl

theorem applyToFiles_of_settled {set : PreparedSet} {p : Progress τ} :
    ∀ {paths : List String}, (∀ path ∈ paths, IsSettled m set p.tree path) →
      (m.applyToFiles set paths p).value = .ok p := by
  intro paths
  induction paths with
  | nil => exact fun _ => rfl
  | cons path paths ih =>
    intro h
    rw [List.forall_mem_cons] at h
    rw [Migration.applyToFiles, Logged.value_andThen_of_ok _ (applyToFile_of_settled h.1), ih h.2]

/-- Change sets that find nothing to do do nothing. -/
theorem applyAllSets_of_settled {p : Progress τ} :
    ∀ {sets : List PreparedSet},
      (∀ set ∈ sets, ∀ path ∈ set.selector.select p.tree, IsSettled m set p.tree path) →
      (m.applyAllSets sets p).value = .ok p := by
  intro sets
  induction sets with
  | nil => exact fun _ => rfl
  | cons set sets ih =>
    intro h
    rw [List.forall_mem_cons] at h
    have happly : (m.apply set p).value = .ok p := by
      rw [Migration.apply, Logged.value_within]
      exact applyToFiles_of_settled h.1
    rw [Migration.applyAllSets, Logged.value_andThen_of_ok _ happly, ih h.2]

end SecondRun

/-! ### Rules as they are declared -/

/-- All replacements of a rule set in their order, change set by change set, those for markup
first. -/
def RuleSet.replacementsInOrder (r : RuleSet) : List Replacement :=
  r.changeSets.flatMap fun c => c.2.markupReplacements.getD [] ++ c.2.replacements

/-- A replacement as a rule for whole words. -/
def Replacement.wordRule (r : Replacement) : Rule := .word r.old.toList r.new.toList

theorem Replacement.isIdentifier_of_kind {r : Replacement} (h : r.kind = .identifier) :
    r.isRegex = false ∧ isIdentifier r.old.toList = true := by
  rw [kind] at h
  cases hregex : r.isRegex with
  | true => simp [hregex] at h
  | false =>
    refine ⟨rfl, ?_⟩
    by_contra hno
    simp [hregex, hno] at h

theorem Replacement.identifier?_wordRule {r : Replacement} (h : r.kind = .identifier) :
    r.wordRule.identifier? = some r.old.toList :=
  Rule.identifier?_eq_some_iff.2 ⟨(isIdentifier_of_kind h).2, _, rfl⟩

theorem Replacement.compile_of_identifier {regex : Regex.Compiler} {r : Replacement}
    (h : r.kind = .identifier) : r.compile regex = .ok r.wordRule := by
  obtain ⟨hregex, hid⟩ := isIdentifier_of_kind h
  have hne : r.old.isEmpty = false := by
    rw [← Bool.not_eq_true, String.isEmpty_iff]
    intro hempty
    rw [hempty] at hid
    cases hid
  simp [compile, hne, hregex, wordRule]

theorem compileAll_of_identifier {regex : Regex.Compiler} :
    ∀ {rs : List Replacement}, (∀ r ∈ rs, r.kind = .identifier) →
      compileAll regex rs = .ok (rs.map Replacement.wordRule) := by
  intro rs
  induction rs with
  | nil => exact fun _ => rfl
  | cons r rs ih =>
    intro h
    rw [List.forall_mem_cons] at h
    simp [compileAll, Replacement.compile_of_identifier h.1, ih h.2, bind, Except.bind, pure,
      Except.pure]

theorem ChangeSet.compile_eq_ok {regex : Regex.Compiler} {s : ChangeSet} {rules : RulePair}
    (h : s.compile regex = .ok rules) :
    compileAll regex s.replacements = .ok rules.rules ∧
      compileAll regex (s.markupReplacements.getD []) = .ok rules.markupRules := by
  rw [compile] at h
  split at h
  · cases h
  · split at h
    · cases h
    · cases hrules : compileAll regex s.replacements with
      | error e => simp [hrules, bind, Except.bind] at h
      | ok rs =>
        cases hmarkup : compileAll regex (s.markupReplacements.getD []) with
        | error e => simp [hrules, hmarkup, bind, Except.bind] at h
        | ok ms =>
          simp only [hrules, hmarkup, bind, Except.bind, pure, Except.pure, Except.ok.injEq] at h
          subst h
          exact ⟨rfl, rfl⟩

section Declared

variable {m : Migration}

/-- The rules that are chosen for a file are among those of the change set, in their order. -/
theorem chosen_sublist {category : String} {s : ChangeSet} {set : PreparedSet}
    (h : (m.prepareSet category s).value = .ok set)
    (hkind : ∀ r ∈ s.markupReplacements.getD [] ++ s.replacements, r.kind = .identifier)
    (path : String) :
    (set.rulesFor path).Sublist
      ((s.markupReplacements.getD [] ++ s.replacements).map Replacement.wordRule) := by
  obtain ⟨hrules, hmarkup⟩ := ChangeSet.compile_eq_ok (prepareSet_value h).2
  rw [List.forall_mem_append] at hkind
  rw [compileAll_of_identifier hkind.1] at hmarkup
  rw [compileAll_of_identifier hkind.2] at hrules
  rw [List.map_append, Except.ok.inj hmarkup, Except.ok.inj hrules, PreparedSet.rulesFor]
  split
  · rw [RulePair.chosen]
    split
    · exact List.sublist_append_left _ _
    · exact List.sublist_append_right _ _
    · exact List.sublist_append_right _ _
  · exact List.nil_sublist _

/-- So are the rules for a file among those of the whole rule set. -/
theorem flatMap_rulesFor_sublist {r : RuleSet} {sets : List PreparedSet}
    (h : (m.prepare r).value = .ok sets)
    (hkind : ∀ q ∈ r.replacementsInOrder, q.kind = .identifier) (path : String) :
    (sets.flatMap (·.rulesFor path)).Sublist
      (r.replacementsInOrder.map Replacement.wordRule) := by
  have hready := forall₂_prepareSets h
  clear h
  rw [RuleSet.replacementsInOrder] at hkind ⊢
  generalize r.changeSets = cs at hready hkind ⊢
  induction hready with
  | nil => exact List.Sublist.refl _
  | cons hset _ ih =>
    rw [List.flatMap_cons, List.forall_mem_append] at hkind
    rw [List.flatMap_cons, List.flatMap_cons, List.map_append]
    exact (chosen_sublist hset hkind.1 path).append (ih hkind.2)

/-- A rule set whose replacements do not undo each other leaves no word to be replaced. -/
theorem applyAll_rulesFor_idem {r : RuleSet} {sets : List PreparedSet}
    (h : (m.prepare r).value = .ok sets)
    (hkind : ∀ q ∈ r.replacementsInOrder, q.kind = .identifier)
    (hown : ∀ q ∈ r.replacementsInOrder, q.old.toList ∉ tokens q.new.toList)
    (hback : r.replacementsInOrder.Pairwise fun q later =>
      q.old.toList ∉ tokens later.new.toList)
    {set : PreparedSet} (hset : set ∈ sets) {path : String}
    (hselects : set.selector.selects path = true) (text : List Char) :
    applyAll (set.rules.chosen path) (applyAll (sets.flatMap (·.rulesFor path)) text) =
      applyAll (sets.flatMap (·.rulesFor path)) text := by
  have hsub := flatMap_rulesFor_sublist h hkind path
  have hsome : ∀ rule ∈ sets.flatMap (·.rulesFor path), rule.identifier?.isSome = true := by
    intro rule hrule
    obtain ⟨q, hq, rfl⟩ := List.mem_map.1 (hsub.subset hrule)
    rw [Replacement.identifier?_wordRule (hkind q hq)]
    rfl
  have hown' : ∀ rule ∈ sets.flatMap (·.rulesFor path), rule.old ∉ tokens rule.new := by
    intro rule hrule
    obtain ⟨q, hq, rfl⟩ := List.mem_map.1 (hsub.subset hrule)
    exact hown q hq
  have hback' : (sets.flatMap (·.rulesFor path)).Pairwise
      fun rule later => rule.old ∉ tokens later.new :=
    (List.pairwise_map.2 hback).sublist hsub
  -- the rules that are chosen are among those for the file
  have hmem : ∀ rule ∈ set.rules.chosen path, rule ∈ sets.flatMap (·.rulesFor path) := by
    intro rule hrule
    refine List.mem_flatMap.2 ⟨set, hset, ?_⟩
    rwa [PreparedSet.rulesFor, if_pos hselects]
  exact applyAll_of_notMem (fun rule hrule => hsome rule (hmem rule hrule))
    fun rule hrule => old_notMem_tokens_applyAll hsome hown' hback' rule (hmem rule hrule)

end Declared

/-- **A second run changes nothing.**  No change set selects code or the document of the rule set,
all replacements rename identifiers, and no new text has a word that its own replacement or one
before it replaces.  Then the first run comes to an end, and the next one does nothing. -/
theorem second_run_changes_nothing (m : Migration) (tree : MemoryTree) {r : RuleSet}
    {sets : List PreparedSet} (hload : (m.loadRuleSet tree).value = .ok (some r))
    (hprepare : (m.prepare r).value = .ok sets)
    (hrules : ∀ set ∈ sets, Path.strip m.config.ruleSetPath ∉ set.selector.select tree)
    (hcode : ∀ set ∈ sets, ∀ path ∈ set.selector.select tree, FileKind.ofPath path ≠ .code)
    (hkind : ∀ q ∈ r.replacementsInOrder, q.kind = .identifier)
    (hown : ∀ q ∈ r.replacementsInOrder, q.old.toList ∉ tokens q.new.toList)
    (hback : r.replacementsInOrder.Pairwise fun q later =>
      q.old.toList ∉ tokens later.new.toList) :
    ∃ p, (m.run tree).value = .ok p ∧
      (m.run p.tree).value = .ok ⟨p.tree, .ofOutcome .completed⟩ := by
  obtain ⟨p, hp, hchanged⟩ :=
    exists_applyAllSets_of_no_code (m := m) (p := ⟨tree, .ofOutcome .completed⟩) hcode
  refine ⟨p, run_value_of_applyAllSets hload hprepare hp, ?_⟩
  -- the document of the rule set is not selected, so that it is found again
  have hload' : (m.loadRuleSet p.tree).value = .ok (some r) := by
    rw [loadRuleSet_congr (hchanged.read_of_not_selected hrules), hload]
  refine run_value_of_applyAllSets hload' hprepare (applyAllSets_of_settled ?_)
  intro set hset path hpath bytes source hread htext
  obtain ⟨hmem, hselects⟩ := List.mem_filter.1 hpath
  -- the file has been through all rules that it sees
  have hcode' : ∀ set ∈ sets, set.selector.selects path = true → FileKind.ofPath path ≠ .code :=
    fun set hset hselects => hcode set hset path
      (List.mem_filter.2 ⟨hchanged.paths.mem_iff.1 hmem, hselects⟩)
  rw [hchanged.read, IsolatedTree.strip_of_mem_paths hmem, Option.map_eq_some_iff] at hread
  obtain ⟨old, -, rfl⟩ := hread
  obtain ⟨text, htext⟩ := exists_eq_applyAll hcode' htext
  refine ⟨strategyOf path set.rules, ?_⟩
  rw [transform_of_ne_code (hcode' set hset hselects), Logged.value_pure, htext,
    applyAll_rulesFor_idem hprepare hkind hown hback hset hselects]

/-! ### Rules that follow each other -/

/-- A word goes through two rules, and in markup through a third. -/
def chainDocument : String :=
  "\x7b\"api\":[[null,[\"**/*\"],[[\"a\",\"b\"],[\"b\",\"c\"]]]," ++
    "[null,[\"**/*.html\"],[],[[\"c\",\"d d\"]]]]\x7d"

def chainRuleSet : RuleSet :=
  ⟨[("api", some [⟨none, ["**/*"], [⟨"a", "b", false⟩, ⟨"b", "c", false⟩], none⟩,
    ⟨none, ["**/*.html"], [], some [⟨"c", "d d", false⟩]⟩])]⟩

def chainSets : List PreparedSet :=
  let roots := ["src/app/".toList, "src/lib/".toList]
  [⟨"api", "**/*", ["**/*"], ⟨roots, [[.anyNames, .anySequence]]⟩,
      ⟨[.word ['a'] ['b'], .word ['b'] ['c']], []⟩⟩,
    ⟨"api", "**/*.html", ["**/*.html"],
      ⟨roots, [[.anyNames, .anySequence, .char '.', .char 'h', .char 't', .char 'm', .char 'l']]⟩,
      ⟨[], [.word ['c'] "d d".toList]⟩⟩]

def chainTree : MemoryTree :=
  .ofFiles [("api-changes.json", chainDocument.toUTF8), ("src/app/a.html", "a-ab".toUTF8),
    ("src/app/b.txt", "b a".toUTF8)]

/-- The first run takes every word to the end of its chain. -/
theorem second_run_changes_nothing_chain :
    (sampleMigration.loadRuleSet chainTree).value = .ok (some chainRuleSet) ∧
      (sampleMigration.prepare chainRuleSet).value = .ok chainSets ∧
      ∃ p, (sampleMigration.run chainTree).value = .ok p ∧
        p.tree.read "src/app/a.html" = some "d d-ab".toUTF8 ∧
        p.tree.read "src/app/b.txt" = some "c c".toUTF8 ∧
        (sampleMigration.run p.tree).value = .ok ⟨p.tree, .ofOutcome .completed⟩ := by
  have hload : (sampleMigration.loadRuleSet chainTree).value = .ok (some chainRuleSet) := by
    decide +kernel
  have hprepare : (sampleMigration.prepare chainRuleSet).value = .ok chainSets := by rfl
  obtain ⟨p, hok, hagain⟩ :=
    second_run_changes_nothing sampleMigration chainTree hload hprepare (by decide +kernel)
      (by decide +kernel) (by decide +kernel) (by decide +kernel) (by decide +kernel)
  obtain ⟨q, hq, hchanged⟩ := exists_run_changed chainTree sound_sampleMigration hload hprepare
  obtain rfl : p = q := Except.ok.inj (hok.symm.trans hq)
  have hread : ∀ path, p.tree.read path = (chainTree.read path).map
      (migrated sampleMigration.provider (Path.strip path) chainSets) := hchanged.read
  refine ⟨hload, hprepare, p, hok, ?_, ?_, hagain⟩
  · rw [hread]
    decide +kernel
  · rw [hread]
    decide +kernel

end Codemod
