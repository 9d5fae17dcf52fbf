import Codemod.Proofs.Conventions
import Codemod.Proofs.GlobTexts
import Codemod.Proofs.Validation

/-!
# Only declared patterns are refused

Change sets are made ready with more patterns than they declare, and their replacements are compiled
for the second time.  Neither of the two makes a rule set fail that has been read: expanding a glob
exchanges inert texts only and gives globs, wherever in the pattern it is done, and replacements
compile as they did before.  The first declared pattern that is no glob stands in front of everything
that comes from it or from later ones, so that it is the one that is told.

## Main definitions

* `Judged` — an answer is right for patterns.
* `RuleSet.declaredPatterns` — the patterns of all change sets.

## Main results

* `Naming.isGlob_of_mem_patternsFor` — the patterns that stand for a glob are globs.
* `Judged.bind` — answers that are right one after another.
* `Selector.judged_expandAll` — a selector for expanded patterns fails for a declared one.
* `prepare_refuses_declared_only` — **making ready fails for the first declared pattern that is no
  glob, and for nothing else.**
-/

namespace Codemod

/-! ### Expanding globs -/

namespace Glob

@[simp]
theorem isGlob_strip_iff {p : String} : IsGlob (Path.strip p).toList ↔ IsGlob p.toList := by
  have hsame : (∃ e, parse (Path.strip p).toList = .error e) ↔ ∃ e, parse p.toList = .error e := by
    rw [Path.strip, String.toList_ofList]
    exact exists_congr fun e => parse_stripChars_eq_error_iff
  rw [exists_parse_error_iff, exists_parse_error_iff] at hsame
  exact not_iff_not.1 hsame

end Glob

namespace Naming

namespace Parts

variable {n : Naming} (p : n.Parts)

/-- What may stand between the stem and the extension. -/
def middles : List String := ["." ++ p.segment, "-" ++ p.segment, ""]

/-- With the dot of the extension after it, no middle is empty. -/
theorem isInert_middle (hsegment : IsLetters p.segment) {middle : String}
    (hmiddle : middle ∈ p.middles) : Glob.IsInert (middle.toList ++ ['.']) := by
  have hdelimiters : ∀ c ∈ Glob.delimiters, c ≠ '.' ∧ c ≠ '-' ∧ c.isAlpha = false := by
    simp [Glob.delimiters]
  refine ⟨by simp, fun c hc => ?_⟩
  obtain ⟨hdot, hdash, hletter⟩ := hdelimiters c hc
  have hnotMem : c ∉ p.segment.toList := hsegment.notMem hletter
  simp only [middles, List.mem_cons, List.not_mem_nil, or_false] at hmiddle
  rcases hmiddle with rfl | rfl | rfl
  · simp [hdot, hnotMem]
  · simp [hdot, hdash, hnotMem]
  · simp [hdot]

/-- A pattern is a glob in all spellings, or in none. -/
theorem isGlob_spelled (hsegment : IsLetters p.segment) {middle middle' : String}
    (hmiddle : middle ∈ p.middles) (hmiddle' : middle' ∈ p.middles)
    (hglob : Glob.IsGlob (p.spelled middle).toList) : Glob.IsGlob (p.spelled middle').toList := by
  obtain ⟨rest, hextension, -⟩ := p.isExtension
  have hspelled : ∀ middle : String, (p.spelled middle).toList =
      p.dir.toList ++ p.stem.toList ++ (middle.toList ++ ['.'] ++ rest) := by
    intro middle
    simp [toList_spelled, hextension]
  rw [hspelled]
  exact hglob.exchange (p.isInert_middle hsegment hmiddle) (p.isInert_middle hsegment hmiddle')
    (hspelled middle)

end Parts

variable {n : Naming} (hsegments : ∀ s ∈ n.segments, IsLetters s)
include hsegments

/-- The patterns that stand for a glob are globs. -/
theorem isGlob_of_mem_patternsFor {p x : String} (hp : Glob.IsGlob p.toList)
    (hx : x ∈ n.patternsFor p) : Glob.IsGlob x.toList := by
  rcases mem_patternsFor_iff.1 hx with rfl | hx
  · exact hp
  rcases n.siblings_cases p with hnone | ⟨parts, hspelled, hnamings⟩
  · rw [hnone] at hx
    cases hx
  · have hglob : ∀ middle ∈ parts.middles, Glob.IsGlob (parts.spelled middle).toList := by
      intro middle hmiddle
      have hsegment := hsegments _ parts.segment_mem
      rcases hspelled with rfl | rfl
      · exact parts.isGlob_spelled hsegment (by simp [Parts.middles]) hmiddle hp
      · exact parts.isGlob_spelled hsegment (by simp [Parts.middles]) hmiddle hp
    rw [hnamings] at hx
    rcases parts.mem_namings_iff.1 hx with rfl | rfl | ⟨-, rfl⟩
    · exact hglob _ (by simp [Parts.middles])
    · exact hglob _ (by simp [Parts.middles])
    · exact hglob _ (by simp [Parts.middles])

end Naming

/-! ### Right answers -/

/-- `Judged patterns answer` says that `answer` is right for `patterns`: all of them are globs and
it accepts, or it refuses the first that is none. -/
inductive Judged {α : Type} (patterns : List String) : Except MigrationError α → Prop
  | accepted {a : α} : (∀ p ∈ patterns, Glob.IsGlob p.toList) → Judged patterns (.ok a)
  | refused {before after : List String} {p : String} {reason : GlobError} :
      patterns = before ++ p :: after → (∀ q ∈ before, Glob.IsGlob q.toList) →
      Glob.parse p.toList = .error reason → Judged patterns (.error (.pattern p reason.message))

namespace Judged

variable {α β : Type} {ps qs : List String} {x : Except MigrationError α}

/-- Answers that are right one after another. -/
theorem bind {f : α → Except MigrationError β} (hx : Judged ps x) (hf : ∀ a, Judged qs (f a)) :
    Judged (ps ++ qs) (x >>= f) := by
  cases hx with
  | refused hps hbefore hreason =>
    subst hps
    exact .refused (List.append_assoc _ _ _) hbefore hreason
  | @accepted a hps =>
    have hfa := hf a
    show Judged (ps ++ qs) (f a)
    generalize f a = y at hfa ⊢
    cases hfa with
    | accepted hqs => exact .accepted (List.forall_mem_append.2 ⟨hps, hqs⟩)
    | refused hqs hbefore hreason =>
      subst hqs
      exact .refused (List.append_assoc _ _ _).symm (List.forall_mem_append.2 ⟨hps, hbefore⟩) hreason

/-- Going on in a way that does not fail leaves an answer right. -/
theorem bind_ok {f : α → Except MigrationError β} (hx : Judged ps x)
    (hf : ∀ a, ∃ b, f a = .ok b) : Judged ps (x >>= f) := by
  have hnone : ∀ a, Judged [] (f a) := by
    intro a
    obtain ⟨b, hb⟩ := hf a
    rw [hb]
    exact .accepted (by simp)
  simpa using hx.bind hnone

/-- Globs are accepted. -/
theorem exists_ok (hx : Judged ps x) (hps : ∀ p ∈ ps, Glob.IsGlob p.toList) :
    ∃ a, x = .ok a := by
  cases hx with
  | accepted => exact ⟨_, rfl⟩
  | @refused before after p reason heq _ hreason =>
    have hp : p ∈ ps := heq ▸ List.mem_append_right _ List.mem_cons_self
    exact absurd (hps p hp) (Glob.exists_parse_error_iff.1 ⟨reason, hreason⟩)

/-- Patterns have one first that is no glob. -/
theorem first_unique {before before' after after' : List String} {p p' : String}
    (h : before ++ p :: after = before' ++ p' :: after')
    (hbefore : ∀ q ∈ before, Glob.IsGlob q.toList) (hp : ¬Glob.IsGlob p.toList)
    (hbefore' : ∀ q ∈ before', Glob.IsGlob q.toList) (hp' : ¬Glob.IsGlob p'.toList) : p = p' := by
  induction before generalizing before' with
  | nil =>
    cases before' with
    | nil => exact (List.cons.inj h).1
    | cons q before' =>
      obtain ⟨rfl, -⟩ := List.cons.inj h
      exact absurd (hbefore' p List.mem_cons_self) hp
  | cons q before ih =>
    cases before' with
    | nil =>
      obtain ⟨rfl, -⟩ := List.cons.inj h
      exact absurd (hbefore q List.mem_cons_self) hp'
    | cons q' before' =>
      exact ih (List.cons.inj h).2 (List.forall_mem_cons.1 hbefore).2
        (List.forall_mem_cons.1 hbefore').2

/-- There is one right way to refuse patterns. -/
theorem eq_error {before after : List String} {p : String} {reason : GlobError}
    (hx : Judged (before ++ p :: after) x) (hbefore : ∀ q ∈ before, Glob.IsGlob q.toList)
    (hreason : Glob.parse p.toList = .error reason) : x = .error (.pattern p reason.message) := by
  have hp : ¬Glob.IsGlob p.toList := Glob.exists_parse_error_iff.1 ⟨reason, hreason⟩
  cases hx with
  | accepted hall => exact absurd (hall p (by simp)) hp
  | @refused before' after' p' reason' heq hbefore' hreason' =>
    have hp' : ¬Glob.IsGlob p'.toList := Glob.exists_parse_error_iff.1 ⟨reason', hreason'⟩
    obtain rfl := first_unique heq hbefore hp hbefore' hp'
    cases hreason.symm.trans hreason'
    rfl

end Judged

/-! ### Selectors -/

namespace Naming

variable {n : Naming}

theorem value_expandInto_append (n : Naming) (ps qs : List String) :
    ∀ found, (n.expandInto found (ps ++ qs)).value =
      (n.expandInto (n.expandInto found ps).value qs).value := by
  induction ps with
  | nil => exact fun _ => rfl
  | cons p ps ih =>
    intro found
    rw [List.cons_append, expandInto, expandInto, Logged.value_bind, Logged.value_bind, ih]

theorem prefix_expandInto (n : Naming) (ps : List String) :
    ∀ found, found <+: (n.expandInto found ps).value := by
  induction ps with
  | nil => exact fun found => List.prefix_rfl
  | cons p ps ih =>
    intro found
    rw [expandInto, Logged.value_bind]
    exact (prefix_foldl_insertNew _ found).trans (ih _)

/-- A pattern that those before it do not stand for comes right after what they stand for. -/
theorem exists_expandAll_append {before : List String} {p : String}
    (hp : p ∉ (n.expandAll before).value) (after : List String) :
    ∃ more, (n.expandAll (before ++ p :: after)).value = (n.expandAll before).value ++ p :: more := by
  obtain ⟨others, hothers⟩ := List.head?_eq_some_iff.1 (n.head?_patternsFor p)
  have hinsert : insertNew (n.expandAll before).value p = (n.expandAll before).value ++ [p] :=
    if_neg hp
  obtain ⟨more, hmore⟩ := (prefix_foldl_insertNew others _).trans
    (n.prefix_expandInto after (others.foldl insertNew ((n.expandAll before).value ++ [p])))
  refine ⟨more, ?_⟩
  rw [expandAll, value_expandInto_append, expandInto, Logged.value_bind, value_expand, hothers,
    List.foldl_cons, ← expandAll, hinsert, ← hmore, List.append_assoc, List.singleton_append]

end Naming

namespace Selector

theorem judged_globsOf (ps : List String) : Judged (ps.map Path.strip) (globsOf ps) := by
  induction ps with
  | nil => exact .accepted (by simp)
  | cons p ps ih =>
    rw [List.map_cons, ← List.singleton_append, globsOf]
    cases hparse : Glob.parse (Path.strip p).toList with
    | ok g =>
      have hglob : Judged [Path.strip p] (.ok g : Except MigrationError Glob) := by
        refine .accepted fun q hq => ?_
        rw [List.mem_singleton.1 hq]
        exact Glob.exists_parse_iff.1 ⟨g, hparse⟩
      exact hglob.bind fun glob => ih.bind_ok fun globs => ⟨glob :: globs, rfl⟩
    | error reason => exact .refused (List.nil_append _).symm (by simp) hparse

theorem judged_ofPatterns (roots ps : List String) :
    Judged (ps.map Path.strip) (ofPatterns roots ps) :=
  (judged_globsOf ps).bind_ok fun _ => ⟨_, rfl⟩

/-- A selector for expanded patterns fails for the first declared pattern that is no glob. -/
theorem judged_expandAll {n : Naming} (hsegments : ∀ s ∈ n.segments, Naming.IsLetters s)
    (roots ps : List String) :
    Judged (ps.map Path.strip) (ofPatterns roots (n.expandAll ps).value) := by
  have hexpanded := judged_ofPatterns roots (n.expandAll ps).value
  have hglobs : ∀ {qs : List String}, (∀ q ∈ qs.map Path.strip, Glob.IsGlob q.toList) →
      ∀ x ∈ (n.expandAll qs).value, Glob.IsGlob x.toList := by
    intro qs hqs x hx
    obtain ⟨q, hq, hx⟩ := Naming.mem_expandAll_iff.1 hx
    have hq := Glob.isGlob_strip_iff.1 (hqs _ (List.mem_map_of_mem hq))
    exact Naming.isGlob_of_mem_patternsFor hsegments hq hx
  have hstripped : ∀ {qs : List String}, (∀ q ∈ qs, Glob.IsGlob q.toList) →
      ∀ q ∈ qs.map Path.strip, Glob.IsGlob q.toList := by simp
  have hdeclared := judged_globsOf ps
  generalize globsOf ps = answer at hdeclared
  cases hdeclared with
  | accepted hps =>
    obtain ⟨selector, hselector⟩ := hexpanded.exists_ok (hstripped (hglobs hps))
    rw [hselector]
    exact .accepted hps
  | refused hps hbefore hreason =>
    obtain ⟨before, rest, rfl, rfl, hrest⟩ := List.map_eq_append_iff.1 hps
    obtain ⟨p, after, rfl, rfl, rfl⟩ := List.map_eq_cons_iff.1 hrest
    -- those before the pattern stand for globs only, so that it has not been inserted for them
    have hp : p ∉ (n.expandAll before).value := fun hmem =>
      Glob.exists_parse_error_iff.1 ⟨_, hreason⟩ (Glob.isGlob_strip_iff.2 (hglobs hbefore p hmem))
    obtain ⟨more, hmore⟩ := Naming.exists_expandAll_append hp after
    rw [hmore, List.map_append, List.map_cons] at hexpanded
    rw [hmore, hexpanded.eq_error (hstripped (hglobs hbefore)) hreason]
    exact .refused hps hbefore hreason

end Selector

/-! ### Change sets -/

theorem RuleSet.exists_compile_of_check {regex : Regex.Compiler} {cs : List (String × ChangeSet)}
    (h : check regex cs = .ok ()) : ∀ c ∈ cs, ∃ rules, c.2.compile regex = .ok rules := by
  induction cs with
  | nil => simp
  | cons c cs ih =>
    rw [check] at h
    cases hrules : c.2.compile regex with
    | error e =>
      rw [hrules] at h
      cases h
    | ok rules =>
      rw [hrules] at h
      exact List.forall_mem_cons.2 ⟨⟨rules, hrules⟩, ih h⟩

section Prepare

variable {m : Migration} (hsegments : ∀ s ∈ m.config.naming.segments, Naming.IsLetters s)
include hsegments

theorem judged_prepareSet (category : String) {s : ChangeSet}
    (hs : ∃ rules, s.compile m.regex = .ok rules) :
    Judged (s.filePatterns.map Path.strip) (m.prepareSet category s).value := by
  obtain ⟨rules, hrules⟩ := hs
  rw [Migration.prepareSet, Logged.value_bind, Logged.value_pure, hrules]
  exact (Selector.judged_expandAll hsegments _ _).bind_ok fun selector => ⟨_, rfl⟩

theorem judged_prepareSets {cs : List (String × ChangeSet)}
    (hcs : ∀ c ∈ cs, ∃ rules, c.2.compile m.regex = .ok rules) :
    Judged (cs.flatMap fun c => c.2.filePatterns.map Path.strip) (m.prepareSets cs).value := by
  induction cs with
  | nil => exact .accepted (by simp)
  | cons c cs ih =>
    obtain ⟨hc, hcs⟩ := List.forall_mem_cons.1 hcs
    rw [List.flatMap_cons, Migration.prepareSets, Logged.value_andThen]
    refine (judged_prepareSet hsegments c.1 hc).bind fun set => ?_
    rw [Logged.value_andThen]
    exact (ih hcs).bind_ok fun sets => ⟨set :: sets, rfl⟩

end Prepare

/-- The patterns of all change sets in the order in which they are applied, without the slashes at
their starts. -/
def RuleSet.declaredPatterns (r : RuleSet) : List String :=
  r.changeSets.flatMap fun c => c.2.filePatterns.map Path.strip

/-- **Making ready fails for the first declared pattern that is no glob, and for nothing else.**  The
patterns that stand for a glob are globs, and the replacements compile again. -/
theorem prepare_refuses_declared_only (m : Migration)
    (hsegments : ∀ s ∈ m.config.naming.segments, Naming.IsLetters s) (text : String) (r : RuleSet)
    (hr : RuleSet.ofJson m.regex text = .ok r) :
    ((∃ e, (m.prepare r).value = .error e) ↔
      ∃ p ∈ r.declaredPatterns, ¬Glob.IsGlob p.toList) ∧
    (∀ before p after, r.declaredPatterns = before ++ p :: after →
      (∀ q ∈ before, Glob.IsGlob q.toList) → ¬Glob.IsGlob p.toList →
        ∃ reason, Glob.parse p.toList = .error reason ∧
          (m.prepare r).value = .error (.pattern p reason.message)) ∧
    ∀ c ∈ r.changeSets, (∃ rules, c.2.compile m.regex = .ok rules) ∧
      ∀ p ∈ c.2.filePatterns, Glob.IsGlob (Path.strip p).toList →
        ∀ x ∈ (m.config.naming.expand p).value, Glob.IsGlob (Path.strip x).toList := by
  have hcompile := RuleSet.exists_compile_of_check (RuleSet.ofJson_eq_ok_iff.1 hr).2
  have hjudged : Judged r.declaredPatterns (m.prepare r).value :=
    judged_prepareSets hsegments hcompile
  refine ⟨⟨?_, ?_⟩, ?_, fun c hc => ⟨hcompile c hc, ?_⟩⟩
  · rintro ⟨e, he⟩
    rw [he] at hjudged
    cases hjudged with
    | @refused before after p reason heq _ hreason =>
      exact ⟨p, heq ▸ by simp, Glob.exists_parse_error_iff.1 ⟨reason, hreason⟩⟩
  · rintro ⟨p, hp, hglob⟩
    generalize (m.prepare r).value = answer at hjudged
    cases hjudged with
    | accepted hall => exact absurd (hall p hp) hglob
    | refused => exact ⟨_, rfl⟩
  · intro before p after heq hbefore hp
    obtain ⟨reason, hreason⟩ := Glob.exists_parse_error_iff.2 hp
    rw [heq] at hjudged
    exact ⟨reason, hreason, hjudged.eq_error hbefore hreason⟩
  · intro p _ hp x hx
    rw [Naming.value_expand] at hx
    rw [Glob.isGlob_strip_iff] at hp ⊢
    exact Naming.isGlob_of_mem_patternsFor hsegments hp hx

/-- A class that a segment stands in, which is closed, and another, which is not. -/
def bracketedDocument : String :=
  "\x7b\"a\":[[null,[\"src/[!.component.]x\"],[[\"old\",\"new\"]]]]," ++
    "\"b\":[[null,[\"/src/[a-component.ts\",\"src/[a.component.ts\"]]]\x7d"

def bracketedRuleSet : RuleSet :=
  ⟨[("a", some [⟨none, ["src/[!.component.]x"], [⟨"old", "new", false⟩], none⟩]),
    ("b", some [⟨none, ["/src/[a-component.ts", "src/[a.component.ts"], [], none⟩])]⟩

theorem prepare_refuses_declared_only_bracketed :
    (∀ s ∈ sampleMigration.config.naming.segments, Naming.IsLetters s) ∧
      RuleSet.ofJson sampleMigration.regex bracketedDocument = .ok bracketedRuleSet ∧
      (sampleMigration.prepare bracketedRuleSet).value =
        .error (.pattern "src/[a-component.ts" "invalid range pattern") ∧
      ∀ x ∈ (sampleMigration.config.naming.expand "src/[!.component.]x").value,
        Glob.IsGlob (Path.strip x).toList := by
  have hsegments : ∀ s ∈ sampleMigration.config.naming.segments, Naming.IsLetters s := by decide
  have hr : RuleSet.ofJson sampleMigration.regex bracketedDocument = .ok bracketedRuleSet := by
    decide +kernel
  obtain ⟨-, hfirst, hexpanded⟩ :=
    prepare_refuses_declared_only sampleMigration hsegments bracketedDocument bracketedRuleSet hr
  obtain ⟨reason, hreason, hvalue⟩ := hfirst ["src/[!.component.]x"] "src/[a-component.ts"
    ["src/[a.component.ts"] (by decide +kernel) (by decide +kernel) (by decide +kernel)
  have hrange : Glob.parse "src/[a-component.ts".toList = .error .range := by decide +kernel
  cases hrange.symm.trans hreason
  refine ⟨hsegments, hr, hvalue, ?_⟩
  exact (hexpanded _ List.mem_cons_self).2 _ List.mem_cons_self (by decide +kernel)

end Codemod
