import Codemod.Proofs.Isolation
import Codemod.Proofs.Namings
import Codemod.Proofs.Simulation

/-!
# Rule sets are accepted as a whole

A rule set is looked at twice before the first file is written: when its document is read, and when
its change sets are made ready.  Together the two find every defect of every change set, wherever it
stands, and a run that stops there has done nothing.

## Main definitions

* `ChangeSet.IsDefective` — what may be wrong with a change set.
* `RuleSet.readWritten` — the categories of a document as they are written, repetitions included.
* `RuleSet.IsFaulty` — a document that must not be applied.

## Main results

* `Glob.parse_stripChars_eq_error_iff` — slashes at the start of a pattern do not matter for whether
  it is a glob.
* `RuleSet.read_eq_readWritten` — of a category that is written twice, the last value counts.
* `not_isDefective_of_prepareSet` — a change set that has been made ready has no defect.
* `run_refuses_faulty` — **a faulty rule set is refused, and nothing has been done then.**
-/

namespace Codemod

open Json

/-! ### Globs -/

namespace Glob

/-- Whether the rest of a pattern is read does not depend on what has been read, except for whether
a name starts there. -/
theorem parseFrom_eq_error_iff {e : GlobError} :
    ∀ {cs : List Char} {prev prev' : Option Char} {read read' : List GlobToken} {skip : Nat},
      prev.all (· = '/') = prev'.all (· = '/') →
      (parseFrom prev read skip cs = .error e ↔ parseFrom prev' read' skip cs = .error e) := by
  intro cs
  induction cs with
  | nil =>
    intro prev prev' read read' skip _
    rw [parseFrom, parseFrom]
    simp
  | cons c rest ih =>
    intro prev prev' read read' skip hprev
    cases skip with
    | succ skip => exact ih rfl
    | zero =>
      -- only stars look back, and only for a slash
      have htoken : readToken prev c rest = readToken prev' c rest := by
        rw [readToken, readToken, readStars, readStars, hprev]
      rw [parseFrom, parseFrom, htoken]
      cases readToken prev' c rest with
      | error e' => rfl
      | ok t => exact ih rfl

/-- Slashes at the start of a pattern do not matter for whether it is a glob. -/
theorem parse_stripChars_eq_error_iff {cs : List Char} {e : GlobError} :
    parse (Path.stripChars cs) = .error e ↔ parse cs = .error e := by
  induction cs with
  | nil => rfl
  | cons c cs ih =>
    by_cases hc : c = '/'
    · subst hc
      have hstrip : Path.stripChars ('/' :: cs) = Path.stripChars cs := rfl
      rw [hstrip, ih]
      have hprev : (none : Option Char).all (· = '/') = (some '/').all (· = '/') := rfl
      exact parseFrom_eq_error_iff hprev
    · rw [Path.stripChars, List.dropWhile_cons_of_neg (by simpa using hc)]

end Glob

/-! ### Replacements and change sets -/

/-- `r.IsDefective regex` says that `r` cannot be made ready: it replaces nothing, or `regex`
refuses its regular expression. -/
def Replacement.IsDefective (regex : Regex.Compiler) (r : Replacement) : Prop :=
  r.old = "" ∨ r.isRegex = true ∧ ∃ reason, regex r.old.toList = .error reason

/-- `s.IsDefective regex` says that something is wrong with the change set `s`, if `regex` compiles
its regular expressions. -/
inductive ChangeSet.IsDefective (regex : Regex.Compiler) (s : ChangeSet) : Prop
  | noPatterns : s.filePatterns = [] → s.IsDefective regex
  | blankPattern {p : String} : p ∈ s.filePatterns → ChangeSet.isBlankPattern p = true →
      s.IsDefective regex
  | noGlob {p : String} {e : GlobError} : p ∈ s.filePatterns → Glob.parse p.toList = .error e →
      s.IsDefective regex
  | replacement {r : Replacement} : r ∈ s.replacements → r.IsDefective regex → s.IsDefective regex
  | markupReplacement {rs : List Replacement} {r : Replacement} : s.markupReplacements = some rs →
      r ∈ rs → r.IsDefective regex → s.IsDefective regex

section Compile

variable {regex : Regex.Compiler}

theorem Replacement.exists_compile_iff {r : Replacement} :
    (∃ rule, r.compile regex = .ok rule) ↔ ¬r.IsDefective regex := by
  rw [IsDefective, not_or, compile]
  by_cases hold : r.old = ""
  · simp [hold]
  · have hempty : r.old.isEmpty = false := by simpa using hold
    rw [hempty]
    by_cases hregex : r.isRegex = true
    · cases regex r.old.toList <;> simp [hold, hregex]
    · simp [hold, hregex]

theorem exists_compileAll_iff {rs : List Replacement} :
    (∃ rules, compileAll regex rs = .ok rules) ↔ ∀ r ∈ rs, ¬r.IsDefective regex := by
  induction rs with
  | nil => simp [compileAll]
  | cons r rs ih =>
    rw [List.forall_mem_cons, ← ih, ← Replacement.exists_compile_iff, compileAll]
    cases r.compile regex with
    | error e => simp [bind, Except.bind]
    | ok rule => cases compileAll regex rs <;> simp [bind, Except.bind, pure, Except.pure]

theorem ChangeSet.exists_compile_iff {s : ChangeSet} :
    (∃ rules, s.compile regex = .ok rules) ↔
      s.filePatterns ≠ [] ∧ (∀ p ∈ s.filePatterns, isBlankPattern p = false) ∧
        (∀ r ∈ s.replacements, ¬r.IsDefective regex) ∧
        ∀ r ∈ s.markupReplacements.getD [], ¬r.IsDefective regex := by
  rw [← exists_compileAll_iff, ← exists_compileAll_iff, compile]
  by_cases hnone : s.filePatterns = []
  · simp [hnone]
  · have hempty : s.filePatterns.isEmpty = false := by simpa using hnone
    rw [hempty, if_neg (by simp)]
    cases hblank : s.filePatterns.find? isBlankPattern with
    | some p =>
      constructor
      · rintro ⟨rules, h⟩
        cases h
      · rintro ⟨-, hall, -⟩
        have hp := List.find?_some hblank
        rw [hall p (List.mem_of_find?_eq_some hblank)] at hp
        cases hp
    | none =>
      have hall : ∀ p ∈ s.filePatterns, isBlankPattern p = false := by
        simpa using hblank
      rw [and_iff_right hnone, and_iff_right hall]
      cases compileAll regex s.replacements with
      | error e => simp [bind, Except.bind]
      | ok rules =>
        cases compileAll regex (s.markupReplacements.getD []) <;>
          simp [bind, Except.bind, pure, Except.pure]

end Compile

/-! ### Making ready -/

section Prepare

variable {m : Migration}

/-- What a change set that has been made ready is made of. -/
theorem prepareSet_eq_ok {category : String} {s : ChangeSet} {set : PreparedSet}
    (h : (m.prepareSet category s).value = .ok set) :
    ∃ selector rules, Selector.ofPatterns m.config.scopeRoots
          (m.config.naming.expandAll s.filePatterns).value = .ok selector ∧
      s.compile m.regex = .ok rules ∧
      set = ⟨category, s.label, (m.config.naming.expandAll s.filePatterns).value, selector,
        rules⟩ := by
  rw [Migration.prepareSet, Logged.value_bind, Logged.value_pure] at h
  cases hselector : Selector.ofPatterns m.config.scopeRoots
      (m.config.naming.expandAll s.filePatterns).value with
  | error e => simp [hselector, bind, Except.bind] at h
  | ok selector =>
    cases hrules : s.compile m.regex with
    | error e => simp [hselector, hrules, bind, Except.bind] at h
    | ok rules =>
      simp only [hselector, hrules, bind, Except.bind, pure, Except.pure, Except.ok.injEq] at h
      exact ⟨selector, rules, rfl, rfl, h.symm⟩

theorem prepareSet_value {category : String} {s : ChangeSet} {set : PreparedSet}
    (h : (m.prepareSet category s).value = .ok set) :
    Selector.ofPatterns m.config.scopeRoots (m.config.naming.expandAll s.filePatterns).value =
        .ok set.selector ∧
      s.compile m.regex = .ok set.rules := by
  obtain ⟨selector, rules, hselector, hrules, rfl⟩ := prepareSet_eq_ok h
  exact ⟨hselector, hrules⟩

/-- All change sets have been made ready, one by one. -/
theorem forall₂_prepareSets :
    ∀ {cs : List (String × ChangeSet)} {sets : List PreparedSet},
      (m.prepareSets cs).value = .ok sets →
      List.Forall₂ (fun c set => (m.prepareSet c.1 c.2).value = .ok set) cs sets := by
  intro cs
  induction cs with
  | nil =>
    intro sets h
    cases h
    exact .nil
  | cons c cs ih =>
    intro sets h
    rw [Migration.prepareSets] at h
    cases hset : (m.prepareSet c.1 c.2).value with
    | error e =>
      rw [Logged.value_andThen_of_error _ hset] at h
      cases h
    | ok set =>
      rw [Logged.value_andThen_of_ok _ hset] at h
      cases hrest : (m.prepareSets cs).value with
      | error e =>
        rw [Logged.value_andThen_of_error _ hrest] at h
        cases h
      | ok sets' =>
        rw [Logged.value_andThen_of_ok _ hrest] at h
        cases h
        exact .cons hset (ih hrest)

/-- Change sets stay in the order of the document, with their categories and labels. -/
theorem names_of_prepareSets {cs : List (String × ChangeSet)} {sets : List PreparedSet}
    (h : (m.prepareSets cs).value = .ok sets) :
    sets.map (fun set => (set.category, set.label)) = cs.map fun c => (c.1, c.2.label) := by
  symm
  rw [← List.forall₂_eq_eq_eq, List.forall₂_map_left_iff, List.forall₂_map_right_iff]
  refine (forall₂_prepareSets h).imp fun c set hset => ?_
  obtain ⟨selector, rules, -, -, rfl⟩ := prepareSet_eq_ok hset
  rfl

/-- All change sets have been made ready, and nothing else has. -/
theorem prepareSets_value {cs : List (String × ChangeSet)} {sets : List PreparedSet}
    (h : (m.prepareSets cs).value = .ok sets) :
    (∀ c ∈ cs, ∃ set ∈ sets, (m.prepareSet c.1 c.2).value = .ok set) ∧
      ∀ set ∈ sets, ∃ c ∈ cs, (m.prepareSet c.1 c.2).value = .ok set := by
  have hready := forall₂_prepareSets h
  clear h
  induction hready with
  | nil => simp
  | cons hset _ ih =>
    simp only [List.forall_mem_cons, List.exists_mem_cons_iff]
    exact ⟨⟨Or.inl hset, fun c hc => Or.inr (ih.1 c hc)⟩,
      Or.inl hset, fun set hset' => Or.inr (ih.2 set hset')⟩

/-- A change set that has been made ready has no defect. -/
theorem not_isDefective_of_prepareSet {category : String} {s : ChangeSet} {set : PreparedSet}
    (h : (m.prepareSet category s).value = .ok set) : ¬s.IsDefective m.regex := by
  obtain ⟨hselector, hrules⟩ := prepareSet_value h
  obtain ⟨hpatterns, hblank, hreplacements, hmarkup⟩ := ChangeSet.exists_compile_iff.1 ⟨_, hrules⟩
  rintro (hnone | ⟨hp, hisBlank⟩ | ⟨hp, hparse⟩ | ⟨hr, hdefect⟩ | ⟨hrs, hr, hdefect⟩)
  · exact hpatterns hnone
  · rw [hblank _ hp] at hisBlank
    cases hisBlank
  · -- the pattern is among those that it stands for, and all of these are globs
    obtain ⟨g, -, hglob⟩ := Selector.parse_of_ofPatterns hselector
      (Naming.mem_expandAll_iff.2 ⟨_, hp, Naming.mem_patternsFor_iff.2 (Or.inl rfl)⟩)
    rw [Path.strip, String.toList_ofList, Glob.parse_stripChars_eq_error_iff.2 hparse] at hglob
    cases hglob
  · exact hreplacements _ hr hdefect
  · rw [hrs] at hmarkup
    exact hmarkup _ hr hdefect

end Prepare

/-! ### Documents as they are written -/

namespace Json

/-- Fields may be read into anything from which what they are read into can be told. -/
theorem readFields_map {σ ρ : Type} {field : String → σ → Reader σ} {field' : String → ρ → Reader ρ}
    (g : ρ → σ)
    (hfield : ∀ name s cs, field name (g s) cs = (field' name s cs).map fun p => (g p.1, p.2)) :
    ∀ (fuel : Nat) (first : Bool) (s : ρ) (cs : List Char),
      readFields field fuel first (g s) cs =
        (readFields field' fuel first s cs).map fun p => (g p.1, p.2) := by
  intro fuel
  induction fuel with
  | zero => intro first s cs; rfl
  | succ fuel ih =>
    intro first s cs
    rw [readFields, readFields]
    cases nextField first cs with
    | error e => rfl
    | ok next =>
      obtain ⟨more, cs⟩ := next
      cases more with
      | false => rfl
      | true =>
        simp only [bind, Except.bind, if_true]
        cases readString cs with
        | error e => rfl
        | ok name =>
          simp only [hfield]
          cases field' name.1 s name.2 with
          | error e => rfl
          | ok p => exact ih false p.1 p.2

theorem readObject_map {σ ρ : Type} {field : String → σ → Reader σ}
    {field' : String → ρ → Reader ρ} (g : ρ → σ)
    (hfield : ∀ name s cs, field name (g s) cs = (field' name s cs).map fun p => (g p.1, p.2))
    (s : ρ) (cs : List Char) :
    readObject field (g s) cs = (readObject field' s cs).map fun p => (g p.1, p.2) := by
  unfold readObject
  rw [readFields_map g hfield]
  cases readFields field' (cs.length + 1) true s cs with
  | error e => rfl
  | ok p =>
    simp only [bind, Except.bind, Except.map]
    cases endObject p.2 <;> rfl

end Json

namespace RuleSet

/-- Reads a category after those before it. -/
def writtenField (name : String) (fields : List (String × Option (List ChangeSet))) :
    Reader (List (String × Option (List ChangeSet))) := fun cs => do
  let (_, cs) ← readColon cs
  let (sets, cs) ← readOption (readList readChangeSet) cs
  return (fields ++ [(name, sets)], cs)

/-- Reads the categories of a document as they are written, repetitions included. -/
def readWritten : Reader (List (String × Option (List ChangeSet))) := fun cs =>
  match skipBlanks cs with
  | '\x7b' :: rest => readObject writtenField [] rest
  | rest => .error (refuse "a map" rest)

/-- The rule set of categories as they are written. -/
def ofWritten (fields : List (String × Option (List ChangeSet))) : RuleSet :=
  ⟨fields.foldl (fun es f => insert f.1 f.2 es) []⟩

theorem read_eq_readWritten (cs : List Char) :
    read cs = (readWritten cs).map fun p => (ofWritten p.1, p.2) := by
  have hfield : ∀ name fields cs, categoryField name (ofWritten fields).entries cs =
      (writtenField name fields cs).map fun p => ((ofWritten p.1).entries, p.2) := by
    intro name fields cs
    rw [categoryField, writtenField]
    cases readColon cs with
    | error e => rfl
    | ok p =>
      simp only [bind, Except.bind]
      cases readOption (readList readChangeSet) p.2 with
      | error e => rfl
      | ok q => simp [Except.map, pure, Except.pure, ofWritten, List.foldl_append]
  have hobject : ∀ rest, readObject categoryField [] rest =
      (readObject writtenField [] rest).map fun p => ((ofWritten p.1).entries, p.2) :=
    readObject_map (fun fields => (ofWritten fields).entries) hfield []
  rw [read, readWritten]
  cases skipBlanks cs with
  | nil => rfl
  | cons c rest =>
    by_cases hc : c = '\x7b'
    · subst hc
      simp only [hobject]
      cases readObject writtenField [] rest <;> rfl
    · simp [hc, Except.map]

theorem readDocument_read (cs : List Char) :
    readDocument read cs = (readDocument readWritten cs).map ofWritten := by
  rw [readDocument, readDocument, read_eq_readWritten]
  cases readWritten cs with
  | error e => rfl
  | ok p =>
    simp only [bind, Except.bind, Except.map]
    split <;> rfl

theorem mem_insert_self (category : String) (sets : Option (List ChangeSet)) :
    ∀ es, (category, sets) ∈ insert category sets es := by
  intro es
  induction es with
  | nil => exact List.mem_singleton_self _
  | cons e es ih =>
    rw [insert]
    split
    · exact List.mem_cons_self
    · exact List.mem_cons_of_mem _ ih

theorem mem_insert_of_ne {category other : String} {sets others : Option (List ChangeSet)}
    (hne : other ≠ category) :
    ∀ {es}, (category, sets) ∈ es → (category, sets) ∈ insert other others es := by
  intro es
  induction es with
  | nil => intro h; cases h
  | cons e es ih =>
    intro h
    rw [insert]
    rcases List.mem_cons.1 h with rfl | h
    · rw [if_neg hne.symm]
      exact List.mem_cons_self
    · split
      · exact List.mem_cons_of_mem _ h
      · exact List.mem_cons_of_mem _ (ih h)

/-- The last value that is written for a category counts. -/
theorem mem_entries_ofWritten (before : List (String × Option (List ChangeSet)))
    {after : List (String × Option (List ChangeSet))} {category : String}
    {sets : Option (List ChangeSet)} (hlast : category ∉ after.map Prod.fst) :
    (category, sets) ∈ (ofWritten (before ++ (category, sets) :: after)).entries := by
  -- it is there once it has been inserted, and other categories leave it
  have hafter : ∀ (after : List (String × Option (List ChangeSet))), category ∉ after.map Prod.fst →
      ∀ es, (category, sets) ∈ es →
        (category, sets) ∈ after.foldl (fun es f => insert f.1 f.2 es) es := by
    intro after
    induction after with
    | nil => exact fun _ _ h => h
    | cons f after ih =>
      intro hlast es hes
      rw [List.map_cons, List.mem_cons, not_or] at hlast
      exact ih hlast.2 _ (mem_insert_of_ne (Ne.symm hlast.1) hes)
  rw [ofWritten, List.foldl_append, List.foldl_cons]
  exact hafter after hlast _ (mem_insert_self category sets _)

theorem mem_changeSets_of_mem_entries {r : RuleSet} {category : String} {sets : List ChangeSet}
    {s : ChangeSet} (hentry : (category, some sets) ∈ r.entries) (hs : s ∈ sets) :
    (category, s) ∈ r.changeSets := by
  have hcategory : (category, sets) ∈ r.categories :=
    List.mem_filterMap.2 ⟨_, hentry, rfl⟩
  exact List.mem_flatMap.2 ⟨_, hcategory, List.mem_map.2 ⟨s, hs, rfl⟩⟩

/-- `IsFaulty regex text` says that the document `text` must not be applied: it does not have the
structure of a rule set, or a change set of it is defective.  Of a category that is written more
than once only the last value counts. -/
def IsFaulty (regex : Regex.Compiler) (text : String) : Prop :=
  (∃ e, readDocument readWritten text.toList = .error e) ∨
    ∃ before category sets after s,
      readDocument readWritten text.toList = .ok (before ++ (category, some sets) :: after) ∧
        category ∉ after.map Prod.fst ∧ s ∈ sets ∧ s.IsDefective regex

/-- A document is accepted if it can be read and its change sets can be made ready. -/
theorem ofJson_eq_ok_iff {regex : Regex.Compiler} {text : String} {r : RuleSet} :
    ofJson regex text = .ok r ↔
      readDocument read text.toList = .ok r ∧ check regex r.changeSets = .ok () := by
  rw [ofJson]
  cases readDocument read text.toList with
  | error e => simp
  | ok r' =>
    simp only [bind, Except.bind, Except.ok.injEq]
    constructor
    · intro h
      cases hcheck : check regex r'.changeSets with
      | error e => simp [hcheck] at h
      | ok u =>
        simp only [hcheck, pure, Except.pure, Except.ok.injEq] at h
        exact ⟨h, h ▸ hcheck⟩
    · rintro ⟨rfl, hcheck⟩
      simp only [hcheck]
      rfl

end RuleSet

/-! ### Runs -/

section Run

variable {τ : Type} [FileTree τ] {m : Migration} {tree : τ}

/-- A faulty document is refused when it is read or when its change sets are made ready. -/
theorem refused_of_isFaulty {text : String} (h : RuleSet.IsFaulty m.regex text) :
    (∃ e, RuleSet.ofJson m.regex text = .error e) ∨
      ∃ r e, RuleSet.ofJson m.regex text = .ok r ∧ (m.prepare r).value = .error e := by
  cases hjson : RuleSet.ofJson m.regex text with
  | error e => exact Or.inl ⟨e, rfl⟩
  | ok r =>
    have hread := (RuleSet.ofJson_eq_ok_iff.1 hjson).1
    rw [RuleSet.readDocument_read] at hread
    rcases h with ⟨e, he⟩ | ⟨before, category, sets, after, s, hfields, hlast, hs, hdefect⟩
    · rw [he] at hread
      cases hread
    · rw [hfields] at hread
      cases hread
      have hmem := RuleSet.mem_changeSets_of_mem_entries
        (RuleSet.mem_entries_ofWritten before hlast) hs
      cases hprepare :
        (m.prepare (.ofWritten (before ++ (category, some sets) :: after))).value with
      | error e => exact Or.inr ⟨_, e, rfl, hprepare⟩
      | ok prepared =>
        obtain ⟨set, -, hset⟩ := (prepareSets_value hprepare).1 _ hmem
        exact absurd hdefect (not_isDefective_of_prepareSet hset)

/-- A run that applies change sets ends as completed. -/
theorem outcome_applyAllSets {sets : List PreparedSet} {p q : Progress τ}
    (hp : p.report.outcome = .completed) (hq : (m.applyAllSets sets p).value = .ok q) :
    q.report.outcome = .completed := by
  have hkept : Invariant (fun _ => True) fun p : Progress τ => p.report.outcome = .completed :=
    ⟨fun _ h => h, fun _ h _ _ => h⟩
  exact hkept.applyAllSets (fun _ _ _ _ _ _ => trivial) hp hq

/-- A run that does not end as completed has done nothing. -/
theorem eq_ofOutcome_of_ne_completed {p : Progress τ} (hp : (m.run tree).value = .ok p)
    (houtcome : p.report.outcome ≠ .completed) : ∃ o, p = ⟨tree, .ofOutcome o⟩ := by
  rw [run_value] at hp
  split at hp
  · cases hp
    exact ⟨_, rfl⟩
  · cases hp
    exact ⟨_, rfl⟩
  · split at hp
    · cases hp
      exact ⟨_, rfl⟩
    · exact absurd (outcome_applyAllSets rfl hp) houtcome

end Run

/-- **A faulty rule set is refused, and nothing has been done then.** The defect may be in any
change set; a run that ends without a rule set, or with one that is refused, leaves the tree as it
was. -/
theorem run_refuses_faulty {τ : Type} [FileTree τ] (m : Migration) (tree : τ) :
    ((∃ e, (m.ruleSetText tree).value = .error e) ∨
        (∃ text, (m.ruleSetText tree).value = .ok (some text) ∧ RuleSet.IsFaulty m.regex text) →
      ∃ p message, (m.run tree).value = .ok p ∧ p.report.outcome = .invalidRuleSet message) ∧
    ∀ p, (m.run tree).value = .ok p →
      (p.report.outcome = .noRuleSet ∨ ∃ message, p.report.outcome = .invalidRuleSet message) →
        p.tree = tree ∧ p.report.changes = [] ∧ p.report.issues = [] := by
  constructor
  · rw [run_value, loadRuleSet_value]
    rintro (⟨e, he⟩ | ⟨text, htext, hfaulty⟩)
    · rw [he]
      exact ⟨_, _, rfl, rfl⟩
    · rw [htext]
      rcases refused_of_isFaulty (m := m) hfaulty with ⟨e, he⟩ | ⟨r, e, hr, he⟩
      · simp only [he]
        exact ⟨_, _, rfl, rfl⟩
      · simp only [hr, Except.map, he]
        exact ⟨_, _, rfl, rfl⟩
  · intro p hp houtcome
    have hne : p.report.outcome ≠ .completed := by
      rcases houtcome with h | ⟨message, h⟩ <;> simp [h]
    obtain ⟨o, rfl⟩ := eq_ofOutcome_of_ne_completed hp hne
    exact ⟨rfl, rfl, rfl⟩

/-- A category that is mended further down, and a pattern in the last change set that is no glob. -/
def faultyDocument : String :=
  "\x7b\"a\":[[null,[]]],\"b\":null,\"a\":[[null,[\"**/*\"],[[\"old\",\"new\"]]],[null,[\"/src/[a\"]]]\x7d"

def faultyTree : MemoryTree :=
  .ofFiles [("api-changes.json", faultyDocument.toUTF8), ("src/app/a.txt", "old".toUTF8)]

theorem run_refuses_faulty_document :
    (sampleMigration.ruleSetText faultyTree).value = .ok (some faultyDocument) ∧
      RuleSet.IsFaulty sampleMigration.regex faultyDocument ∧
      ∃ message, (sampleMigration.run faultyTree).value =
        .ok ⟨faultyTree, .ofOutcome (.invalidRuleSet message)⟩ := by
  have htext : (sampleMigration.ruleSetText faultyTree).value = .ok (some faultyDocument) := by
    decide +kernel
  have hfaulty : RuleSet.IsFaulty sampleMigration.regex faultyDocument := by
    refine Or.inr ⟨[("a", some [⟨none, [], [], none⟩]), ("b", none)], "a",
      [⟨none, ["**/*"], [⟨"old", "new", false⟩], none⟩, ⟨none, ["/src/[a"], [], none⟩], [], _,
      by decide +kernel, by simp, List.mem_cons_of_mem _ List.mem_cons_self,
      .noGlob (p := "/src/[a") (e := .range) List.mem_cons_self (by decide)⟩
  obtain ⟨hrefused, hnothing⟩ := run_refuses_faulty sampleMigration faultyTree
  obtain ⟨p, message, hp, houtcome⟩ := hrefused (Or.inr ⟨_, htext, hfaulty⟩)
  obtain ⟨htree, hchanges, hissues⟩ := hnothing p hp (Or.inr ⟨message, houtcome⟩)
  refine ⟨htext, hfaulty, message, ?_⟩
  obtain ⟨tree, outcome, changes, issues⟩ := p
  simp_all [Report.ofOutcome]

end Codemod
