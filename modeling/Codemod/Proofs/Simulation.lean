import Codemod.Migration
import Codemod.Proofs.RenamePlan

/-!
# Migrations that go alike

Two migrations with the same settings, on trees of any two kinds, take the same steps as long as they
read the same contents.  What has to be shown for this is about single files: how the trees are read
and what writing a file does to them.  The steps of a migration are gone through here, once, and both
a comparison of two runs and an invariant of one run are instances.

## Main definitions

* `EndAlike` — two migrations end with related results, or both break off.
* `Simulation` — a relation between two migrations that reading and writing a file keep.
* `Invariant` — the same for one migration.

## Main results

* `run_value` — what a run comes to, told from its rule set.
* `Simulation.applyAllSets` — change sets, one after another, keep the relation.
* `Simulation.run` — **so does a whole run.**
* `Invariant.run` — what holds before a run holds after it.
* `exists_run_value` — over a sound provider every run comes to an end.
-/

namespace Codemod

/-! ### What a run comes to -/

theorem loadRuleSet_value {τ : Type} [FileTree τ] (m : Migration) (tree : τ) :
    (m.loadRuleSet tree).value =
      match (m.ruleSetText tree).value with
      | .error e => .error e
      | .ok none => .ok none
      | .ok (some text) => (RuleSet.ofJson m.regex text).map some := by
  rw [Migration.loadRuleSet]
  cases h : (m.ruleSetText tree).value with
  | error e => rw [Logged.value_andThen_of_error _ h]
  | ok text =>
    rw [Logged.value_andThen_of_ok _ h]
    cases text <;> rfl

/-- A run on a tree: its rule set is refused, or there is none, or its change sets are applied. -/
theorem run_value {τ : Type} [FileTree τ] (m : Migration) (tree : τ) :
    (m.run tree).value =
      match (m.loadRuleSet tree).value with
      | .error e => .ok ⟨tree, .ofOutcome (.invalidRuleSet e.message)⟩
      | .ok none => .ok ⟨tree, .ofOutcome .noRuleSet⟩
      | .ok (some r) =>
        match (m.prepare r).value with
        | .error e => .ok ⟨tree, .ofOutcome (.invalidRuleSet e.message)⟩
        | .ok sets => (m.applyAllSets sets ⟨tree, .ofOutcome .completed⟩).value := by
  rw [Migration.run, Logged.value_bind]
  match (m.loadRuleSet tree).value with
  | .error e => rfl
  | .ok none => rfl
  | .ok (some r) =>
    simp only [Logged.value_bind]
    cases (m.prepare r).value with
    | error e => rfl
    | ok sets =>
      simp only [Migration.runPrepared, Logged.value_bind]
      cases (m.applyAllSets sets ⟨tree, .ofOutcome .completed⟩).value <;> rfl

/-- A rule set is told from one file. -/
theorem loadRuleSet_congr {τ υ : Type} [FileTree τ] [FileTree υ] {m : Migration} {t : τ} {u : υ}
    (h : FileTree.read t m.config.ruleSetPath = FileTree.read u m.config.ruleSetPath) :
    (m.loadRuleSet t).value = (m.loadRuleSet u).value := by
  have htext : (m.ruleSetText t).value = (m.ruleSetText u).value := by
    rw [Migration.ruleSetText, Migration.ruleSetText, Logged.value_bind, Logged.value_bind,
      FileTree.value_load, FileTree.value_load, h]
  rw [loadRuleSet_value, loadRuleSet_value, htext]

/-! ### Ending alike -/

section EndAlike

variable {τ υ : Type} {m : Migration} {R : Progress τ → Progress υ → Prop}

/-- `EndAlike m R x y` says that two migrations of `m` end with results `x` and `y` that `R`
relates, or both break off at a file whose comments are no part of it. -/
inductive EndAlike (m : Migration) (R : Progress τ → Progress υ → Prop) :
    Except RenameError (Progress τ) → Except RenameError (Progress υ) → Prop
  | ok {p : Progress τ} {q : Progress υ} : R p q → EndAlike m R (.ok p) (.ok q)
  | brokenOff {path : String} {source : List Char} {rules : RulePair} {e : RenameError} :
      (transform m.provider path source rules).value = .error e → e.toMigrationError? = none →
      EndAlike m R (.error e) (.error e)

theorem EndAlike.andThen {x : Logged (Except RenameError (Progress τ))}
    {y : Logged (Except RenameError (Progress υ))}
    {f : Progress τ → Logged (Except RenameError (Progress τ))}
    {g : Progress υ → Logged (Except RenameError (Progress υ))} (h : EndAlike m R x.value y.value)
    (hnext : ∀ p q, R p q → EndAlike m R (f p).value (g q).value) :
    EndAlike m R (x.andThen f).value (y.andThen g).value := by
  obtain ⟨v, es⟩ := x
  obtain ⟨w, fs⟩ := y
  cases h with
  | ok hR => exact hnext _ _ hR
  | brokenOff he hnone => exact .brokenOff he hnone

/-- Over a sound provider no migration breaks off. -/
theorem EndAlike.exists_of_sound {x : Except RenameError (Progress τ)}
    {y : Except RenameError (Progress υ)} (h : EndAlike m R x y) (hsound : m.provider.Sound) :
    ∃ p q, x = .ok p ∧ y = .ok q ∧ R p q := by
  cases h with
  | @ok p q hR => exact ⟨p, q, rfl, rfl, hR⟩
  | @brokenOff path source rules e he hnone =>
    cases e with
    | parse path message => cases hnone
    | badComment => exact absurd he (transform_ne_badComment hsound _ _ _)
    | edit e => cases hnone

end EndAlike

/-! ### Related migrations -/

section Simulation

variable {τ υ : Type} [FileTree τ] [FileTree υ]

/-- A relation between two migrations that reading and writing a file keep.  Only the files for which
`V` holds are visited. -/
structure Simulation (V : String → Prop) (R : Progress τ → Progress υ → Prop) : Prop where
  paths {p : Progress τ} {q : Progress υ} : R p q → FileTree.paths p.tree = FileTree.paths q.tree
  read {p : Progress τ} {q : Progress υ} {path : String} : R p q → V path →
    FileTree.read p.tree path = FileTree.read q.tree path
  addIssue {p : Progress τ} {q : Progress υ} (i : FileIssue) : R p q →
    R { p with report := p.report.addIssue i } { q with report := q.report.addIssue i }
  /-- A file is written in both trees, or neither takes it, for the same reason. -/
  overwrite {p : Progress τ} {q : Progress υ} {path : String} (content : ByteArray)
      (c : FileChange) : R p q → V path →
    (∃ t u, (FileTree.overwrite p.tree path content).value = .ok t ∧
        (FileTree.overwrite q.tree path content).value = .ok u ∧
        R ⟨t, p.report.addChange c⟩ ⟨u, q.report.addChange c⟩) ∨
      ∃ e, (FileTree.overwrite p.tree path content).value = .error e ∧
        (FileTree.overwrite q.tree path content).value = .error e

variable {m : Migration} {V : String → Prop} {R : Progress τ → Progress υ → Prop}

namespace Simulation

variable (h : Simulation V R) (set : PreparedSet)
include h

theorem writeBack {path : String} (hpath : V path) (t : Transformed) {p : Progress τ}
    {q : Progress υ} (hR : R p q) :
    EndAlike m R (Migration.writeBack set path t p).value
      (Migration.writeBack set path t q).value := by
  rw [Migration.writeBack, Migration.writeBack, Logged.value_bind, Logged.value_bind]
  rcases h.overwrite (String.ofList t.content).toUTF8 ⟨path, set.category, set.label, t.strategy⟩ hR
    hpath with ⟨t', u', ht, hu, hR'⟩ | ⟨e, ht, hu⟩
  · rw [ht, hu]
    exact .ok hR'
  · rw [ht, hu]
    exact .ok (h.addIssue _ hR)

theorem applyToSource {path : String} (hpath : V path) (source : List Char) {p : Progress τ}
    {q : Progress υ} (hR : R p q) :
    EndAlike m R (m.applyToSource set path source p).value
      (m.applyToSource set path source q).value := by
  rw [Migration.applyToSource, Migration.applyToSource, Logged.value_bind, Logged.value_bind]
  cases hvalue : (transform m.provider path source set.rules).value with
  | error e =>
    cases hcause : e.toMigrationError? with
    | none =>
      -- it has no cause to note, so both break off at this file
      simp only [hcause]
      exact .brokenOff hvalue hcause
    | some cause =>
      simp only [hcause]
      exact .ok (h.addIssue _ hR)
  | ok t =>
    simp only
    split
    · exact .ok hR
    · exact h.writeBack set hpath t hR

theorem applyToFile {path : String} (hpath : V path) {p : Progress τ} {q : Progress υ}
    (hR : R p q) :
    EndAlike m R (m.applyToFile set path p).value (m.applyToFile set path q).value := by
  rw [Migration.applyToFile_value, Migration.applyToFile_value, h.read hR hpath]
  cases (FileTree.read q.tree path).bind String.fromUTF8? with
  | none => exact .ok hR
  | some source => exact h.applyToSource set hpath source.toList hR

theorem applyToFiles :
    ∀ {paths : List String}, (∀ path ∈ paths, V path) → ∀ {p : Progress τ} {q : Progress υ},
      R p q →
        EndAlike m R (m.applyToFiles set paths p).value (m.applyToFiles set paths q).value := by
  intro paths
  induction paths with
  | nil => exact fun _ _ _ hR => .ok hR
  | cons path paths ih =>
    intro hpaths p q hR
    rw [List.forall_mem_cons] at hpaths
    exact (h.applyToFile set hpaths.1 hR).andThen fun p q hR => ih hpaths.2 hR

theorem apply {p : Progress τ} {q : Progress υ} (hR : R p q)
    (hpaths : ∀ path ∈ set.selector.select p.tree, V path) :
    EndAlike m R (m.apply set p).value (m.apply set q).value := by
  have hselect : set.selector.select p.tree = set.selector.select q.tree := by
    rw [Selector.select, Selector.select, h.paths hR]
  rw [Migration.apply, Migration.apply, Logged.value_within, Logged.value_within]
  simp only [Logged.value_bind, ← hselect]
  exact h.applyToFiles set hpaths hR

omit set in
/-- Change sets, one after another, keep the relation. -/
theorem applyAllSets :
    ∀ {sets : List PreparedSet},
      (∀ set ∈ sets, ∀ p q, R p q → ∀ path ∈ set.selector.select p.tree, V path) →
      ∀ {p : Progress τ} {q : Progress υ}, R p q →
        EndAlike m R (m.applyAllSets sets p).value (m.applyAllSets sets q).value := by
  intro sets
  induction sets with
  | nil => exact fun _ _ _ hR => .ok hR
  | cons set sets ih =>
    intro hsets p q hR
    rw [List.forall_mem_cons] at hsets
    exact (h.apply set hR (hsets.1 p q hR)).andThen fun p q hR => ih hsets.2 hR

omit set in
/-- **Two runs whose trees are related at the start, and that find the same rule set, end alike.** -/
theorem run {t : τ} {u : υ} (hstart : ∀ o, R ⟨t, .ofOutcome o⟩ ⟨u, .ofOutcome o⟩)
    (hrules : FileTree.read t m.config.ruleSetPath = FileTree.read u m.config.ruleSetPath)
    (hsets : ∀ r sets, (m.prepare r).value = .ok sets → ∀ set ∈ sets, ∀ p q, R p q →
      ∀ path ∈ set.selector.select p.tree, V path) :
    EndAlike m R (m.run t).value (m.run u).value := by
  -- the rule set is read before anything is written
  rw [run_value, run_value, loadRuleSet_congr hrules]
  match (m.loadRuleSet u).value with
  | .error e => exact .ok (hstart _)
  | .ok none => exact .ok (hstart _)
  | .ok (some r) =>
    simp only
    cases hprepare : (m.prepare r).value with
    | error e => exact .ok (hstart _)
    | ok sets => exact h.applyAllSets (hsets r sets hprepare) (hstart _)

end Simulation

end Simulation

/-! ### Invariants of one migration -/

section Invariant

variable {τ : Type} [FileTree τ]

/-- `Invariant V I` says that issues keep `I`, and so does writing a file whose path `V` holds
of. -/
structure Invariant (V : String → Prop) (I : Progress τ → Prop) : Prop where
  addIssue {p : Progress τ} (i : FileIssue) : I p → I { p with report := p.report.addIssue i }
  overwrite {p : Progress τ} {path : String} {content : ByteArray} {t : τ} (c : FileChange) :
    I p → V path → (FileTree.overwrite p.tree path content).value = .ok t →
      I ⟨t, p.report.addChange c⟩

namespace Invariant

variable {m : Migration} {V : String → Prop} {I : Progress τ → Prop} (h : Invariant V I)
include h

/-- An invariant relates a migration to itself. -/
theorem simulation : Simulation V fun p q => p = q ∧ I p where
  paths := by
    rintro p q ⟨rfl, -⟩
    rfl
  read := by
    rintro p q path ⟨rfl, -⟩ -
    rfl
  addIssue := by
    rintro p q i ⟨rfl, hI⟩
    exact ⟨rfl, h.addIssue i hI⟩
  overwrite := by
    rintro p q path content c ⟨rfl, hI⟩ hpath
    cases hvalue : (FileTree.overwrite p.tree path content).value with
    | error e => exact Or.inr ⟨e, rfl, rfl⟩
    | ok t => exact Or.inl ⟨t, t, rfl, rfl, rfl, h.overwrite c hI hpath hvalue⟩

/-- What holds before change sets are applied holds after. -/
theorem applyAllSets {sets : List PreparedSet} {p q : Progress τ}
    (hsets : ∀ set ∈ sets, ∀ p, I p → ∀ path ∈ set.selector.select p.tree, V path) (hI : I p)
    (hq : (m.applyAllSets sets p).value = .ok q) : I q := by
  have halike := h.simulation.applyAllSets (m := m)
    (fun set hset p _ hR => hsets set hset p hR.2) ⟨rfl, hI⟩
  rw [hq] at halike
  cases halike with
  | ok hR => exact hR.2

/-- What holds before a run holds after it. -/
theorem run {t : τ} {p : Progress τ} (hstart : ∀ o, I ⟨t, .ofOutcome o⟩)
    (hsets : ∀ r sets, (m.prepare r).value = .ok sets → ∀ set ∈ sets, ∀ p, I p →
      ∀ path ∈ set.selector.select p.tree, V path)
    (hp : (m.run t).value = .ok p) : I p := by
  have halike := h.simulation.run (m := m) (fun o => ⟨rfl, hstart o⟩) rfl
    fun r sets hprepare set hset p _ hR => hsets r sets hprepare set hset p hR.2
  rw [hp] at halike
  cases halike with
  | ok hR => exact hR.2

end Invariant

/-- Over a sound provider every run comes to an end. -/
theorem exists_run_value {m : Migration} (hsound : m.provider.Sound) (t : τ) :
    ∃ p, (m.run t).value = .ok p := by
  have htrivial : Invariant (fun _ => True) fun _ : Progress τ => True :=
    ⟨fun _ _ => trivial, fun _ _ _ _ => trivial⟩
  have halike : EndAlike m _ (m.run t).value (m.run t).value :=
    htrivial.simulation.run (fun _ => ⟨rfl, trivial⟩) rfl
      fun _ _ _ _ _ _ _ _ _ _ => trivial
  obtain ⟨p, -, hp, -⟩ := halike.exists_of_sound hsound
  exact ⟨p, hp⟩

end Invariant

end Codemod
