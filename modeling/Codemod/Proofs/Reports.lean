import Codemod.Proofs.Isolation
import Codemod.Proofs.Simulation

/-!
# What a report says

The report of a run is an account of it.  There is a list for every change set, in their order, and
in a list the files are in the order of the visit.  What is said of a file can be told from its
contents at that moment, and these from the change sets before.

## Main definitions

* `Migration.setsOf`, `Migration.Selects`, `Migration.outcomeOf` — the change sets that a run
  applies, the paths that they select, and its outcome.
* `PreparedSet.change?`, `PreparedSet.issue?` — what a change set notes of a file.
* `notedBySet` — what is noted of files, change set by change set.
* `Migration.changesBySet`, `Migration.issuesBySet` — what a run notes.
* `OrderedTree` — trees whose files keep their order.

## Main results

* `run_value_eq_applyAllSets` — every run applies its change sets.
* `report_applyToFile`, `report_applyToFiles`, `report_apply`, `report_applyAllSets` — what the
  steps of a migration note, from one file up to all change sets.
* `report_run` — **the report of a run.**
* `bySet_perm` — another order of the files changes the order within the lists.
-/

namespace Codemod

open Syntax

/-! ### What a run comes to -/

section Run

variable {τ : Type} [FileTree τ]

/-- The change sets that a run applies.  There are none if its rule set is missing or refused. -/
def Migration.setsOf (m : Migration) (tree : τ) : List PreparedSet :=
  match (m.loadRuleSet tree).value with
  | .ok (some r) => (m.prepare r).value.toOption.getD []
  | _ => []

/-- `m.Selects tree path` says that a change set that a run of `m` on `tree` applies selects
`path`. -/
def Migration.Selects (m : Migration) (tree : τ) (path : String) : Prop :=
  ∃ set ∈ m.setsOf tree, set.selector.selects path = true

instance (m : Migration) (tree : τ) : DecidablePred (m.Selects tree) := fun path =>
  inferInstanceAs (Decidable (∃ set ∈ m.setsOf tree, set.selector.selects path = true))

/-- The outcome of a run. -/
def Migration.outcomeOf (m : Migration) (tree : τ) : Outcome :=
  match (m.loadRuleSet tree).value with
  | .error e => .invalidRuleSet e.message
  | .ok none => .noRuleSet
  | .ok (some r) =>
    match (m.prepare r).value with
    | .error e => .invalidRuleSet e.message
    | .ok _ => .completed

/-- Every run applies its change sets, be there none. -/
theorem run_value_eq_applyAllSets (m : Migration) (tree : τ) :
    (m.run tree).value =
      (m.applyAllSets (m.setsOf tree) ⟨tree, .ofOutcome (m.outcomeOf tree)⟩).value := by
  rw [run_value, Migration.setsOf, Migration.outcomeOf]
  match (m.loadRuleSet tree).value with
  | .error e => rfl
  | .ok none => rfl
  | .ok (some r) =>
    simp only
    cases (m.prepare r).value <;> rfl

/-- Change sets and outcome are told from the rule set. -/
theorem setsOf_congr {υ : Type} [FileTree υ] {m : Migration} {t : τ} {u : υ}
    (h : FileTree.read t m.config.ruleSetPath = FileTree.read u m.config.ruleSetPath) :
    m.setsOf t = m.setsOf u ∧ m.outcomeOf t = m.outcomeOf u := by
  simp only [Migration.setsOf, Migration.outcomeOf, loadRuleSet_congr h, and_self]

/-- A run changes every file by itself. -/
theorem changed_run [IsolatedTree τ] {m : Migration} (hsound : m.provider.Sound) {tree : τ}
    {p : Progress τ} (h : (m.run tree).value = .ok p) :
    Changed (fun path bytes => migrated m.provider path (m.setsOf tree) bytes) tree p.tree := by
  obtain ⟨q, hq, hchanged⟩ :=
    changed_applyAllSets hsound (m.setsOf tree) ⟨tree, .ofOutcome (m.outcomeOf tree)⟩
  rw [run_value_eq_applyAllSets, hq] at h
  cases h
  exact hchanged

end Run

/-! ### What is noted of a file -/

/-- The change that a change set notes of a file with the given contents. -/
def PreparedSet.change? (set : PreparedSet) (provider : Provider) (path : String)
    (bytes : ByteArray) : Option FileChange :=
  (String.fromUTF8? bytes).bind fun source =>
    match (transform provider path source.toList set.rules).value with
    | .ok t =>
      if t.content = source.toList then none
      else some ⟨path, set.category, set.label, t.strategy⟩
    | .error _ => none

/-- The issue that a change set notes of a file with the given contents. -/
def PreparedSet.issue? (set : PreparedSet) (provider : Provider) (path : String)
    (bytes : ByteArray) : Option FileIssue :=
  (String.fromUTF8? bytes).bind fun source =>
    match (transform provider path source.toList set.rules).value with
    | .ok _ => none
    | .error e => e.toMigrationError?.map fun cause => ⟨path, set.label, cause.message⟩

/-- A report with further changes and issues. -/
def Report.extend (r : Report) (changes : List FileChange) (issues : List FileIssue) : Report :=
  ⟨r.outcome, r.changes ++ changes, r.issues ++ issues⟩

@[simp]
theorem Report.extend_nil (r : Report) : r.extend [] [] = r := by
  simp [extend]

@[simp]
theorem Report.extend_extend (r : Report) (cs ds : List FileChange) (is js : List FileIssue) :
    (r.extend cs is).extend ds js = r.extend (cs ++ ds) (is ++ js) := by
  simp [extend]

/-- What is noted of files with the given contents. -/
def noted {β : Type} (note : String → ByteArray → Option β) (contents : String → Option ByteArray)
    (paths : List String) : List β :=
  paths.filterMap fun path => (contents path).bind (note path)

theorem noted_congr {β : Type} {note : String → ByteArray → Option β}
    {contents contents' : String → Option ByteArray} {paths : List String}
    (h : ∀ path ∈ paths, contents path = contents' path) :
    noted note contents paths = noted note contents' paths :=
  List.filterMap_congr fun path hpath => by rw [h path hpath]

/-! ### The steps of a migration -/

section Steps

variable {τ : Type} [FileTree τ] [IsolatedTree τ] {m : Migration} {set : PreparedSet}

theorem report_writeBack {path : String} {t : Transformed} {p q : Progress τ} {bytes : ByteArray}
    (hread : FileTree.read p.tree path = some bytes)
    (h : (Migration.writeBack set path t p).value = .ok q) :
    q.report = p.report.extend [⟨path, set.category, set.label, t.strategy⟩] [] := by
  -- a file that has been read can be written
  obtain ⟨t', hok, -⟩ := IsolatedTree.exists_overwrite (String.ofList t.content).toUTF8 hread
  rw [Migration.writeBack, Logged.value_bind, hok] at h
  cases h
  simp [Report.addChange, Report.extend]

/-- What one file adds to a report. -/
theorem report_applyToFile {path : String} {p q : Progress τ}
    (h : (m.applyToFile set path p).value = .ok q) :
    q.report = p.report.extend
      ((FileTree.read p.tree path).bind (set.change? m.provider path)).toList
      ((FileTree.read p.tree path).bind (set.issue? m.provider path)).toList := by
  -- the cases are the ends that the step can come to
  rw [Migration.applyToFile_value] at h
  cases hread : FileTree.read p.tree path with
  | none =>
    rw [hread] at h
    cases h
    simp
  | some bytes =>
    rw [hread, Option.bind_some] at h
    simp only [Option.bind_some, PreparedSet.change?, PreparedSet.issue?]
    cases htext : String.fromUTF8? bytes with
    | none =>
      rw [htext] at h
      cases h
      simp
    | some source =>
      simp only [htext, Migration.applyToSource, Logged.value_bind] at h
      simp only [Option.bind_some]
      cases hvalue : (transform m.provider path source.toList set.rules).value with
      | error e =>
        cases hcause : e.toMigrationError? with
        | none =>
          simp only [hvalue, hcause] at h
          cases h
        | some cause =>
          simp only [hvalue, hcause] at h
          cases h
          simp [Report.addIssue, Report.extend, hcause]
      | ok t =>
        simp only [hvalue] at h
        by_cases hsame : t.content = source.toList
        · rw [if_pos hsame] at h
          cases h
          simp [hsame]
        · rw [if_neg hsame] at h
          simp [report_writeBack hread h, hsame]

variable (hsound : m.provider.Sound)
include hsound

/-- What files add to a report, one after another.  None comes twice, so each is as it was before
the first of them was changed. -/
theorem report_applyToFiles :
    ∀ {paths : List String}, paths.Nodup → (∀ path ∈ paths, Path.strip path = path) →
      ∀ {p q : Progress τ}, (m.applyToFiles set paths p).value = .ok q →
        q.report = p.report.extend (noted (set.change? m.provider) (FileTree.read p.tree) paths)
          (noted (set.issue? m.provider) (FileTree.read p.tree) paths) := by
  intro paths
  induction paths with
  | nil =>
    intro _ _ p q h
    cases h
    simp [noted]
  | cons path paths ih =>
    intro hnodup hstrip p q h
    obtain ⟨hnot, hnodup⟩ := List.nodup_cons.1 hnodup
    rw [List.forall_mem_cons] at hstrip
    obtain ⟨q₁, hok₁, hchanged₁⟩ := changed_applyToFile hsound set hstrip.1 p
    rw [Migration.applyToFiles, Logged.value_andThen_of_ok _ hok₁] at h
    have hothers : ∀ r ∈ paths, FileTree.read q₁.tree r = FileTree.read p.tree r := by
      intro r hr
      have hne : r ≠ path := fun heq => hnot (heq ▸ hr)
      rw [hchanged₁.read, hstrip.2 r hr]
      simp [hne]
    rw [ih hnodup hstrip.2 h, report_applyToFile hok₁, Report.extend_extend, noted_congr hothers,
      noted_congr hothers]
    -- what the first file adds comes before what the others add
    simp only [noted, List.filterMap_cons]
    cases (FileTree.read p.tree path).bind (set.change? m.provider path) <;>
      cases (FileTree.read p.tree path).bind (set.issue? m.provider path) <;> rfl

/-- What a change set adds to a report. -/
theorem report_apply {p q : Progress τ} (h : (m.apply set p).value = .ok q) :
    q.report = p.report.extend
      (noted (set.change? m.provider) (FileTree.read p.tree) (set.selector.select p.tree))
      (noted (set.issue? m.provider) (FileTree.read p.tree) (set.selector.select p.tree)) := by
  rw [Migration.apply, Logged.value_within] at h
  exact report_applyToFiles hsound ((IsolatedTree.nodup_paths p.tree).filter _)
    (fun path hpath => IsolatedTree.strip_of_mem_paths (List.mem_of_mem_filter hpath)) h

end Steps

/-! ### Change set by change set -/

/-- What is noted of files, change set by change set.  A change set finds the files as those before
have left them. -/
def notedBySet {β : Type} (provider : Provider)
    (note : PreparedSet → String → ByteArray → Option β) (paths : List String) :
    (contents : String → Option ByteArray) → List PreparedSet → List (List β)
  | _, [] => []
  | contents, set :: sets =>
    noted (note set) contents (paths.filter set.selector.selects) ::
      notedBySet provider note paths
        (fun path => (contents path).map (set.rewrite provider path)) sets

section NotedBySet

variable {β : Type} {provider : Provider} {note : PreparedSet → String → ByteArray → Option β}
  {paths paths' : List String}

/-- Only the contents of the files count. -/
theorem notedBySet_congr :
    ∀ {sets : List PreparedSet} {contents contents' : String → Option ByteArray},
      (∀ path ∈ paths, contents path = contents' path) →
      notedBySet provider note paths contents sets =
        notedBySet provider note paths contents' sets := by
  intro sets
  induction sets with
  | nil => exact fun _ => rfl
  | cons set sets ih =>
    intro contents contents' h
    rw [notedBySet, notedBySet, noted_congr fun path hpath => h path (List.mem_of_mem_filter hpath),
      ih fun path hpath => by rw [h path hpath]]

/-- Another order of the files changes the order within the lists. -/
theorem notedBySet_perm (h : paths.Perm paths') :
    ∀ {sets : List PreparedSet} {contents : String → Option ByteArray},
      List.Forall₂ List.Perm (notedBySet provider note paths contents sets)
        (notedBySet provider note paths' contents sets) := by
  intro sets
  induction sets with
  | nil => exact .nil
  | cons set sets ih => exact .cons ((h.filter _).filterMap _) ih

end NotedBySet

/-- A tree whose files come in an order that depends on nothing but what files there are. -/
class OrderedTree (τ : Type) [FileTree τ] : Prop extends IsolatedTree τ where
  paths_eq_of_perm {t t' : τ} :
    (FileTree.paths t').Perm (FileTree.paths t) → FileTree.paths t' = FileTree.paths t

instance : OrderedTree MemoryTree where
  paths_eq_of_perm {t t'} h :=
    h.eq_of_pairwise (fun _ _ _ _ hab hba => absurd hba (String.lt_asymm hab))
      t'.pairwise_paths t.pairwise_paths

section Ordered

variable {τ : Type} [FileTree τ] [OrderedTree τ] {m : Migration} (hsound : m.provider.Sound)
include hsound

/-- What change sets add to a report, one after another. -/
theorem report_applyAllSets :
    ∀ {sets : List PreparedSet} {p q : Progress τ}, (m.applyAllSets sets p).value = .ok q →
      q.report = p.report.extend
        (notedBySet m.provider (·.change? m.provider) (FileTree.paths p.tree)
          (FileTree.read p.tree) sets).flatten
        (notedBySet m.provider (·.issue? m.provider) (FileTree.paths p.tree)
          (FileTree.read p.tree) sets).flatten := by
  intro sets
  induction sets with
  | nil =>
    intro p q h
    cases h
    simp [notedBySet]
  | cons set sets ih =>
    intro p q h
    obtain ⟨q₁, hok₁, hchanged₁⟩ := changed_apply hsound set p
    rw [Migration.applyAllSets, Logged.value_andThen_of_ok _ hok₁] at h
    -- the next change set finds the same files, with what this one has made of them
    have hpaths : FileTree.paths q₁.tree = FileTree.paths p.tree :=
      OrderedTree.paths_eq_of_perm hchanged₁.paths
    have hread : ∀ path ∈ FileTree.paths p.tree, FileTree.read q₁.tree path =
        (FileTree.read p.tree path).map (set.rewrite m.provider path) := by
      intro path hpath
      rw [hchanged₁.read, IsolatedTree.strip_of_mem_paths hpath]
    rw [ih h, report_apply hsound hok₁, hpaths, notedBySet_congr hread, notedBySet_congr hread,
      Report.extend_extend]
    rfl

end Ordered

/-! ### Runs -/

section Runs

variable {τ : Type} [FileTree τ]

/-- The changes that a run notes, change set by change set. -/
def Migration.changesBySet (m : Migration) (tree : τ) : List (List FileChange) :=
  notedBySet m.provider (·.change? m.provider) (FileTree.paths tree) (FileTree.read tree)
    (m.setsOf tree)

/-- The issues that a run notes, change set by change set. -/
def Migration.issuesBySet (m : Migration) (tree : τ) : List (List FileIssue) :=
  notedBySet m.provider (·.issue? m.provider) (FileTree.paths tree) (FileTree.read tree)
    (m.setsOf tree)

section SameFiles

variable {υ : Type} [FileTree υ] {m : Migration} {t : τ} {u : υ}
  (hrules : FileTree.read t m.config.ruleSetPath = FileTree.read u m.config.ruleSetPath)
  (hread : ∀ path ∈ FileTree.paths t, FileTree.read t path = FileTree.read u path)
include hrules hread

/-- Of the same files the same is noted. -/
theorem bySet_congr (hpaths : FileTree.paths t = FileTree.paths u) :
    m.changesBySet t = m.changesBySet u ∧ m.issuesBySet t = m.issuesBySet u := by
  simp only [Migration.changesBySet, Migration.issuesBySet, (setsOf_congr hrules).1, ← hpaths]
  exact ⟨notedBySet_congr hread, notedBySet_congr hread⟩

/-- Of the same files in another order the same is noted, change set by change set. -/
theorem bySet_perm (hpaths : (FileTree.paths t).Perm (FileTree.paths u)) :
    List.Forall₂ List.Perm (m.changesBySet t) (m.changesBySet u) ∧
      List.Forall₂ List.Perm (m.issuesBySet t) (m.issuesBySet u) := by
  simp only [Migration.changesBySet, Migration.issuesBySet, (setsOf_congr hrules).1,
    notedBySet_congr hread]
  exact ⟨notedBySet_perm hpaths, notedBySet_perm hpaths⟩

end SameFiles

/-- **The report of a run.** -/
theorem report_run [OrderedTree τ] {m : Migration} (hsound : m.provider.Sound) {tree : τ}
    {p : Progress τ} (h : (m.run tree).value = .ok p) :
    p.report =
      ⟨m.outcomeOf tree, (m.changesBySet tree).flatten, (m.issuesBySet tree).flatten⟩ := by
  rw [run_value_eq_applyAllSets] at h
  simpa [Report.extend, Report.ofOutcome, Migration.changesBySet, Migration.issuesBySet]
    using report_applyAllSets hsound h

end Runs

end Codemod
