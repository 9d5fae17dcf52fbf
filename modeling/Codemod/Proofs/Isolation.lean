import Codemod.Migration
import Codemod.Proofs.RenamePlan
import Codemod.Proofs.Trees

/-!
# Files are migrated one by one

A migration goes through change sets and, for each of them, through the files that it selects, and
all the while it writes to one tree.  Seen from a single file nothing of this matters: what becomes
of its contents is a fold over the change sets.

## Main definitions

* `PreparedSet.rewrite` — what a change set makes of the contents of a file.
* `migrated` — what change sets make of them, one after another.
* `Changed f t t'` — `t'` is `t` with every file changed by `f`.

## Main results

* `changed_applyToFile`, `changed_applyToFiles`, `changed_apply`, `changed_applyAllSets` — the steps
  of a migration, from one file up to all change sets.
* `run_value_of_applyAllSets` — a run whose rule set is accepted.
* `run_file_by_file` — a run on a tree in memory, file by file.
-/

namespace Codemod

open Syntax

/-! ### One file -/

/-- What a change set makes of the contents of a file that it selects.  They are kept if they are no
text or if the rules fail. -/
def PreparedSet.rewriteText (set : PreparedSet) (provider : Provider) (path : String)
    (bytes : ByteArray) : ByteArray :=
  match String.fromUTF8? bytes with
  | none => bytes
  | some source =>
    match (transform provider path source.toList set.rules).value with
    | .ok t => (String.ofList t.content).toUTF8
    | .error _ => bytes

/-- What a change set makes of the contents of a file. -/
def PreparedSet.rewrite (set : PreparedSet) (provider : Provider) (path : String)
    (bytes : ByteArray) : ByteArray :=
  if set.selector.selects path then set.rewriteText provider path bytes else bytes

/-- What change sets make of the contents of a file, one after another. -/
def migrated (provider : Provider) (path : String) (sets : List PreparedSet) (bytes : ByteArray) :
    ByteArray :=
  sets.foldl (fun b set => set.rewrite provider path b) bytes

theorem migrated_append (provider : Provider) (path : String) (before after : List PreparedSet)
    (bytes : ByteArray) :
    migrated provider path (before ++ after) bytes =
      migrated provider path after (migrated provider path before bytes) :=
  List.foldl_append

/-- The text of a file holds all of its bytes. -/
theorem toUTF8_ofList_toList {bytes : ByteArray} {source : String}
    (h : String.fromUTF8? bytes = some source) :
    (String.ofList source.toList).toUTF8 = bytes := by
  rw [String.fromUTF8?] at h
  split at h
  · rw [← Option.some.inj h, String.ofList_toList]
    rfl
  · simp at h

theorem PreparedSet.rewrite_of_error {set : PreparedSet} {provider : Provider} {path : String}
    {bytes : ByteArray} {source : String} {e : RenameError}
    (htext : String.fromUTF8? bytes = some source)
    (h : (transform provider path source.toList set.rules).value = .error e) :
    set.rewrite provider path bytes = bytes := by
  simp [rewrite, rewriteText, htext, h]

/-! ### Whole trees -/

section Changed

variable {τ : Type} [FileTree τ]

/-- The second tree is the first with the contents of every file changed as `f` tells for its
path. -/
structure Changed (f : String → ByteArray → ByteArray) (t t' : τ) : Prop where
  paths : (FileTree.paths t').Perm (FileTree.paths t)
  read (path : String) :
    FileTree.read t' path = (FileTree.read t path).map (f (Path.strip path))

theorem Changed.trans {f g : String → ByteArray → ByteArray} {t u v : τ} (h₁ : Changed f t u)
    (h₂ : Changed g u v) : Changed (fun path bytes => g path (f path bytes)) t v where
  paths := h₂.paths.trans h₁.paths
  read path := by
    rw [h₂.read, h₁.read, Option.map_map]
    rfl

/-- Only the contents that are there count. -/
theorem Changed.congr {f g : String → ByteArray → ByteArray} {t t' : τ} (h : Changed f t t')
    (hfg : ∀ path bytes, FileTree.read t path = some bytes →
      f (Path.strip path) bytes = g (Path.strip path) bytes) : Changed g t t' where
  paths := h.paths
  read path := by
    rw [h.read]
    cases hread : FileTree.read t path with
    | none => rfl
    | some bytes => rw [Option.map_some, Option.map_some, hfg path bytes hread]

/-- A tree left as it is. -/
theorem Changed.of_forall_eq {f : String → ByteArray → ByteArray} {t : τ}
    (h : ∀ path bytes, FileTree.read t path = some bytes → f (Path.strip path) bytes = bytes) :
    Changed f t t :=
  Changed.congr (f := fun _ bytes => bytes) ⟨List.Perm.refl _, fun path => by simp⟩
    fun path bytes hread => (h path bytes hread).symm

end Changed

/-! ### The steps of a migration -/

section Steps

variable {τ : Type} [FileTree τ] [IsolatedTree τ] {m : Migration}

/-- Paths that differ in slashes at their start name one file. -/
theorem read_congr_strip (t : τ) {path q : String} (h : Path.strip q = Path.strip path) :
    FileTree.read t q = FileTree.read t path := by
  rw [← IsolatedTree.read_strip t q, h, IsolatedTree.read_strip]

/-- Of a change to one file, only the contents of that file count. -/
theorem Changed.congr_at {path : String} {g g' : ByteArray → ByteArray} {t t' : τ}
    (h : Changed (fun r b => if r = path then g b else b) t t') (hpath : Path.strip path = path)
    (hg : ∀ bytes, FileTree.read t path = some bytes → g bytes = g' bytes) :
    Changed (fun r b => if r = path then g' b else b) t t' := by
  refine h.congr fun q b hb => ?_
  by_cases hq : Path.strip q = path
  · have hread : FileTree.read t path = some b := by
      rw [← hb]
      exact read_congr_strip t (hpath.trans hq.symm)
    rw [if_pos hq, if_pos hq, hg b hread]
  · rw [if_neg hq, if_neg hq]

/-- A file whose contents stay leaves the tree as it is. -/
theorem Changed.of_kept {path : String} {g : ByteArray → ByteArray} {t : τ}
    (hpath : Path.strip path = path)
    (hg : ∀ bytes, FileTree.read t path = some bytes → g bytes = bytes) :
    Changed (fun r b => if r = path then g b else b) t t := by
  have hsame : Changed (fun r b => if r = path then id b else b) t t :=
    Changed.of_forall_eq fun q b _ => ite_self b
  exact hsame.congr_at hpath fun bytes hread => (hg bytes hread).symm

theorem changed_writeBack (set : PreparedSet) {path : String} (t : Transformed) {p : Progress τ}
    {bytes : ByteArray} (hread : FileTree.read p.tree path = some bytes)
    (hpath : Path.strip path = path) :
    ∃ q, (Migration.writeBack set path t p).value = .ok q ∧
      Changed (fun r b => if r = path then (String.ofList t.content).toUTF8 else b)
        p.tree q.tree := by
  obtain ⟨t', hok, hpaths, hreads⟩ :=
    IsolatedTree.exists_overwrite (String.ofList t.content).toUTF8 hread
  refine ⟨⟨t', p.report.addChange ⟨path, set.category, set.label, t.strategy⟩⟩, ?_, hpaths, ?_⟩
  · rw [Migration.writeBack, Logged.value_bind, hok]
    rfl
  · intro q
    rw [hreads, hpath]
    by_cases hq : Path.strip q = path
    · rw [if_pos hq, read_congr_strip _ (hq.trans hpath.symm), hread, Option.map_some, if_pos hq]
    · rw [if_neg hq]
      simp [hq]

variable (hsound : m.provider.Sound)
include hsound

/-- Where the rules fail, there is a cause that can be noted. -/
theorem exists_cause_of_transform {path : String} {source : List Char} {rules : RulePair}
    {e : RenameError} (h : (transform m.provider path source rules).value = .error e) :
    ∃ cause, e.toMigrationError? = some cause := by
  cases e with
  | parse path message => exact ⟨_, rfl⟩
  | badComment => exact absurd h (transform_ne_badComment hsound _ _ _)
  | edit e => exact ⟨_, rfl⟩

/-- A text file: the rules fail, or they change nothing, or the new contents are written. -/
theorem changed_applyToSource (set : PreparedSet) {path : String} {p : Progress τ}
    {bytes : ByteArray} {source : String} (hread : FileTree.read p.tree path = some bytes)
    (htext : String.fromUTF8? bytes = some source) (hpath : Path.strip path = path) :
    ∃ q, (m.applyToSource set path source.toList p).value = .ok q ∧
      Changed (fun r b => if r = path then set.rewriteText m.provider path b else b)
        p.tree q.tree := by
  have hself : ∀ b, FileTree.read p.tree path = some b → b = bytes := fun b hb =>
    Option.some.inj (hb.symm.trans hread)
  rw [Migration.applyToSource, Logged.value_bind]
  cases hvalue : (transform m.provider path source.toList set.rules).value with
  | error e =>
    have hkeep : set.rewriteText m.provider path bytes = bytes := by
      simp [PreparedSet.rewriteText, htext, hvalue]
    obtain ⟨cause, hcause⟩ := exists_cause_of_transform hsound hvalue
    refine ⟨{ p with report := p.report.addIssue ⟨path, set.label, cause.message⟩ }, ?_,
      .of_kept hpath fun b hb => by rw [hself b hb, hkeep]⟩
    simp only [hcause]
    rfl
  | ok t =>
    have hnew : set.rewriteText m.provider path bytes = (String.ofList t.content).toUTF8 := by
      simp [PreparedSet.rewriteText, htext, hvalue]
    simp only
    by_cases hsame : t.content = source.toList
    · rw [if_pos hsame]
      refine ⟨p, rfl, .of_kept hpath fun b hb => ?_⟩
      rw [hself b hb, hnew, hsame, toUTF8_ofList_toList htext]
    · rw [if_neg hsame]
      obtain ⟨q, hok, hchanged⟩ := changed_writeBack set t hread hpath
      exact ⟨q, hok, hchanged.congr_at hpath fun b hb => by rw [hself b hb, hnew]⟩

/-- One file of the selected ones. -/
theorem changed_applyToFile (set : PreparedSet) {path : String} (hpath : Path.strip path = path)
    (p : Progress τ) :
    ∃ q, (m.applyToFile set path p).value = .ok q ∧
      Changed (fun r b => if r = path then set.rewriteText m.provider path b else b)
        p.tree q.tree := by
  rw [Migration.applyToFile_value]
  cases hread : FileTree.read p.tree path with
  | none =>
    refine ⟨p, rfl, .of_kept hpath fun b hb => ?_⟩
    rw [hread] at hb
    cases hb
  | some bytes =>
    rw [Option.bind_some]
    cases htext : String.fromUTF8? bytes with
    | none =>
      refine ⟨p, rfl, .of_kept hpath fun b hb => ?_⟩
      rw [hread] at hb
      simp [PreparedSet.rewriteText, ← Option.some.inj hb, htext]
    | some source => exact changed_applyToSource hsound set hread htext hpath

/-- All selected files, one after another.  None comes twice, so each is changed once. -/
theorem changed_applyToFiles (set : PreparedSet) :
    ∀ {paths : List String}, paths.Nodup → (∀ path ∈ paths, Path.strip path = path) →
      ∀ p : Progress τ, ∃ q, (m.applyToFiles set paths p).value = .ok q ∧
        Changed (fun r b => if r ∈ paths then set.rewriteText m.provider r b else b)
          p.tree q.tree := by
  intro paths
  induction paths with
  | nil => exact fun _ _ p => ⟨p, rfl, Changed.of_forall_eq fun q b _ => by simp⟩
  | cons path paths ih =>
    intro hnodup hstrip p
    obtain ⟨hnot, hnodup⟩ := List.nodup_cons.1 hnodup
    obtain ⟨q₁, hok₁, hchanged₁⟩ :=
      changed_applyToFile hsound set (hstrip path List.mem_cons_self) p
    obtain ⟨q₂, hok₂, hchanged₂⟩ := ih hnodup (fun r hr => hstrip r (List.mem_cons_of_mem _ hr)) q₁
    refine ⟨q₂, ?_, (hchanged₁.trans hchanged₂).congr fun r b _ => ?_⟩
    · rw [Migration.applyToFiles, Logged.value_andThen_of_ok _ hok₁, hok₂]
    · by_cases hr : Path.strip r = path
      · simp [hr, hnot]
      · simp [hr]

/-- A change set: every file is changed as if it were alone. -/
theorem changed_apply (set : PreparedSet) (p : Progress τ) :
    ∃ q, (m.apply set p).value = .ok q ∧
      Changed (fun r b => set.rewrite m.provider r b) p.tree q.tree := by
  have hnodup : (set.selector.select p.tree).Nodup := (IsolatedTree.nodup_paths p.tree).filter _
  have hstrip : ∀ path ∈ set.selector.select p.tree, Path.strip path = path := fun path h =>
    IsolatedTree.strip_of_mem_paths (List.mem_of_mem_filter h)
  obtain ⟨q, hok, hchanged⟩ := changed_applyToFiles hsound set hnodup hstrip p
  refine ⟨q, ?_, hchanged.congr fun r b hb => ?_⟩
  · rw [Migration.apply, Logged.value_within]
    exact hok
  · have hmem : Path.strip r ∈ set.selector.select p.tree ↔
        set.selector.selects (Path.strip r) = true := by
      rw [Selector.select, List.mem_filter, and_iff_right (IsolatedTree.mem_paths_of_read hb)]
    rw [PreparedSet.rewrite]
    by_cases hsel : set.selector.selects (Path.strip r) = true
    · rw [if_pos hsel, if_pos (hmem.2 hsel)]
    · rw [if_neg hsel, if_neg fun h => hsel (hmem.1 h)]

/-- All change sets, one after another. -/
theorem changed_applyAllSets :
    ∀ (sets : List PreparedSet) (p : Progress τ), ∃ q, (m.applyAllSets sets p).value = .ok q ∧
      Changed (fun r b => migrated m.provider r sets b) p.tree q.tree := by
  intro sets
  induction sets with
  | nil => exact fun p => ⟨p, rfl, Changed.of_forall_eq fun _ _ _ => rfl⟩
  | cons set sets ih =>
    intro p
    obtain ⟨q₁, hok₁, hchanged₁⟩ := changed_apply hsound set p
    obtain ⟨q₂, hok₂, hchanged₂⟩ := ih q₁
    refine ⟨q₂, ?_, hchanged₁.trans hchanged₂⟩
    rw [Migration.applyAllSets, Logged.value_andThen_of_ok _ hok₁, hok₂]

end Steps

/-! ### Runs -/

/-- A run whose rule set is accepted applies its change sets. -/
theorem run_value_of_applyAllSets {τ : Type} [FileTree τ] {m : Migration} {tree : τ} {r : RuleSet}
    {sets : List PreparedSet} {p : Progress τ}
    (hload : (m.loadRuleSet tree).value = .ok (some r)) (hprepare : (m.prepare r).value = .ok sets)
    (happly : (m.applyAllSets sets ⟨tree, .ofOutcome .completed⟩).value = .ok p) :
    (m.run tree).value = .ok p := by
  simp only [Migration.run, Logged.value_bind, hload, hprepare, Migration.runPrepared, happly]
  rfl

/-- A run changes every file by itself. -/
theorem exists_run_changed {τ : Type} [FileTree τ] [IsolatedTree τ] {m : Migration} (tree : τ)
    {r : RuleSet} {sets : List PreparedSet} (hsound : m.provider.Sound)
    (hload : (m.loadRuleSet tree).value = .ok (some r))
    (hprepare : (m.prepare r).value = .ok sets) :
    ∃ p, (m.run tree).value = .ok p ∧
      Changed (fun path bytes => migrated m.provider path sets bytes) tree p.tree := by
  obtain ⟨p, hok, hchanged⟩ := changed_applyAllSets hsound sets ⟨tree, .ofOutcome .completed⟩
  exact ⟨p, run_value_of_applyAllSets hload hprepare hok, hchanged⟩

/-- **A run on a tree in memory, file by file.**  The paths stay, and the contents of a file are
migrated by one change set after another, whatever the other files hold and in whatever order files
are visited.  A change set whose rules fail for a file is passed over, and those after it are still
applied. -/
theorem run_file_by_file (m : Migration) (hsound : m.provider.Sound) (tree : MemoryTree)
    {r : RuleSet} {sets : List PreparedSet} (hload : (m.loadRuleSet tree).value = .ok (some r))
    (hprepare : (m.prepare r).value = .ok sets) :
    ∃ p, (m.run tree).value = .ok p ∧
      FileTree.paths p.tree = FileTree.paths tree ∧
      (∀ path, p.tree.read path =
        (tree.read path).map (migrated m.provider (Path.strip path) sets)) ∧
      (∀ (other : MemoryTree) (r' : RuleSet), (m.loadRuleSet other).value = .ok (some r') →
        (m.prepare r').value = .ok sets → ∃ q, (m.run other).value = .ok q ∧
          ∀ path, other.read path = tree.read path → q.tree.read path = p.tree.read path) ∧
      (∀ order : VisitOrder, ∃ q, (m.run (⟨tree⟩ : VisitedTree order)).value = .ok q ∧
        q.tree.tree = p.tree) ∧
      (∀ path bytes source e before set after, sets = before ++ set :: after →
        tree.read path = some bytes →
        String.fromUTF8? (migrated m.provider (Path.strip path) before bytes) = some source →
        (transform m.provider (Path.strip path) source.toList set.rules).value = .error e →
        p.tree.read path = some (migrated m.provider (Path.strip path) after
          (migrated m.provider (Path.strip path) before bytes))) := by
  obtain ⟨p, hok, hchanged⟩ := exists_run_changed tree hsound hload hprepare
  have hread : ∀ path, p.tree.read path =
      (tree.read path).map (migrated m.provider (Path.strip path) sets) := hchanged.read
  refine ⟨p, hok, ?_, hread, ?_, ?_, ?_⟩
  · -- both lists of paths are in order
    exact hchanged.paths.eq_of_pairwise
      (fun a b _ _ hab hba => absurd hba (String.lt_asymm hab))
      p.tree.pairwise_paths tree.pairwise_paths
  · intro other r' hload' hprepare'
    obtain ⟨q, hq, hother⟩ := exists_run_changed other hsound hload' hprepare'
    refine ⟨q, hq, fun path hsame => ?_⟩
    have hqread : q.tree.read path =
        (other.read path).map (migrated m.provider (Path.strip path) sets) := hother.read path
    rw [hqread, hsame, hread]
  · intro order
    obtain ⟨q, hq, hvisited⟩ :=
      exists_run_changed (⟨tree⟩ : VisitedTree order) hsound hload hprepare
    refine ⟨q, hq, MemoryTree.ext_read fun path => ?_⟩
    rw [hread]
    exact hvisited.read path
  · intro path bytes source e before set after hsets hbytes htext herror
    rw [hread, hbytes, Option.map_some, hsets, migrated_append, migrated, List.foldl_cons,
      PreparedSet.rewrite_of_error htext herror]
    rfl

/-! ### A rule set that fails for one file -/

/-- Two change sets: a word for all files and a text for code. -/
def sampleDocument : String :=
  "\x7b\"api\":[[null,[\"**/*\"],[[\"old\",\"new\"]]],[null,[\"**/*.ts\"],[[\"x-y\",\"z\"]]]]\x7d"

def sampleRuleSet : RuleSet :=
  ⟨[("api", some [⟨none, ["**/*"], [⟨"old", "new", false⟩], none⟩,
    ⟨none, ["**/*.ts"], [⟨"x-y", "z", false⟩], none⟩])]⟩

def sampleSets : List PreparedSet :=
  let roots := ["src/app/".toList, "src/lib/".toList]
  [⟨"api", "**/*", ["**/*"], ⟨roots, [[.anyNames, .anySequence]]⟩,
      ⟨[.word "old".toList "new".toList], []⟩⟩,
    ⟨"api", "**/*.ts", ["**/*.ts"],
      ⟨roots, [[.anyNames, .anySequence, .char '.', .char 't', .char 's']]⟩,
      ⟨[.word "x-y".toList "z".toList], []⟩⟩]

def sampleTree : MemoryTree :=
  .ofFiles [("api-changes.json", sampleDocument.toUTF8), ("src/app/a.ts", "old x-y".toUTF8),
    ("src/app/b.txt", "old x-y".toUTF8)]

/-- A migration that can parse nothing. -/
def sampleMigration : Migration where
  config := {}
  provider _ _ := .error "no parser"
  regex := Regex.compile
  readFile _ := none

theorem sound_sampleMigration : sampleMigration.provider.Sound := by
  intro path source tree h
  simp [sampleMigration] at h

/-- The code cannot be parsed for the first change set and is changed by the second. -/
theorem run_file_by_file_sample :
    (sampleMigration.loadRuleSet sampleTree).value = .ok (some sampleRuleSet) ∧
      (sampleMigration.prepare sampleRuleSet).value = .ok sampleSets ∧
      ∃ p, (sampleMigration.run sampleTree).value = .ok p ∧
        p.tree.read "src/app/a.ts" = some "old z".toUTF8 ∧
        p.tree.read "/src/app/b.txt" = some "new x-y".toUTF8 := by
  have hload : (sampleMigration.loadRuleSet sampleTree).value = .ok (some sampleRuleSet) := by
    decide +kernel
  have hprepare : (sampleMigration.prepare sampleRuleSet).value = .ok sampleSets := by rfl
  obtain ⟨p, hok, -, hread, -⟩ :=
    run_file_by_file sampleMigration sound_sampleMigration sampleTree hload hprepare
  refine ⟨hload, hprepare, p, hok, ?_, ?_⟩
  · rw [hread]
    decide +kernel
  · rw [hread]
    decide +kernel

end Codemod
