import Codemod.Proofs.Reports
import Codemod.Proofs.Validation

/-!
# A report accounts for a run

A run can be followed step by step: change set by change set, and for each of them file by file.
Every step ends in one of five ways, and what it leaves in the report, in the events and in the tree
goes together.  So a report can be read off the steps, and events can be read off the report.

## Main definitions

* `Visit`, `Migration.steps` — the steps of a run, and the contents that they find.
* `Logged.IsQuiet` — nothing is told that is meant for everyone.
* `Event.isApplied`, `FileChange.event` — the events that tell of changes.

## Main results

* `report_steps` — changes and issues, read off the steps.
* `read_of_notMem_steps` — what is not among the changes is as it was.
* `pairs_steps` — a run comes to all files that its change sets select.
* `announced_run` — events, read off the changes.
* `Report.pairwise_distinct` — changed files are in the order of their first change.
* `run_report_is_exact` — **the report of a run accounts for it.**
-/

namespace Codemod

open Syntax

/-! ### Events that are meant for everyone -/

/-- `x.IsQuiet` says that `x` tells nothing that is meant for everyone. -/
def Logged.IsQuiet {α : Type} (x : Logged α) : Prop := ∀ e ∈ x.events, e.level ≠ .info

namespace Logged

variable {α β ε : Type}

theorem isQuiet_pure (a : α) : (pure a : Logged α).IsQuiet := by
  simp [IsQuiet]

theorem IsQuiet.bind {x : Logged α} (hx : x.IsQuiet) {f : α → Logged β}
    (hf : ∀ a, (f a).IsQuiet) : (x >>= f).IsQuiet := by
  intro e he
  rw [events_bind, List.mem_append] at he
  exact he.elim (hx e) (hf _ e)

theorem isQuiet_tell_bind {level : Level} {target message : String}
    {fields : List (String × FieldValue)} {f : Unit → Logged β} (hlevel : level ≠ .info)
    (hf : (f ()).IsQuiet) : (tell level target message fields >>= f).IsQuiet := by
  refine IsQuiet.bind (fun e he => ?_) fun _ => hf
  rw [events_tell, List.mem_singleton] at he
  rw [he]
  exact hlevel

theorem IsQuiet.andThen {x : Logged (Except ε α)} (hx : x.IsQuiet)
    {f : α → Logged (Except ε β)} (hf : ∀ a, (f a).IsQuiet) : (x.andThen f).IsQuiet := by
  intro e he
  rw [Logged.andThen] at he
  cases hvalue : x.value with
  | error err =>
    rw [hvalue] at he
    exact hx e he
  | ok a =>
    rw [hvalue] at he
    exact (List.mem_append.1 he).elim (hx e) (hf a e)

end Logged

open Logged

theorem isQuiet_dedupInto (es kept : List Edit) : (dedupInto kept es).IsQuiet := by
  induction es generalizing kept with
  | nil => exact isQuiet_pure _
  | cons e es ih =>
    rw [dedupInto]
    split
    · exact isQuiet_tell_bind (by decide) (ih kept)
    · split
      · exact isQuiet_tell_bind (by decide) (isQuiet_pure _)
      · exact ih _

theorem isQuiet_applyEdits (source : List Char) (edits : List Edit) :
    (applyEdits source edits).IsQuiet := by
  rw [applyEdits]
  split
  · exact isQuiet_pure _
  · exact (isQuiet_dedupInto _ _).andThen fun kept =>
      isQuiet_tell_bind (by decide) (isQuiet_pure _)

section Provider

variable (provider : Provider) (path : String)

theorem isQuiet_renameEdits (source : List Char) (rules : List Rule) :
    (renameEdits provider path source rules).IsQuiet := by
  rw [renameEdits]
  split
  · exact isQuiet_pure _
  · split
    · exact isQuiet_pure _
    · split
      · exact isQuiet_pure _
      · exact isQuiet_tell_bind (by decide) (isQuiet_pure _)

theorem isQuiet_rename (source : List Char) (rules : List Rule) :
    (rename provider path source rules).IsQuiet := by
  refine (isQuiet_renameEdits provider path source rules).andThen fun edits => ?_
  split
  · exact isQuiet_pure _
  · refine (isQuiet_applyEdits source edits).bind fun result => ?_
    cases result with
    | error e => exact isQuiet_pure _
    | ok result => exact isQuiet_tell_bind (by decide) (isQuiet_pure _)

theorem isQuiet_renameBatch (source : List Char) (batch : List Rule) :
    (renameBatch provider path source batch).IsQuiet := by
  rw [renameBatch]
  split
  · exact isQuiet_pure _
  · exact isQuiet_rename provider path source batch

theorem isQuiet_transformCodeFrom (rules : List Rule) :
    ∀ (source : List Char) (batch : List Rule),
      (transformCodeFrom provider path source batch rules).IsQuiet := by
  induction rules with
  | nil => exact isQuiet_renameBatch provider path
  | cons r rs ih =>
    intro source batch
    rw [transformCodeFrom]
    split
    · split
      · exact (isQuiet_renameBatch provider path source batch).andThen fun _ => ih _ _
      · exact ih _ _
    · exact (isQuiet_renameBatch provider path source batch).andThen fun _ => ih _ _

/-- Changing the contents of a file tells nothing that is meant for everyone. -/
theorem isQuiet_transform (source : List Char) (rules : RulePair) :
    (transform provider path source rules).IsQuiet := by
  rw [transform]
  split
  · exact (isQuiet_transformCodeFrom provider path _ _ _).andThen fun _ => isQuiet_pure _
  · exact isQuiet_pure _
  · exact isQuiet_pure _

end Provider

/-- Trees that tell nothing that is meant for everyone when a file is read or written. -/
class QuietTree (τ : Type) [FileTree τ] : Prop where
  isQuiet_load (t : τ) (path : String) : (FileTree.load t path).IsQuiet
  isQuiet_overwrite (t : τ) (path : String) (content : ByteArray) :
    (FileTree.overwrite t path content).IsQuiet

instance : QuietTree MemoryTree where
  isQuiet_load _ _ := isQuiet_pure _
  isQuiet_overwrite _ _ _ := isQuiet_pure _

section RuleSets

variable (m : Migration)

theorem isQuiet_loadRuleSet {τ : Type} [FileTree τ] [QuietTree τ] (tree : τ) :
    (m.loadRuleSet tree).IsQuiet := by
  refine IsQuiet.andThen ?_ fun text => ?_
  · refine (QuietTree.isQuiet_load tree _).bind fun bytes => ?_
    cases bytes with
    | some bytes =>
      refine isQuiet_tell_bind (by decide) ?_
      split
      · exact isQuiet_pure _
      · exact isQuiet_pure _
    | none =>
      simp only
      split
      · exact isQuiet_pure _
      · refine isQuiet_tell_bind (by decide) ?_
        split
        · exact isQuiet_pure _
        · split
          · exact isQuiet_pure _
          · exact isQuiet_pure _
  · cases text with
    | none => exact isQuiet_pure _
    | some text => exact isQuiet_pure _

theorem isQuiet_expandInto (n : Naming) (ps : List String) :
    ∀ found, (n.expandInto found ps).IsQuiet := by
  induction ps with
  | nil => exact isQuiet_pure
  | cons p ps ih =>
    intro found
    refine IsQuiet.bind ?_ fun patterns => ih _
    rw [Naming.expand]
    split
    · exact isQuiet_tell_bind (by decide) (isQuiet_pure _)
    · exact isQuiet_pure _

theorem isQuiet_prepareSets (cs : List (String × ChangeSet)) : (m.prepareSets cs).IsQuiet := by
  induction cs with
  | nil => exact isQuiet_pure _
  | cons c cs ih =>
    refine IsQuiet.andThen ?_ fun set => ih.andThen fun sets => isQuiet_pure _
    exact (isQuiet_expandInto _ _ []).bind fun patterns => isQuiet_pure _

end RuleSets

/-! ### Events that tell of changes -/

/-- `e.isApplied` tells whether the event `e` tells everyone that something was applied. -/
def Event.isApplied (e : Event) : Bool :=
  e.level = .info && "Applied".toList.isPrefixOf e.message.toList

/-- The event that tells of a change. -/
def FileChange.event (c : FileChange) : Event :=
  { level := .info
    target := Migration.target
    message := Migration.appliedMessage c.strategy
    fields := [("file_path", .text c.path)]
    spans := [⟨.debug, Migration.target, "change_set",
      [("category", .text c.category), ("change_set", .text c.changeSet)]⟩] }

/-- What is told of changes. -/
def Logged.announced {α : Type} (x : Logged α) : List Event := x.events.filter Event.isApplied

theorem Logged.IsQuiet.announced {α : Type} {x : Logged α} (h : x.IsQuiet) : x.announced = [] := by
  rw [Logged.announced, List.filter_eq_nil_iff]
  intro e he
  simp [Event.isApplied, h e he]

@[simp]
theorem Logged.announced_bind {α β : Type} (x : Logged α) (f : α → Logged β) :
    (x >>= f).announced = x.announced ++ (f x.value).announced := by
  simp [Logged.announced]

theorem Logged.announced_tell {level : Level} {target message : String}
    {fields : List (String × FieldValue)} (h : "Applied".toList.isPrefixOf message.toList = false) :
    (tell level target message fields).announced = [] := by
  rw [Logged.announced, events_tell, List.filter_eq_nil_iff]
  simp only [List.mem_singleton, forall_eq, Event.isApplied, h, Bool.and_false]
  exact Bool.false_ne_true

theorem Logged.announced_within {α : Type} (s : Span) (x : Logged α) :
    (x.within s).announced = x.announced.map (Event.within s) := by
  rw [Logged.announced, Logged.announced, Logged.within, List.filter_map]
  rfl

section Announces

variable {τ : Type} {f : Event → Event} {p : Progress τ}

/-- The changes that are added to a report are those that are told of, as `f` makes events of it. -/
def Announces (f : Event → Event) (p : Progress τ)
    (x : Logged (Except RenameError (Progress τ))) : Prop :=
  ∀ q, x.value = .ok q → ∃ changes, q.report.changes = p.report.changes ++ changes ∧
    x.announced.map f = changes.map FileChange.event

theorem announces_of_isQuiet {x : Logged (Except RenameError (Progress τ))} (hx : x.IsQuiet)
    (hsame : ∀ q, x.value = .ok q → q.report.changes = p.report.changes) : Announces f p x :=
  fun q hq => ⟨[], by simp [hsame q hq], by simp [hx.announced]⟩

theorem Announces.bind_of_isQuiet {α : Type} {x : Logged α} (hx : x.IsQuiet)
    {g : α → Logged (Except RenameError (Progress τ))} (h : Announces f p (g x.value)) :
    Announces f p (x >>= g) := by
  intro q hq
  rw [announced_bind, hx.announced, List.nil_append]
  exact h q hq

/-- One after another, changes and events are added in the same order. -/
theorem Announces.andThen {x : Logged (Except RenameError (Progress τ))} (hx : Announces f p x)
    {g : Progress τ → Logged (Except RenameError (Progress τ))} (hg : ∀ q, Announces f q (g q)) :
    Announces f p (x.andThen g) := by
  intro q hq
  cases hvalue : x.value with
  | error e =>
    rw [value_andThen_of_error _ hvalue] at hq
    cases hq
  | ok q₁ =>
    rw [value_andThen_of_ok _ hvalue] at hq
    obtain ⟨changes₁, hreport₁, hevents₁⟩ := hx q₁ hvalue
    obtain ⟨changes₂, hreport₂, hevents₂⟩ := hg q₁ q hq
    refine ⟨changes₁ ++ changes₂, by rw [hreport₂, hreport₁, List.append_assoc], ?_⟩
    have hevents : (x.andThen g).announced = x.announced ++ (g q₁).announced := by
      simp [Logged.andThen, hvalue, Logged.announced]
    rw [hevents, List.map_append, hevents₁, hevents₂, List.map_append]

theorem announces_noteIssue (set : PreparedSet) (path message : String) (e : MigrationError) :
    Announces f p (Migration.noteIssue set path message e p) := by
  refine announces_of_isQuiet (isQuiet_tell_bind (by decide) (isQuiet_pure _)) fun q hq => ?_
  cases hq
  rfl

end Announces

section Steps

variable {τ : Type} [FileTree τ] [QuietTree τ] (m : Migration) (set : PreparedSet)

/-- Only a file that has been written is told of. -/
theorem announces_writeBack (path : String) (t : Transformed) (p : Progress τ) :
    Announces (Event.within (Migration.spanOf set)) p (Migration.writeBack set path t p) := by
  refine .bind_of_isQuiet (QuietTree.isQuiet_overwrite p.tree path _) ?_
  cases (FileTree.overwrite p.tree path (String.ofList t.content).toUTF8).value with
  | error e => exact announces_noteIssue set path _ e
  | ok tree =>
    intro q hq
    cases hq
    refine ⟨[⟨path, set.category, set.label, t.strategy⟩], rfl, ?_⟩
    have happlied : Event.isApplied ⟨.info, Migration.target, Migration.appliedMessage t.strategy,
        [("file_path", .text path)], []⟩ = true := by
      have hstarts :
          "Applied".toList.isPrefixOf (Migration.appliedMessage t.strategy).toList = true := by
        cases t.strategy <;> decide
      rw [Event.isApplied, hstarts]
      rfl
    exact congrArg (List.map _) (List.filter_cons_of_pos happlied)

theorem announces_applyToFile (path : String) (p : Progress τ) :
    Announces (Event.within (Migration.spanOf set)) p (m.applyToFile set path p) := by
  -- a file that is passed over changes nothing and is not told of
  have hskip : ∀ message, Announces (Event.within (Migration.spanOf set)) p
      (do Logged.tell .debug Migration.target message [("file_path", .text path)]
          return .ok p) := by
    intro message
    refine announces_of_isQuiet (isQuiet_tell_bind (by decide) (isQuiet_pure _)) fun q hq => ?_
    cases hq
    rfl
  refine .bind_of_isQuiet (QuietTree.isQuiet_load p.tree path) ?_
  cases (FileTree.load p.tree path).value with
  | none => exact hskip _
  | some bytes =>
    simp only
    split
    · exact hskip _
    · next source _ =>
      refine .bind_of_isQuiet (isQuiet_transform _ _ _ _) ?_
      cases (transform m.provider path source.toList set.rules).value with
      | error e =>
        cases hcause : e.toMigrationError? with
        | none =>
          intro q hq
          simp [hcause] at hq
        | some cause =>
          simp only [hcause]
          exact announces_noteIssue set path _ cause
      | ok t =>
        simp only
        split
        · exact announces_of_isQuiet (isQuiet_pure _) fun q hq => by cases hq; rfl
        · exact announces_writeBack set path t p

theorem announces_applyToFiles (paths : List String) (p : Progress τ) :
    Announces (Event.within (Migration.spanOf set)) p (m.applyToFiles set paths p) := by
  induction paths generalizing p with
  | nil => exact announces_of_isQuiet (isQuiet_pure _) fun q hq => by cases hq; rfl
  | cons path paths ih => exact (announces_applyToFile m set path p).andThen ih

theorem announces_apply (p : Progress τ) : Announces id p (m.apply set p) := by
  intro q hq
  rw [Migration.apply, value_within, value_bind] at hq
  obtain ⟨changes, hreport, hevents⟩ :=
    announces_applyToFiles m set (set.selector.select p.tree) p q hq
  refine ⟨changes, hreport, ?_⟩
  rw [List.map_id, Migration.apply, announced_within, announced_bind, announced_tell (by decide),
    List.nil_append]
  exact hevents

theorem announces_applyAllSets (sets : List PreparedSet) (p : Progress τ) :
    Announces id p (m.applyAllSets sets p) := by
  induction sets generalizing p with
  | nil => exact announces_of_isQuiet (isQuiet_pure _) fun q hq => by cases hq; rfl
  | cons set sets ih => exact (announces_apply m set p).andThen ih

end Steps

/-! ### The steps of a run -/

/-- A file that a change set comes to, with the contents that it finds. -/
structure Visit where
  set : PreparedSet
  path : String
  found : ByteArray

/-- The change that is noted of a file, if it is changed. -/
def Visit.change? (v : Visit) (provider : Provider) : Option FileChange :=
  v.set.change? provider v.path v.found

/-- The issue that is noted of a file, if the rules fail. -/
def Visit.issue? (v : Visit) (provider : Provider) : Option FileIssue :=
  v.set.issue? provider v.path v.found

/-- `v.Fails provider` says that the file of `v` is a text, and that the rules of its change set
fail on it with `provider`. -/
def Visit.Fails (v : Visit) (provider : Provider) : Prop :=
  ∃ source e, String.fromUTF8? v.found = some source ∧
    (transform provider v.path source.toList v.set.rules).value = .error e

namespace PreparedSet

variable {set : PreparedSet} {provider : Provider} {path : String} {bytes : ByteArray}

/-- Where no change is noted, the contents stay. -/
theorem rewriteText_of_change?_eq_none (h : set.change? provider path bytes = none) :
    set.rewriteText provider path bytes = bytes := by
  rw [change?] at h
  rw [rewriteText]
  cases htext : String.fromUTF8? bytes with
  | none => rfl
  | some source =>
    rw [htext, Option.bind_some] at h
    simp only
    cases hvalue : (transform provider path source.toList set.rules).value with
    | error e => rfl
    | ok t =>
      simp only [hvalue] at h ⊢
      by_cases hsame : t.content = source.toList
      · rw [hsame, toUTF8_ofList_toList htext]
      · simp [hsame] at h

theorem path_of_change? {c : FileChange} (h : set.change? provider path bytes = some c) :
    c.path = path := by
  obtain ⟨source, -, h⟩ := Option.bind_eq_some_iff.1 h
  cases hvalue : (transform provider path source.toList set.rules).value with
  | error e => simp [hvalue] at h
  | ok t =>
    simp only [hvalue] at h
    split at h
    · cases h
    · cases h
      rfl

/-- No file is both changed and at issue. -/
theorem change?_eq_none_or_issue?_eq_none (set : PreparedSet) (provider : Provider) (path : String)
    (bytes : ByteArray) :
    set.change? provider path bytes = none ∨ set.issue? provider path bytes = none := by
  rw [change?, issue?]
  cases String.fromUTF8? bytes with
  | none => exact Or.inl rfl
  | some source =>
    simp only [Option.bind_some]
    cases (transform provider path source.toList set.rules).value with
    | error e => exact Or.inl rfl
    | ok t => exact Or.inr rfl

end PreparedSet

/-- Wherever the rules fail, an issue is noted. -/
theorem Visit.isSome_issue?_iff {m : Migration} (hsound : m.provider.Sound) (v : Visit) :
    (v.issue? m.provider).isSome ↔ v.Fails m.provider := by
  rw [issue?, PreparedSet.issue?, Fails]
  cases String.fromUTF8? v.found with
  | none => simp
  | some source =>
    cases hvalue : (transform m.provider v.path source.toList v.set.rules).value with
    | ok t => simp [hvalue]
    | error e =>
      obtain ⟨cause, hcause⟩ := exists_cause_of_transform hsound hvalue
      simp [hvalue, hcause]

section Visits

variable {τ : Type} [FileTree τ]

/-- A change set comes to files, one after another, as those before have left the tree. -/
def Migration.visits (m : Migration) (set : PreparedSet) : List String → Progress τ → List Visit
  | [], _ => []
  | path :: paths, p =>
    ((FileTree.read p.tree path).map (Visit.mk set path)).toList ++
      match (m.applyToFile set path p).value with
      | .ok q => m.visits set paths q
      | .error _ => []

/-- The steps of change sets, one after another. -/
def Migration.steps (m : Migration) : List PreparedSet → Progress τ → List Visit
  | [], _ => []
  | set :: sets, p =>
    m.visits set (set.selector.select p.tree) p ++
      match (m.apply set p).value with
      | .ok q => m.steps sets q
      | .error _ => []

variable {m : Migration} {set : PreparedSet}

theorem visits_cons {path : String} {p q : Progress τ} (paths : List String)
    (h : (m.applyToFile set path p).value = .ok q) :
    m.visits set (path :: paths) p =
      ((FileTree.read p.tree path).map (Visit.mk set path)).toList ++ m.visits set paths q := by
  rw [Migration.visits, h]

theorem steps_cons {p q : Progress τ} (sets : List PreparedSet)
    (h : (m.apply set p).value = .ok q) :
    m.steps (set :: sets) p = m.visits set (set.selector.select p.tree) p ++ m.steps sets q := by
  rw [Migration.steps, h]

variable [IsolatedTree τ]

theorem strip_of_mem_select {tree : τ} {path : String} (h : path ∈ set.selector.select tree) :
    Path.strip path = path :=
  IsolatedTree.strip_of_mem_paths (List.mem_of_mem_filter h)

variable (hsound : m.provider.Sound)
include hsound

theorem report_visits :
    ∀ {paths : List String}, (∀ path ∈ paths, Path.strip path = path) →
      ∀ {p q : Progress τ}, (m.applyToFiles set paths p).value = .ok q →
        q.report = p.report.extend ((m.visits set paths p).filterMap (·.change? m.provider))
          ((m.visits set paths p).filterMap (·.issue? m.provider)) := by
  intro paths
  induction paths with
  | nil =>
    intro _ p q h
    cases h
    simp [Migration.visits]
  | cons path paths ih =>
    intro hstrip p q h
    rw [List.forall_mem_cons] at hstrip
    obtain ⟨q₁, hok₁, -⟩ := changed_applyToFile hsound set hstrip.1 p
    rw [Migration.applyToFiles, value_andThen_of_ok _ hok₁] at h
    rw [ih hstrip.2 h, report_applyToFile hok₁, Report.extend_extend, visits_cons paths hok₁,
      List.filterMap_append, List.filterMap_append]
    -- what is noted of the first file is what its contents say
    cases FileTree.read p.tree path with
    | none => rfl
    | some bytes =>
      simp only [Option.bind_some, Option.map_some, Option.toList_some, List.filterMap_cons,
        List.filterMap_nil, Visit.change?, Visit.issue?]
      cases set.change? m.provider path bytes <;> cases set.issue? m.provider path bytes <;> rfl

/-- **Changes and issues, read off the steps.** -/
theorem report_steps :
    ∀ {sets : List PreparedSet} {p q : Progress τ}, (m.applyAllSets sets p).value = .ok q →
      q.report = p.report.extend ((m.steps sets p).filterMap (·.change? m.provider))
        ((m.steps sets p).filterMap (·.issue? m.provider)) := by
  intro sets
  induction sets with
  | nil =>
    intro p q h
    cases h
    simp [Migration.steps]
  | cons set sets ih =>
    intro p q h
    obtain ⟨q₁, hok₁, -⟩ := changed_apply hsound set p
    have hfiles : (m.applyToFiles set (set.selector.select p.tree) p).value = .ok q₁ := hok₁
    rw [Migration.applyAllSets, value_andThen_of_ok _ hok₁] at h
    rw [ih h, report_visits hsound (fun _ => strip_of_mem_select) hfiles,
      Report.extend_extend, steps_cons sets hok₁, List.filterMap_append, List.filterMap_append]

/-- A file without a noted change is as it was. -/
theorem read_of_notMem_visits {path : String} :
    ∀ {paths : List String}, (∀ path ∈ paths, Path.strip path = path) →
      ∀ {p q : Progress τ}, (m.applyToFiles set paths p).value = .ok q →
        (∀ c ∈ (m.visits set paths p).filterMap (·.change? m.provider), c.path ≠ Path.strip path) →
        FileTree.read q.tree path = FileTree.read p.tree path := by
  intro paths
  induction paths with
  | nil =>
    intro _ p q h _
    cases h
    rfl
  | cons first paths ih =>
    intro hstrip p q h hnone
    rw [List.forall_mem_cons] at hstrip
    obtain ⟨q₁, hok₁, hchanged₁⟩ := changed_applyToFile hsound set hstrip.1 p
    rw [Migration.applyToFiles, value_andThen_of_ok _ hok₁] at h
    rw [visits_cons paths hok₁, List.filterMap_append, List.forall_mem_append] at hnone
    rw [ih hstrip.2 h hnone.2, hchanged₁.read]
    cases hread : FileTree.read p.tree path with
    | none => rfl
    | some bytes =>
      rw [Option.map_some]
      by_cases hfirst : Path.strip path = first
      · -- it is the first file, and no change is noted of it
        have hfound : FileTree.read p.tree first = some bytes := by
          rw [← hfirst, IsolatedTree.read_strip, hread]
        rw [if_pos hfirst]
        cases hchange : set.change? m.provider first bytes with
        | none => rw [PreparedSet.rewriteText_of_change?_eq_none hchange]
        | some c =>
          have hmem : c ∈ ((FileTree.read p.tree first).map (Visit.mk set first)).toList.filterMap
              (·.change? m.provider) := by
            simp [hfound, Visit.change?, hchange]
          exact absurd ((PreparedSet.path_of_change? hchange).trans hfirst.symm) (hnone.1 c hmem)
      · rw [if_neg hfirst]

/-- **What is not among the changes is as it was.** -/
theorem read_of_notMem_steps {path : String} :
    ∀ {sets : List PreparedSet} {p q : Progress τ}, (m.applyAllSets sets p).value = .ok q →
      (∀ c ∈ (m.steps sets p).filterMap (·.change? m.provider), c.path ≠ Path.strip path) →
      FileTree.read q.tree path = FileTree.read p.tree path := by
  intro sets
  induction sets with
  | nil =>
    intro p q h _
    cases h
    rfl
  | cons set sets ih =>
    intro p q h hnone
    obtain ⟨q₁, hok₁, -⟩ := changed_apply hsound set p
    have hfiles : (m.applyToFiles set (set.selector.select p.tree) p).value = .ok q₁ := hok₁
    rw [Migration.applyAllSets, value_andThen_of_ok _ hok₁] at h
    rw [steps_cons sets hok₁, List.filterMap_append, List.forall_mem_append] at hnone
    rw [ih h hnone.2,
      read_of_notMem_visits hsound (fun _ => strip_of_mem_select) hfiles hnone.1]

/-- A change set comes to every file that can be read. -/
theorem pairs_visits :
    ∀ {paths : List String}, (∀ path ∈ paths, Path.strip path = path) →
      ∀ {p : Progress τ}, (∀ path ∈ paths, (FileTree.read p.tree path).isSome) →
        (m.visits set paths p).map (fun v => (v.set, v.path)) = paths.map (Prod.mk set) := by
  intro paths
  induction paths with
  | nil => exact fun _ _ _ => rfl
  | cons path paths ih =>
    intro hstrip p hreadable
    rw [List.forall_mem_cons] at hstrip hreadable
    obtain ⟨q, hok, hchanged⟩ := changed_applyToFile hsound set hstrip.1 p
    have hstill : ∀ r ∈ paths, (FileTree.read q.tree r).isSome := by
      intro r hr
      rw [hchanged.read, Option.isSome_map]
      exact hreadable.2 r hr
    obtain ⟨bytes, hread⟩ := Option.isSome_iff_exists.1 hreadable.1
    rw [visits_cons paths hok, hread, List.map_append, ih hstrip.2 hstill]
    rfl

end Visits

theorem MemoryTree.isSome_read_of_mem_paths {t : MemoryTree} {path : String}
    (h : path ∈ FileTree.paths t) : (FileTree.read t path).isSome := by
  obtain ⟨f, hf, rfl⟩ := List.mem_map.1 h
  exact Option.isSome_iff_exists.2 ⟨f.2, (mem_files_iff_read (t.stripped f hf)).1 hf⟩

/-- **A run comes to all files that its change sets select**, change set by change set. -/
theorem pairs_steps {m : Migration} (hsound : m.provider.Sound) :
    ∀ (sets : List PreparedSet) (p : Progress MemoryTree),
      (m.steps sets p).map (fun v => (v.set, v.path)) =
        sets.flatMap fun set => (set.selector.select p.tree).map (Prod.mk set) := by
  intro sets
  induction sets with
  | nil => exact fun _ => rfl
  | cons set sets ih =>
    intro p
    obtain ⟨q, hok, hchanged⟩ := changed_apply hsound set p
    -- no file comes or goes, so the change sets to come select the same files
    have hpaths : FileTree.paths q.tree = FileTree.paths p.tree :=
      OrderedTree.paths_eq_of_perm hchanged.paths
    have hselect : ∀ s : Selector, s.select q.tree = s.select p.tree := by
      intro s
      rw [Selector.select, Selector.select, hpaths]
    have hreadable : ∀ path ∈ set.selector.select p.tree, (FileTree.read p.tree path).isSome :=
      fun path hpath => MemoryTree.isSome_read_of_mem_paths (List.mem_of_mem_filter hpath)
    rw [steps_cons sets hok, List.map_append,
      pairs_visits hsound (fun _ => strip_of_mem_select) hreadable, ih q, List.flatMap_cons]
    simp only [hselect]

/-! ### Changed files -/

namespace Report

theorem distinct_concat (paths : List String) (path : String) :
    distinct (paths ++ [path]) =
      if path ∈ distinct paths then distinct paths else distinct paths ++ [path] := by
  rw [distinct, List.foldl_append]
  rfl

@[simp]
theorem mem_distinct {paths : List String} {path : String} :
    path ∈ distinct paths ↔ path ∈ paths := by
  induction paths using List.reverseRecOn with
  | nil => rfl
  | append_singleton paths last ih =>
    rw [distinct_concat]
    by_cases hlast : last ∈ distinct paths
    · rw [if_pos hlast, ih, List.mem_append, List.mem_singleton]
      refine ⟨Or.inl, ?_⟩
      rintro (hpath | rfl)
      · exact hpath
      · exact ih.1 hlast
    · rw [if_neg hlast, List.mem_append, List.mem_append, ih]

/-- What is left of repetitions is in the order of the first occurrences. -/
theorem pairwise_distinct (paths : List String) :
    (distinct paths).Pairwise fun f g => paths.idxOf f < paths.idxOf g := by
  induction paths using List.reverseRecOn with
  | nil => exact List.Pairwise.nil
  | append_singleton paths last ih =>
    -- what has occurred before occurs first where it did
    have hbefore : (distinct paths).Pairwise fun f g =>
        (paths ++ [last]).idxOf f < (paths ++ [last]).idxOf g := by
      refine ih.imp_of_mem fun hf hg h => ?_
      rwa [List.idxOf_append_of_mem (mem_distinct.1 hf),
        List.idxOf_append_of_mem (mem_distinct.1 hg)]
    rw [distinct_concat]
    by_cases hlast : last ∈ distinct paths
    · rwa [if_pos hlast]
    · rw [if_neg hlast, List.pairwise_append]
      refine ⟨hbefore, List.pairwise_singleton _ _, fun f hf g hg => ?_⟩
      have hf' := mem_distinct.1 hf
      rw [List.mem_singleton.1 hg, List.idxOf_append_of_mem hf',
        List.idxOf_append_of_notMem (mem_distinct.not.1 hlast)]
      exact Nat.lt_add_right _ (List.idxOf_lt_length_iff.2 hf')

theorem mem_modifiedFiles {r : Report} {path : String} :
    path ∈ r.modifiedFiles ↔ ∃ c ∈ r.changes, c.path = path := by
  rw [modifiedFiles, mem_distinct, List.mem_map]

end Report

/-! ### Runs -/

/-- A run that ends as completed has applied the change sets of a rule set. -/
theorem applied_of_completed {τ : Type} [FileTree τ] {m : Migration} {tree : τ} {p : Progress τ}
    (h : (m.run tree).value = .ok p) (hcompleted : p.report.outcome = .completed) :
    ∃ r sets, (m.loadRuleSet tree).value = .ok (some r) ∧ (m.prepare r).value = .ok sets ∧
      (m.applyAllSets sets ⟨tree, .ofOutcome .completed⟩).value = .ok p := by
  rw [run_value] at h
  cases hload : (m.loadRuleSet tree).value with
  | error e =>
    rw [hload] at h
    cases h
    cases hcompleted
  | ok found =>
    cases found with
    | none =>
      rw [hload] at h
      cases h
      cases hcompleted
    | some r =>
      simp only [hload] at h
      cases hprepare : (m.prepare r).value with
      | error e =>
        simp only [hprepare] at h
        cases h
        cases hcompleted
      | ok sets =>
        simp only [hprepare] at h
        exact ⟨r, sets, rfl, hprepare, h⟩

/-- **The events of a run, read off its changes.** -/
theorem announced_run {τ : Type} [FileTree τ] [QuietTree τ] {m : Migration} {tree : τ} {r : RuleSet}
    {sets : List PreparedSet} {p : Progress τ} (hload : (m.loadRuleSet tree).value = .ok (some r))
    (hprepare : (m.prepare r).value = .ok sets)
    (happly : (m.applyAllSets sets ⟨tree, .ofOutcome .completed⟩).value = .ok p) :
    (m.run tree).announced = p.report.changes.map FileChange.event := by
  obtain ⟨changes, hchanges, hevents⟩ := announces_applyAllSets m sets _ p happly
  rw [List.map_id] at hevents
  have hprepared : (m.runPrepared tree sets).announced = changes.map FileChange.event := by
    rw [Migration.runPrepared, announced_bind, announced_bind, happly, hevents,
      announced_tell (by decide), List.nil_append]
    simp only
    rw [announced_bind, announced_tell (by decide), (isQuiet_pure _).announced, List.append_nil,
      List.append_nil]
  have hquietPrepare : (m.prepare r).IsQuiet := isQuiet_prepareSets m r.changeSets
  rw [Migration.run, announced_bind, (isQuiet_loadRuleSet m tree).announced, hload,
    List.nil_append]
  simp only
  rw [announced_bind, hquietPrepare.announced, hprepare, List.nil_append, hchanges]
  exact hprepared

/-- **The report of a run accounts for it.**  The steps of a run are the files that its change sets
select, change set by change set in the order of the document.  A change is noted of a step where
the file is a text and the rules make something else of it, and an issue where they fail.  All other
files are as they were, and everyone is told of every change. -/
theorem run_report_is_exact (m : Migration) (hsound : m.provider.Sound) (tree : MemoryTree)
    {p : Progress MemoryTree} (hrun : (m.run tree).value = .ok p)
    (hcompleted : p.report.outcome = .completed) :
    ∃ r sets steps, (m.loadRuleSet tree).value = .ok (some r) ∧
      (m.prepare r).value = .ok sets ∧
      sets.map (fun set => (set.category, set.label)) =
        r.changeSets.map (fun c => (c.1, c.2.label)) ∧
      steps = m.steps sets ⟨tree, .ofOutcome .completed⟩ ∧
      steps.map (fun v => (v.set, v.path)) =
        sets.flatMap (fun set => (set.selector.select tree).map (Prod.mk set)) ∧
      (∀ set ∈ sets, (set.selector.select tree).Nodup) ∧
      p.report.changes = steps.filterMap (·.change? m.provider) ∧
      p.report.issues = steps.filterMap (·.issue? m.provider) ∧
      (∀ v ∈ steps, v.change? m.provider = none ∨ v.issue? m.provider = none) ∧
      (∀ v ∈ steps, (v.issue? m.provider).isSome ↔ v.Fails m.provider) ∧
      (∀ path, path ∈ p.report.modifiedFiles ↔ ∃ c ∈ p.report.changes, c.path = path) ∧
      p.report.modifiedFiles.Pairwise (fun f g =>
        (p.report.changes.map (·.path)).idxOf f < (p.report.changes.map (·.path)).idxOf g) ∧
      (∀ path, Path.strip path ∉ p.report.modifiedFiles → p.tree.read path = tree.read path) ∧
      (m.run tree).announced = p.report.changes.map FileChange.event := by
  obtain ⟨r, sets, hload, hprepare, happly⟩ := applied_of_completed hrun hcompleted
  have hreport := report_steps hsound happly
  have hchanges : p.report.changes =
      (m.steps sets ⟨tree, .ofOutcome .completed⟩).filterMap (·.change? m.provider) := by
    rw [hreport]
    rfl
  refine ⟨r, sets, _, hload, hprepare, names_of_prepareSets hprepare, rfl,
    pairs_steps hsound sets _, fun _ _ => (IsolatedTree.nodup_paths tree).filter _, hchanges, ?_,
    ?_, ?_, fun _ => Report.mem_modifiedFiles, Report.pairwise_distinct _, ?_, ?_⟩
  · rw [hreport]
    rfl
  · exact fun v _ => PreparedSet.change?_eq_none_or_issue?_eq_none v.set _ v.path v.found
  · exact fun v _ => Visit.isSome_issue?_iff hsound v
  · intro path hpath
    refine read_of_notMem_steps hsound happly fun c hc hsame => hpath ?_
    rw [← hchanges] at hc
    exact Report.mem_modifiedFiles.2 ⟨c, hc, hsame⟩
  · exact announced_run hload hprepare happly

/-- The first change set cannot be applied to the code, and the second changes it after all: the
text comes first. -/
theorem run_report_is_exact_sample :
    sampleMigration.provider.Sound ∧ ∃ p, (sampleMigration.run sampleTree).value = .ok p ∧
      p.report.outcome = .completed ∧
      p.report.changes = [⟨"src/app/b.txt", "api", "**/*", .text⟩,
        ⟨"src/app/a.ts", "api", "**/*.ts", .code⟩] ∧
      p.report.issues.map (·.path) = ["src/app/a.ts"] ∧
      (sampleMigration.run sampleTree).announced.map (·.message) =
        ["Applied API changes", "Applied TS API changes"] := by
  obtain ⟨p, hrun⟩ := exists_run_value sound_sampleMigration sampleTree
  have hload : (sampleMigration.loadRuleSet sampleTree).value = .ok (some sampleRuleSet) := by
    decide +kernel
  have hprepare : (sampleMigration.prepare sampleRuleSet).value = .ok sampleSets := by rfl
  have hcompleted : p.report.outcome = .completed := by
    rw [report_run sound_sampleMigration hrun, Migration.outcomeOf, hload]
    simp only [hprepare]
  obtain ⟨r, sets, steps, hr, hsets, -, hsteps, -, -, hchanges, hissues, -, -, -, -, -, hevents⟩ :=
    run_report_is_exact sampleMigration sound_sampleMigration sampleTree hrun hcompleted
  cases hload.symm.trans hr
  cases hprepare.symm.trans hsets
  have hlist : p.report.changes = [⟨"src/app/b.txt", "api", "**/*", .text⟩,
      ⟨"src/app/a.ts", "api", "**/*.ts", .code⟩] := by
    rw [hchanges, hsteps]
    decide +kernel
  refine ⟨sound_sampleMigration, p, hrun, hcompleted, hlist, ?_, ?_⟩
  · rw [hissues, hsteps]
    decide +kernel
  · rw [hevents, hlist]
    rfl

end Codemod
