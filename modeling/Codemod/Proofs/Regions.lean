import Codemod.Proofs.RenamePlan
import Codemod.Proofs.Splice

/-!
# A renaming, read from left to right

The regions of a source are its comments and those identifiers that are renamed and spelt as they
are named.  A renaming pools the edits of both kinds, drops the doubles and splices from the end.  If
no two regions have a byte in common unless they are the same, all of this comes to reading the
source once: a region gives its new text and everything else is copied.

## Main definitions

* `Region`, `regions` — the parts of a source that a renaming is about.
* `readRegions` — the source with regions replaced, read from left to right.
* `Syntax.Tree.LaidOut` — no two identifiers or comments have a byte in common.
* `EditsOf` — edits that make the changes of regions from an offset on.

## Main results

* `mem_plannedEdits`, `exists_plannedEdit` — the edits of a plan are those of its regions.
* `readRegions_eq_assembleFrom` — assembling edits is reading their regions.
* `rename_eq_readRegions` — **a renaming reads its source from left to right.**
-/

namespace Codemod

open Syntax Text

/-- `Apart start stop start' stop'` says that the ranges from `start` to `stop` and from `start'`
to `stop'` have no byte in common.  The stops do not belong to them. -/
def Apart (start stop start' stop' : Nat) : Prop :=
  ∀ pos, start ≤ pos → pos < stop → start' ≤ pos → ¬pos < stop'

theorem Apart.symm {start stop start' stop' : Nat} (h : Apart start stop start' stop') :
    Apart start' stop' start stop :=
  fun pos h₁ h₂ h₃ h₄ => h pos h₃ h₄ h₁ h₂

theorem apart_iff {start stop start' stop' : Nat} :
    Apart start stop start' stop' ↔ min stop stop' ≤ max start start' := by
  constructor
  · intro h
    have := h (max start start')
    omega
  · intro h pos h₁ h₂ h₃ h₄
    omega

instance (start stop start' stop' : Nat) : Decidable (Apart start stop start' stop') :=
  decidable_of_iff _ apart_iff.symm

/-! ### Regions -/

/-- A part of a source and the text that takes its place. -/
structure Region where
  start : Nat
  old : List Char
  new : List Char
  deriving DecidableEq, Repr, Inhabited

namespace Region

/-- The offset after a region. -/
def stop (r : Region) : Nat := r.start + blen r.old

/-- `r.StandsIn source` says that the text of the region `r` is found at its place in `source`. -/
def StandsIn (r : Region) (source : List Char) : Prop := slice? r.start r.stop source = some r.old

/-- `r.IsEdit e` says that the edit `e` makes the change of the region `r`. -/
def IsEdit (r : Region) (e : Edit) : Prop := e.start = r.start ∧ e.stop = r.stop ∧ e.text = r.new

theorem start_lt_stop {r : Region} (h : r.old ≠ []) : r.start < r.stop := by
  have := blen_pos_iff.2 h
  rw [stop]
  omega

theorem IsEdit.isValid {r : Region} {e : Edit} {source : List Char} (h : r.IsEdit e)
    (hr : r.StandsIn source) : e.isValid source = true := by
  rw [Edit.isValid, h.1, h.2.1, hr]
  rfl

end Region

/-- The region of an identifier that is renamed and spelt as it is named. -/
def identifierRegion? (rules : List Rule) (source : List Char) (i : Identifier) : Option Region :=
  let name := i.name.toList
  if slice? i.start (i.start + blen name) source = some name then
    (newName? rules name).map fun new => ⟨i.start, name, new⟩
  else none

/-- The region of a comment: all rules are applied to its text, one after another. -/
def commentRegion? (rules : List Rule) (source : List Char) (c : CommentSpan) : Option Region :=
  (c.text? source).map fun text => ⟨c.start, text, renameText rules text⟩

/-- The parts of a source that a renaming is about. -/
def regions (rules : List Rule) (source : List Char) (tree : Tree) : List Region :=
  tree.identifiers.filterMap (identifierRegion? rules source) ++
    tree.comments.filterMap (commentRegion? rules source)

/-- The source with regions replaced, read from left to right.  `skip` characters belong to a region
that has been replaced. -/
def readRegions (rs : List Region) : (pos skip : Nat) → List Char → List Char
  | _, _, [] => []
  | pos, skip + 1, c :: rest => readRegions rs (pos + c.utf8Size) skip rest
  | pos, 0, c :: rest =>
    match rs.find? fun r => r.start = pos && !r.old.isEmpty with
    | some r => r.new ++ readRegions rs (pos + c.utf8Size) (r.old.length - 1) rest
    | none => c :: readRegions rs (pos + c.utf8Size) 0 rest

/-! ### What a plan holds, by regions -/

theorem identifierRegion?_eq_some_iff {rules : List Rule} {source : List Char} {i : Identifier}
    {r : Region} :
    identifierRegion? rules source i = some r ↔
      slice? i.start (i.start + blen i.name.toList) source = some i.name.toList ∧
        newName? rules i.name.toList = some r.new ∧ r.start = i.start ∧ r.old = i.name.toList := by
  obtain ⟨start, old, new⟩ := r
  rw [identifierRegion?]
  split
  · next h => simp [h, eq_comm]
  · next h => simp [h]

theorem commentRegion?_eq_some_iff {rules : List Rule} {source : List Char} {c : CommentSpan}
    {r : Region} :
    commentRegion? rules source c = some r ↔
      c.text? source = some r.old ∧ r.start = c.start ∧ r.new = renameText rules r.old := by
  obtain ⟨start, old, new⟩ := r
  rw [commentRegion?, Option.map_eq_some_iff]
  constructor
  · rintro ⟨text, htext, heq⟩
    cases heq
    exact ⟨htext, rfl, rfl⟩
  · rintro ⟨htext, hstart, hnew⟩
    dsimp only at htext hstart hnew
    exact ⟨old, htext, by rw [hstart, hnew]⟩

/-- The edit of an identifier is that of its region. -/
theorem identifierEdit?_eq_map (rules : List Rule) (source : List Char) (i : Identifier) :
    identifierEdit? rules source i =
      (identifierRegion? rules source i).map fun r => ⟨r.start, r.stop, r.new, .identifier⟩ := by
  rw [identifierEdit?, identifierRegion?]
  cases newName? rules i.name.toList with
  | none => simp
  | some new => split <;> simp_all [Region.stop]

/-- The text of a comment ends where the comment does. -/
theorem stop_of_commentRegion? {rules : List Rule} {source : List Char} {c : CommentSpan}
    {r : Region} (h : commentRegion? rules source c = some r) : r.stop = c.stop := by
  obtain ⟨htext, hstart, -⟩ := commentRegion?_eq_some_iff.1 h
  obtain ⟨a, b, -, ha, hstop⟩ := slice?_eq_some_iff.1 htext
  rw [Region.stop, hstart, ← ha, hstop]

theorem mem_regions {rules : List Rule} {source : List Char} {tree : Tree} {r : Region} :
    r ∈ regions rules source tree ↔
      (∃ i ∈ tree.identifiers, identifierRegion? rules source i = some r) ∨
        ∃ c ∈ tree.comments, commentRegion? rules source c = some r := by
  simp [regions]

theorem standsIn_of_mem_regions {rules : List Rule} {source : List Char} {tree : Tree}
    {r : Region} (h : r ∈ regions rules source tree) : r.StandsIn source := by
  rcases mem_regions.1 h with ⟨i, -, hi⟩ | ⟨c, -, hc⟩
  · obtain ⟨hspelt, -, hstart, hold⟩ := identifierRegion?_eq_some_iff.1 hi
    rw [Region.StandsIn, Region.stop, hstart, hold, hspelt]
  · obtain ⟨htext, hstart, -⟩ := commentRegion?_eq_some_iff.1 hc
    rw [Region.StandsIn, stop_of_commentRegion? hc, hstart]
    exact htext

theorem isIdentifier_of_newName? {rules : List Rule} {name new : List Char}
    (h : newName? rules name = some new) : isIdentifier name = true := by
  obtain ⟨r, hr, -⟩ := Option.map_eq_some_iff.1 h
  have hname : r.identifier? = some name := by simpa using List.find?_some hr
  exact (Rule.identifier?_eq_some_iff.1 hname).1

theorem renameText_nil (rules : List Rule) : renameText rules [] = [] := by
  rw [renameText]
  induction identifierRules rules with
  | nil => rfl
  | cons r rs ih => exact ih

/-- Every edit of a plan is that of a region with some text. -/
theorem mem_plannedEdits {rules : List Rule} {source : List Char} {tree : Tree} {e : Edit}
    (h : e ∈ plannedEdits rules source tree) :
    ∃ r ∈ regions rules source tree, r.old ≠ [] ∧ r.IsEdit e := by
  rcases List.mem_append.1 h with h | h
  · obtain ⟨i, hi, he⟩ := List.mem_filterMap.1 h
    rw [identifierEdit?_eq_map] at he
    obtain ⟨r, hr, rfl⟩ := Option.map_eq_some_iff.1 he
    refine ⟨r, mem_regions.2 (Or.inl ⟨i, hi, hr⟩), ?_, rfl, rfl, rfl⟩
    obtain ⟨-, hnew, -, hold⟩ := identifierRegion?_eq_some_iff.1 hr
    intro hnil
    rw [← hold, hnil] at hnew
    simpa [isIdentifier] using isIdentifier_of_newName? hnew
  · obtain ⟨c, hc, he⟩ := List.mem_filterMap.1 h
    rw [commentEdit?, commentEdit] at he
    cases htext : c.text? source with
    | none => simp [htext] at he
    | some text =>
      simp only [htext, Option.map_some, Option.join_some] at he
      split at he
      · simp at he
      · next hne =>
        cases he
        have hregion : commentRegion? rules source c =
            some ⟨c.start, text, renameText rules text⟩ := by
          rw [commentRegion?, htext, Option.map_some]
        refine ⟨_, mem_regions.2 (Or.inr ⟨c, hc, hregion⟩), ?_, rfl,
          (stop_of_commentRegion? hregion).symm, rfl⟩
        intro hnil
        dsimp only at hnil
        rw [hnil] at hne
        exact hne (renameText_nil rules)

/-- Every region that is changed has an edit in the plan. -/
theorem exists_plannedEdit {rules : List Rule} {source : List Char} {tree : Tree} {r : Region}
    (h : r ∈ regions rules source tree) :
    r.new = r.old ∨ ∃ e ∈ plannedEdits rules source tree, r.IsEdit e := by
  rcases mem_regions.1 h with ⟨i, hi, hr⟩ | ⟨c, hc, hr⟩
  · refine Or.inr ⟨⟨r.start, r.stop, r.new, .identifier⟩, ?_, rfl, rfl, rfl⟩
    refine List.mem_append_left _ (List.mem_filterMap.2 ⟨i, hi, ?_⟩)
    rw [identifierEdit?_eq_map, hr, Option.map_some]
  · obtain ⟨htext, hstart, hnew⟩ := commentRegion?_eq_some_iff.1 hr
    by_cases hsame : r.new = r.old
    · exact Or.inl hsame
    · rw [hnew] at hsame
      refine Or.inr ⟨⟨c.start, c.stop, r.new, .comment⟩, ?_, ?_⟩
      · refine List.mem_append_right _ (List.mem_filterMap.2 ⟨c, hc, ?_⟩)
        simp [commentEdit?, commentEdit, htext, hsame, hnew]
      · exact ⟨hstart.symm, (stop_of_commentRegion? hr).symm, rfl⟩

theorem isValid_of_mem_plannedEdits {rules : List Rule} {source : List Char} {tree : Tree}
    {e : Edit} (h : e ∈ plannedEdits rules source tree) : e.isValid source = true := by
  obtain ⟨r, hr, -, hedit⟩ := mem_plannedEdits h
  exact hedit.isValid (standsIn_of_mem_regions hr)

/-! ### Reading -/

theorem readRegions_skip (rs : List Region) (b : List Char) :
    ∀ (x : List Char) (pos : Nat),
      readRegions rs pos x.length (x ++ b) = readRegions rs (pos + blen x) 0 b := by
  intro x
  induction x with
  | nil => intro pos; rfl
  | cons c x ih =>
    intro pos
    rw [List.length_cons, List.cons_append, readRegions, ih, blen_cons, Nat.add_assoc]

/-- A region that starts here gives its new text. -/
theorem readRegions_region {rs : List Region} {pos : Nat} {r : Region} (b : List Char)
    (h : (rs.find? fun r => r.start = pos && !r.old.isEmpty) = some r) :
    readRegions rs pos 0 (r.old ++ b) = r.new ++ readRegions rs (pos + blen r.old) 0 b := by
  have hr : r.start = pos ∧ r.old ≠ [] := by simpa using List.find?_some h
  obtain ⟨c, x, hold⟩ := List.exists_cons_of_ne_nil hr.2
  rw [hold, List.cons_append, readRegions, h]
  simp only [hold, List.length_cons, Nat.add_sub_cancel]
  rw [readRegions_skip, blen_cons, Nat.add_assoc]

/-- `EditsOf rs pos es` says that the edits `es` make the changes of the regions `rs` from the
offset `pos` on. -/
structure EditsOf (rs : List Region) (pos : Nat) (es : List Edit) : Prop where
  inOrder : Edit.InOrder es
  le_start : ∀ e ∈ es, pos ≤ e.start
  exists_region : ∀ e ∈ es, ∃ r ∈ rs, r.old ≠ [] ∧ r.IsEdit e
  exists_edit : ∀ r ∈ rs, r.old ≠ [] → pos ≤ r.start → r.new = r.old ∨ ∃ e ∈ es, r.IsEdit e

namespace EditsOf

variable {rs : List Region} {pos : Nat} {es : List Edit}

theorem advance (h : EditsOf rs pos es) {pos' : Nat} (hle : pos ≤ pos')
    (hstart : ∀ e ∈ es, pos' ≤ e.start) : EditsOf rs pos' es where
  inOrder := h.inOrder
  le_start := hstart
  exists_region := h.exists_region
  exists_edit r hr hne hpos := h.exists_edit r hr hne (Nat.le_trans hle hpos)

theorem tail {e : Edit} (h : EditsOf rs pos (e :: es)) : EditsOf rs e.stop es where
  inOrder := (List.pairwise_cons.1 h.inOrder).2
  le_start f hf := ((List.pairwise_cons.1 h.inOrder).1 f hf).2
  exists_region f hf := h.exists_region f (List.mem_cons_of_mem _ hf)
  exists_edit r hr hne hpos := by
    obtain ⟨q, -, hq, hqe⟩ := h.exists_region e List.mem_cons_self
    have hlt := q.start_lt_stop hq
    rw [← hqe.1, ← hqe.2.1] at hlt
    have hle := h.le_start e List.mem_cons_self
    rcases h.exists_edit r hr hne (by omega) with hsame | ⟨f, hf, hedit⟩
    · exact Or.inl hsame
    · rcases List.mem_cons.1 hf with rfl | hf
      · rw [← hedit.1] at hpos
        omega
      · exact Or.inr ⟨f, hf, hedit⟩

/-- An edit that starts at the offset is the first one. -/
theorem eq_cons_of_mem (h : EditsOf rs pos es) {e : Edit} (he : e ∈ es) (hstart : e.start = pos) :
    ∃ es', es = e :: es' := by
  cases es with
  | nil => simp at he
  | cons f es' =>
    rcases List.mem_cons.1 he with rfl | he
    · exact ⟨es', rfl⟩
    · have hlt := ((List.pairwise_cons.1 h.inOrder).1 e he).1
      have hle := h.le_start f List.mem_cons_self
      omega

theorem isValid {source : List Char} (h : EditsOf rs pos es)
    (hstands : ∀ r ∈ rs, r.StandsIn source) : ∀ e ∈ es, e.isValid source = true := by
  intro e he
  obtain ⟨r, hr, -, hedit⟩ := h.exists_region e he
  exact hedit.isValid (hstands r hr)

section Apart

variable (hapart : ∀ r ∈ rs, ∀ q ∈ rs, r = q ∨ Apart r.start r.stop q.start q.stop)
include hapart

/-- An edit that starts with a region makes its change. -/
theorem isEdit_of_start_eq (h : EditsOf rs pos es) {r : Region} (hr : r ∈ rs) (hne : r.old ≠ [])
    {e : Edit} (he : e ∈ es) (hstart : e.start = r.start) : r.IsEdit e := by
  obtain ⟨q, hq, hqne, hqe⟩ := h.exists_region e he
  rcases hapart r hr q hq with rfl | hrq
  · exact hqe
  · have hlt := r.start_lt_stop hne
    have hqlt := q.start_lt_stop hqne
    have hqs := hqe.1
    exact absurd (by omega) (hrq r.start (by omega) hlt (by omega))

/-- If no edit starts with a region, none starts in it. -/
theorem stop_le_start (h : EditsOf rs pos es) {r : Region} (hr : r ∈ rs) (hpos : r.start = pos)
    (hno : ¬∃ e ∈ es, e.start = pos) : ∀ e ∈ es, r.stop ≤ e.start := by
  intro e he
  obtain ⟨q, hq, hqne, hqe⟩ := h.exists_region e he
  have hle := h.le_start e he
  have hne : e.start ≠ pos := fun heq => hno ⟨e, he, heq⟩
  have hqlt := q.start_lt_stop hqne
  have hqs := hqe.1
  rcases hapart r hr q hq with rfl | hrq
  · omega
  · have hout := hrq q.start (by omega)
    omega

end Apart

/-- If no region starts here, no edit starts before the next character. -/
theorem next_le_start {source a rest : List Char} {c : Char} (h : EditsOf rs (blen a) es)
    (hstands : ∀ r ∈ rs, r.StandsIn source) (hsource : a ++ c :: rest = source)
    (hno : ∀ r ∈ rs, r.start = blen a → r.old = []) : ∀ e ∈ es, blen (a ++ [c]) ≤ e.start := by
  intro e he
  obtain ⟨r, hr, hne, hedit⟩ := h.exists_region e he
  have hle := h.le_start e he
  have hstart : e.start ≠ blen a := fun heq => hne (hno r hr (hedit.1.symm.trans heq))
  -- the edit starts at a place of the source, and the next one is after the character
  obtain ⟨p, q, hpq, hp⟩ := Edit.isPlace_start (h.isValid hstands e he)
  obtain ⟨m, rfl, hm⟩ := exists_append_of_blen_le (hsource.trans hpq.symm) (by omega)
  rw [blen_append] at hp
  cases m with
  | nil => simp at hp; omega
  | cons d m =>
    rw [List.cons_append] at hm
    rw [(List.cons.inj hm).1, ← hp, blen_append]
    simp only [blen_cons, blen_nil]
    omega

end EditsOf

section Assemble

variable {source : List Char} {rs : List Region} (hstands : ∀ r ∈ rs, r.StandsIn source)
  (hapart : ∀ r ∈ rs, ∀ q ∈ rs, r = q ∨ Apart r.start r.stop q.start q.stop)
include hstands

/-- After the last character there is no edit. -/
theorem EditsOf.eq_nil {es : List Edit} (h : EditsOf rs (blen source) es) : es = [] := by
  refine List.eq_nil_iff_forall_not_mem.2 fun e he => ?_
  obtain ⟨r, hr, hne, hedit⟩ := h.exists_region e he
  have hle := h.le_start e he
  have hstop := (slice?_isSome_iff.1 (Option.isSome_of_eq_some (hstands r hr))).2.2.le
  have hlt := r.start_lt_stop hne
  have hstart := hedit.1
  omega

include hapart

/-- A region with some text, followed by the rest of the source: it is changed by the first edit, or
it stays and no edit starts in it. -/
theorem assembleFrom_region {a b : List Char} {es : List Edit} {r : Region} (hr : r ∈ rs)
    (hne : r.old ≠ []) (hstart : r.start = blen a) (hsource : a ++ (r.old ++ b) = source)
    (h : EditsOf rs (blen a) es) :
    ∃ es', EditsOf rs (blen (a ++ r.old)) es' ∧
      assembleFrom source (blen a) es =
        r.new ++ assembleFrom source (blen (a ++ r.old)) es' := by
  have hstop : r.stop = blen (a ++ r.old) := by rw [Region.stop, hstart, blen_append]
  by_cases hedit : ∃ e ∈ es, e.start = blen a
  · obtain ⟨e, he, hes⟩ := hedit
    obtain ⟨es', rfl⟩ := h.eq_cons_of_mem he hes
    have hre := h.isEdit_of_start_eq hapart hr hne he (hes.trans hstart.symm)
    have htail := h.tail
    rw [hre.2.1, hstop] at htail
    have hcons := assembleFrom_cons a [] r.old b es' (e := e) (by simpa using hes.symm)
    rw [List.nil_append, hsource] at hcons
    exact ⟨es', htail, by rw [hcons, hre.2.1, hre.2.2, hstop, List.nil_append]⟩
  · have hsame : r.new = r.old := by
      refine (h.exists_edit r hr hne (Nat.le_of_eq hstart.symm)).resolve_right ?_
      rintro ⟨e, he, hre⟩
      exact hedit ⟨e, he, hre.1.trans hstart⟩
    have hafter := h.stop_le_start hapart hr hstart hedit
    have hcopy := assembleFrom_copy hsource (h.isValid hstands) fun e he => by
      rw [← blen_append, ← hstop]
      exact hafter e he
    refine ⟨es, h.advance (by rw [blen_append]; omega) fun e he => hstop ▸ hafter e he, ?_⟩
    rw [hcopy, hsame, blen_append]

/-- **Assembling edits is reading their regions.** -/
theorem readRegions_eq_assembleFrom :
    ∀ (n : Nat) {a rest : List Char} {es : List Edit}, rest.length ≤ n → a ++ rest = source →
      EditsOf rs (blen a) es →
      readRegions rs (blen a) 0 rest = assembleFrom source (blen a) es := by
  intro n
  induction n with
  | zero =>
    intro a rest es hlen hsource hes
    obtain rfl := List.length_eq_zero_iff.1 (Nat.le_zero.1 hlen)
    rw [List.append_nil] at hsource
    subst hsource
    rw [hes.eq_nil hstands]
    have hnil := assembleFrom_nil a []
    rw [List.append_nil] at hnil
    rw [hnil]
    rfl
  | succ n ih =>
    intro a rest es hlen hsource hes
    cases hfind : rs.find? fun r => r.start = blen a && !r.old.isEmpty with
    | some r =>
      have hr : r.start = blen a ∧ r.old ≠ [] := by simpa using List.find?_some hfind
      have hmem := List.mem_of_find?_eq_some hfind
      -- the source goes on with the text of the region
      obtain ⟨p, b, hp, hpa, -⟩ := slice?_eq_some_iff.1 (hstands r hmem)
      obtain ⟨rfl, rfl⟩ := append_inj_of_blen_eq (hp.trans hsource.symm) (hpa.trans hr.1)
      have hb : b.length ≤ n := by
        have := List.length_pos_iff.2 hr.2
        rw [List.length_append] at hlen
        omega
      obtain ⟨es', hes', hassemble⟩ :=
        assembleFrom_region hstands hapart hmem hr.2 hr.1 hsource hes
      rw [readRegions_region b hfind, ← blen_append, hassemble,
        ih hb (by rw [List.append_assoc, hp]) hes']
    | none =>
      have hno : ∀ r ∈ rs, r.start = blen a → r.old = [] := by
        intro r hr hstart
        simpa [hstart] using List.find?_eq_none.1 hfind r hr
      cases rest with
      | nil => exact ih (Nat.zero_le n) hsource hes
      | cons c rest =>
        have hafter := hes.next_le_start hstands hsource hno
        have hcopy := assembleFrom_copy (x := [c]) (b := rest) hsource (hes.isValid hstands)
          fun e he => by
            rw [← blen_append]
            exact hafter e he
        have hrest := ih (a := a ++ [c]) (Nat.le_of_succ_le_succ hlen) (by simpa using hsource)
          (hes.advance (by rw [blen_append]; omega) hafter)
        rw [blen_append] at hrest
        rw [readRegions, hfind, hcopy, ← hrest]
        rfl

end Assemble

/-! ### Renaming -/

/-- Edits of regions that are the same or apart can both be made. -/
theorem Region.IsEdit.compatible {r q : Region} {e f : Edit} (he : r.IsEdit e) (hf : q.IsEdit f)
    (hr : r.old ≠ []) (hq : q.old ≠ [])
    (h : r = q ∨ Apart r.start r.stop q.start q.stop) : e.Compatible f := by
  rcases h with rfl | h
  · exact Or.inl (Edit.sameEffect_iff.2
      ⟨he.1.trans hf.1.symm, he.2.1.trans hf.2.1.symm, he.2.2.trans hf.2.2.symm⟩)
  · right
    have hrlt := r.start_lt_stop hr
    have hqlt := q.start_lt_stop hq
    have hfirst := h r.start (by omega) hrlt
    have hsecond := h q.start
    simp only [Edit.overlaps, Bool.or_eq_false_iff, Bool.and_eq_false_iff,
      decide_eq_false_iff_not, he.1, he.2.1, hf.1, hf.2.1]
    omega

/-- The edits of a plan are those of the regions. -/
theorem editsOf_plannedEdits {rules : List Rule} {source : List Char} {tree : Tree}
    (h : Edit.InOrder (plannedEdits rules source tree)) :
    EditsOf (regions rules source tree) 0 (plannedEdits rules source tree) :=
  ⟨h, fun _ _ => Nat.zero_le _, fun _ => mem_plannedEdits, fun _ hr _ _ => exists_plannedEdit hr⟩

/-- The edits that are made are those of the regions. -/
theorem editsOf_applied {rules : List Rule} {source : List Char} {tree : Tree} {result : EditResult}
    (h : (applyEdits source (plannedEdits rules source tree)).value = .ok result) :
    EditsOf (regions rules source tree) 0 result.applied.reverse := by
  obtain ⟨horder, hfrom, hrep, -⟩ := applyEdits_ok (fun e => isValid_of_mem_plannedEdits) h
  refine ⟨horder, fun e _ => Nat.zero_le _, ?_, ?_⟩
  · intro e he
    exact mem_plannedEdits (hfrom e (List.mem_reverse.1 he))
  · intro r hr _ _
    rcases exists_plannedEdit hr with hsame | ⟨e, he, hedit⟩
    · exact Or.inl hsame
    · obtain ⟨k, hk, hke⟩ := hrep e he
      obtain ⟨h₁, h₂, h₃⟩ := Edit.sameEffect_iff.1 hke
      exact Or.inr ⟨k, List.mem_reverse.2 hk,
        h₁.trans hedit.1, h₂.trans hedit.2.1, h₃.trans hedit.2.2⟩

/-- A renaming whose regions are the same or apart reads them from left to right. -/
theorem rename_value_of_apart {provider : Provider} {path : String} {source : List Char}
    {tree : Tree} (rules : List Rule) (hparse : provider path source = .ok tree)
    (hcs : tree.CommentsIn source)
    (hapart : ∀ r ∈ regions rules source tree, ∀ q ∈ regions rules source tree,
      r = q ∨ Apart r.start r.stop q.start q.stop) :
    (rename provider path source rules).value =
      .ok (readRegions (regions rules source tree) 0 0 source) := by
  have hvalid : ∀ e ∈ plannedEdits rules source tree, e.isValid source = true :=
    fun e => isValid_of_mem_plannedEdits
  have hcompatible : ∀ e ∈ plannedEdits rules source tree,
      ∀ f ∈ plannedEdits rules source tree, e.Compatible f := by
    intro e he f hf
    obtain ⟨r, hr, hrne, hre⟩ := mem_plannedEdits he
    obtain ⟨q, hq, hqne, hqf⟩ := mem_plannedEdits hf
    exact hre.compatible hqf hrne hqne (hapart r hr q hq)
  obtain ⟨result, hresult⟩ := exists_applyEdits hvalid hcompatible
  obtain ⟨-, -, -, hsource⟩ := applyEdits_ok hvalid hresult
  have hread := readRegions_eq_assembleFrom (a := []) (fun r => standsIn_of_mem_regions) hapart
    source.length (Nat.le_refl _) rfl (editsOf_applied hresult)
  rw [rename_value (renameEdits_value rules hparse hcs), hresult]
  simp only [Except.map, Except.mapError, hsource]
  exact congrArg Except.ok hread.symm

namespace Syntax

/-- The offset after an identifier. -/
def Identifier.stop (i : Identifier) : Nat := i.start + blen i.name.toList

/-- `tree.LaidOut source` says that the comments of `tree` are parts of `source`, and that two
identifiers or comments are the same or have no byte in common. -/
structure Tree.LaidOut (tree : Tree) (source : List Char) : Prop where
  commentsIn : tree.CommentsIn source
  comments : ∀ c ∈ tree.comments, ∀ d ∈ tree.comments,
    (c.start = d.start ∧ c.stop = d.stop) ∨ Apart c.start c.stop d.start d.stop
  identifiers : ∀ i ∈ tree.identifiers, ∀ j ∈ tree.identifiers,
    i = j ∨ Apart i.start i.stop j.start j.stop
  apart : ∀ i ∈ tree.identifiers, ∀ c ∈ tree.comments, Apart i.start i.stop c.start c.stop

end Syntax

theorem Syntax.Tree.LaidOut.regions_apart {tree : Tree} {source : List Char}
    (h : tree.LaidOut source) (rules : List Rule) :
    ∀ r ∈ regions rules source tree, ∀ q ∈ regions rules source tree,
      r = q ∨ Apart r.start r.stop q.start q.stop := by
  have hid : ∀ {i : Identifier} {r : Region}, identifierRegion? rules source i = some r →
      r.start = i.start ∧ r.stop = i.stop := by
    intro i r hi
    obtain ⟨-, -, hstart, hold⟩ := identifierRegion?_eq_some_iff.1 hi
    exact ⟨hstart, by rw [Region.stop, hstart, hold, Identifier.stop]⟩
  have hcomment : ∀ {c : CommentSpan} {r : Region}, commentRegion? rules source c = some r →
      r.start = c.start ∧ r.stop = c.stop := fun hc =>
    ⟨(commentRegion?_eq_some_iff.1 hc).2.1, stop_of_commentRegion? hc⟩
  intro r hr q hq
  rcases mem_regions.1 hr with ⟨i, hi, hir⟩ | ⟨c, hc, hcr⟩
  · rw [(hid hir).1, (hid hir).2]
    rcases mem_regions.1 hq with ⟨j, hj, hjq⟩ | ⟨d, hd, hdq⟩
    · rw [(hid hjq).1, (hid hjq).2]
      refine (h.identifiers i hi j hj).imp_left fun hij => ?_
      rw [hij, hjq] at hir
      exact (Option.some.inj hir).symm
    · rw [(hcomment hdq).1, (hcomment hdq).2]
      exact Or.inr (h.apart i hi d hd)
  · rw [(hcomment hcr).1, (hcomment hcr).2]
    rcases mem_regions.1 hq with ⟨j, hj, hjq⟩ | ⟨d, hd, hdq⟩
    · rw [(hid hjq).1, (hid hjq).2]
      exact Or.inr (h.apart j hj c hc).symm
    · rw [(hcomment hdq).1, (hcomment hdq).2]
      refine (h.comments c hc d hd).imp_left fun hcd => ?_
      have hsame : commentRegion? rules source c = commentRegion? rules source d := by
        rw [commentRegion?, commentRegion?, CommentSpan.text?, CommentSpan.text?, hcd.1, hcd.2]
      rw [hsame, hdq] at hcr
      exact (Option.some.inj hcr).symm

/-- **A renaming reads its source from left to right.**  An identifier that is renamed and spelt as
it is named gives its new name, a comment gives its text with all rules applied to it in turn, and
everything else is copied. -/
theorem rename_eq_readRegions (provider : Provider) (path : String) (source : List Char)
    (rules : List Rule) (tree : Tree) (hparse : provider path source = .ok tree)
    (hlaid : tree.LaidOut source) :
    (rename provider path source rules).value =
      .ok (readRegions (regions rules source tree) 0 0 source) :=
  rename_value_of_apart rules hparse hlaid.commentsIn (hlaid.regions_apart rules)

/-! ### A source with everything twice -/

def sampleSource : List Char := "old=x; // old é\nold".toList

/-- The first identifier and the comment are reported twice. -/
def sampleSyntax : Tree where
  identifiers := [⟨"old", 0⟩, ⟨"x", 4⟩, ⟨"old", 17⟩, ⟨"old", 0⟩]
  comments := [⟨7, 16, .line⟩, ⟨7, 16, .line⟩]

/-- The last rule is for a name that the first has renamed. -/
def sampleRules : List Rule :=
  [.word "old".toList "renamed".toList, .word "x".toList "y".toList,
    .word "old".toList "other".toList]

theorem rename_eq_readRegions_sample :
    sampleSyntax.LaidOut sampleSource ∧
      (rename (fun _ _ => .ok sampleSyntax) "a.ts" sampleSource sampleRules).value =
        .ok "renamed=y; // renamed é\nrenamed".toList := by
  have hlaid : sampleSyntax.LaidOut sampleSource := by
    refine ⟨?_, ?_, ?_, ?_⟩
    · unfold Tree.CommentsIn
      decide +kernel
    all_goals decide +kernel
  refine ⟨hlaid, ?_⟩
  rw [rename_eq_readRegions _ _ _ _ sampleSyntax rfl hlaid]
  decide +kernel

end Codemod
