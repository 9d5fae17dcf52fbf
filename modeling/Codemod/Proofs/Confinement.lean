import Codemod.Proofs.Regions
import Mathlib.Data.List.Basic

/-!
# Renaming stays within its regions

A provider need not be trusted.  Its identifiers may overlap, come twice, lie outside the source or
split a character, and their ends may even be too large for a machine word.  Whatever it reports, as
long as its comments are parts of the source, the edits that are planned can be applied one by one,
and a renaming that succeeds changes no byte outside its regions.

## Main definitions

* `bytes` — the bytes of a text in UTF-8.
* `bytesOutside` — those that belong to no region.
* `wrappedStop`, `wrappedEdit?` — ends of identifiers in the arithmetic of machine words.

## Main results

* `identifierEdit?_eq_wrappedEdit?` — an end that wraps around is never taken.
* `Assembled.keptFrom_sublist` — text that no edit covers is kept in order.
* `rename_applicable_and_confined` — **edits are applicable, and renaming is confined.**
-/

namespace Codemod

open Syntax Text

/-! ### Bytes -/

/-- The bytes of a text in UTF-8. -/
def bytes (cs : List Char) : List UInt8 := cs.flatMap String.utf8EncodeChar

theorem bytes_append (a b : List Char) : bytes (a ++ b) = bytes a ++ bytes b :=
  List.flatMap_append

theorem length_bytes (cs : List Char) : (bytes cs).length = blen cs := by
  induction cs with
  | nil => rfl
  | cons c cs ih =>
    rw [bytes, List.flatMap_cons, List.length_append, ← bytes, ih, blen_cons,
      String.length_utf8EncodeChar]

/-- The bytes at those offsets that are to be kept, the first byte being at `pos`. -/
def keptFrom (keep : Nat → Bool) (pos : Nat) (bs : List UInt8) : List UInt8 :=
  ((bs.zipIdx pos).filter fun b => keep b.2).map Prod.fst

theorem keptFrom_append (keep : Nat → Bool) (pos : Nat) (xs ys : List UInt8) :
    keptFrom keep pos (xs ++ ys) =
      keptFrom keep pos xs ++ keptFrom keep (pos + xs.length) ys := by
  rw [keptFrom, List.zipIdx_append, List.filter_append, List.map_append]
  rfl

theorem keptFrom_sublist (keep : Nat → Bool) (pos : Nat) (bs : List UInt8) :
    (keptFrom keep pos bs).Sublist bs := by
  have h := (List.filter_sublist (p := fun b : UInt8 × Nat => keep b.2)
    (l := bs.zipIdx pos)).map Prod.fst
  rwa [List.zipIdx_map_fst] at h

theorem keptFrom_eq_nil {keep : Nat → Bool} {pos : Nat} {bs : List UInt8}
    (h : ∀ k, pos ≤ k → k < pos + bs.length → keep k = false) : keptFrom keep pos bs = [] := by
  rw [keptFrom, List.map_eq_nil_iff, List.filter_eq_nil_iff]
  intro b hb hkeep
  have hle := List.le_snd_of_mem_zipIdx hb
  have hlt := List.snd_lt_add_of_mem_zipIdx hb
  rw [h b.2 hle (by omega)] at hkeep
  exact Bool.false_ne_true hkeep

/-- Text that no edit covers is kept in order. -/
theorem Assembled.keptFrom_sublist {before rest out : List Char} {es : List Edit}
    {keep : Nat → Bool} (h : Assembled before rest es out)
    (hcover : ∀ e ∈ es, ∀ k, e.start ≤ k → k < e.stop → keep k = false) :
    (keptFrom keep (blen before) (bytes rest)).Sublist (bytes out) := by
  induction h with
  | nil => exact Codemod.keptFrom_sublist keep _ _
  | @cons before gap old rest out e es hstart hstop _ ih =>
    rw [List.forall_mem_cons] at hcover
    -- nothing of the old text is kept
    have hold : keptFrom keep (blen (before ++ gap)) (bytes old) = [] := by
      refine keptFrom_eq_nil fun k hk₁ hk₂ => hcover.1 k (hstart ▸ hk₁) ?_
      rwa [length_bytes, ← blen_append, hstop] at hk₂
    rw [bytes_append, bytes_append, bytes_append, bytes_append, keptFrom_append, keptFrom_append,
      length_bytes, length_bytes, ← blen_append, ← blen_append, hold, List.nil_append]
    exact (Codemod.keptFrom_sublist keep _ _).append
      ((ih hcover.2).trans (List.sublist_append_right _ _))

/-! ### Machine words -/

/-- The number of values of a machine word. -/
def wordSize : Nat := Nat.pow 2 64

/-- The end of an identifier, as a sum of machine words. -/
def wrappedStop (i : Identifier) : Nat := (i.start + blen i.name.toList) % wordSize

/-- The edit of an identifier whose end is a sum of machine words. -/
def wrappedEdit? (rules : List Rule) (source : List Char) (i : Identifier) : Option Edit :=
  let name := i.name.toList
  match newName? rules name with
  | none => none
  | some new =>
    if slice? i.start (wrappedStop i) source = some name then
      some ⟨i.start, wrappedStop i, new, .identifier⟩
    else none

/-- A slice is as long as its text, so its end is known from its start. -/
theorem stop_of_slice? {start stop : Nat} {cs x : List Char} (h : slice? start stop cs = some x) :
    stop = start + blen x ∧ stop ≤ blen cs := by
  obtain ⟨a, c, rfl, rfl, rfl⟩ := slice?_eq_some_iff.1 h
  refine ⟨rfl, ?_⟩
  rw [blen_append, blen_append]
  omega

/-- In a source that fits into memory, an end that wraps around is never taken. -/
theorem identifierEdit?_eq_wrappedEdit? {source : List Char} (hsource : blen source < wordSize)
    (rules : List Rule) (i : Identifier) :
    identifierEdit? rules source i = wrappedEdit? rules source i := by
  rw [identifierEdit?, wrappedEdit?]
  cases newName? rules i.name.toList with
  | none => rfl
  | some new =>
    have hiff : slice? i.start (i.start + blen i.name.toList) source = some i.name.toList ↔
        slice? i.start (wrappedStop i) source = some i.name.toList := by
      constructor
      · intro h
        have hlt := Nat.lt_of_le_of_lt (stop_of_slice? h).2 hsource
        rwa [wrappedStop, Nat.mod_eq_of_lt hlt]
      · intro h
        rwa [← (stop_of_slice? h).1]
    by_cases h : slice? i.start (wrappedStop i) source = some i.name.toList
    · simp only [if_pos (hiff.2 h), (stop_of_slice? h).1]
    · simp only [if_neg fun h' => h (hiff.1 h'), if_neg h]

/-! ### Regions of a plan -/

/-- `r.covers pos` tells whether the byte at `pos` belongs to the region `r`. -/
def Region.covers (r : Region) (pos : Nat) : Bool := r.start ≤ pos && pos < r.stop

/-- The bytes of a source that belong to no region, in their order. -/
def bytesOutside (rs : List Region) (source : List Char) : List UInt8 :=
  keptFrom (fun pos => !rs.any (·.covers pos)) 0 (bytes source)

section Rename

variable {provider : Provider} {path : String} {source : List Char} {rules : List Rule}
  {tree : Tree} (hparse : provider path source = .ok tree) (hcs : tree.CommentsIn source)
include hparse hcs

/-- A source that has been parsed is refused for a conflict only. -/
theorem rename_error_conflict {err : RenameError}
    (h : (rename provider path source rules).value = .error err) :
    ∃ a b, err = .edit (.conflict a b) := by
  rw [rename_value (renameEdits_value rules hparse hcs)] at h
  cases hresult : (applyEdits source (plannedEdits rules source tree)).value with
  | ok result =>
    rw [hresult] at h
    cases h
  | error e =>
    rw [hresult] at h
    cases h
    obtain ⟨a, b, rfl⟩ := applyEdits_error (fun e => isValid_of_mem_plannedEdits) hresult
    exact ⟨a, b, rfl⟩

/-- What a renaming gives are the edits of the regions, assembled. -/
theorem exists_editsOf_rename {out : List Char}
    (h : (rename provider path source rules).value = .ok out) :
    ∃ es, EditsOf (regions rules source tree) 0 es ∧ out = assembleFrom source 0 es := by
  rw [rename_value (renameEdits_value rules hparse hcs)] at h
  cases hresult : (applyEdits source (plannedEdits rules source tree)).value with
  | ok result =>
    rw [hresult] at h
    cases h
    exact ⟨_, editsOf_applied hresult,
      (applyEdits_ok (fun e => isValid_of_mem_plannedEdits) hresult).2.2.2⟩
  | error e =>
    rw [hresult] at h
    cases h

/-- Bytes outside the regions are in the source after a renaming. -/
theorem bytesOutside_sublist {out : List Char}
    (h : (rename provider path source rules).value = .ok out) :
    (bytesOutside (regions rules source tree) source).Sublist (bytes out) := by
  obtain ⟨es, hes, rfl⟩ := exists_editsOf_rename hparse hcs h
  have hassembled := assembled_assembleFrom (a := []) rfl
    (hes.isValid fun r => standsIn_of_mem_regions) hes.inOrder hes.le_start
  refine hassembled.keptFrom_sublist fun e he k hk₁ hk₂ => ?_
  obtain ⟨r, hr, -, hedit⟩ := hes.exists_region e he
  have hcovers : r.covers k = true := by
    rw [Region.covers, ← hedit.1, ← hedit.2.1]
    simp [hk₁, hk₂]
  rw [Bool.not_eq_false', List.any_eq_true]
  exact ⟨r, hr, hcovers⟩

end Rename

/-- **Edits are applicable, and renaming is confined.**  Whatever identifiers a provider reports, all
edits of the plan are valid, so that a renaming is refused for a conflict only, and what it gives
holds all bytes outside its regions in their order.  It does not matter if the ends of identifiers are
sums of machine words. -/
theorem rename_applicable_and_confined (provider : Provider) (path : String) (source : List Char)
    (rules : List Rule) (tree : Tree) (hparse : provider path source = .ok tree)
    (hcs : tree.CommentsIn source) :
    (∃ edits, (renameEdits provider path source rules).value = .ok edits ∧
      ∀ e ∈ edits, e.isValid source = true ∧ e.start ≤ e.stop ∧ e.stop ≤ blen source ∧
        IsPlace e.start source ∧ IsPlace e.stop source) ∧
    (∀ err, (rename provider path source rules).value = .error err →
      ∃ a b, err = .edit (.conflict a b)) ∧
    (∀ out, (rename provider path source rules).value = .ok out →
      (bytesOutside (regions rules source tree) source).Sublist (bytes out)) ∧
    (blen source < wordSize → identifierEdits rules source tree.identifiers =
      tree.identifiers.filterMap (wrappedEdit? rules source)) := by
  refine ⟨⟨_, renameEdits_value rules hparse hcs, fun e he => ?_⟩,
    fun err => rename_error_conflict hparse hcs, fun out => bytesOutside_sublist hparse hcs,
    fun hlen => ?_⟩
  · have hvalid := isValid_of_mem_plannedEdits he
    obtain ⟨hle, hstart, hstop⟩ := slice?_isSome_iff.1 hvalid
    exact ⟨hvalid, hle, hstop.le, hstart, hstop⟩
  · exact List.filterMap_congr fun i _ => identifierEdit?_eq_wrappedEdit? hlen rules i

/-! ### Identifiers in odd places -/

def oddSource : List Char := "old é // old".toList

/-- Identifiers that are doubled, split a character, pass the end or wrap around. -/
def oddSyntax : Tree where
  identifiers := [⟨"old", 0⟩, ⟨"old", 0⟩, ⟨"old", 5⟩, ⟨"old", 12⟩, ⟨"old", wordSize - 1⟩]
  comments := [⟨7, 13, .line⟩]

theorem rename_applicable_and_confined_sample :
    oddSyntax.CommentsIn oddSource ∧
      (rename (fun _ _ => .ok oddSyntax) "a.ts" oddSource
        [.word "old".toList "new".toList]).value = .ok "new é // new".toList ∧
      (bytesOutside (regions [.word "old".toList "new".toList] oddSource oddSyntax)
        oddSource).Sublist (bytes "new é // new".toList) := by
  have hcs : oddSyntax.CommentsIn oddSource := by
    unfold Tree.CommentsIn
    decide +kernel
  have hrename : (rename (fun _ _ => .ok oddSyntax) "a.ts" oddSource
      [.word "old".toList "new".toList]).value = .ok "new é // new".toList := by
    rw [rename_value_of_apart _ rfl hcs (by decide +kernel)]
    decide +kernel
  have h := rename_applicable_and_confined (fun _ _ => .ok oddSyntax) "a.ts" oddSource
    [.word "old".toList "new".toList] oddSyntax rfl hcs
  exact ⟨hcs, hrename, h.2.2.1 _ hrename⟩

end Codemod
