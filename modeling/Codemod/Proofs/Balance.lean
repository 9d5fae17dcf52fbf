import Codemod.Proofs.Assembly

/-!
# Statistics of applied edits

The statistics of an application count what edits take from the source they were made for, and what
they put in its place.  The texts that are taken stand apart from each other in this source, so what
is left of it and what was put in add up to the new source, in bytes as well as in lines.

## Main results

* `Assembled.balance` — nothing is lost on the way, by any measure that adds up.
* `statisticsOf_congr` — the statistics depend on the effects alone.
* `applyEdits_statistics_balance` — **statistics account for every edit, byte and line.**
-/

namespace Codemod

open Text

/-! ### Counts over edits -/

@[simp]
theorem countOver_nil (count : Edit → Nat) : countOver count [] = 0 := rfl

@[simp]
theorem countOver_cons (count : Edit → Nat) (e : Edit) (es : List Edit) :
    countOver count (e :: es) = count e + countOver count es := rfl

@[simp]
theorem countOver_append (count : Edit → Nat) (es es' : List Edit) :
    countOver count (es ++ es') = countOver count es + countOver count es' := by
  induction es with
  | nil => simp
  | cons e es ih => simp [ih, Nat.add_assoc]

@[simp]
theorem countOver_reverse (count : Edit → Nat) (es : List Edit) :
    countOver count es.reverse = countOver count es := by
  induction es with
  | nil => rfl
  | cons e es ih => simp [ih, Nat.add_comm]

@[simp]
theorem lineCount_append (a b : List Char) : lineCount (a ++ b) = lineCount a + lineCount b :=
  List.count_append

/-- The statistics depend on the effects alone. -/
theorem statisticsOf_congr (source : List Char) (total : Nat) {es es' : List Edit}
    (h : es.map Edit.effect = es'.map Edit.effect) :
    statisticsOf source total es = statisticsOf source total es' := by
  have hlength : es.length = es'.length := by simpa using congrArg List.length h
  have hcount (count : Nat × Nat × List Char → Nat) :
      countOver (fun e => count e.effect) es = countOver (fun e => count e.effect) es' := by
    have hfold := congrArg (List.foldr (fun x n => count x + n) 0) h
    simpa only [countOver, List.foldr_map] using hfold
  rw [statisticsOf, statisticsOf, hlength]
  congr 1
  · exact hcount fun x => lineCount x.2.2
  · exact hcount fun x => lineCount ((slice? x.1 x.2.1 source).getD [])
  · exact hcount fun x => blen x.2.2
  · exact hcount fun x => blen ((slice? x.1 x.2.1 source).getD [])

/-! ### What is taken and what is put in -/

/-- An edit takes the text between its offsets. -/
theorem removedText_append {a old : List Char} (c : List Char) {e : Edit}
    (hstart : blen a = e.start) (hstop : blen (a ++ old) = e.stop) :
    removedText (a ++ (old ++ c)) e = old := by
  rw [removedText, ← hstart, ← hstop, blen_append, slice?_append, Option.getD_some]

/-- What edits put in and what they leave of the source make up the new text, by any measure that
adds up. -/
theorem Assembled.balance {measure : List Char → Nat}
    (hadd : ∀ a b, measure (a ++ b) = measure a + measure b) {before rest out : List Char}
    {es : List Edit} (h : Assembled before rest es out) :
    measure out + countOver (fun e => measure (removedText (before ++ rest) e)) es =
      measure rest + countOver (fun e => measure e.text) es := by
  induction h with
  | nil => rfl
  | @cons before gap old rest out e es hstart hstop _ ih =>
    have hsource : before ++ (gap ++ (old ++ rest)) = before ++ gap ++ old ++ rest := by simp
    have hremoved : removedText (before ++ gap ++ old ++ rest) e = old := by
      rw [List.append_assoc (before ++ gap)]
      exact removedText_append rest hstart hstop
    rw [hsource, countOver_cons, countOver_cons, hremoved]
    simp only [hadd]
    omega

/-- **Statistics account for every edit, byte and line.**  Edits that are given are made or are
doubles; those made come from the last to the first and have every effect once; and source and new
source differ in bytes and in lines by what was taken and put in. -/
theorem applyEdits_statistics_balance {source : List Char} {edits : List Edit} {r : EditResult}
    (h : (applyEdits source edits).value = .ok r) :
    r.statistics.appliedCount = r.applied.length ∧
      r.statistics.appliedCount + r.statistics.duplicateCount = r.statistics.totalEdits ∧
      r.statistics.totalEdits = edits.length ∧
      (r.applied.Pairwise fun a b => b.start < a.start) ∧
      (∀ x, (r.applied.map Edit.effect).count x = if x ∈ edits.map Edit.effect then 1 else 0) ∧
      blen r.source + r.statistics.charactersRemoved =
        blen source + r.statistics.charactersAdded ∧
      lineCount r.source + r.statistics.linesRemoved =
        lineCount source + r.statistics.linesAdded := by
  have hes := enumerates_applied h
  have hassembled := assembled_of_enumerates h hes
  have hbytes := hassembled.balance blen_append
  have hlines := hassembled.balance lineCount_append
  simp only [countOver_reverse, List.nil_append] at hbytes hlines
  have hlength : r.applied.length ≤ edits.length := by simpa using hes.length_le
  rw [statistics_of_applyEdits h]
  refine ⟨rfl, Nat.add_sub_cancel' hlength, rfl, List.pairwise_reverse.1 hes.ascending, fun x => ?_,
    hbytes, hlines⟩
  have hnodup : (r.applied.map Edit.effect).Nodup := by
    simpa [List.map_reverse] using hes.nodup_map_effect
  have hmem := hes.mem_iff x
  rw [List.map_reverse, List.mem_reverse] at hmem
  rw [hnodup.count, if_congr hmem rfl rfl]

/-- The double among `touchingEdits` is made once, and four bytes of source stay in balance. -/
theorem applyEdits_statistics_balance_touching :
    ∃ r, (applyEdits "xéy".toList touchingEdits).value = .ok r ∧
      r.statistics.appliedCount + r.statistics.duplicateCount = 5 ∧
      (r.applied.map Edit.effect).count (0, 1, "left".toList) = 1 ∧
      blen r.source + r.statistics.charactersRemoved = 4 + r.statistics.charactersAdded ∧
      lineCount r.source + r.statistics.linesRemoved = r.statistics.linesAdded := by
  obtain ⟨r, h⟩ := exists_applyEdits_touchingEdits
  obtain ⟨-, htotal, hgiven, -, honce, hbytes, hlines⟩ := applyEdits_statistics_balance h
  have hsize : blen "xéy".toList = 4 := by decide
  have hone : lineCount "xéy".toList = 0 := by decide
  rw [hsize] at hbytes
  rw [hone, Nat.zero_add] at hlines
  exact ⟨r, h, htotal.trans hgiven, (honce _).trans (if_pos (by decide)), hbytes, hlines⟩

end Codemod
