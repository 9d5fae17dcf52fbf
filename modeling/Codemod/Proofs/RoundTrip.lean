import Codemod.Proofs.Validation

/-!
# Rule sets are read as they are written

A rule set may be declared in many spellings: fields in any order or as a list, flags left out or
under another name, fields that nobody knows, categories given twice, strings with any escapes.  It
is written in one spelling only.  That spelling is read back as the same rule set, so what is written
once is written alike ever after.

Each reader is shown to take what is written for its value, whatever comes after it.  For lists and
objects this is an induction on their items, and all else is put together from them.

## Main definitions

* `Json.Reads` — a reader takes a text for a value.
* `Json.FieldsRead` — fields are read one after another.

## Main results

* `Json.reads_renderString` — every string is read as it is written.
* `Json.Reads.list`, `Json.FieldsRead.readFields_joinWith` — so are lists and the fields of objects, if
  what is in them is.
* `RuleSet.readDocument_toJson` — a rule set without repetitions is read as it is written.
* `ofJson_toJson` — **a rule set that has been read is written and read again without a change.**
-/

namespace Codemod

namespace Json

/-! ### Strings -/

theorem hexValue?_hexDigit : ∀ n < 16, hexValue? (hexDigit n) = some n := by decide

/-- Four digits are read, whatever comes after them. -/
theorem readHex4_digits {a b c d : Char} {i j k l : Nat} (ha : hexValue? a = some i)
    (hb : hexValue? b = some j) (hc : hexValue? c = some k) (hd : hexValue? d = some l)
    (rest : List Char) :
    readHex4 (a :: b :: c :: d :: rest) = .ok (((i * 16 + j) * 16 + k) * 16 + l) := by
  have hlen : ¬Text.blen ((a :: b :: c :: d :: rest).take 4) < 4 := by
    have ha := Char.utf8Size_pos a
    have hb := Char.utf8Size_pos b
    have hc := Char.utf8Size_pos c
    have hd := Char.utf8Size_pos d
    simp only [List.take_succ_cons, List.take_zero, Text.blen_cons, Text.blen_nil]
    omega
  rw [readHex4, if_neg hlen]
  simp only [ha, hb, hc, hd]

/-- Characters that belong to an escape are passed over. -/
theorem readStringFrom_skip (x rest : List Char) :
    readStringFrom x.length (x ++ rest) = readStringFrom 0 rest := by
  induction x with
  | nil => rfl
  | cons c x ih =>
    rw [List.length_cons, List.cons_append, readStringFrom]
    exact ih

/-- An escape gives its character. -/
theorem readStringFrom_escape {x rest : List Char} {c : Char}
    (h : readEscape (x ++ rest) = .ok (c, x.length)) :
    readStringFrom 0 ('\\' :: (x ++ rest)) =
      (readStringFrom 0 rest).map fun p => (c :: p.1, p.2) := by
  rw [readStringFrom, if_neg (by decide), if_pos rfl, h]
  simp only [readStringFrom_skip]

theorem readEscape_control {c : Char} (hc : c.toNat < 0x20) (rest : List Char) :
    readEscape (['u', '0', '0', hexDigit (c.toNat / 16), hexDigit (c.toNat % 16)] ++ rest) =
      .ok (c, 5) := by
  have hzero : hexValue? '0' = some 0 := by decide
  have hhigh := hexValue?_hexDigit (c.toNat / 16) (by omega)
  have hlow := hexValue?_hexDigit (c.toNat % 16) (by omega)
  have hvalue : ((0 * 16 + 0) * 16 + c.toNat / 16) * 16 + c.toNat % 16 = c.toNat := by omega
  have htrailing : isTrailingHalf c.toNat = false := by
    simp only [isTrailingHalf, Bool.and_eq_false_iff, decide_eq_false_iff_not]
    omega
  have hleading : isLeadingHalf c.toNat = false := by
    simp only [isLeadingHalf, Bool.and_eq_false_iff, decide_eq_false_iff_not]
    omega
  have hsimple : simpleEscape? 'u' = none := by decide
  simp only [List.cons_append, List.nil_append, readEscape, hsimple, if_true, readUnicodeEscape,
    readHex4_digits hzero hzero hhigh hlow, hvalue, bind, Except.bind, htrailing, hleading,
    Bool.false_eq_true, if_false, pure, Except.pure, Except.map, Char.ofNat_toNat]

/-- A character stands in a string behind a backslash, under a letter or its number, or as it is. -/
theorem escapeChar_cases (c : Char) :
    (∃ d, escapeChar c = ['\\', d] ∧ simpleEscape? d = some c) ∨
      (c.toNat < 0x20 ∧ escapeChar c =
        ['\\', 'u', '0', '0', hexDigit (c.toNat / 16), hexDigit (c.toNat % 16)]) ∨
      (escapeChar c = [c] ∧ c ≠ '\x22' ∧ c ≠ '\\' ∧ ¬c.toNat < 0x20) := by
  unfold escapeChar
  split_ifs with hquote hbackslash hnewline hreturn htab hbackspace hfeed hcontrol
  · exact Or.inl ⟨_, rfl, by rw [hquote]; decide⟩
  · exact Or.inl ⟨_, rfl, by rw [hbackslash]; decide⟩
  · exact Or.inl ⟨_, rfl, by rw [hnewline]; decide⟩
  · exact Or.inl ⟨_, rfl, by rw [hreturn]; decide⟩
  · exact Or.inl ⟨_, rfl, by rw [htab]; decide⟩
  · exact Or.inl ⟨_, rfl, by rw [← Char.ofNat_toNat c, hbackspace]; decide⟩
  · exact Or.inl ⟨_, rfl, by rw [← Char.ofNat_toNat c, hfeed]; decide⟩
  · exact Or.inr (Or.inl ⟨hcontrol, rfl⟩)
  · exact Or.inr (Or.inr ⟨rfl, hquote, hbackslash, hcontrol⟩)

/-- A character that is written in a string is read back. -/
theorem readStringFrom_escapeChar (c : Char) (rest : List Char) :
    readStringFrom 0 (escapeChar c ++ rest) =
      (readStringFrom 0 rest).map fun p => (c :: p.1, p.2) := by
  rcases escapeChar_cases c with ⟨d, hc, hd⟩ | ⟨hcontrol, hc⟩ | ⟨hc, hquote, hbackslash, hcontrol⟩
  · rw [hc]
    exact readStringFrom_escape (x := [d]) (by simp [readEscape, hd])
  · rw [hc]
    exact readStringFrom_escape (readEscape_control hcontrol rest)
  · rw [hc, List.singleton_append, readStringFrom, if_neg hquote, if_neg hbackslash,
      if_neg hcontrol]

theorem readStringFrom_flatMap_escapeChar (cs rest : List Char) :
    readStringFrom 0 (cs.flatMap escapeChar ++ '\x22' :: rest) = .ok (cs, rest) := by
  induction cs with
  | nil => rw [List.flatMap_nil, List.nil_append, readStringFrom, if_pos rfl]
  | cons c cs ih =>
    rw [List.flatMap_cons, List.append_assoc, readStringFrom_escapeChar, ih]
    rfl

/-! ### Texts that are read -/

/-- `StartsValue text` says that `text` starts with neither a blank nor the end of a list. -/
def StartsValue (text : List Char) : Prop :=
  ∃ c cs, text = c :: cs ∧ isBlank c = false ∧ c ≠ ']'

theorem StartsValue.skipBlanks_append {text : List Char} (h : StartsValue text)
    (rest : List Char) : skipBlanks (text ++ rest) = text ++ rest := by
  obtain ⟨c, cs, rfl, hblank, -⟩ := h
  rw [List.cons_append, skipBlanks, List.dropWhile_cons_of_neg (by simp [hblank])]

/-- `Reads read text a` says that the reader `read` takes `text` for the value `a`, whatever comes
after it. -/
structure Reads {α : Type} (read : Reader α) (text : List Char) (a : α) : Prop where
  startsValue : StartsValue text
  read_append (rest : List Char) : read (text ++ rest) = .ok (a, rest)

theorem reads_renderString (s : String) : Reads readString (renderString s) s where
  startsValue := ⟨_, _, rfl, by decide, by decide⟩
  read_append rest := by
    have hblanks : skipBlanks ('\x22' :: (s.toList.flatMap escapeChar ++ '\x22' :: rest)) =
        '\x22' :: (s.toList.flatMap escapeChar ++ '\x22' :: rest) := rfl
    rw [renderString, List.cons_append, List.append_assoc, List.singleton_append, readString,
      hblanks]
    simp only [readStringFrom_flatMap_escapeChar, Except.map, String.ofList_toList]

theorem reads_bool (b : Bool) : Reads readBool (Value.bool b).compact b := by
  cases b with
  | false => exact ⟨⟨_, _, rfl, by decide, by decide⟩, fun rest => rfl⟩
  | true => exact ⟨⟨_, _, rfl, by decide, by decide⟩, fun rest => rfl⟩

theorem reads_null {α : Type} (read : Reader α) : Reads (readOption read) Value.null.compact none :=
  ⟨⟨_, _, rfl, by decide, by decide⟩, fun rest => rfl⟩

/-- A value that may be missing is read as itself, unless it starts like `null`. -/
theorem Reads.some {α : Type} {read : Reader α} {text : List Char} {a : α} (h : Reads read text a)
    (hnull : text.head? ≠ some 'n') : Reads (readOption read) text (some a) where
  startsValue := h.startsValue
  read_append rest := by
    have hread := h.read_append rest
    rw [readOption, h.startsValue.skipBlanks_append]
    obtain ⟨c, cs, rfl, -⟩ := h.startsValue
    rw [List.cons_append] at hread ⊢
    split
    · next heq =>
      obtain ⟨rfl, -⟩ := List.cons.inj heq
      exact absurd rfl hnull
    · rw [hread]
      rfl

/-! ### Lists -/

/-- Texts after the first, each behind its comma. -/
theorem joinWith_cons (t : List Char) (ts : List (List Char)) :
    joinWith [','] (t :: ts) = t ++ ts.flatMap (',' :: ·) := by
  induction ts generalizing t with
  | nil => simp [joinWith]
  | cons t' ts ih => simp [joinWith, ih]

/-- There are no more texts than characters, if none is empty. -/
theorem length_le_length_joinWith {ts : List (List Char)} (h : ∀ t ∈ ts, t ≠ []) :
    ts.length ≤ (joinWith [','] ts).length := by
  cases ts with
  | nil => simp
  | cons t ts =>
    have ht : 0 < t.length := List.length_pos_iff.2 (h t List.mem_cons_self)
    have hts : ts.length ≤ (ts.flatMap (',' :: ·)).length := by
      clear h
      induction ts with
      | nil => simp
      | cons t ts ih =>
        simp only [List.length_cons, List.flatMap_cons, List.length_append]
        omega
    rw [joinWith_cons, List.length_cons, List.length_append]
    omega

theorem nextItem_true {text : List Char} (h : StartsValue text) (rest : List Char) :
    nextItem true (text ++ rest) = .ok (true, text ++ rest) := by
  rw [nextItem, h.skipBlanks_append]
  obtain ⟨c, cs, rfl, -, hend⟩ := h
  rw [List.cons_append]
  split
  · next heq => cases heq
  · next heq => exact absurd (List.cons.inj heq).1 hend
  · next heq =>
    rw [if_pos rfl, ← heq]

theorem nextItem_false {text : List Char} (h : StartsValue text) (rest : List Char) :
    nextItem false (',' :: (text ++ rest)) = .ok (true, text ++ rest) := by
  have hcomma : skipBlanks (',' :: (text ++ rest)) = ',' :: (text ++ rest) := rfl
  rw [nextItem, hcomma]
  split
  · next heq => cases heq
  · next heq => exact absurd (List.cons.inj heq).1 (by decide)
  · next heq =>
    obtain ⟨rfl, rfl⟩ := List.cons.inj heq
    rw [if_neg Bool.false_ne_true, if_pos rfl, h.skipBlanks_append]
    obtain ⟨c, cs, rfl, -, hend⟩ := h
    rw [List.cons_append]
    split
    · next heq => cases heq
    · next heq => exact absurd (List.cons.inj heq).1 hend
    · rfl

/-- Items after the first are read up to the end of the list. -/
theorem readItems_flatMap {α : Type} {read : Reader α} {text : α → List Char} (rest : List Char) :
    ∀ {as : List α}, (∀ a ∈ as, Reads read (text a) a) → ∀ {fuel : Nat}, as.length < fuel →
      readItems read fuel false (as.flatMap (fun a => ',' :: text a) ++ ']' :: rest) =
        .ok (as, ']' :: rest) := by
  intro as
  induction as with
  | nil =>
    intro _ fuel hfuel
    obtain ⟨fuel, rfl⟩ := Nat.exists_eq_add_one_of_ne_zero (Nat.ne_of_gt hfuel)
    rfl
  | cons a as ih =>
    intro h fuel hfuel
    rw [List.forall_mem_cons] at h
    rw [List.length_cons] at hfuel
    obtain ⟨fuel, rfl⟩ := Nat.exists_eq_add_one_of_ne_zero (Nat.ne_zero_of_lt hfuel)
    rw [List.flatMap_cons, List.cons_append, List.cons_append, List.append_assoc, readItems]
    simp only [nextItem_false h.1.startsValue, bind, Except.bind, if_true, h.1.read_append,
      ih h.2 (Nat.lt_of_succ_lt_succ hfuel), pure, Except.pure]

theorem compactItems_eq_map (vs : List Value) : Value.compactItems vs = vs.map Value.compact := by
  induction vs with
  | nil => rw [Value.compactItems, List.map_nil]
  | cons v vs ih => rw [Value.compactItems, ih, List.map_cons]

/-- All items of a list are read, with as much fuel as there is text. -/
theorem readItems_joinWith {α : Type} {read : Reader α} {text : α → List Char} {as : List α}
    (h : ∀ a ∈ as, Reads read (text a) a) (rest : List Char) :
    readItems read ((joinWith [','] (as.map text) ++ ']' :: rest).length + 1) true
      (joinWith [','] (as.map text) ++ ']' :: rest) = .ok (as, ']' :: rest) := by
  have hne : ∀ t ∈ as.map text, t ≠ [] := by
    intro t ht
    obtain ⟨a, ha, rfl⟩ := List.mem_map.1 ht
    obtain ⟨c, cs, heq, -⟩ := (h a ha).startsValue
    rw [heq]
    exact List.cons_ne_nil c cs
  have hfuel := length_le_length_joinWith hne
  rw [List.length_map] at hfuel
  cases as with
  | nil => rfl
  | cons a as =>
    rw [List.forall_mem_cons] at h
    have hlt : as.length < (joinWith [','] ((a :: as).map text) ++ ']' :: rest).length := by
      rw [List.length_append]
      simp only [List.length_cons] at hfuel ⊢
      omega
    have hitems := readItems_flatMap rest h.2 hlt
    rw [readItems]
    rw [List.map_cons, joinWith_cons, List.flatMap_map, List.append_assoc] at hitems ⊢
    simp only [nextItem_true h.1.startsValue, bind, Except.bind, if_true, h.1.read_append, hitems,
      pure, Except.pure]

/-- A list is read as it is written, if its items are. -/
theorem Reads.list {α : Type} {read : Reader α} {value : α → Value} {as : List α}
    (h : ∀ a ∈ as, Reads read (value a).compact a) :
    Reads (readList read) (Value.array (as.map value)).compact as where
  startsValue := ⟨_, _, by rw [Value.compact], by decide, by decide⟩
  read_append rest := by
    have hblanks (cs : List Char) : skipBlanks ('[' :: cs) = '[' :: cs := rfl
    have hend : endList (']' :: rest) = .ok ((), rest) := rfl
    rw [Value.compact, compactItems_eq_map, List.map_map, List.cons_append, List.append_assoc,
      List.singleton_append, readList, hblanks]
    simp only [readItems_joinWith h, Function.comp_def, bind, Except.bind, hend, pure, Except.pure]

/-! ### Objects -/

/-- A field as it is written. -/
def fieldText (f : String × Value) : List Char := renderString f.1 ++ ':' :: f.2.compact

theorem compactFields_eq_map (fs : List (String × Value)) :
    Value.compactFields fs = fs.map fieldText := by
  induction fs with
  | nil => rw [Value.compactFields, List.map_nil]
  | cons f fs ih =>
    obtain ⟨name, v⟩ := f
    rw [Value.compactFields, ih, List.map_cons, fieldText]

/-- `FieldsRead field s fs s'` says that `field` reads the fields `fs` one after another, each with
what has been read before it, from `s` to `s'`. -/
inductive FieldsRead {σ : Type} (field : String → σ → Reader σ) :
    σ → List (String × Value) → σ → Prop
  | nil (s : σ) : FieldsRead field s [] s
  | cons {name : String} {v : Value} {fs : List (String × Value)} {s s' s'' : σ} :
      (∀ rest, field name s (':' :: (v.compact ++ rest)) = .ok (s', rest)) →
      FieldsRead field s' fs s'' → FieldsRead field s ((name, v) :: fs) s''

namespace FieldsRead

variable {σ : Type} {field : String → σ → Reader σ} {fs gs : List (String × Value)} {s s' s'' : σ}

theorem append (hfs : FieldsRead field s fs s') (hgs : FieldsRead field s' gs s'') :
    FieldsRead field s (fs ++ gs) s'' := by
  induction hfs with
  | nil s => exact hgs
  | cons hfield _ ih => exact .cons hfield (ih hgs)

/-- One field, and the rest of the object. -/
theorem readFields_cons {name : String} {v : Value} {first : Bool} {cs rest : List Char}
    (hnext : nextField first cs = .ok (true, renderString name ++ ':' :: (v.compact ++ rest)))
    (hfield : ∀ rest, field name s (':' :: (v.compact ++ rest)) = .ok (s', rest)) (fuel : Nat) :
    readFields field (fuel + 1) first s cs = readFields field fuel false s' rest := by
  rw [readFields]
  simp only [hnext, bind, Except.bind, if_true, (reads_renderString name).read_append, hfield]

/-- Fields after the first are read up to the end of the object. -/
theorem readFields_flatMap (h : FieldsRead field s fs s') (rest : List Char) :
    ∀ {fuel : Nat}, fs.length < fuel →
      readFields field fuel false s (fs.flatMap (fun f => ',' :: fieldText f) ++ '\x7d' :: rest) =
        .ok (s', '\x7d' :: rest) := by
  induction h with
  | nil s =>
    intro fuel hfuel
    obtain ⟨fuel, rfl⟩ := Nat.exists_eq_add_one_of_ne_zero (Nat.ne_of_gt hfuel)
    rfl
  | @cons name v fs s s' s'' hfield _ ih =>
    intro fuel hfuel
    rw [List.length_cons] at hfuel
    obtain ⟨fuel, rfl⟩ := Nat.exists_eq_add_one_of_ne_zero (Nat.ne_zero_of_lt hfuel)
    have hnext (x : List Char) :
        nextField false (',' :: (renderString name ++ x)) = .ok (true, renderString name ++ x) := rfl
    rw [List.flatMap_cons, fieldText, List.cons_append, List.cons_append, List.append_assoc,
      List.append_assoc, List.cons_append, readFields_cons (hnext _) hfield]
    exact ih (Nat.lt_of_succ_lt_succ hfuel)

/-- All fields of an object are read, with as much fuel as there is text. -/
theorem readFields_joinWith (h : FieldsRead field s fs s') (rest : List Char) :
    readFields field ((joinWith [','] (fs.map fieldText) ++ '\x7d' :: rest).length + 1) true s
      (joinWith [','] (fs.map fieldText) ++ '\x7d' :: rest) = .ok (s', '\x7d' :: rest) := by
  have hne : ∀ t ∈ fs.map fieldText, t ≠ [] := by
    intro t ht
    obtain ⟨f, -, rfl⟩ := List.mem_map.1 ht
    exact List.cons_ne_nil _ _
  have hfuel := length_le_length_joinWith hne
  rw [List.length_map] at hfuel
  cases h with
  | nil s => rfl
  | @cons name v fs _ s' _ hfield hfs =>
    have hlt : fs.length <
        (joinWith [','] (((name, v) :: fs).map fieldText) ++ '\x7d' :: rest).length := by
      rw [List.length_append]
      simp only [List.length_cons] at hfuel ⊢
      omega
    have hfields := hfs.readFields_flatMap rest hlt
    have hnext (x : List Char) :
        nextField true (renderString name ++ x) = .ok (true, renderString name ++ x) := rfl
    rw [List.map_cons, joinWith_cons, List.flatMap_map, fieldText, List.append_assoc,
      List.append_assoc, List.cons_append] at hfields ⊢
    rw [readFields_cons (hnext _) hfield, hfields]

end FieldsRead

/-- The fields of an object and the bracket after them. -/
theorem compact_object (fs : List (String × Value)) (rest : List Char) :
    (Value.object fs).compact ++ rest =
      '\x7b' :: (joinWith [','] (fs.map fieldText) ++ '\x7d' :: rest) := by
  rw [Value.compact, compactFields_eq_map, List.cons_append, List.append_assoc,
    List.singleton_append]

end Json

/-! ### Replacements and change sets -/

namespace RuleSet

open Json

/-- A field that has not been read before. -/
theorem once_colon {α : Type} {read : Reader α} {text : List Char} {a : α} (h : Reads read text a)
    (name : String) (rest : List Char) :
    once name none read (':' :: (text ++ rest)) = .ok (a, rest) := by
  have hcolon : readColon (':' :: (text ++ rest)) = .ok ((), text ++ rest) := rfl
  rw [once, if_neg (by simp)]
  simp only [hcolon, bind, Except.bind, h.read_append]

/-- A record that is written as an object. -/
theorem reads_record {α : Type} {wanted : String} {object list : Reader α}
    {fs : List (String × Value)} {a : α}
    (h : ∀ rest, object (joinWith [','] (fs.map fieldText) ++ '\x7d' :: rest) = .ok (a, rest)) :
    Reads (readRecord wanted object list) (Value.object fs).compact a where
  startsValue := ⟨_, _, by rw [Value.compact], by decide, by decide⟩
  read_append rest := by
    have hblanks (cs : List Char) : skipBlanks ('\x7b' :: cs) = '\x7b' :: cs := rfl
    rw [compact_object, readRecord, hblanks]
    exact h rest

theorem reads_string (s : String) : Reads readString (Value.string s).compact s := by
  rw [Value.compact]
  exact reads_renderString s

theorem reads_replacement (r : Replacement) :
    Reads readReplacement (replacementValue r).compact r := by
  have hfrom (rest : List Char) :
      replacementField "from" {} (':' :: ((Value.string r.old).compact ++ rest)) =
        .ok (⟨some r.old, none, none⟩, rest) := by
    simp [replacementField, once_colon (reads_string r.old), bind, Except.bind, pure, Except.pure]
  have hto (rest : List Char) :
      replacementField "to" ⟨some r.old, none, none⟩
          (':' :: ((Value.string r.new).compact ++ rest)) =
        .ok (⟨some r.old, some r.new, none⟩, rest) := by
    simp [replacementField, once_colon (reads_string r.new), bind, Except.bind, pure, Except.pure]
  have hregex (rest : List Char) :
      replacementField "regex" ⟨some r.old, some r.new, none⟩
          (':' :: ((Value.bool r.isRegex).compact ++ rest)) =
        .ok (⟨some r.old, some r.new, some r.isRegex⟩, rest) := by
    simp [replacementField, once_colon (reads_bool r.isRegex), bind, Except.bind, pure, Except.pure]
  have hfields : FieldsRead replacementField {}
      [("from", .string r.old), ("to", .string r.new), ("regex", .bool r.isRegex)]
      ⟨some r.old, some r.new, some r.isRegex⟩ :=
    .cons hfrom (.cons hto (.cons hregex (.nil _)))
  refine reads_record fun rest => ?_
  have hend : endObject ('\x7d' :: rest) = .ok ((), rest) := rfl
  rw [replacementObject, hfields.readFields_joinWith]
  simp only [bind, Except.bind, required, hend, pure, Except.pure, Option.getD_some]

theorem reads_replacements (rs : List Replacement) :
    Reads (readList readReplacement) (replacementsValue rs).compact rs :=
  Reads.list fun r _ => reads_replacement r

/-- The description comes first, if there is one. -/
theorem fieldsRead_description (description : Option String) :
    FieldsRead changeSetField {}
      (description.map fun d => ("description", Value.string d)).toList
      ⟨description.map some, none, none, none⟩ := by
  cases description with
  | none => exact .nil _
  | some d =>
    have hread : Reads (readOption readString) (Value.string d).compact (some d) :=
      (reads_string d).some (by rw [Value.compact]; simp [renderString])
    refine .cons (fun rest => ?_) (.nil _)
    simp [changeSetField, once_colon hread, bind, Except.bind, pure, Except.pure]

/-- The replacements for markup come last, if there are any, be it none. -/
theorem fieldsRead_markup (d : Option (Option String)) (ps : List String) (rs : List Replacement)
    (markup : Option (List Replacement)) :
    FieldsRead changeSetField ⟨d, some ps, some rs, none⟩
      (markup.map fun rs => ("htmlReplacements", replacementsValue rs)).toList
      ⟨d, some ps, some rs, markup.map some⟩ := by
  cases markup with
  | none => exact .nil _
  | some ms =>
    have hread : Reads (readOption (readList readReplacement)) (replacementsValue ms).compact
        (some ms) :=
      (reads_replacements ms).some (by rw [replacementsValue, Value.compact]; simp)
    refine .cons (fun rest => ?_) (.nil _)
    simp [changeSetField, once_colon hread, bind, Except.bind, pure, Except.pure]

theorem reads_changeSet (s : ChangeSet) : Reads readChangeSet (changeSetValue s).compact s := by
  have hpatterns : Reads (readList readString)
      (Value.array (s.filePatterns.map Value.string)).compact s.filePatterns :=
    Reads.list fun p _ => reads_string p
  have hmiddle : FieldsRead changeSetField ⟨s.description.map some, none, none, none⟩
      [("filePatterns", .array (s.filePatterns.map Value.string)),
        ("replacements", replacementsValue s.replacements)]
      ⟨s.description.map some, some s.filePatterns, some s.replacements, none⟩ := by
    have hfirst (rest : List Char) :
        changeSetField "filePatterns" ⟨s.description.map some, none, none, none⟩
            (':' :: ((Value.array (s.filePatterns.map Value.string)).compact ++ rest)) =
          .ok (⟨s.description.map some, some s.filePatterns, none, none⟩, rest) := by
      simp [changeSetField, once_colon hpatterns, bind, Except.bind, pure, Except.pure]
    refine .cons hfirst (.cons (fun rest => ?_) (.nil _))
    simp [changeSetField, once_colon (reads_replacements s.replacements), bind, Except.bind, pure,
      Except.pure]
  have hfields := ((fieldsRead_description s.description).append hmiddle).append
    (fieldsRead_markup _ _ _ s.markupReplacements)
  refine reads_record fun rest => ?_
  have hend : endObject ('\x7d' :: rest) = .ok ((), rest) := rfl
  -- a field that is left out is read as one that is missing
  have hdescription : (s.description.map some).getD none = s.description := by
    cases s.description <;> rfl
  have hmarkup : (s.markupReplacements.map some).getD none = s.markupReplacements := by
    cases s.markupReplacements <;> rfl
  rw [changeSetObject, hfields.readFields_joinWith]
  simp only [bind, Except.bind, required, hend, pure, Except.pure, Option.getD_some, hdescription,
    hmarkup]

/-! ### Rule sets -/

theorem reads_category (sets : Option (List ChangeSet)) :
    Reads (readOption (readList readChangeSet)) (categoryValue sets).compact sets := by
  cases sets with
  | none => exact reads_null _
  | some sets =>
    have hread : Reads (readList readChangeSet) (categoryValue (some sets)).compact sets :=
      Reads.list fun s _ => reads_changeSet s
    exact hread.some (by rw [categoryValue, Value.compact]; simp)

/-- A category that is not there yet is set at the end. -/
theorem insert_of_notMem {category : String} {es : List (String × Option (List ChangeSet))}
    (sets : Option (List ChangeSet)) (h : category ∉ es.map Prod.fst) :
    insert category sets es = es ++ [(category, sets)] := by
  induction es with
  | nil => rfl
  | cons e es ih =>
    rw [List.map_cons, List.mem_cons, not_or] at h
    rw [insert, if_neg (Ne.symm h.1), ih h.2, List.cons_append]

/-- Categories are read one after another, if none comes twice. -/
theorem fieldsRead_categories :
    ∀ {fs es : List (String × Option (List ChangeSet))}, ((es ++ fs).map Prod.fst).Nodup →
      FieldsRead categoryField es (fs.map fun e => (e.1, categoryValue e.2)) (es ++ fs) := by
  intro fs
  induction fs with
  | nil =>
    intro es _
    rw [List.append_nil]
    exact .nil es
  | cons f fs ih =>
    intro es h
    have hnew : f.1 ∉ es.map Prod.fst := by
      rw [List.map_append, List.map_cons] at h
      exact fun hmem => (List.nodup_append.1 h).2.2 _ hmem _ List.mem_cons_self rfl
    rw [List.append_cons] at h ⊢
    refine .cons (fun rest => ?_) (ih h)
    have hcolon (cs : List Char) : readColon (':' :: cs) = .ok ((), cs) := rfl
    rw [categoryField]
    simp only [hcolon, bind, Except.bind, (reads_category f.2).read_append, pure, Except.pure,
      insert_of_notMem f.2 hnew]

/-- A rule set without repetitions is read as it is written. -/
theorem readDocument_toJson {r : RuleSet} (h : (r.entries.map Prod.fst).Nodup) :
    readDocument read r.toJson.toList = .ok r := by
  have hfields : FieldsRead categoryField [] (r.entries.map fun e => (e.1, categoryValue e.2))
      r.entries := @fieldsRead_categories r.entries [] h
  have hblanks (cs : List Char) : skipBlanks ('\x7b' :: cs) = '\x7b' :: cs := rfl
  have hend : endObject ['\x7d'] = .ok ((), []) := rfl
  have hread : read r.toJson.toList = .ok (r, []) := by
    have htext := compact_object (r.entries.map fun e => (e.1, categoryValue e.2)) []
    rw [List.append_nil] at htext
    rw [toJson, String.toList_ofList, toValue, htext, read, hblanks]
    simp only [readObject, hfields.readFields_joinWith, bind, Except.bind, hend, pure, Except.pure,
      Except.map]
  rw [readDocument, hread]
  rfl

/-! ### Categories that are written twice -/

/-- A category keeps its place when it is set again. -/
theorem map_fst_insert (category : String) (sets : Option (List ChangeSet))
    (es : List (String × Option (List ChangeSet))) :
    (insert category sets es).map Prod.fst =
      if category ∈ es.map Prod.fst then es.map Prod.fst else es.map Prod.fst ++ [category] := by
  induction es with
  | nil => simp [insert]
  | cons e es ih =>
    rw [insert]
    by_cases heq : e.1 = category
    · simp [heq]
    · rw [if_neg heq, List.map_cons, ih, List.map_cons]
      by_cases hmem : category ∈ es.map Prod.fst
      · rw [if_pos hmem, if_pos (List.mem_cons_of_mem _ hmem)]
      · rw [if_neg hmem, if_neg (by simp [hmem, Ne.symm heq]), List.cons_append]

/-- The categories of a rule set are those that are written, each where it is written first. -/
theorem map_fst_ofWritten (fields : List (String × Option (List ChangeSet))) :
    (ofWritten fields).entries.map Prod.fst = Report.distinct (fields.map Prod.fst) := by
  have hfold : ∀ (fields es : List (String × Option (List ChangeSet))),
      (fields.foldl (fun es f => insert f.1 f.2 es) es).map Prod.fst =
        (fields.map Prod.fst).foldl (fun seen p => if p ∈ seen then seen else seen ++ [p])
          (es.map Prod.fst) := by
    intro fields
    induction fields with
    | nil => exact fun _ => rfl
    | cons f fields ih =>
      intro es
      rw [List.foldl_cons, ih, map_fst_insert, List.map_cons, List.foldl_cons]
  exact hfold fields []

end RuleSet

/-- **A rule set that has been read is written and read again without a change**, however its
document was spelt, and is then written as before.  Of a category that is written more than once, the
first place and the last value count. -/
theorem ofJson_toJson {regex : Regex.Compiler} {text : String} {r : RuleSet}
    (h : RuleSet.ofJson regex text = .ok r) :
    RuleSet.ofJson regex r.toJson = .ok r ∧
      (RuleSet.ofJson regex r.toJson).map RuleSet.toJson = .ok r.toJson ∧
      ∃ fields, Json.readDocument RuleSet.readWritten text.toList = .ok fields ∧
        r.entries.map Prod.fst = Report.distinct (fields.map Prod.fst) ∧
        ∀ before category sets after, fields = before ++ (category, sets) :: after →
          category ∉ after.map Prod.fst → (category, sets) ∈ r.entries := by
  obtain ⟨hread, hcheck⟩ := RuleSet.ofJson_eq_ok_iff.1 h
  rw [RuleSet.readDocument_read] at hread
  cases hwritten : Json.readDocument RuleSet.readWritten text.toList with
  | error e =>
    rw [hwritten] at hread
    cases hread
  | ok fields =>
    rw [hwritten] at hread
    cases hread
    have hnames := RuleSet.map_fst_ofWritten fields
    have hnodup : ((RuleSet.ofWritten fields).entries.map Prod.fst).Nodup :=
      hnames ▸ Report.nodup_distinct _
    have hagain := RuleSet.ofJson_eq_ok_iff.2 ⟨RuleSet.readDocument_toJson hnodup, hcheck⟩
    refine ⟨hagain, by rw [hagain]; rfl, fields, rfl, hnames, ?_⟩
    rintro before category sets after rfl hlast
    exact RuleSet.mem_entries_ofWritten before hlast

/-- A document in many spellings: a category that is given twice, a change set as a list, a field that
nobody knows, two names of one flag, escapes. -/
def spelledDocument : String :=
  " \x7b\"a\":null,\n\"b\":[\x7b\"since\":[1,\x7b\x7d],\"filePatterns\":[\"**/*\"]," ++
    "\"replacements\":[\x7b\"isRegex\":true,\"to\":\"y\",\"from\":\"x+\"\x7d," ++
    "[\"p\\u0041\\t\",\"\\uD83D\\uDE00\"]]\x7d]," ++
    "\"a\":[[null,[\"\\u00e9/*\"],[],[]]]\x7d"

def spelledRuleSet : RuleSet :=
  ⟨[("a", some [⟨none, ["é/*"], [], some []⟩]),
    ("b", some [⟨none, ["**/*"], [⟨"x+", "y", true⟩, ⟨"pA\t", "😀", false⟩], none⟩])]⟩

theorem ofJson_toJson_spelled :
    RuleSet.ofJson Regex.compile spelledDocument = .ok spelledRuleSet ∧
      RuleSet.ofJson Regex.compile spelledRuleSet.toJson = .ok spelledRuleSet ∧
      spelledRuleSet.toJson =
        "\x7b\"a\":[\x7b\"filePatterns\":[\"é/*\"],\"replacements\":[]," ++
          "\"htmlReplacements\":[]\x7d]," ++
          "\"b\":[\x7b\"filePatterns\":[\"**/*\"],\"replacements\":" ++
          "[\x7b\"from\":\"x+\",\"to\":\"y\",\"regex\":true\x7d," ++
          "\x7b\"from\":\"pA\\t\",\"to\":\"😀\",\"regex\":false\x7d]\x7d]\x7d" := by
  have hread : RuleSet.ofJson Regex.compile spelledDocument = .ok spelledRuleSet := by
    decide +kernel
  exact ⟨hread, (ofJson_toJson hread).1, by decide +kernel⟩

end Codemod
