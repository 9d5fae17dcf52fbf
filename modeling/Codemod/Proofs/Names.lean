import Codemod.Name
import Codemod.Proofs.Paths

/-!
# Names and the texts that show them

A name that is a text is shown as that text.  A name that is none is shown with U+FFFD somewhere, so
a text without it shows one name only.  Either way a name on a disk is shown as one that a path can
speak of.

## Main definitions

* `Name.IsText name` — the bytes of `name` are those of a text.
* `Name.IsEntry name` — an entry of a directory can have `name`.

## Main results

* `Name.text_ofText` — a text is shown as it is.
* `Name.isText_of_notMem` — a text without U+FFFD shows the name that is this text.
* `Name.IsEntry.isName_text` — what an entry's name is shown as is a name of a path.
* `Path.names_ofNames`, `Path.ofNames_names` — paths and the names that they speak of.
-/

namespace Codemod

namespace Name

/-! ### Characters of bytes -/

theorem charsFrom_nil (skip : Nat) : charsFrom skip [] = [] := by
  cases skip <;> rfl

/-- Bytes that have been read do not count. -/
theorem charsFrom_eq_drop (skip : Nat) (bs : List UInt8) :
    charsFrom skip bs = charsFrom 0 (bs.drop skip) := by
  induction bs generalizing skip with
  | nil => rw [charsFrom_nil, List.drop_nil, charsFrom_nil]
  | cons b bs ih =>
    cases skip with
    | zero => rw [List.drop_zero]
    | succ skip => rw [charsFrom, ih, List.drop_succ_cons]

/-- Where a character can be read, its bytes stand. -/
theorem exists_append_of_decode {bs : List UInt8} {c : Char}
    (h : bs.toByteArray.utf8DecodeChar? 0 = some c) :
    ∃ rest, bs = String.utf8EncodeChar c ++ rest := by
  obtain ⟨rest, hrest⟩ := ByteArray.exists_of_utf8DecodeChar?_eq_some h
  refine ⟨rest.data.toList, ?_⟩
  have hlist := congrArg (fun b => b.data.toList) hrest
  simpa using hlist

/-- The bytes of a character are read as this character. -/
theorem charsFrom_encode_append (c : Char) (rest : List UInt8) :
    charsFrom 0 (String.utf8EncodeChar c ++ rest) = c :: charsFrom 0 rest := by
  obtain ⟨b, bs, hbs⟩ := List.exists_cons_of_ne_nil (String.utf8EncodeChar_ne_nil (c := c))
  have hlength : bs.length = c.utf8Size - 1 := by
    rw [← String.length_utf8EncodeChar, hbs, List.length_cons, Nat.add_sub_cancel]
  have hdecode : (b :: (bs ++ rest)).toByteArray.utf8DecodeChar? 0 = some c := by
    rw [← List.cons_append, ← hbs, List.toByteArray_append]
    exact ByteArray.utf8DecodeChar?_utf8EncodeChar_append
  rw [hbs, List.cons_append, charsFrom, hdecode]
  simp only
  rw [charsFrom_eq_drop, ← hlength, List.drop_left]

/-- The bytes from a place on are those of a character that can be read there, or are shown as
U+FFFD. -/
theorem charsFrom_zero_cases {bs : List UInt8} (hne : bs ≠ []) :
    (∃ c rest, bs = String.utf8EncodeChar c ++ rest ∧ charsFrom 0 bs = c :: charsFrom 0 rest) ∨
      ∃ skip, charsFrom 0 bs = replacement :: charsFrom 0 (bs.drop (skip + 1)) := by
  obtain ⟨b, bs, rfl⟩ := List.exists_cons_of_ne_nil hne
  cases hdecode : (b :: bs).toByteArray.utf8DecodeChar? 0 with
  | some c =>
    obtain ⟨rest, hrest⟩ := exists_append_of_decode hdecode
    exact Or.inl ⟨c, rest, hrest, by rw [hrest, charsFrom_encode_append]⟩
  | none =>
    refine Or.inr ⟨brokenTail b bs, ?_⟩
    rw [charsFrom, hdecode, List.drop_succ_cons]
    simp only
    rw [charsFrom_eq_drop]

/-- Induction over bytes as they are read. -/
theorem charsFrom_induction {motive : List UInt8 → Prop} (nil : motive [])
    (char : ∀ c rest, motive rest → motive (String.utf8EncodeChar c ++ rest))
    (broken : ∀ bs skip, bs ≠ [] →
      charsFrom 0 bs = replacement :: charsFrom 0 (bs.drop (skip + 1)) →
      motive (bs.drop (skip + 1)) → motive bs)
    (bs : List UInt8) : motive bs := by
  induction hlength : bs.length using Nat.strong_induction_on generalizing bs with
  | _ n ih =>
    by_cases hne : bs = []
    · exact hne ▸ nil
    · rcases charsFrom_zero_cases hne with ⟨c, rest, rfl, -⟩ | ⟨skip, hskip⟩
      · refine char c rest (ih rest.length ?_ rest rfl)
        have hpos := c.utf8Size_pos
        rw [← hlength, List.length_append, String.length_utf8EncodeChar]
        omega
      · refine broken bs skip hne hskip (ih _ ?_ _ rfl)
        have hpos := List.length_pos_iff.2 hne
        rw [← hlength, List.length_drop]
        omega

/-- The characters of the bytes of a text. -/
theorem charsFrom_flatMap_encode (cs : List Char) :
    charsFrom 0 (cs.flatMap String.utf8EncodeChar) = cs := by
  induction cs with
  | nil => rfl
  | cons c cs ih => rw [List.flatMap_cons, charsFrom_encode_append, ih]

/-- Bytes that are shown without U+FFFD are those of the text that they are shown as. -/
theorem flatMap_encode_charsFrom {bs : List UInt8} (h : replacement ∉ charsFrom 0 bs) :
    (charsFrom 0 bs).flatMap String.utf8EncodeChar = bs := by
  induction bs using charsFrom_induction with
  | nil => rfl
  | char c rest ih =>
    rw [charsFrom_encode_append, List.mem_cons, not_or] at h
    rw [charsFrom_encode_append, List.flatMap_cons, ih h.2]
  | broken bs skip hne hskip ih => exact absurd (hskip ▸ List.mem_cons_self) h

/-- A character that is shown is U+FFFD or stands in the bytes. -/
theorem encode_subset_of_mem_charsFrom {c : Char} {bs : List UInt8} (h : c ∈ charsFrom 0 bs) :
    c = replacement ∨ ∀ b ∈ String.utf8EncodeChar c, b ∈ bs := by
  induction bs using charsFrom_induction with
  | nil => cases h
  | char d rest ih =>
    rw [charsFrom_encode_append] at h
    rcases List.mem_cons.1 h with rfl | h
    · exact Or.inr fun b hb => List.mem_append_left _ hb
    · exact (ih h).imp_right fun hall b hb => List.mem_append_right _ (hall b hb)
  | broken bs skip hne hskip ih =>
    rw [hskip] at h
    rcases List.mem_cons.1 h with rfl | h
    · exact Or.inl rfl
    · exact (ih h).imp_right fun hall b hb => List.mem_of_mem_drop (hall b hb)

/-! ### Names that are texts -/

/-- `IsText name` says that the bytes of `name` are those of a text. -/
def IsText (name : Name) : Prop := ofText name.text = name

instance (name : Name) : Decidable (IsText name) :=
  inferInstanceAs (Decidable (_ = _))

@[simp]
theorem text_ofText (text : String) : (ofText text).text = text := by
  rw [Name.text, ofText, charsFrom_flatMap_encode, String.ofList_toList]

theorem isText_ofText (text : String) : IsText (ofText text) := by
  rw [IsText, text_ofText]

theorem ofText_injective : Function.Injective ofText := fun a b h => by
  rw [← text_ofText a, h, text_ofText]

@[simp]
theorem ofText_inj {a b : String} : ofText a = ofText b ↔ a = b := ofText_injective.eq_iff

@[simp]
theorem ofText_beq (a b : String) : (ofText a == ofText b) = (a == b) := by
  rw [Bool.eq_iff_iff, beq_iff_eq, beq_iff_eq, ofText_inj]

/-- A text without U+FFFD shows one name only. -/
theorem isText_of_notMem {name : Name} (h : replacement ∉ name.text.toList) : IsText name := by
  rw [Name.text, String.toList_ofList] at h
  rw [IsText, ofText, Name.text, String.toList_ofList, flatMap_encode_charsFrom h]

theorem eq_ofText_of_text_eq {name : Name} {text : String} (h : name.text = text)
    (hplain : replacement ∉ text.toList) : name = ofText text := by
  subst h
  exact (isText_of_notMem hplain).symm

/-! ### Names of entries -/

/-- `IsEntry name` says that an entry of a directory can have `name`. -/
def IsEntry (name : Name) : Prop :=
  name ≠ ofText "" ∧ name ≠ ofText "." ∧ name ≠ ofText ".." ∧ Path.slashByte ∉ name.bytes

instance (name : Name) : Decidable (IsEntry name) :=
  inferInstanceAs (Decidable (_ ∧ _))

theorem text_ne_empty {name : Name} (h : name ≠ ofText "") : name.text ≠ "" :=
  fun heq => h (eq_ofText_of_text_eq heq (by simp))

/-- What an entry's name is shown as is a name of a path. -/
theorem IsEntry.isName_text {name : Name} (h : IsEntry name) : Path.IsName name.text := by
  obtain ⟨hempty, hdot, hdots, hslash⟩ := h
  refine ⟨text_ne_empty hempty, fun heq => hdot (eq_ofText_of_text_eq heq (by decide)),
    fun heq => hdots (eq_ofText_of_text_eq heq (by decide)), fun hmem => hslash ?_⟩
  rw [Name.text, String.toList_ofList] at hmem
  rcases encode_subset_of_mem_charsFrom hmem with heq | hall
  · exact absurd heq (by decide)
  · exact hall Path.slashByte (by decide)

/-- The bytes of a character beyond ASCII are beyond ASCII. -/
theorem le_of_mem_encode {c : Char} (hc : 127 < c.toNat) {b : UInt8}
    (hb : b ∈ String.utf8EncodeChar c) : 128 ≤ b.toNat := by
  have hbyte : ∀ {n m : Nat}, 128 ≤ m → n + m < 256 → 128 ≤ (UInt8.ofNat (n + m)).toNat := by
    intro n m hm hlt
    rw [UInt8.toNat_ofNat_of_lt' hlt]
    omega
  have hascii : ¬c.val.toNat ≤ 127 := Nat.not_le.2 hc
  rw [String.utf8EncodeChar] at hb
  simp only [hascii, if_false] at hb
  -- two, three or four bytes, each with its first bit set
  split at hb <;> [skip; split at hb] <;>
    · simp only [List.mem_cons, List.not_mem_nil, or_false] at hb
      rcases hb with rfl | rfl | rfl | rfl <;> exact hbyte (by omega) (by omega)

theorem eq_slash_of_mem_encode {c : Char} (h : Path.slashByte ∈ String.utf8EncodeChar c) :
    c = '/' := by
  by_cases hc : c.toNat ≤ 127
  · have hencode : String.utf8EncodeChar c = [UInt8.ofNat c.toNat] := by
      rw [String.utf8EncodeChar]
      exact if_pos hc
    rw [hencode, List.mem_singleton] at h
    have hnat := congrArg UInt8.toNat h
    rw [UInt8.toNat_ofNat_of_lt' (Nat.lt_of_le_of_lt hc (by decide))] at hnat
    exact Char.toNat_inj.1 hnat.symm
  · exact absurd (le_of_mem_encode (Nat.not_le.1 hc) h) (by decide)

theorem slashByte_mem_ofText_iff {text : String} :
    Path.slashByte ∈ (ofText text).bytes ↔ '/' ∈ text.toList := by
  rw [ofText, List.mem_flatMap]
  constructor
  · rintro ⟨c, hc, hslash⟩
    exact eq_slash_of_mem_encode hslash ▸ hc
  · exact fun hmem => ⟨'/', hmem, by decide⟩

theorem isEntry_ofText_iff {text : String} : IsEntry (ofText text) ↔ Path.IsName text := by
  simp only [IsEntry, Path.IsName, ne_eq, ofText_inj, slashByte_mem_ofText_iff]

/-! ### Order -/

theorem perm_insertByName {α : Type} (e : Name × α) (es : List (Name × α)) :
    (insertByName e es).Perm (e :: es) := by
  induction es with
  | nil => exact List.Perm.refl _
  | cons f es ih =>
    rw [insertByName]
    split
    · exact List.Perm.refl _
    · exact (ih.cons f).trans (List.Perm.swap e f es)

theorem perm_sortByName {α : Type} (es : List (Name × α)) : (sortByName es).Perm es := by
  induction es with
  | nil => exact List.Perm.refl _
  | cons e es ih => exact (perm_insertByName e _).trans (ih.cons e)

end Name

namespace Path

/-- The names that a path speaks of are shown as the path. -/
theorem ofNames_names (path : String) : ofNames (names path) = path := by
  have htext : Name.text ∘ Name.ofText = id := funext Name.text_ofText
  rw [ofNames, names, List.map_map, htext, List.map_id, join_split]

theorem names_injective : Function.Injective names := fun a b h => by
  rw [← ofNames_names a, h, ofNames_names]

theorem names_ne_nil (path : String) : names path ≠ [] := by
  simp [names, split_ne_nil]

theorem isText_of_mem_names {path : String} : ∀ name ∈ names path, name.IsText :=
  List.forall_mem_map.2 fun text _ => Name.isText_ofText text

section Entries

variable {ns : List Name} (hne : ns ≠ []) (hentries : ∀ name ∈ ns, name.IsEntry)
include hne hentries

theorem split_ofNames : split (ofNames ns) = ns.map Name.text :=
  split_join (by simpa) (List.forall_mem_map.2 fun name hname => (hentries name hname).isName_text)

theorem isCanonical_ofNames : IsCanonical (ofNames ns) := by
  rw [IsCanonical, split_ofNames hne hentries]
  exact List.forall_mem_map.2 fun name hname => (hentries name hname).isName_text

/-- The path that shows names speaks of the texts that they are shown as. -/
theorem names_ofNames : names (ofNames ns) = ns.map fun name => Name.ofText name.text := by
  rw [names, split_ofNames hne hentries, List.map_map]
  rfl

theorem names_ofNames_of_isText (htext : ∀ name ∈ ns, name.IsText) : names (ofNames ns) = ns := by
  rw [names_ofNames hne hentries]
  exact (List.map_congr_left htext).trans (List.map_id ns)

end Entries

theorem IsCanonical.isEntry {path : String} (h : IsCanonical path) :
    ∀ name ∈ names path, name.IsEntry :=
  List.forall_mem_map.2 fun text htext => Name.isEntry_ofText_iff.2 (h text htext)

end Path

end Codemod
