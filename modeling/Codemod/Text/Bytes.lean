/-!
# Byte offsets into text

Offsets count the bytes of the text in UTF-8, so an offset is a place in a text only where a
character starts.  Text is cut as a list of characters, and a cut that falls inside a character or
beyond the end gives nothing.

## Main definitions

* `blen` — the number of bytes of a text.
* `cut?` — the text before and after an offset.
* `slice?` — the text between two offsets.
* `IsPlace` — an offset where text can be cut.
-/

namespace Codemod.Text

/-- The number of bytes of a text in UTF-8. -/
def blen : List Char → Nat
  | [] => 0
  | c :: cs => c.utf8Size + blen cs

@[simp]
theorem blen_nil : blen [] = 0 := rfl

@[simp]
theorem blen_cons (c : Char) (cs : List Char) : blen (c :: cs) = c.utf8Size + blen cs := rfl

@[simp]
theorem blen_append (a b : List Char) : blen (a ++ b) = blen a + blen b := by
  induction a with
  | nil => simp
  | cons c a ih => simp [ih, Nat.add_assoc]

/-- The text before and after an offset; `none` if no character starts there. -/
def cut? : Nat → List Char → Option (List Char × List Char)
  | 0, cs => some ([], cs)
  | _ + 1, [] => none
  | n + 1, c :: cs =>
    if c.utf8Size ≤ n + 1 then (cut? (n + 1 - c.utf8Size) cs).map fun p => (c :: p.1, p.2) else none

/-- The text between two offsets; `none` unless both are places and in order. -/
def slice? (start stop : Nat) (cs : List Char) : Option (List Char) :=
  if start ≤ stop then
    (cut? start cs).bind fun p => (cut? (stop - start) p.2).map (·.1)
  else none

@[simp]
theorem cut?_zero (cs : List Char) : cut? 0 cs = some ([], cs) := by
  cases cs <;> rfl

/-- Cutting gives back the whole, and the first part ends at the offset. -/
theorem append_of_cut? {n : Nat} {cs a b : List Char} (h : cut? n cs = some (a, b)) :
    a ++ b = cs ∧ blen a = n := by
  fun_induction cut? n cs generalizing a b with
  | case1 cs => simp_all
  | case2 => simp at h
  | case3 n c cs hc ih =>
    obtain ⟨⟨x, y⟩, hp, hxy⟩ := Option.map_eq_some_iff.1 h
    obtain ⟨rfl, rfl⟩ := Prod.mk.inj hxy
    obtain ⟨h₁, h₂⟩ := ih hp
    exact ⟨by simp [h₁], by simp only [blen_cons, h₂]; omega⟩
  | case4 => simp at h

/-- A text can be cut after any of its parts. -/
theorem cut?_blen_append (a b : List Char) : cut? (blen a) (a ++ b) = some (a, b) := by
  induction a with
  | nil => simp
  | cons c a ih =>
    have hc : 0 < c.utf8Size := Char.utf8Size_pos c
    obtain ⟨m, hm⟩ : ∃ m, c.utf8Size + blen a = m + 1 := ⟨c.utf8Size + blen a - 1, by omega⟩
    have hle : c.utf8Size ≤ m + 1 := by omega
    have hsub : m + 1 - c.utf8Size = blen a := by omega
    simp [hm, cut?, hle, hsub, ih]

/-- A text's part between two other parts is found by their lengths. -/
theorem slice?_append (a b c : List Char) :
    slice? (blen a) (blen a + blen b) (a ++ (b ++ c)) = some b := by
  simp [slice?, cut?_blen_append]

/-! ### Places -/

theorem blen_eq_zero_iff {cs : List Char} : blen cs = 0 ↔ cs = [] := by
  cases cs with
  | nil => simp
  | cons c cs =>
    have hc : 0 < c.utf8Size := Char.utf8Size_pos c
    rw [blen_cons]
    exact ⟨fun h => by omega, fun h => by simp at h⟩

theorem blen_pos_iff {cs : List Char} : 0 < blen cs ↔ cs ≠ [] := by
  rw [Nat.pos_iff_ne_zero, Ne, blen_eq_zero_iff]

theorem cut?_eq_some_iff {n : Nat} {cs a b : List Char} :
    cut? n cs = some (a, b) ↔ a ++ b = cs ∧ blen a = n := by
  constructor
  · exact append_of_cut?
  · rintro ⟨rfl, rfl⟩
    exact cut?_blen_append a b

/-- A slice stands between the text before it and the text after it. -/
theorem slice?_eq_some_iff {start stop : Nat} {cs x : List Char} :
    slice? start stop cs = some x ↔
      ∃ a c, a ++ (x ++ c) = cs ∧ blen a = start ∧ blen a + blen x = stop := by
  constructor
  · intro h
    unfold slice? at h
    split at h
    · next hle =>
      obtain ⟨⟨a, b⟩, hcut, h⟩ := Option.bind_eq_some_iff.1 h
      obtain ⟨⟨y, c⟩, hcut', rfl⟩ := Option.map_eq_some_iff.1 h
      obtain ⟨rfl, rfl⟩ := append_of_cut? hcut
      obtain ⟨rfl, hy⟩ := append_of_cut? hcut'
      refine ⟨a, c, rfl, rfl, ?_⟩
      show blen a + blen y = stop
      omega
    · simp at h
  · rintro ⟨a, c, rfl, rfl, rfl⟩
    exact slice?_append a x c

/-- Two cuts of a text at one place are the same. -/
theorem append_inj_of_blen_eq {a b a' b' : List Char} (h : a ++ b = a' ++ b')
    (hlen : blen a = blen a') : a = a' ∧ b = b' := by
  have hcut : cut? (blen a) (a ++ b) = some (a', b') := cut?_eq_some_iff.2 ⟨h.symm, hlen.symm⟩
  rw [cut?_blen_append] at hcut
  exact Prod.mk.inj (Option.some.inj hcut)

/-- Of two cuts of a text, the first part of the earlier one starts that of the later one. -/
theorem exists_append_of_blen_le {a b a' b' : List Char} (h : a ++ b = a' ++ b')
    (hlen : blen a ≤ blen a') : ∃ m, a' = a ++ m ∧ b = m ++ b' := by
  rcases List.append_eq_append_iff.1 h with ⟨m, ha, hb⟩ | ⟨m, ha, hb⟩
  · exact ⟨m, ha, hb⟩
  · have hm : m = [] := by
      rw [ha, blen_append] at hlen
      exact blen_eq_zero_iff.1 (by omega)
    subst hm
    exact ⟨[], by simpa using ha.symm, by simpa using hb.symm⟩

/-- `IsPlace n cs` says that a character of `cs` starts at the offset `n`, or `cs` ends there. -/
def IsPlace (n : Nat) (cs : List Char) : Prop := ∃ a b, a ++ b = cs ∧ blen a = n

theorem IsPlace.le {n : Nat} {cs : List Char} (h : IsPlace n cs) : n ≤ blen cs := by
  obtain ⟨a, b, rfl, rfl⟩ := h
  rw [blen_append]
  omega

/-- There is a slice between two places in order, and nowhere else. -/
theorem slice?_isSome_iff {start stop : Nat} {cs : List Char} :
    (slice? start stop cs).isSome ↔ start ≤ stop ∧ IsPlace start cs ∧ IsPlace stop cs := by
  constructor
  · intro h
    obtain ⟨x, hx⟩ := Option.isSome_iff_exists.1 h
    obtain ⟨a, c, rfl, rfl, rfl⟩ := slice?_eq_some_iff.1 hx
    exact ⟨by omega, ⟨a, x ++ c, rfl, rfl⟩, ⟨a ++ x, c, by simp, by simp⟩⟩
  · rintro ⟨hle, ⟨a, b, rfl, rfl⟩, ⟨a', b', h, rfl⟩⟩
    obtain ⟨x, rfl, rfl⟩ := exists_append_of_blen_le h.symm hle
    rw [blen_append, slice?_append]
    rfl

end Codemod.Text
