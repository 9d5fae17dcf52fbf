import Codemod.Proofs.Globs

/-!
# Which texts are globs

A text is a glob if no more than two stars stand in a row, two of them only as a name of their own,
and every bracket that opens a class is closed.  Inside a class none of this counts, so that it has to
be told from the start of the text where classes begin and end.  Characters that neither begin nor
end anything can be exchanged for others of their kind, wherever they stand.

## Main definitions

* `Glob.IsRest`, `Glob.IsGlob` — texts that are globs, or the rest of one.
* `Glob.IsInert` — texts that neither begin nor end anything.

## Main results

* `Glob.exists_parse_iff` — **the texts that can be read are the globs.**
* `Glob.IsRest.exchange` — inert texts can be exchanged.
-/

namespace Codemod.Glob

/-- `IsRest here cs` says that `cs` is the rest of a glob.  `here` tells whether a name starts
here. -/
inductive IsRest : (here : Bool) → List Char → Prop
  | nil {here : Bool} : IsRest here []
  | char {here : Bool} {c : Char} {rest : List Char} :
      c ≠ '*' → c ≠ '[' → IsRest (c = '/') rest → IsRest here (c :: rest)
  /-- A star that is not followed by another. -/
  | star {here : Bool} {rest : List Char} :
      rest.head? ≠ some '*' → IsRest false rest → IsRest here ('*' :: rest)
  /-- Two stars that are a name. -/
  | names {rest : List Char} : IsRest true rest → IsRest true ('*' :: '*' :: '/' :: rest)
  /-- Two stars that are the last name. -/
  | lastNames : IsRest true ['*', '*']
  /-- A class that is closed. -/
  | range {here : Bool} {body rest : List Char} :
      IsClassBody body → IsRest false rest → IsRest here ('[' :: (body ++ ']' :: rest))

/-- `IsGlob cs` says that `cs` is a glob. -/
def IsGlob (cs : List Char) : Prop := IsRest true cs

/-! ### Reading -/

theorem readClass_append {body : List Char} (h : IsClassBody body) (after : List Char) :
    ∃ t, readClass (body ++ ']' :: after) = .ok (t, (body ++ [']']).length) := by
  cases h with
  | @within first others hfirst hothers =>
    have htake := takeWhile_append_bracket hothers after
    rw [List.cons_append, readClass]
    simp only [List.head?_cons, Option.some.injEq, hfirst, if_false, htake]
    exact ⟨.within (classMembers (first :: others)), by simp⟩
  | @except first others hothers =>
    have htake := takeWhile_append_bracket hothers after
    rw [List.cons_append, List.cons_append, readClass]
    simp only [List.head?_cons, if_true, List.drop_one, List.tail_cons, htake]
    exact ⟨.except (classMembers (first :: others)), by simp⟩

/-- The characters of a part are passed over. -/
theorem parseFrom_append {rest : List Char} {read : List GlobToken} :
    ∀ {passed : List Char} {prev : Option Char},
      parseFrom prev read passed.length (passed ++ rest) =
        parseFrom (passed.getLast?.or prev) read 0 rest := by
  intro passed
  induction passed with
  | nil => exact rfl
  | cons c passed ih =>
    intro prev
    rw [List.length_cons, List.cons_append, parseFrom, ih, List.getLast?_cons]
    cases passed.getLast? <;> rfl

theorem readToken_of_ne {c : Char} (hstar : c ≠ '*') (hclass : c ≠ '[') (prev : Option Char)
    (rest : List Char) : ∃ t, readToken prev c rest = .ok (t, 0) := by
  rw [readToken, if_neg hstar, if_neg hclass]
  split
  · exact ⟨_, rfl⟩
  · exact ⟨_, rfl⟩

theorem readToken_star {prev : Option Char} {rest : List Char} (h : rest.head? ≠ some '*') :
    readToken prev '*' rest = .ok (.anySequence, 0) := by
  have htake : rest.takeWhile (· = '*') = [] := by
    cases rest with
    | nil => rfl
    | cons c rest => simp_all
  simp [readToken, readStars, htake]

/-- Two stars can be read where a name starts, before a slash or at the end. -/
theorem readToken_stars_iff {prev : Option Char} {rest : List Char} {n : Nat} :
    (∃ t, readToken prev '*' ('*' :: rest) = .ok (t, n)) ↔
      prev.all (· = '/') = true ∧
        (rest = [] ∧ n = 1 ∨ ∃ after, rest = '/' :: after ∧ n = 2) := by
  rw [readToken, if_neg (by decide), if_pos rfl, readStars]
  cases rest with
  | nil => by_cases hprev : prev.all (· = '/') = true <;> simp [hprev, eq_comm]
  | cons c after =>
    by_cases hstar : c = '*'
    · simp [hstar]
    · by_cases hprev : prev.all (· = '/') = true <;> by_cases hslash : c = '/' <;>
        simp [hstar, hprev, hslash, eq_comm]

/-- A part that is read before the rest of a glob. -/
theorem isRest_cons_of_readToken {prev : Option Char} {c : Char} {rest : List Char}
    {t : GlobToken} {n : Nat} (h : readToken prev c rest = .ok (t, n))
    (hrest : IsRest (((rest.take n).getLast?.or (some c)).all (· = '/')) (rest.drop n)) :
    IsRest (prev.all (· = '/')) (c :: rest) := by
  by_cases hstar : c = '*'
  · subst hstar
    by_cases hnext : rest.head? = some '*'
    · obtain ⟨after, rfl⟩ := List.head?_eq_some_iff.1 hnext
      obtain ⟨hprev, ⟨rfl, rfl⟩ | ⟨after, rfl, rfl⟩⟩ := readToken_stars_iff.1 ⟨t, h⟩
      · rw [hprev]
        exact .lastNames
      · rw [hprev]
        exact .names hrest
    · rw [readToken_star hnext] at h
      cases h
      exact .star hnext hrest
  · by_cases hclass : c = '['
    · subst hclass
      have hread : readClass rest = .ok (t, n) := h
      obtain ⟨-, body, after, rfl, hbody, rfl⟩ := isClassBody_of_readClass hread
      have hpassed : body ++ ']' :: after = body ++ [']'] ++ after := by simp
      rw [hpassed, List.take_left, List.drop_left] at hrest
      exact .range hbody (by simpa using hrest)
    · obtain ⟨t', ht'⟩ := readToken_of_ne hstar hclass prev rest
      cases ht'.symm.trans h
      exact .char hstar hclass (by simpa using hrest)

/-- What can be read is the rest of a glob.  The character before it is the last one that is passed
over. -/
theorem isRest_of_parseFrom {g : Glob} :
    ∀ {cs : List Char} {prev : Option Char} {read : List GlobToken} {skip : Nat},
      parseFrom prev read skip cs = .ok g →
        IsRest (((cs.take skip).getLast?.or prev).all (· = '/')) (cs.drop skip) := by
  intro cs
  induction cs with
  | nil =>
    intro prev read skip _
    rw [List.drop_nil]
    exact .nil
  | cons c rest ih =>
    intro prev read skip h
    cases skip with
    | succ skip =>
      rw [parseFrom] at h
      have hrest := ih h
      rw [List.take_succ_cons, List.getLast?_cons, List.drop_succ_cons]
      cases hlast : (rest.take skip).getLast? <;> simpa [hlast] using hrest
    | zero =>
      rw [parseFrom] at h
      cases htoken : readToken prev c rest with
      | error e =>
        rw [htoken] at h
        cases h
      | ok r =>
        obtain ⟨t, n⟩ := r
        rw [htoken] at h
        exact isRest_cons_of_readToken htoken (ih h)

theorem exists_parseFrom_of_isRest {here : Bool} {cs : List Char} (h : IsRest here cs) :
    ∀ {prev : Option Char} {read : List GlobToken}, prev.all (· = '/') = here →
      ∃ g, parseFrom prev read 0 cs = .ok g := by
  induction h with
  | nil => exact fun _ => ⟨_, by rw [parseFrom]⟩
  | @char _ c rest hstar hclass _ ih =>
    intro prev read _
    obtain ⟨t, ht⟩ := readToken_of_ne hstar hclass prev rest
    rw [parseFrom, ht]
    exact ih (by simp)
  | star hnext _ ih =>
    intro prev read _
    rw [parseFrom, readToken_star hnext]
    exact ih rfl
  | @names rest _ ih =>
    intro prev read hprev
    obtain ⟨t, ht⟩ := readToken_stars_iff.2 ⟨hprev, Or.inr ⟨rest, rfl, rfl⟩⟩
    rw [parseFrom, ht]
    exact ih rfl
  | lastNames =>
    intro prev read hprev
    obtain ⟨t, ht⟩ := readToken_stars_iff.2 ⟨hprev, Or.inl ⟨rfl, rfl⟩⟩
    rw [parseFrom, ht]
    exact ⟨_, rfl⟩
  | @range _ body rest hbody _ ih =>
    intro prev read _
    obtain ⟨t, ht⟩ := readClass_append hbody rest
    have htoken : readToken prev '[' (body ++ ']' :: rest) = .ok (t, (body ++ [']']).length) := ht
    have hpassed : body ++ ']' :: rest = body ++ [']'] ++ rest := by simp
    rw [parseFrom, htoken]
    simp only [hpassed]
    rw [parseFrom_append]
    exact ih (by simp)

/-- **The texts that can be read are the globs.** -/
theorem exists_parse_iff {cs : List Char} : (∃ g, parse cs = .ok g) ↔ IsGlob cs := by
  constructor
  · rintro ⟨g, h⟩
    exact isRest_of_parseFrom h
  · exact fun h => exists_parseFrom_of_isRest h rfl

theorem exists_parse_error_iff {cs : List Char} : (∃ e, parse cs = .error e) ↔ ¬IsGlob cs := by
  rw [← exists_parse_iff]
  cases parse cs <;> simp

instance (cs : List Char) : Decidable (IsGlob cs) :=
  match h : parse cs with
  | .ok g => .isTrue (exists_parse_iff.1 ⟨g, h⟩)
  | .error e => .isFalse (exists_parse_error_iff.1 ⟨e, h⟩)

/-! ### Exchanging inert texts -/

/-- The characters that begin or end something. -/
def delimiters : List Char := ['*', '[', ']', '!', '/']

/-- `IsInert cs` says that there is something in `cs`, but that nothing begins or ends in it. -/
structure IsInert (cs : List Char) : Prop where
  ne_nil : cs ≠ []
  notMem : ∀ c ∈ delimiters, c ∉ cs

theorem IsInert.of_cons {c : Char} {cs : List Char} (h : IsInert (c :: cs)) (hne : cs ≠ []) :
    IsInert cs :=
  ⟨hne, fun d hd hmem => h.notMem d hd (List.mem_cons_of_mem _ hmem)⟩

theorem isClassBody_cons_iff {c : Char} (hc : c ≠ '!') {cs : List Char} :
    IsClassBody (c :: cs) ↔ ']' ∉ cs := by
  constructor
  · intro h
    cases h with
    | within _ hothers => exact hothers
    | except => exact absurd rfl hc
  · exact .within hc

theorem isClassBody_except_iff {cs : List Char} :
    IsClassBody ('!' :: cs) ↔ cs ≠ [] ∧ ']' ∉ cs.tail := by
  constructor
  · intro h
    cases h with
    | within hfirst => exact absurd rfl hfirst
    | except hothers => exact ⟨by simp, hothers⟩
  · rintro ⟨hne, hothers⟩
    obtain ⟨first, others, rfl⟩ := List.exists_cons_of_ne_nil hne
    exact .except hothers

/-- A character that neither begins nor ends anything stands for itself. -/
theorem isRest_cons_iff {c : Char} (hc : c ∉ delimiters) {here : Bool} {cs : List Char} :
    IsRest here (c :: cs) ↔ IsRest false cs := by
  simp only [delimiters, List.mem_cons, List.not_mem_nil, or_false, not_or] at hc
  obtain ⟨hstar, hclass, -, -, hslash⟩ := hc
  constructor
  · intro h
    cases h with
    | char _ _ hrest => simpa [hslash] using hrest
    | star | names | lastNames => exact absurd rfl hstar
    | range => exact absurd rfl hclass
  · exact fun h => .char hstar hclass (by simpa [hslash] using h)

section Exchange

variable {m m' rest : List Char} (hm : IsInert m) (hm' : IsInert m')
include hm

/-- What begins or ends something does not do so in an inert text. -/
theorem eq_cons_of_delimiter {c : Char} (hc : c ∈ delimiters) {cs front : List Char}
    (h : c :: cs = front ++ (m ++ rest)) :
    ∃ front', front = c :: front' ∧ cs = front' ++ (m ++ rest) := by
  cases front with
  | cons d front =>
    obtain ⟨rfl, rfl⟩ := List.cons.inj h
    exact ⟨front, rfl, rfl⟩
  | nil =>
    obtain ⟨d, m, rfl⟩ := List.exists_cons_of_ne_nil hm.ne_nil
    obtain ⟨rfl, -⟩ := List.cons.inj h
    exact absurd List.mem_cons_self (hm.notMem c hc)

/-- After an inert text no name starts. -/
theorem isRest_inert_append_iff {here : Bool} : IsRest here (m ++ rest) ↔ IsRest false rest := by
  induction m generalizing here with
  | nil => exact absurd rfl hm.ne_nil
  | cons c m ih =>
    have hc : c ∉ delimiters := fun hmem => hm.notMem c hmem List.mem_cons_self
    rw [List.cons_append, isRest_cons_iff hc]
    by_cases hne : m = []
    · rw [hne, List.nil_append]
    · exact ih (hm.of_cons hne)

/-- A class that is open where an inert text starts is closed after it. -/
theorem eq_append_of_append_bracket {more after : List Char}
    (h : m ++ rest = more ++ ']' :: after) :
    ∃ inner, more = m ++ inner ∧ rest = inner ++ ']' :: after := by
  rcases List.append_eq_append_iff.1 h with ⟨inner, hmore, hrest⟩ | ⟨inner, hinner, hafter⟩
  · exact ⟨inner, hmore, hrest⟩
  · cases inner with
    | nil => exact ⟨[], by simpa using hinner.symm, by simpa using hafter.symm⟩
    | cons c inner =>
      obtain ⟨rfl, -⟩ := List.cons.inj hafter
      exact absurd (hinner ▸ by simp) (hm.notMem ']' (by decide))

include hm'

theorem IsClassBody.exchange {front inner : List Char}
    (h : IsClassBody (front ++ (m ++ inner))) : IsClassBody (front ++ (m' ++ inner)) := by
  have hm'closing : ']' ∉ m' := hm'.notMem ']' (by decide)
  obtain ⟨c, m, rfl⟩ := List.exists_cons_of_ne_nil hm.ne_nil
  obtain ⟨d, m', rfl⟩ := List.exists_cons_of_ne_nil hm'.ne_nil
  have hc : c ≠ '!' := fun heq => hm.notMem '!' (by decide) (heq ▸ List.mem_cons_self)
  have hd : d ≠ '!' := fun heq => hm'.notMem '!' (by decide) (heq ▸ List.mem_cons_self)
  rw [List.mem_cons, not_or] at hm'closing
  -- the first character, after an exclamation mark or not, is before the texts or starts them
  cases front with
  | nil =>
    rw [List.nil_append, List.cons_append, isClassBody_cons_iff hc, List.mem_append, not_or] at h
    rw [List.nil_append, List.cons_append, isClassBody_cons_iff hd, List.mem_append, not_or]
    exact ⟨hm'closing.2, h.2⟩
  | cons a front =>
    by_cases ha : a = '!'
    · subst ha
      rw [List.cons_append, isClassBody_except_iff] at h ⊢
      cases front <;> simp_all
    · rw [List.cons_append, isClassBody_cons_iff ha] at h ⊢
      simp_all

/-- **Inert texts can be exchanged.**  Stars and classes before them do not see which one it is, and
what is after them does not see it either. -/
theorem IsRest.exchange {here : Bool} {cs : List Char} (h : IsRest here cs) :
    ∀ {front : List Char}, cs = front ++ (m ++ rest) → IsRest here (front ++ (m' ++ rest)) := by
  induction h with
  | nil =>
    intro front hcs
    have hempty := List.append_eq_nil_iff.1 (List.append_eq_nil_iff.1 hcs.symm).2
    exact absurd hempty.1 hm.ne_nil
  | @char here c after hstar hclass hafter ih =>
    intro front hcs
    cases front with
    | nil =>
      have hall : IsRest here (c :: after) := .char hstar hclass hafter
      rw [hcs, List.nil_append, isRest_inert_append_iff hm] at hall
      exact (isRest_inert_append_iff hm').2 hall
    | cons d front =>
      obtain ⟨rfl, rfl⟩ := List.cons.inj hcs
      exact .char hstar hclass (ih rfl)
  | star hnext _ ih =>
    intro front hcs
    obtain ⟨tail, rfl, rfl⟩ := eq_cons_of_delimiter hm (by decide) hcs
    refine .star ?_ (ih rfl)
    cases tail with
    | cons c tail => exact hnext
    | nil =>
      -- no star is the first character of the other text either
      obtain ⟨d, m', rfl⟩ := List.exists_cons_of_ne_nil hm'.ne_nil
      intro hhead
      obtain rfl : d = '*' := by simpa using hhead
      exact hm'.notMem '*' (by decide) List.mem_cons_self
  | names _ ih =>
    intro front hcs
    obtain ⟨tail₁, rfl, hcs₁⟩ := eq_cons_of_delimiter hm (by decide) hcs
    obtain ⟨tail₂, rfl, hcs₂⟩ := eq_cons_of_delimiter hm (by decide) hcs₁
    obtain ⟨tail₃, rfl, hcs₃⟩ := eq_cons_of_delimiter hm (by decide) hcs₂
    exact .names (ih hcs₃)
  | lastNames =>
    intro front hcs
    obtain ⟨tail₁, rfl, hcs₁⟩ := eq_cons_of_delimiter hm (by decide) hcs
    obtain ⟨tail₂, rfl, hcs₂⟩ := eq_cons_of_delimiter hm (by decide) hcs₁
    have hempty := List.append_eq_nil_iff.1 (List.append_eq_nil_iff.1 hcs₂.symm).2
    exact absurd hempty.1 hm.ne_nil
  | @range here body after hbody hafter ih =>
    intro front hcs
    obtain ⟨tail, rfl, htail⟩ := eq_cons_of_delimiter hm (by decide) hcs
    rcases List.append_eq_append_iff.1 htail with ⟨more, rfl, hmore⟩ | ⟨more, rfl, hmore⟩
    · -- the class is closed before the text
      obtain ⟨more', rfl, hafter'⟩ := eq_cons_of_delimiter hm (by decide) hmore
      have hrest := @IsRest.range here _ _ hbody (ih hafter')
      simpa using hrest
    · -- the text is in the class
      obtain ⟨inner, rfl, rfl⟩ := eq_append_of_append_bracket hm hmore
      have hrest := @IsRest.range here _ _ (hbody.exchange hm hm') hafter
      simpa using hrest

end Exchange

end Codemod.Glob
