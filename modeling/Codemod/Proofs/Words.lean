import Codemod.Replacement
import Mathlib.Data.List.SplitBy

/-!
# Texts as sequences of words

A text falls into its words, the longest runs of identifier characters, and the single characters
between them.  Replacing an identifier as a whole word looks at one place of the text after another
and compares the characters around it; what it computes is a map over this sequence.

## Main definitions

* `tokens` — the words of a text and the characters between them.
* `Tokenized` — the same as a property of a sequence of pieces, for induction.
* `substitute` — one text for another.

## Main results

* `tokenized_tokens`, `Tokenized.tokens_flatten` — a text falls into tokens in one way only.
* `replaceWords_eq_flatMap_tokens` — **replacing an identifier is a map over the tokens.**
* `tokens_replaceWords` — a new identifier stays a word of its own.
-/

namespace Codemod

/-- `areJoined a b` tells whether the neighbouring characters `a` and `b` belong to one word. -/
def areJoined (a b : Char) : Bool := isIdentifierChar a && isIdentifierChar b

/-- The words of a text and the characters between them. -/
def tokens (text : List Char) : List (List Char) := text.splitBy areJoined

@[simp] theorem flatten_tokens (text : List Char) : (tokens text).flatten = text :=
  List.flatten_splitBy _ _

/-- `IsWord w` says that `w` is one word. -/
def IsWord (w : List Char) : Prop := w ≠ [] ∧ ∀ c ∈ w, isIdentifierChar c = true

/-- `Tokenized ts` says that the pieces `ts` of a text are words or single characters between
words, with no two words side by side. -/
inductive Tokenized : List (List Char) → Prop
  | nil : Tokenized []
  | word {w : List Char} {ws : List (List Char)} :
      IsWord w → startsWithWord ws.flatten = false → Tokenized ws → Tokenized (w :: ws)
  | between {c : Char} {ws : List (List Char)} :
      isIdentifierChar c = false → Tokenized ws → Tokenized ([c] :: ws)

/-! ### Words -/

theorem isWord_of_isIdentifier {name : List Char} (h : isIdentifier name = true) : IsWord name := by
  cases name with
  | nil => simp [isIdentifier] at h
  | cons c cs =>
    simp only [isIdentifier, Bool.and_eq_true, List.all_eq_true] at h
    refine ⟨List.cons_ne_nil c cs, fun d hd => ?_⟩
    rcases List.mem_cons.1 hd with rfl | hd
    · -- a character that can start an identifier can also continue one
      have hstart := h.1
      simp only [isIdentifierChar, Char.isAlphanum, Bool.or_eq_true] at hstart ⊢
      rcases hstart with (halpha | hunderscore) | hdollar
      · exact .inl (.inl (.inl halpha))
      · exact .inl (.inr hunderscore)
      · exact .inr hdollar
    · exact h.2 d hd

namespace IsWord

variable {w : List Char}

theorem startsWithWord_append (h : IsWord w) (rest : List Char) :
    startsWithWord (w ++ rest) = true := by
  obtain ⟨hne, hall⟩ := h
  cases w with
  | nil => exact absurd rfl hne
  | cons c cs => exact hall c List.mem_cons_self

theorem any_getLast? (h : IsWord w) : w.getLast?.any isIdentifierChar = true := by
  rw [List.getLast?_eq_some_getLast h.1]
  exact h.2 _ (List.getLast_mem h.1)

theorem isChain (h : IsWord w) : w.IsChain fun a b => areJoined a b = true := by
  refine List.Pairwise.isChain (List.pairwise_of_forall_mem_list fun a ha b hb => ?_)
  simp [areJoined, h.2 a ha, h.2 b hb]

theorem ne_singleton (h : IsWord w) {c : Char} (hc : isIdentifierChar c = false) : w ≠ [c] := by
  rintro rfl
  simpa [hc] using h.2 c List.mem_cons_self

end IsWord

/-- A run of joined characters is a word or a single character. -/
theorem isWord_of_isChain : ∀ {c : Char} {cs : List Char},
    (c :: cs).IsChain (fun a b => areJoined a b = true) → isIdentifierChar c = true →
      IsWord (c :: cs) := by
  intro c cs
  induction cs generalizing c with
  | nil => intro _ hc; exact ⟨by simp, by simpa using hc⟩
  | cons d cs ih =>
    intro hchain hc
    rw [List.isChain_cons_cons] at hchain
    have hd : isIdentifierChar d = true := (Bool.and_eq_true _ _ ▸ hchain.1 : _ ∧ _).2
    refine ⟨List.cons_ne_nil c _, List.forall_mem_cons.2 ⟨hc, (ih hchain.2 hd).2⟩⟩

/-! ### The tokens of a text -/

/-- The tokens of a text are tokenized: what `List.splitBy` says of its pieces, piece by piece. -/
theorem tokenized_of_splitBy : ∀ {ws : List (List Char)}, [] ∉ ws →
    (∀ w ∈ ws, w.IsChain fun a b => areJoined a b = true) →
    (ws.IsChain fun a b => ∃ ha hb, areJoined (a.getLast ha) (b.head hb) = false) →
      Tokenized ws := by
  intro ws
  induction ws with
  | nil => intro _ _ _; exact .nil
  | cons w ws ih =>
    intro hne hjoined hbreak
    simp only [List.mem_cons, not_or] at hne
    have hws : Tokenized ws :=
      ih hne.2 (fun v hv => hjoined v (List.mem_cons_of_mem w hv)) hbreak.tail
    have hw := hjoined w List.mem_cons_self
    cases w with
    | nil => exact absurd rfl hne.1
    | cons c cs =>
      by_cases hc : isIdentifierChar c = true
      · have hword := isWord_of_isChain hw hc
        refine .word hword ?_ hws
        cases ws with
        | nil => rfl
        | cons v ws =>
          -- the last character of the word is not joined to the first of the next piece
          obtain ⟨hlast, hhead, hapart⟩ := (List.isChain_cons_cons.1 hbreak).1
          obtain ⟨d, ds, rfl⟩ := List.exists_cons_of_ne_nil hhead
          simpa [areJoined, hword.2 _ (List.getLast_mem hlast), startsWithWord] using hapart
      · cases cs with
        | nil => exact .between (by simpa using hc) hws
        | cons d cs =>
          have hcd := (List.isChain_cons_cons.1 hw).1
          simp [areJoined, hc] at hcd

theorem tokenized_tokens (text : List Char) : Tokenized (tokens text) :=
  tokenized_of_splitBy (List.nil_notMem_splitBy _ _) (fun _ => List.isChain_of_mem_splitBy)
    (List.isChain_getLast_head_splitBy _ _)

namespace Tokenized

variable {ws : List (List Char)}

/-- A text falls into tokens in one way only. -/
theorem tokens_flatten (h : Tokenized ws) : tokens ws.flatten = ws := by
  induction h with
  | nil => rfl
  | @word w ws hw hnext _ ih =>
    have hbreak : ∀ x ∈ w.getLast?, ∀ y ∈ ws.flatten.head?, areJoined x y = false := by
      intro x _ y hy
      obtain ⟨rest, hrest⟩ := List.head?_eq_some_iff.1 hy
      rw [hrest] at hnext
      simp [areJoined, show isIdentifierChar y = false from hnext]
    rw [tokens, List.flatten_cons, List.splitBy_append hbreak,
      List.splitBy_of_isChain hw.1 hw.isChain, ← tokens, ih, List.singleton_append]
  | @between c ws hc _ ih =>
    have hbreak : ∀ x ∈ [c].getLast?, ∀ y ∈ ws.flatten.head?, areJoined x y = false := by
      intro x hx y _
      obtain rfl : c = x := by simpa using hx
      simp [areJoined, hc]
    rw [tokens, List.flatten_cons, List.splitBy_append hbreak,
      List.splitBy_of_isChain (by simp) (List.isChain_singleton c), ← tokens, ih,
      List.singleton_append]

theorem ne_nil_of_mem (h : Tokenized ws) : ∀ w ∈ ws, w ≠ [] := by
  induction h with
  | nil => simp
  | word hw _ _ ih => exact List.forall_mem_cons.2 ⟨hw.1, ih⟩
  | between _ _ ih => exact List.forall_mem_cons.2 ⟨by simp, ih⟩

/-- Whether a text starts with a word does not change when words give words. -/
theorem startsWithWord_flatten_map (h : Tokenized ws) {f : List Char → List Char}
    (hf : ∀ w, f w = w ∨ IsWord w ∧ IsWord (f w)) :
    startsWithWord (ws.map f).flatten = startsWithWord ws.flatten := by
  cases h with
  | nil => rfl
  | @word w ws hw _ _ =>
    have hfw : IsWord (f w) := (hf w).elim (fun h => h.symm ▸ hw) And.right
    rw [List.map_cons, List.flatten_cons, List.flatten_cons, hw.startsWithWord_append,
      hfw.startsWithWord_append]
  | @between c ws hc _ =>
    have hfc : f [c] = [c] := (hf [c]).resolve_right fun h => h.1.ne_singleton hc rfl
    rw [List.map_cons, List.flatten_cons, List.flatten_cons, hfc]
    rfl

/-- Tokens stay tokens when words give words. -/
theorem map (h : Tokenized ws) {f : List Char → List Char}
    (hf : ∀ w, f w = w ∨ IsWord w ∧ IsWord (f w)) : Tokenized (ws.map f) := by
  induction h with
  | nil => exact .nil
  | @word w ws hw hnext hws ih =>
    have hfw : IsWord (f w) := (hf w).elim (fun h => h.symm ▸ hw) And.right
    exact .word hfw (by rw [hws.startsWithWord_flatten_map hf, hnext]) ih
  | @between c ws hc _ ih =>
    have hfc : f [c] = [c] := (hf [c]).resolve_right fun h => h.1.ne_singleton hc rfl
    rw [List.map_cons, hfc]
    exact .between hc ih

end Tokenized

/-! ### Replacing a word -/

/-- One text for another, and any third for itself. -/
def substitute (old new w : List Char) : List Char := if w = old then new else w

/-- A word is whole where no character of another touches it. -/
theorem isBounded_iff_of_isWord {old rest : List Char} {prev : Option Char} (hold : IsWord old) :
    isBounded old prev rest = true ↔
      prev.any isIdentifierChar = false ∧ startsWithWord rest = false := by
  have hfirst : startsWithWord old = true := by
    simpa using hold.startsWithWord_append []
  simp [isBounded, hfirst, hold.any_getLast?]

/-- Characters of a word that has been replaced give nothing. -/
theorem replaceWordsFrom_skip (old new rest : List Char) :
    ∀ (x : List Char) (prev : Option Char),
      replaceWordsFrom old new prev x.length (x ++ rest) =
        replaceWordsFrom old new (x.getLast?.or prev) 0 rest := by
  intro x
  induction x with
  | nil => intro prev; rfl
  | cons c x ih =>
    intro prev
    have hlast : (c :: x).getLast?.or prev = x.getLast?.or (some c) := by
      rw [List.getLast?_cons]
      cases x.getLast? <;> rfl
    rw [hlast, ← ih (some c)]
    rfl

section Replace

variable {old : List Char} (new : List Char) (hold : IsWord old)
include hold

/-- Inside a word nothing is replaced. -/
theorem replaceWordsFrom_inside (rest : List Char) :
    ∀ (x : List Char) (prev : Option Char), (∀ c ∈ x, isIdentifierChar c = true) →
      prev.any isIdentifierChar = true →
      ∃ prev', replaceWordsFrom old new prev 0 (x ++ rest) =
        x ++ replaceWordsFrom old new prev' 0 rest := by
  intro x
  induction x with
  | nil => intro prev _ _; exact ⟨prev, rfl⟩
  | cons c x ih =>
    intro prev hx hprev
    have hbound (t : List Char) : isBounded old prev t = false := by
      rw [← Bool.not_eq_true, isBounded_iff_of_isWord hold]
      simp [hprev]
    obtain ⟨prev', hrest⟩ := ih (some c) (fun d hd => hx d (List.mem_cons_of_mem c hd))
      (hx c List.mem_cons_self)
    refine ⟨prev', ?_⟩
    rw [List.cons_append, replaceWordsFrom, hbound, Bool.and_false, if_neg (by simp), hrest,
      List.cons_append]

/-- A text that starts with a whole word starts with no other. -/
theorem eq_of_prefix_of_startsWithWord {w rest : List Char} (hw : IsWord w)
    (hnext : startsWithWord rest = false) (hpre : old <+: w ++ rest)
    (hafter : startsWithWord ((w ++ rest).drop old.length) = false) : w = old := by
  rcases List.prefix_or_prefix_of_prefix hpre (List.prefix_append w rest) with h | h
  · obtain ⟨u, rfl⟩ := h
    cases u with
    | nil => simp
    | cons d u =>
      -- the word goes on after `old`
      rw [List.append_assoc, List.drop_left, List.cons_append] at hafter
      have hd : isIdentifierChar d = true := hw.2 d (by simp)
      rw [startsWithWord, hd] at hafter
      cases hafter
  · obtain ⟨u, rfl⟩ := h
    cases u with
    | nil => simp
    | cons d u =>
      -- `old` goes on after the word
      obtain ⟨t, ht⟩ := hpre
      rw [List.append_assoc, List.append_cancel_left_eq] at ht
      rw [← ht, List.cons_append, startsWithWord, hold.2 d (by simp)] at hnext
      cases hnext

/-- A whole word is found at its first character, and nothing else is. -/
theorem isPrefixOf_and_isBounded {w rest : List Char} {prev : Option Char} (hw : IsWord w)
    (hprev : prev.any isIdentifierChar = false) (hnext : startsWithWord rest = false) :
    (old.isPrefixOf (w ++ rest) && isBounded old prev ((w ++ rest).drop old.length)) =
      decide (w = old) := by
  rw [Bool.eq_iff_iff, Bool.and_eq_true, List.isPrefixOf_iff_prefix, decide_eq_true_iff,
    isBounded_iff_of_isWord hold]
  constructor
  · rintro ⟨hpre, -, hafter⟩
    exact eq_of_prefix_of_startsWithWord hold hw hnext hpre hafter
  · rintro rfl
    rw [List.drop_left]
    exact ⟨List.prefix_append w rest, hprev, hnext⟩

/-- A whole word is replaced if it is `old` and copied if it is not. -/
theorem replaceWordsFrom_word {w rest : List Char} {prev : Option Char} (hw : IsWord w)
    (hprev : prev.any isIdentifierChar = false) (hnext : startsWithWord rest = false) :
    ∃ prev', replaceWordsFrom old new prev 0 (w ++ rest) =
      substitute old new w ++ replaceWordsFrom old new prev' 0 rest := by
  have hfound := isPrefixOf_and_isBounded hold hw hprev hnext
  obtain ⟨c, x, rfl⟩ := List.exists_cons_of_ne_nil hw.1
  rw [List.cons_append] at hfound ⊢
  rw [replaceWordsFrom, hfound, substitute]
  by_cases heq : c :: x = old
  · have hlen : old.length - 1 = x.length := by rw [← heq, List.length_cons, Nat.add_sub_cancel]
    exact ⟨_, by rw [if_pos (decide_eq_true heq), if_pos heq, hlen, replaceWordsFrom_skip]⟩
  · obtain ⟨prev', hcopy⟩ := replaceWordsFrom_inside new hold rest x (some c)
      (fun d hd => hw.2 d (List.mem_cons_of_mem c hd)) (hw.2 c List.mem_cons_self)
    exact ⟨prev', by rw [if_neg (by simpa using heq), if_neg heq, hcopy, List.cons_append]⟩

/-- A character between words is copied. -/
theorem replaceWordsFrom_between {c : Char} (hc : isIdentifierChar c = false) (prev : Option Char)
    (rest : List Char) :
    replaceWordsFrom old new prev 0 (c :: rest) = c :: replaceWordsFrom old new (some c) 0 rest := by
  have hpre : old.isPrefixOf (c :: rest) = false := by
    rw [← Bool.not_eq_true, List.isPrefixOf_iff_prefix]
    rintro ⟨t, ht⟩
    have hstart := hold.startsWithWord_append t
    rw [ht, startsWithWord, hc] at hstart
    cases hstart
  rw [replaceWordsFrom, hpre, Bool.false_and, if_neg (by simp)]

/-- The generalised form of `replaceWords_eq_flatMap_tokens`: from any place on where no word has
been begun. -/
theorem replaceWordsFrom_flatten {ws : List (List Char)} (h : Tokenized ws) :
    ∀ (prev : Option Char),
      (startsWithWord ws.flatten = true → prev.any isIdentifierChar = false) →
      replaceWordsFrom old new prev 0 ws.flatten = ws.flatMap (substitute old new) := by
  induction h with
  | nil => intro prev _; rfl
  | @word w ws hw hnext _ ih =>
    intro prev hprev
    rw [List.flatten_cons] at hprev ⊢
    obtain ⟨prev', hword⟩ := replaceWordsFrom_word new hold hw
      (hprev (hw.startsWithWord_append _)) hnext
    -- after a word no word begins, whatever the character before
    have hrest := ih prev' fun hstart => absurd hstart (by simp [hnext])
    rw [hword, hrest, List.flatMap_cons]
  | @between c ws hc _ ih =>
    intro prev _
    have hrest := ih (some c) fun _ => hc
    rw [List.flatten_cons, List.singleton_append, replaceWordsFrom_between new hold hc, hrest,
      List.flatMap_cons, substitute, if_neg (hold.ne_singleton hc).symm, List.singleton_append]

/-- **Replacing an identifier is a map over the tokens.** -/
theorem replaceWords_eq_flatMap_tokens (text : List Char) :
    replaceWords old new text = (tokens text).flatMap (substitute old new) := by
  have h := replaceWordsFrom_flatten new hold (tokenized_tokens text) none fun _ => rfl
  rwa [flatten_tokens] at h

/-- A word in the place of a word stays a word of its own. -/
theorem tokens_replaceWords {new : List Char} (hnew : IsWord new) (text : List Char) :
    tokens (replaceWords old new text) = (tokens text).map (substitute old new) := by
  have hsubst (w : List Char) :
      substitute old new w = w ∨ IsWord w ∧ IsWord (substitute old new w) := by
    by_cases hw : w = old
    · rw [substitute, if_pos hw]
      exact Or.inr ⟨hw ▸ hold, hnew⟩
    · exact Or.inl (if_neg hw)
  rw [replaceWords_eq_flatMap_tokens new hold, List.flatMap_def]
  exact ((tokenized_tokens text).map hsubst).tokens_flatten

end Replace

end Codemod
