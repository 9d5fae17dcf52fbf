import Codemod.Proofs.Mentions
import Codemod.Proofs.Occurrences

/-!
# The algebra of replacing identifiers

Replacing an identifier gives every word of a text a sequence of words of its own: the words of the
new text to the word that is replaced, and itself to any other.  What is written in the place of a
word never grows together with its neighbours, since these are no words.  So replacements compose
like substitutions: one that does not bring back its own word does nothing the second time, and two
that do not bring in each other's word can change places.

## Main results

* `mem_tokens_iff_exists_wholeAt` — the words of a text are its whole occurrences.
* `tokens_replaceWords_eq_flatMap` — the words of a text after a replacement.
* `replaceWords_replaceWords` — two replacements as one map over the words.
* `replaceWords_maps_tokens` — **replacing an identifier is a map over the words, and its laws.**
-/

namespace Codemod

/-! ### Words and whole occurrences -/

section WholeWords

variable {w before after text : List Char}

/-- A word is whole between two texts that share no word with it. -/
theorem isWhole_iff_of_isWord (hw : IsWord w) :
    IsWhole before w after ↔
      before.getLast?.any isIdentifierChar = false ∧ startsWithWord after = false := by
  rw [← isBounded_iff_isWhole, isBounded_iff_of_isWord hw]

theorem Tokenized.of_append {ws : List (List Char)} :
    ∀ {done : List (List Char)}, Tokenized (done ++ ws) → Tokenized ws := by
  intro done
  induction done with
  | nil => exact id
  | cons v done ih =>
    intro h
    rw [List.cons_append] at h
    cases h with
    | word _ _ hrest => exact ih hrest
    | between _ hrest => exact ih hrest

/-- A word among the tokens of a text shares nothing with what stands around it. -/
theorem Tokenized.isWhole {done todo : List (List Char)} (h : Tokenized (done ++ w :: todo))
    (hw : IsWord w) : IsWhole done.flatten w todo.flatten := by
  rw [isWhole_iff_of_isWord hw]
  constructor
  · rcases List.eq_nil_or_concat done with rfl | ⟨front, v, rfl⟩
    · rfl
    · rw [List.concat_eq_append, List.append_assoc, List.singleton_append] at h
      cases h.of_append with
      | word _ hnext _ =>
        -- two words do not stand side by side
        rw [List.flatten_cons, hw.startsWithWord_append] at hnext
        cases hnext
      | between hc _ => simpa using hc
  · cases h.of_append with
    | word _ hnext _ => exact hnext
    | between hc _ => exact absurd rfl (hw.ne_singleton hc)

/-- A whole occurrence of a word is one of the tokens. -/
theorem tokens_of_isWhole (hw : IsWord w) (h : IsWhole before w after) :
    tokens (before ++ (w ++ after)) = tokens before ++ w :: tokens after := by
  obtain ⟨hbefore, hafter⟩ := (isWhole_iff_of_isWord hw).1 h
  have hfront : AreApart before (w ++ after) := Or.inl hbefore
  have hback : AreApart w after := Or.inr hafter
  rw [tokens_append hfront, tokens_append hback, tokens_word hw]
  rfl

/-- **The words of a text are its whole occurrences.** -/
theorem mem_tokens_iff_exists_wholeAt (hw : IsWord w) :
    w ∈ tokens text ↔ ∃ before rest, before ++ rest = text ∧ WholeAt w before rest := by
  constructor
  · intro hmem
    obtain ⟨done, todo, htokens⟩ := List.append_of_mem hmem
    have hcut : Tokenized (done ++ w :: todo) := htokens ▸ tokenized_tokens text
    refine ⟨done.flatten, w ++ todo.flatten, ?_, todo.flatten, rfl, ?_⟩
    · rw [← flatten_tokens text, htokens, List.flatten_append, List.flatten_cons]
    · exact hcut.isWhole hw
  · rintro ⟨before, rest, rfl, after, rfl, hwhole⟩
    rw [tokens_of_isWhole hw hwhole]
    exact List.mem_append_right _ List.mem_cons_self

end WholeWords

/-! ### The words that are left -/

/-- What starts between words still does after a replacement. -/
theorem Tokenized.startsWithWord_flatMap_substitute {ws : List (List Char)} (h : Tokenized ws)
    {old : List Char} (new : List Char) (hold : IsWord old)
    (hstart : startsWithWord ws.flatten = false) :
    startsWithWord (ws.flatMap (substitute old new)) = false := by
  cases h with
  | nil => rfl
  | @word w ws hw _ _ =>
    rw [List.flatten_cons, hw.startsWithWord_append] at hstart
    cases hstart
  | @between c ws hc _ =>
    rw [List.flatMap_cons, substitute, if_neg (hold.ne_singleton hc).symm]
    exact hc

/-- The generalised form of `tokens_replaceWords_eq_flatMap`, for induction on the pieces. -/
theorem Tokenized.tokens_flatMap_substitute {ws : List (List Char)} (h : Tokenized ws)
    {old : List Char} (new : List Char) (hold : IsWord old) :
    tokens (ws.flatMap (substitute old new)) =
      ws.flatMap fun w => if w = old then tokens new else [w] := by
  induction h with
  | nil => rfl
  | @word w ws hw hnext hws ih =>
    -- the new text touches no word after it, and none before it either
    have hrest := hws.startsWithWord_flatMap_substitute new hold hnext
    rw [List.flatMap_cons, List.flatMap_cons, tokens_append (Or.inr hrest), ih, substitute]
    by_cases heq : w = old
    · rw [if_pos heq, if_pos heq]
    · rw [if_neg heq, if_neg heq, tokens_word hw]
  | @between c ws hc _ ih =>
    have hne : [c] ≠ old := (hold.ne_singleton hc).symm
    have hapart : AreApart [c] (ws.flatMap (substitute old new)) := Or.inl hc
    rw [List.flatMap_cons, List.flatMap_cons, substitute, if_neg hne, if_neg hne,
      tokens_append hapart, ih]
    rfl

/-- The words of a text after a replacement: a word that is replaced gives the words of the new
text. -/
theorem tokens_replaceWords_eq_flatMap {old : List Char} (new : List Char) (hold : IsWord old)
    (text : List Char) :
    tokens (replaceWords old new text) =
      (tokens text).flatMap fun w => if w = old then tokens new else [w] := by
  rw [replaceWords_eq_flatMap_tokens new hold]
  exact (tokenized_tokens text).tokens_flatMap_substitute new hold

/-- A word after a replacement was there before, or it is one of the new text. -/
theorem mem_tokens_replaceWords {old new text w : List Char} (hold : IsWord old)
    (hw : w ∈ tokens (replaceWords old new text)) : w ≠ old ∧ w ∈ tokens text ∨ w ∈ tokens new := by
  rw [tokens_replaceWords_eq_flatMap new hold, List.mem_flatMap] at hw
  obtain ⟨v, hv, hmem⟩ := hw
  by_cases heq : v = old
  · rw [if_pos heq] at hmem
    exact Or.inr hmem
  · rw [if_neg heq, List.mem_singleton] at hmem
    subst hmem
    exact Or.inl ⟨heq, hv⟩

/-! ### Replacements after each other -/

section Laws

variable {old new old' new' : List Char}

/-- A word that no new text brings back is gone. -/
theorem old_notMem_tokens_replaceWords (hold : IsWord old) (hnew : old ∉ tokens new)
    (text : List Char) : old ∉ tokens (replaceWords old new text) := by
  intro hmem
  rcases mem_tokens_replaceWords hold hmem with h | h
  · exact h.1 rfl
  · exact hnew h

/-- Two replacements as one map over the words, if the second finds nothing in the new text of the
first. -/
theorem replaceWords_replaceWords (hold : IsWord old) (hold' : IsWord old')
    (hnew : old' ∉ tokens new) (text : List Char) :
    replaceWords old' new' (replaceWords old new text) =
      (tokens text).flatMap fun w => if w = old then new else substitute old' new' w := by
  have hkept : (tokens new).flatMap (substitute old' new') = new := by
    rw [← replaceWords_eq_flatMap_tokens new' hold', replaceWords_of_notMem new' hold' hnew]
  rw [replaceWords_eq_flatMap_tokens new' hold', tokens_replaceWords_eq_flatMap new hold,
    List.flatMap_assoc]
  congr 1
  funext w
  by_cases hw : w = old
  · rw [if_pos hw, if_pos hw, hkept]
  · rw [if_neg hw, if_neg hw, List.flatMap_singleton]

/-- Replacements that do not bring in each other's word can change places. -/
theorem replaceWords_comm (hold : IsWord old) (hold' : IsWord old') (hne : old ≠ old')
    (hnew : old' ∉ tokens new) (hnew' : old ∉ tokens new') (text : List Char) :
    replaceWords old' new' (replaceWords old new text) =
      replaceWords old new (replaceWords old' new' text) := by
  rw [replaceWords_replaceWords hold hold' hnew, replaceWords_replaceWords hold' hold hnew']
  congr 1
  funext w
  -- no word is replaced by both
  rw [substitute, substitute]
  by_cases hw : w = old
  · rw [if_pos hw, if_pos hw, if_neg (hw ▸ hne)]
  · rw [if_neg hw, if_neg hw]

end Laws

/-- **Replacing an identifier is a map over the words.**  A text falls into its longest runs of
identifier characters and the characters between them, and replacing an identifier exchanges the
runs that are equal to it.  If the new text has no such run, no whole occurrence is left and a second
time changes nothing; and two replacements of different identifiers, neither of which has the
other's in its new text, can change places. -/
theorem replaceWords_maps_tokens (old new text : List Char) (hold : isIdentifier old = true) :
    (Tokenized (tokens text) ∧ (tokens text).flatten = text ∧
        replaceWords old new text = ((tokens text).map (substitute old new)).flatten) ∧
      (old ∉ tokens new →
        (∀ before rest, before ++ rest = replaceWords old new text → ¬ WholeAt old before rest) ∧
          replaceWords old new (replaceWords old new text) = replaceWords old new text) ∧
      ∀ old' new', isIdentifier old' = true → old ≠ old' → old' ∉ tokens new → old ∉ tokens new' →
        replaceWords old' new' (replaceWords old new text) =
          replaceWords old new (replaceWords old' new' text) := by
  have hword := isWord_of_isIdentifier hold
  refine ⟨⟨tokenized_tokens text, flatten_tokens text, ?_⟩, fun hnew => ⟨?_, ?_⟩, ?_⟩
  · rw [replaceWords_eq_flatMap_tokens new hword, List.flatMap_def]
  · intro before rest hrest hwhole
    exact old_notMem_tokens_replaceWords hword hnew text
      ((mem_tokens_iff_exists_wholeAt hword).2 ⟨before, rest, hrest, hwhole⟩)
  · exact replaceWords_of_notMem new hword (old_notMem_tokens_replaceWords hword hnew text)
  · intro old' new' hold' hne hnew hnew'
    exact replaceWords_comm hword (isWord_of_isIdentifier hold') hne hnew hnew' text

/-- The new text of `a` has punctuation at both ends, and that of `b` is empty.  Neither `1a` nor
`a$` is the word `a`. -/
theorem replaceWords_maps_tokens_emptied :
    isIdentifier "a".toList = true ∧
      replaceWords "a".toList "(c.d)".toList "a-b-a 1a a$".toList = "(c.d)-b-(c.d) 1a a$".toList ∧
      ("a".toList ∉ tokens "(c.d)".toList ∧
        (∀ before rest, before ++ rest = "(c.d)-b-(c.d) 1a a$".toList →
          ¬ WholeAt "a".toList before rest) ∧
        replaceWords "a".toList "(c.d)".toList "(c.d)-b-(c.d) 1a a$".toList =
          "(c.d)-b-(c.d) 1a a$".toList) ∧
      (isIdentifier "b".toList = true ∧ "a".toList ≠ "b".toList ∧
        "b".toList ∉ tokens "(c.d)".toList ∧ "a".toList ∉ tokens "".toList ∧
        replaceWords "b".toList "".toList "(c.d)-b-(c.d) 1a a$".toList =
          replaceWords "a".toList "(c.d)".toList
            (replaceWords "b".toList "".toList "a-b-a 1a a$".toList)) := by
  have ha : isIdentifier "a".toList = true := by decide
  have hresult : replaceWords "a".toList "(c.d)".toList "a-b-a 1a a$".toList =
      "(c.d)-b-(c.d) 1a a$".toList := by decide
  have hown : "a".toList ∉ tokens "(c.d)".toList := by decide
  have hb : isIdentifier "b".toList = true := by decide
  have hne : "a".toList ≠ "b".toList := by decide
  have hother : "b".toList ∉ tokens "(c.d)".toList := by decide
  have hback : "a".toList ∉ tokens "".toList := by decide
  obtain ⟨-, hgone, hcomm⟩ :=
    replaceWords_maps_tokens "a".toList "(c.d)".toList "a-b-a 1a a$".toList ha
  obtain ⟨hwhole, hagain⟩ := hgone hown
  have hswap := hcomm "b".toList "".toList hb hne hother hback
  rw [hresult] at hwhole hagain hswap
  exact ⟨ha, hresult, ⟨hown, hwhole, hagain⟩, hb, hne, hother, hback, hswap⟩

end Codemod
