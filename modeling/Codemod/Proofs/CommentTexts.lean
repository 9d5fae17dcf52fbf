import Codemod.Proofs.WordMaps
import Mathlib.Data.List.Infix

/-!
# Comments that stay comments

New text is written into a comment as it is.  It can hold a line break or the two characters that
close a block; and an asterisk and a slash that a word has kept apart can come together.  Between two
words there is always a character that stays.  So a comment ends early exactly if it does so at one
of the names in it, which is seen from what the name becomes and from the characters next to it.
What can be written for a name in every comment are the harmless texts: nothing ends in them, even
between an asterisk and a slash.

## Main definitions

* `EndsIn` — a text in which a comment of a kind ends.
* `IsComment` — one whole comment of a kind.
* `IsHarmless` — a text in which no comment of a kind ends, between any two characters.
* `PlannedFor` — an edit that is planned for a comment.

## Main results

* `isComment_commentOf_iff` — a comment is a text in the body of which it does not end.
* `endsIn_flatMap_iff` — a comment ends early exactly if it does so at a word that is exchanged.
* `renamed_comments_stay_comments_iff` — **a renamed comment stays one exactly if it does not end at
  a name.**
-/

namespace Codemod

open Syntax Text

/-! ### The end of a comment -/

/-- `EndsIn kind text` says that a comment of `kind` ends in `text`. -/
def EndsIn : CommentKind → List Char → Prop
  | .line, text => ∃ c ∈ text, TypeScript.isLineBreak c = true
  | .block, text => ['*', '/'] <:+: text

instance (kind : CommentKind) (text : List Char) : Decidable (EndsIn kind text) :=
  match kind with
  | .line => decidable_of_iff (text.any TypeScript.isLineBreak = true) List.any_eq_true
  | .block => decidable_of_iff (∃ rest ∈ text.tails, ['*', '/'] <+: rest) <| by
      simp only [EndsIn, List.infix_iff_prefix_suffix, List.mem_tails, and_comm]

/-- `IsComment kind text` says that `text` is one whole comment of `kind`. -/
inductive IsComment : CommentKind → List Char → Prop
  /-- From two slashes on, without a line break. -/
  | line {body : List Char} : (∀ c ∈ body, TypeScript.isLineBreak c = false) →
      IsComment .line ('/' :: '/' :: body)
  /-- The first asterisk and slash after the opening are the last characters. -/
  | block {body : List Char} :
      (∀ before after, before ++ '*' :: '/' :: after = body ++ ['*', '/'] → after = []) →
      IsComment .block ('/' :: '*' :: (body ++ ['*', '/']))

section Ends

variable {kind : CommentKind} {a b : List Char}

theorem EndsIn.mono (h : EndsIn kind a) (hab : a <:+: b) : EndsIn kind b := by
  cases kind with
  | line =>
    obtain ⟨c, hc, hbreak⟩ := h
    exact ⟨c, hab.subset hc, hbreak⟩
  | block => exact List.IsInfix.trans h hab

/-- An end is seen on one side of a character that both sides share. -/
theorem endsIn_append_cons {c : Char} :
    EndsIn kind (a ++ c :: b) ↔ EndsIn kind (a ++ [c]) ∨ EndsIn kind (c :: b) := by
  cases kind with
  | line =>
    simp only [EndsIn, List.mem_append, List.mem_cons, List.not_mem_nil, or_false]
    grind
  | block =>
    show ['*', '/'] <:+: a ++ c :: b ↔ ['*', '/'] <:+: a ++ [c] ∨ ['*', '/'] <:+: c :: b
    induction a with
    | nil => simp [List.infix_cons_iff]
    | cons d a ih =>
      -- whether an end starts with `d` is seen up to `c`
      have hcons (rest : List Char) : ['*', '/'] <:+: d :: a ++ c :: rest ↔
          (d = '*' ∧ (a ++ [c]).head? = some '/') ∨ ['*', '/'] <:+: a ++ c :: rest := by
        rw [List.cons_append, List.infix_cons_iff]
        cases a <;> simp [List.cons_prefix_cons, eq_comm]
      rw [hcons, hcons, ih, or_assoc]

/-- Two characters hold an end only if they close a block. -/
theorem not_endsIn_block_pair {c d : Char} (h : c = '*' → d ≠ '/') : ¬ EndsIn .block [c, d] := by
  intro hend
  obtain ⟨rfl, rfl⟩ : '*' = c ∧ '/' = d := by simpa using List.IsInfix.eq_of_length hend rfl
  exact h rfl rfl

theorem not_endsIn_block_singleton {c : Char} : ¬ EndsIn .block [c] := fun h =>
  absurd (List.IsInfix.length_le h) (by simp)

end Ends

/-! ### Comments and their bodies -/

/-- A comment of a kind around a text. -/
def commentOf : CommentKind → List Char → List Char
  | .line, body => '/' :: '/' :: body
  | .block, body => '/' :: '*' :: (body ++ ['*', '/'])

theorem commentOf_injective (kind : CommentKind) : Function.Injective (commentOf kind) := by
  intro a b h
  cases kind with
  | line => simpa [commentOf] using h
  | block => simpa [commentOf] using h

/-- The first end is the last if there is none in the body. -/
theorem not_endsIn_block_iff {body : List Char} :
    ¬ EndsIn .block body ↔
      ∀ before after, before ++ '*' :: '/' :: after = body ++ ['*', '/'] → after = [] := by
  constructor
  · intro hopen before after h
    rcases List.eq_nil_or_concat after with rfl | ⟨front, c, rfl⟩
    · rfl
    · rcases List.eq_nil_or_concat front with rfl | ⟨front, d, rfl⟩
      · -- the end would overlap itself
        have hlast : before ++ ['*'] ++ ['/', c] = body ++ ['*', '/'] := by simpa using h
        have hpair := (List.append_inj' hlast rfl).2
        simp at hpair
      · have hfront : before ++ '*' :: '/' :: front ++ [d, c] = body ++ ['*', '/'] := by
          simpa using h
        have hbody := (List.append_inj' hfront rfl).1
        exact absurd ⟨before, front, by simpa using hbody⟩ hopen
  · rintro hfirst ⟨before, after, rfl⟩
    have hlater := hfirst before (after ++ ['*', '/']) (by simp)
    simp at hlater

theorem isComment_iff {kind : CommentKind} {text : List Char} :
    IsComment kind text ↔ ∃ body, text = commentOf kind body ∧ ¬ EndsIn kind body := by
  constructor
  · rintro (h | h)
    · next body => exact ⟨body, rfl, by simpa [EndsIn] using h⟩
    · next body => exact ⟨body, rfl, not_endsIn_block_iff.2 h⟩
  · rintro ⟨body, rfl, h⟩
    cases kind with
    | line => exact .line (by simpa [EndsIn] using h)
    | block => exact .block (not_endsIn_block_iff.1 h)

/-- **A comment is a text in the body of which it does not end.** -/
theorem isComment_commentOf_iff (kind : CommentKind) (body : List Char) :
    IsComment kind (commentOf kind body) ↔ ¬ EndsIn kind body := by
  rw [isComment_iff]
  constructor
  · rintro ⟨body', heq, h⟩
    rwa [commentOf_injective kind heq]
  · exact fun h => ⟨body, rfl, h⟩

/-! ### Harmless texts -/

/-- A text between the characters next to it. -/
def withNeighbours (before new after : List Char) : List Char :=
  before.getLast?.toList ++ (new ++ after.head?.toList)

theorem isInfix_withNeighbours (before new after : List Char) :
    withNeighbours before new after <:+: before ++ (new ++ after) := by
  have hfront : before.dropLast ++ before.getLast?.toList = before := by
    rcases List.eq_nil_or_concat before with rfl | ⟨front, c, rfl⟩ <;> simp
  have hback : after.head?.toList ++ after.tail = after := by cases after <;> rfl
  refine ⟨before.dropLast, after.tail, ?_⟩
  rw [withNeighbours, ← List.append_assoc, hfront, List.append_assoc, List.append_assoc, hback]

/-- `IsHarmless kind new` says that no comment of `kind` ends in `new`, between any two
characters. -/
def IsHarmless : CommentKind → List Char → Prop
  | .line, new => ¬ EndsIn .line new
  | .block, new => ¬ EndsIn .block new ∧ new ≠ [] ∧ new.head? ≠ some '/' ∧ new.getLast? ≠ some '*'

section Harmless

variable {kind : CommentKind} {new before after : List Char}

/-- A harmless text can stand between any two texts that have no end of their own. -/
theorem IsHarmless.not_endsIn_withNeighbours (h : IsHarmless kind new)
    (hbefore : ¬ EndsIn kind before) (hafter : ¬ EndsIn kind after) :
    ¬ EndsIn kind (withNeighbours before new after) := by
  cases kind with
  | line =>
    rintro ⟨c, hc, hbreak⟩
    rw [withNeighbours, List.mem_append, List.mem_append] at hc
    rcases hc with hc | hc | hc
    · exact hbefore ⟨c, List.mem_of_getLast? (Option.mem_toList.1 hc), hbreak⟩
    · exact h ⟨c, hc, hbreak⟩
    · exact hafter ⟨c, List.mem_of_head? (Option.mem_toList.1 hc), hbreak⟩
  | block =>
    obtain ⟨hopen, hne, hhead, hlast⟩ := h
    have hfront : ¬ EndsIn .block (before.getLast?.toList ++ new) := by
      obtain ⟨c, tail, rfl⟩ := List.exists_cons_of_ne_nil hne
      rw [endsIn_append_cons, not_or]
      refine ⟨?_, hopen⟩
      cases before.getLast? with
      | none => exact not_endsIn_block_singleton
      | some p => exact not_endsIn_block_pair fun _ hc => hhead (by rw [hc, List.head?_cons])
    obtain ⟨front, d, rfl⟩ := List.eq_nil_or_concat new |>.resolve_left hne
    rw [List.concat_eq_append] at hlast hfront ⊢
    have hsplit : withNeighbours before (front ++ [d]) after =
        (before.getLast?.toList ++ front) ++ d :: after.head?.toList := by simp [withNeighbours]
    rw [hsplit, endsIn_append_cons, not_or, List.append_assoc]
    refine ⟨hfront, ?_⟩
    cases after.head? with
    | none => exact not_endsIn_block_singleton
    | some n => exact not_endsIn_block_pair fun hd => absurd hd (by simpa using hlast)

/-- **A text is harmless if nothing ends in it between an asterisk and a slash.** -/
theorem isHarmless_iff : IsHarmless kind new ↔ ¬ EndsIn kind ('*' :: (new ++ ['/'])) := by
  constructor
  · intro h
    have hstar : ¬ EndsIn kind ['*'] := by cases kind <;> decide
    have hslash : ¬ EndsIn kind ['/'] := by cases kind <;> decide
    exact h.not_endsIn_withNeighbours hstar hslash
  · intro hopen
    have hnew : ¬ EndsIn kind new := fun h => hopen (h.mono ⟨['*'], ['/'], rfl⟩)
    cases kind with
    | line => exact hnew
    | block =>
      refine ⟨hnew, ?_, ?_, ?_⟩
      · rintro rfl
        exact hopen (List.infix_refl _)
      · intro hhead
        obtain ⟨tail, rfl⟩ := List.head?_eq_some_iff.1 hhead
        exact hopen ⟨[], tail ++ ['/'], by simp⟩
      · intro hlast
        obtain ⟨front, rfl⟩ := List.getLast?_eq_some_iff.1 hlast
        exact hopen ⟨'*' :: front, [], by simp⟩

theorem isLineBreak_of_isIdentifierChar {c : Char} (hc : isIdentifierChar c = true) :
    TypeScript.isLineBreak c = false := by
  by_contra hbreak
  simp only [Bool.not_eq_false, TypeScript.isLineBreak, Bool.or_eq_true, decide_eq_true_eq]
    at hbreak
  rcases hbreak with ((rfl | rfl) | h) | h
  · exact absurd hc (by decide)
  · exact absurd hc (by decide)
  · obtain rfl : c = Char.ofNat 0x2028 := Char.toNat_inj.1 h
    exact absurd hc (by decide)
  · obtain rfl : c = Char.ofNat 0x2029 := Char.toNat_inj.1 h
    exact absurd hc (by decide)

/-- Nothing ends in a word. -/
theorem isHarmless_of_isWord {w : List Char} (hw : IsWord w) (kind : CommentKind) :
    IsHarmless kind w := by
  obtain ⟨hne, hall⟩ := hw
  have hslash : '/' ∉ w := fun h => absurd (hall _ h) (by decide)
  have hstar : '*' ∉ w := fun h => absurd (hall _ h) (by decide)
  cases kind with
  | line =>
    rintro ⟨c, hc, hbreak⟩
    rw [isLineBreak_of_isIdentifierChar (hall c hc)] at hbreak
    cases hbreak
  | block =>
    exact ⟨fun h => hslash (List.IsInfix.subset h (by simp)), hne,
      fun h => hslash (List.mem_of_head? h), fun h => hstar (List.mem_of_getLast? h)⟩

end Harmless

/-! ### Words that are exchanged -/

section Exchange

variable {kind : CommentKind} {f : List Char → List Char}

/-- `EndsAtWord kind f before ws` says that a comment of `kind` ends at one of the words among
`ws`, which follow the text `before`, when `f` exchanges it. -/
def EndsAtWord (kind : CommentKind) (f : List Char → List Char) :
    (before : List Char) → List (List Char) → Prop
  | _, [] => False
  | before, w :: ws => (IsWord w ∧ EndsIn kind (withNeighbours before (f w) ws.flatten)) ∨
      EndsAtWord kind f (before ++ w) ws

theorem endsAtWord_iff {ws : List (List Char)} :
    ∀ {before : List Char}, EndsAtWord kind f before ws ↔
      ∃ done w todo, ws = done ++ w :: todo ∧ IsWord w ∧
        EndsIn kind (withNeighbours (before ++ done.flatten) (f w) todo.flatten) := by
  induction ws with
  | nil => simp [EndsAtWord]
  | cons v ws ih =>
    intro before
    rw [EndsAtWord, ih]
    constructor
    · rintro (hv | ⟨done, w, todo, rfl, hw⟩)
      · exact ⟨[], v, ws, rfl, by simpa using hv⟩
      · exact ⟨v :: done, w, todo, rfl, by simpa using hw⟩
    · rintro ⟨done, w, todo, hplace, hw⟩
      cases done with
      | nil =>
        cases hplace
        exact Or.inl (by simpa using hw)
      | cons u done =>
        cases hplace
        exact Or.inr ⟨done, w, todo, rfl, by simpa using hw⟩

/-- **A comment ends early exactly if it does so at a word that is exchanged.**  The characters
between words stay, and each of them parts the ends before it from those after it. -/
theorem endsIn_flatMap_iff (hbetween : ∀ c, isIdentifierChar c = false → f [c] = [c])
    {ws : List (List Char)} (h : Tokenized ws) :
    ∀ before : List Char, ¬ EndsIn kind (before.getLast?.toList ++ ws.flatten) →
      (EndsIn kind (before.getLast?.toList ++ ws.flatMap f) ↔ EndsAtWord kind f before ws) := by
  induction h with
  | nil =>
    intro before hopen
    simpa [EndsAtWord] using hopen
  | @word w ws hw hnext hws ih =>
    intro before hopen
    obtain ⟨front, k, hk⟩ := List.eq_nil_or_concat w |>.resolve_left hw.1
    have hlast : (before ++ w).getLast?.toList = [k] := by simp [hk]
    have hrest : ¬ EndsIn kind ((before ++ w).getLast?.toList ++ ws.flatten) := by
      refine fun hend => hopen (hend.mono ⟨before.getLast?.toList ++ front, [], ?_⟩)
      rw [hlast, hk]
      simp
    rw [EndsAtWord, ← ih _ hrest, hlast, List.flatMap_cons, withNeighbours, and_iff_right hw]
    rw [hlast] at hrest
    -- what follows the word starts with a character that stays
    cases hws with
    | nil => simpa using fun h => absurd h (by simpa using hrest)
    | @word v ws hv _ _ =>
      rw [List.flatten_cons, hv.startsWithWord_append] at hnext
      cases hnext
    | @between c ws hc _ =>
      have hpair : ¬ EndsIn kind ([k] ++ [c]) := fun hend =>
        hrest (hend.mono ⟨[], ws.flatten, by simp⟩)
      rw [List.flatMap_cons, hbetween c hc, List.singleton_append, ← List.append_assoc,
        endsIn_append_cons (a := before.getLast?.toList ++ f w), endsIn_append_cons (a := [k]),
        or_iff_right hpair, List.append_assoc]
      rfl
  | @between c ws hc hws ih =>
    intro before hopen
    have hlast : (before ++ [c]).getLast?.toList = [c] := by simp
    rw [List.flatten_cons, List.singleton_append, endsIn_append_cons, not_or] at hopen
    have hrest : ¬ EndsIn kind ((before ++ [c]).getLast?.toList ++ ws.flatten) := by
      rw [hlast]
      exact hopen.2
    have hword : ¬ IsWord [c] := fun hw => hw.ne_singleton hc rfl
    rw [EndsAtWord, ← ih _ hrest, hlast, List.flatMap_cons, hbetween c hc, List.singleton_append,
      endsIn_append_cons, or_iff_right hopen.1, or_iff_right fun h => hword h.1]

end Exchange

/-! ### Names in a comment -/

section Batch

variable {rules : List Rule} (hsome : ∀ r ∈ rules, r.identifier?.isSome = true)
  {kind : CommentKind}
include hsome

/-- A text is renamed token by token. -/
theorem renameText_eq_flatMap_tokens (text : List Char) :
    renameText rules text = (tokens text).flatMap (renameText rules) := by
  have hpieces {ws : List (List Char)} (h : Tokenized ws) :
      renameText rules ws.flatten = ws.flatMap (renameText rules) := by
    induction h with
    | nil => exact renameText_nil rules
    | @word w ws _ hnext _ ih =>
      rw [List.flatten_cons, renameText_append hsome (Or.inr hnext), ih, List.flatMap_cons]
    | @between c ws hc _ ih =>
      have hapart : AreApart [c] ws.flatten := Or.inl hc
      rw [List.flatten_cons, renameText_append hsome hapart, ih, List.flatMap_cons]
  have h := hpieces (tokenized_tokens text)
  rwa [flatten_tokens] at h

/-- **A renamed text ends a comment exactly if it does so at a name.** -/
theorem endsIn_renameText_iff {text : List Char} (hopen : ¬ EndsIn kind text) :
    EndsIn kind (renameText rules text) ↔
      ∃ r ∈ rules, ∃ before after, text = before ++ (r.old ++ after) ∧ IsWhole before r.old after ∧
        EndsIn kind (withNeighbours before (renameText rules r.old) after) := by
  have hbetween (c : Char) (hc : isIdentifierChar c = false) : renameText rules [c] = [c] := by
    rw [renameText_cons_between rules hc, renameText_nil]
  have hscan := endsIn_flatMap_iff hbetween (tokenized_tokens text) [] (by rwa [flatten_tokens])
  rw [List.getLast?_nil, Option.toList_none, List.nil_append,
    ← renameText_eq_flatMap_tokens hsome, endsAtWord_iff] at hscan
  rw [hscan]
  constructor
  · rintro ⟨done, w, todo, hplace, hw, hend⟩
    rw [List.nil_append] at hend
    have hcut : Tokenized (done ++ w :: todo) := hplace ▸ tokenized_tokens text
    have htext : text = done.flatten ++ (w ++ todo.flatten) := by
      rw [← flatten_tokens text, hplace, List.flatten_append, List.flatten_cons]
    by_cases hname : ∃ r ∈ rules, r.old = w
    · obtain ⟨r, hr, rfl⟩ := hname
      exact ⟨r, hr, _, _, htext, hcut.isWhole hw, hend⟩
    · -- a word that is no name stays, and with it what stood around it
      have hkept : renameText rules w = w := by
        refine renameText_of_notMem hsome fun r hr hmem => hname ⟨r, hr, ?_⟩
        rwa [tokens_word hw, List.mem_singleton] at hmem
      rw [hkept] at hend
      rw [htext] at hopen
      exact absurd (hend.mono (isInfix_withNeighbours _ _ _)) hopen
  · rintro ⟨r, hr, before, after, rfl, hwhole, hend⟩
    have hold := isWord_old (hsome r hr)
    refine ⟨tokens before, r.old, tokens after, tokens_of_isWhole hold hwhole, hold, ?_⟩
    rwa [List.nil_append, flatten_tokens, flatten_tokens]

/-- The delimiters of a comment stay, and its body is renamed by itself. -/
theorem renameText_commentOf (kind : CommentKind) (body : List Char) :
    renameText rules (commentOf kind body) = commentOf kind (renameText rules body) := by
  have hslash : isIdentifierChar '/' = false := by decide
  have hstar : isIdentifierChar '*' = false := by decide
  cases kind with
  | line => rw [commentOf, commentOf, renameText_cons_between _ hslash,
      renameText_cons_between _ hslash]
  | block =>
    have hapart : AreApart body ['*', '/'] := Or.inr rfl
    rw [commentOf, commentOf, renameText_cons_between _ hslash, renameText_cons_between _ hstar,
      renameText_append hsome hapart, renameText_cons_between _ hstar,
      renameText_cons_between _ hslash, renameText_nil]

/-- A renamed comment is one exactly if it does not end at a name. -/
theorem isComment_renameText_iff {text : List Char} (h : IsComment kind text) :
    IsComment kind (renameText rules text) ↔
      ∀ r ∈ rules, ∀ before after, text = commentOf kind (before ++ (r.old ++ after)) →
        IsWhole before r.old after →
        ¬ EndsIn kind (withNeighbours before (renameText rules r.old) after) := by
  obtain ⟨body, rfl, hopen⟩ := isComment_iff.1 h
  rw [renameText_commentOf hsome, isComment_commentOf_iff, endsIn_renameText_iff hsome hopen]
  simp only [(commentOf_injective kind).eq_iff, not_exists, not_and]

/-! ### Names that become harmless texts -/

/-- Nothing comes to an end if every name becomes a harmless text. -/
theorem not_endsIn_renameText (hharmless : ∀ r ∈ rules, IsHarmless kind (renameText rules r.old))
    {text : List Char} (hopen : ¬ EndsIn kind text) : ¬ EndsIn kind (renameText rules text) := by
  rw [endsIn_renameText_iff hsome hopen]
  rintro ⟨r, hr, before, after, rfl, -, hend⟩
  refine (hharmless r hr).not_endsIn_withNeighbours (fun h => hopen ?_) (fun h => hopen ?_) hend
  · exact h.mono (List.prefix_append _ _).isInfix
  · exact h.mono ⟨before ++ r.old, [], by simp⟩

/-- Nothing comes to an end if every new text is harmless, since each rule adds harmless texts
only. -/
theorem not_endsIn_renameText_of_new (hnew : ∀ r ∈ rules, IsHarmless kind r.new)
    {text : List Char} (hopen : ¬ EndsIn kind text) : ¬ EndsIn kind (renameText rules text) := by
  induction rules generalizing text with
  | nil => exact hopen
  | cons r rs ih =>
    rw [List.forall_mem_cons] at hsome hnew
    have hone : ∀ q ∈ [r], q.identifier?.isSome = true := List.forall_mem_singleton.2 hsome.1
    have hself : renameText [r] r.old = r.new := by
      have hold := isWord_old hsome.1
      rw [renameText_cons hsome.1, replaceWords_word r.new hold hold, substitute, if_pos rfl]
      rfl
    have hstep : ¬ EndsIn kind (renameText [r] text) :=
      not_endsIn_renameText hone (List.forall_mem_singleton.2 (hself ▸ hnew.1)) hopen
    rw [← List.singleton_append, renameText_append_rules]
    exact ih hsome.2 hnew.2 hstep

/-- A word between an asterisk and a slash is renamed by itself. -/
theorem renameText_starred (w : List Char) :
    renameText rules ('*' :: (w ++ ['/'])) = '*' :: (renameText rules w ++ ['/']) := by
  have hslash : isIdentifierChar '/' = false := by decide
  have hstar : isIdentifierChar '*' = false := by decide
  have hapart : AreApart w ['/'] := Or.inr rfl
  rw [renameText_cons_between _ hstar, renameText_append hsome hapart,
    renameText_cons_between _ hslash, renameText_nil]

theorem isHarmless_renameText (hnew : ∀ r ∈ rules, IsHarmless kind r.new) {w : List Char}
    (hw : IsWord w) : IsHarmless kind (renameText rules w) := by
  rw [isHarmless_iff, ← renameText_starred hsome]
  exact not_endsIn_renameText_of_new hsome hnew (isHarmless_iff.1 (isHarmless_of_isWord hw kind))

/-- Any other text ends the comment in which its name stands between an asterisk and a slash. -/
theorem exists_not_isComment_renameText {w : List Char} (hw : IsWord w)
    (h : ¬ IsHarmless kind (renameText rules w)) :
    ∃ text, IsComment kind text ∧ ¬ IsComment kind (renameText rules text) := by
  refine ⟨commentOf kind ('*' :: (w ++ ['/'])), ?_, ?_⟩
  · rw [isComment_commentOf_iff, ← isHarmless_iff]
    exact isHarmless_of_isWord hw kind
  · rwa [renameText_commentOf hsome, isComment_commentOf_iff, renameText_starred hsome,
      ← isHarmless_iff]

end Batch

/-! ### The edits of comments -/

/-- `PlannedFor rules source c text e` says that `rules` plan the edit `e` for the comment `c`,
which has `text` and is one of the comments of `source`. -/
structure PlannedFor (rules : List Rule) (source : List Char) (c : CommentSpan) (text : List Char)
    (e : Edit) : Prop where
  text? : c.text? source = some text
  mem_commentEdits : ∃ cs edits, c ∈ cs ∧ commentEdits rules source cs = some edits ∧ e ∈ edits
  start : e.start = c.start
  stop : e.stop = c.stop

/-- The edit of a comment is its text with the names renamed. -/
theorem PlannedFor.text {rules : List Rule} {source : List Char} {c : CommentSpan}
    {text : List Char} {e : Edit} (h : PlannedFor rules source c text e) :
    e.text = renameText rules text := by
  obtain ⟨cs, edits, -, hplan, he⟩ := h.mem_commentEdits
  rw [commentEdits] at hplan
  split at hplan
  · cases hplan
    cases he
  · have hin : ∀ c ∈ cs, (c.text? source).isSome := by
      intro c hc
      by_contra hnone
      rw [commentEditsOf_eq_none ⟨c, hc, by simpa using hnone⟩] at hplan
      cases hplan
    rw [commentEditsOf_eq hin] at hplan
    obtain rfl := Option.some.inj hplan
    obtain ⟨c', -, hedit⟩ := List.mem_filterMap.1 he
    obtain ⟨text', htext', -, rfl⟩ := commentEdit?_eq_some_iff.1 hedit
    -- the edit stands where the comment does, so that both have one text
    have hsame : c'.text? source = c.text? source := by
      rw [CommentSpan.text?, CommentSpan.text?, ← h.start, ← h.stop]
    rw [hsame, h.text?] at htext'
    rw [Option.some.inj htext']

/-- A source that is one comment. -/
theorem plannedFor_whole {rules : List Rule} {text new : List Char} {n : Nat} (kind : CommentKind)
    (hnew : renameText rules text = new) (hne : new ≠ text) (hn : blen text = n) :
    PlannedFor rules text ⟨0, n, kind⟩ text ⟨0, n, new, .comment⟩ := by
  have htext : CommentSpan.text? ⟨0, n, kind⟩ text = some text :=
    slice?_eq_some_iff.2 ⟨[], [], by simp, rfl, by simp [hn]⟩
  have hedit : commentEdit? rules text ⟨0, n, kind⟩ = some ⟨0, n, new, .comment⟩ :=
    commentEdit?_eq_some_iff.2 ⟨text, htext, hnew ▸ hne, hnew ▸ rfl⟩
  have hrules : ¬ (identifierRules rules).isEmpty = true := by
    intro hempty
    exact hne (hnew ▸ renameText_of_identifierRules_eq_nil (List.isEmpty_iff.1 hempty) text)
  refine ⟨htext, ⟨[⟨0, n, kind⟩], [⟨0, n, new, .comment⟩], List.mem_singleton_self _, ?_,
    List.mem_singleton_self _⟩, rfl, rfl⟩
  rw [commentEdits, if_neg hrules, commentEditsOf_eq (by simp [htext]), List.filterMap_cons, hedit]
  rfl

/-- **A renamed comment stays one exactly if it does not end at a name.**  The edit of a comment is
again one comment of its kind exactly if nothing ends where one of the names stood, in what the batch
makes of it and the characters next to it.  A batch leaves all comments of a kind comments exactly if
it makes harmless texts of its names, and this is so if all new texts are harmless. -/
theorem renamed_comments_stay_comments_iff (rules : List Rule) (kind : CommentKind)
    (hkind : ∀ r ∈ rules, r.kind = .identifier) :
    (∀ source c text e, PlannedFor rules source c text e → c.kind = kind → IsComment kind text →
        (IsComment kind e.text ↔
          ∀ r ∈ rules, ∀ before after, text = commentOf kind (before ++ (r.old ++ after)) →
            IsWhole before r.old after →
            ¬ EndsIn kind (withNeighbours before (renameText rules r.old) after))) ∧
      ((∀ source c text e, PlannedFor rules source c text e → c.kind = kind →
          IsComment kind text → IsComment kind e.text) ↔
        ∀ r ∈ rules, IsHarmless kind (renameText rules r.old)) ∧
      ((∀ r ∈ rules, IsHarmless kind r.new) →
        ∀ r ∈ rules, IsHarmless kind (renameText rules r.old)) := by
  have hsome : ∀ r ∈ rules, r.identifier?.isSome = true := fun r hr =>
    Rule.isSome_identifier?_iff.2 (hkind r hr)
  refine ⟨fun source c text e hplan _ hcomment => ?_, ⟨fun hstay r hr => ?_, ?_⟩,
    fun hnew r hr => isHarmless_renameText hsome hnew (isWord_old (hsome r hr))⟩
  · rw [hplan.text]
    exact isComment_renameText_iff hsome hcomment
  · by_contra hbad
    obtain ⟨text, hcomment, hended⟩ :=
      exists_not_isComment_renameText hsome (isWord_old (hsome r hr)) hbad
    have hne : renameText rules text ≠ text := fun h => hended (h.symm ▸ hcomment)
    exact hended (hstay text _ text _ (plannedFor_whole kind rfl hne rfl) rfl hcomment)
  · intro hharmless source c text e hplan _ hcomment
    obtain ⟨body, rfl, hopen⟩ := isComment_iff.1 hcomment
    rw [hplan.text, renameText_commentOf hsome, isComment_commentOf_iff]
    exact not_endsIn_renameText hsome hharmless hopen

/-- An identifier that is taken out. -/
def erasingRules : List Rule := [.word "old".toList []]

/-- Without `old`, the asterisk and the slash next to it end a block, and nothing in a line. -/
theorem renamed_comments_stay_comments_iff_erased :
    (∀ r ∈ erasingRules, r.kind = .identifier) ∧
      (PlannedFor erasingRules "/* *old/ x */".toList ⟨0, 13, .block⟩ "/* *old/ x */".toList
          ⟨0, 13, "/* */ x */".toList, .comment⟩ ∧
        IsComment .block "/* *old/ x */".toList ∧ ¬ IsComment .block "/* */ x */".toList) ∧
      (∀ r ∈ erasingRules, IsHarmless .line r.new) ∧
      PlannedFor erasingRules "// *old/ x".toList ⟨0, 10, .line⟩ "// *old/ x".toList
          ⟨0, 10, "// */ x".toList, .comment⟩ ∧
        IsComment .line "// *old/ x".toList ∧ IsComment .line "// */ x".toList := by
  have hkind : ∀ r ∈ erasingRules, r.kind = .identifier := by decide
  have hblock := plannedFor_whole .block
    (show renameText erasingRules "/* *old/ x */".toList = "/* */ x */".toList by decide)
    (by decide) (show blen "/* *old/ x */".toList = 13 by decide)
  have hline := plannedFor_whole .line
    (show renameText erasingRules "// *old/ x".toList = "// */ x".toList by decide)
    (by decide) (show blen "// *old/ x".toList = 10 by decide)
  have hblockText : "/* *old/ x */".toList = commentOf .block " *old/ x ".toList := by decide
  have hblockComment : IsComment .block "/* *old/ x */".toList := by
    rw [hblockText, isComment_commentOf_iff]
    decide
  have hlineComment : IsComment .line "// *old/ x".toList := by
    rw [show "// *old/ x".toList = commentOf .line " *old/ x".toList by decide,
      isComment_commentOf_iff]
    decide
  have hharmless : ∀ r ∈ erasingRules, IsHarmless .line r.new :=
    List.forall_mem_singleton.2 (by rw [IsHarmless]; decide)
  obtain ⟨hexact, -, -⟩ := renamed_comments_stay_comments_iff erasingRules .block hkind
  obtain ⟨-, hall, hnames⟩ := renamed_comments_stay_comments_iff erasingRules .line hkind
  refine ⟨hkind, ⟨hblock, hblockComment, fun hstays => ?_⟩, hharmless, hline, hlineComment,
    hall.2 (hnames hharmless) _ _ _ _ hline rfl hlineComment⟩
  have hopen := (hexact _ _ _ _ hblock rfl hblockComment).1 hstays (.word "old".toList [])
    List.mem_cons_self " *".toList "/ x ".toList (by decide) (isBounded_iff_isWhole.1 (by decide))
  exact hopen (by decide)

/-- Not all comments stay comments: a line break in the new text ends a line. -/
theorem not_forall_renamed_comments_stay :
    ¬ ∀ rules source c text e, (∀ r ∈ rules, r.kind = .identifier) →
      PlannedFor rules source c text e → IsComment c.kind text → IsComment c.kind e.text := by
  intro hstay
  have hplan := plannedFor_whole .line
    (show renameText [.word "old".toList "new\n".toList] "// old x".toList = "// new\n x".toList
      by decide)
    (by decide) (show blen "// old x".toList = 8 by decide)
  have hcomment : IsComment .line "// old x".toList := by
    rw [show "// old x".toList = commentOf .line " old x".toList by decide,
      isComment_commentOf_iff]
    decide
  have hended : ¬ IsComment .line "// new\n x".toList := by
    rw [show "// new\n x".toList = commentOf .line " new\n x".toList by decide,
      isComment_commentOf_iff]
    decide
  exact hended (hstay _ _ _ _ _ (by decide) hplan hcomment)

end Codemod
