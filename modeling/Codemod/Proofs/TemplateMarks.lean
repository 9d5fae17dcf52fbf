import Codemod.Replacement
import Mathlib.Tactic.IntervalCases

/-!
# What the marks of a template stand for

A template is read once, ahead of all matches: marks are resolved against the groups of the pattern,
and text between them is gathered.  The rules that say what a template stands for know nothing of
this.  They go through the template from left to right with a match at hand, write the text of a mark
where one begins and copy any other character.  Both give the same text.

## Main definitions

* `groupText`, `namedText` — the texts of the groups of a match.
* `Mark` — what the characters after a dollar sign stand for.
* `Substitution` — the text of a template for a match.

## Main results

* `mark_of_reference?`, `exists_reference?_of_mark` — a mark is resolved to what it stands for.
* `expand_parse_iff` — **a template that is read ahead and expanded gives its substitution.**
-/

namespace Codemod

open Template

/-! ### The rules -/

/-- The text of a group; nothing if the group took no part in the match. -/
def groupText (haystack : List Char) (found : Regex.Match) (index : Nat) : List Char :=
  match found.groups[index]? with
  | some (some (start, stop)) => haystack.extract start stop
  | _ => []

/-- The text of the group of a name; nothing if there is no such group. -/
def namedText (program : Regex.Program) (haystack : List Char) (found : Regex.Match)
    (name : List Char) : List Char :=
  match program.names.lookup (String.ofList name) with
  | some index => groupText haystack found index
  | none => []

/-- `Mark program haystack found cs text todo` says that the characters `cs` after a dollar sign
begin with a mark that stands for `text`, and that `todo` follows it. -/
inductive Mark (program : Regex.Program) (haystack : List Char) (found : Regex.Match) :
    List Char → List Char → List Char → Prop
  | sign (todo : List Char) : Mark program haystack found ('$' :: todo) ['$'] todo
  | whole (todo : List Char) :
      Mark program haystack found ('&' :: todo) (haystack.extract found.start found.stop) todo
  | before (todo : List Char) :
      Mark program haystack found ('\x60' :: todo) (haystack.take found.start) todo
  | after (todo : List Char) :
      Mark program haystack found ('\x27' :: todo) (haystack.drop found.stop) todo
  /-- Two digits belong together if there is a group of that number. -/
  | twoDigits {d e : Nat} (todo : List Char) : d < 10 → e < 10 →
      1 ≤ 10 * d + e → 10 * d + e ≤ program.groups →
      Mark program haystack found (d.digitChar :: e.digitChar :: todo)
        (groupText haystack found (10 * d + e)) todo
  /-- Otherwise a digit stands for itself. -/
  | oneDigit {d : Nat} (todo : List Char) : d < 10 → 1 ≤ d → d ≤ program.groups →
      (∀ e < 10, todo.head? = some e.digitChar → program.groups < 10 * d + e) →
      Mark program haystack found (d.digitChar :: todo) (groupText haystack found d) todo
  /-- A name ends at the first bracket, and only patterns with names have such marks. -/
  | named (name todo : List Char) : program.names ≠ [] → '>' ∉ name →
      Mark program haystack found ('<' :: (name ++ '>' :: todo))
        (namedText program haystack found name) todo

/-- `Substitution program haystack found template out` says that `template` stands for the text
`out`, from left to right. -/
inductive Substitution (program : Regex.Program) (haystack : List Char) (found : Regex.Match) :
    List Char → List Char → Prop
  | nil : Substitution program haystack found [] []
  | char {c : Char} {rest out : List Char} : c ≠ '$' → Substitution program haystack found rest out →
      Substitution program haystack found (c :: rest) (c :: out)
  | mark {rest text todo out : List Char} : Mark program haystack found rest text todo →
      Substitution program haystack found todo out →
      Substitution program haystack found ('$' :: rest) (text ++ out)
  /-- Any other dollar sign is text. -/
  | sign {rest out : List Char} : (∀ text todo, ¬ Mark program haystack found rest text todo) →
      Substitution program haystack found rest out →
      Substitution program haystack found ('$' :: rest) ('$' :: out)

/-! ### What a match has -/

section Capture

variable (program : Regex.Program) (haystack : List Char) (found : Regex.Match)

@[simp] theorem captureOf_before :
    (captureOf program haystack.toArray found).before = haystack.take found.start := by
  simp [captureOf]

@[simp] theorem captureOf_whole :
    (captureOf program haystack.toArray found).whole =
      haystack.extract found.start found.stop := by
  simp [captureOf]

@[simp] theorem captureOf_after :
    (captureOf program haystack.toArray found).after = haystack.drop found.stop := by
  have hall : (haystack.drop found.stop).length ≤ haystack.length - found.stop :=
    Nat.le_of_eq List.length_drop
  show (haystack.toArray.extract found.stop haystack.toArray.size).toList = _
  rw [Array.toList_extract, List.extract_eq_take_drop]
  exact List.take_of_length_le hall

@[simp] theorem getD_captureOf_group (index : Nat) :
    ((captureOf program haystack.toArray found).group index).getD [] =
      groupText haystack found index := by
  simp only [captureOf, groupText]
  rcases found.groups[index]? with _ | _ | ⟨start, stop⟩
  · rfl
  · rfl
  · simp

@[simp] theorem getD_captureOf_named (name : List Char) :
    ((captureOf program haystack.toArray found).named name).getD [] =
      namedText program haystack found name := by
  rw [namedText]
  cases hname : program.names.lookup (String.ofList name) with
  | none => simp [captureOf, hname]
  | some index =>
    simpa [captureOf, hname] using getD_captureOf_group program haystack found index

end Capture

/-! ### Marks are resolved -/

namespace Template

theorem digit?_eq_some_iff {c : Char} {d : Nat} :
    digit? c = some d ↔ d < 10 ∧ c = d.digitChar := by
  constructor
  · intro h
    rw [digit?] at h
    split at h
    · next hc =>
      have hd : c.toNat - 48 = d := by simpa using h
      have hrange : 48 ≤ c.toNat ∧ c.toNat ≤ 57 := by
        simpa [Char.isDigit, UInt32.le_iff_toNat_le] using hc
      refine ⟨by omega, Char.toNat_inj.1 ?_⟩
      rw [Nat.toNat_digitChar_of_lt_ten (by omega)]
      omega
    · cases h
  · rintro ⟨hd, rfl⟩
    interval_cases d <;> rfl

section Digits

variable {groups d e : Nat} {todo : List Char}

/-- Two digits belong together if there is a group of their number. -/
theorem groupRef?_twoDigits (hd : d < 10) (he : e < 10) (hpos : 1 ≤ 10 * d + e)
    (hle : 10 * d + e ≤ groups) :
    groupRef? groups (d.digitChar :: e.digitChar :: todo) = some (10 * d + e, 2) := by
  have hfirst : digit? d.digitChar = some d := digit?_eq_some_iff.2 ⟨hd, rfl⟩
  have hsecond : digit? e.digitChar = some e := digit?_eq_some_iff.2 ⟨he, rfl⟩
  simp [groupRef?, hfirst, hsecond, Option.filter, hpos, hle]

/-- Otherwise a digit stands for itself. -/
theorem groupRef?_oneDigit (hd : d < 10)
    (halone : ∀ e < 10, todo.head? = some e.digitChar → ¬ (1 ≤ 10 * d + e ∧ 10 * d + e ≤ groups)) :
    groupRef? groups (d.digitChar :: todo) = if 1 ≤ d && d ≤ groups then some (d, 1) else none := by
  have hfirst : digit? d.digitChar = some d := digit?_eq_some_iff.2 ⟨hd, rfl⟩
  have hnone : ((todo.head?.bind digit?).map fun e => 10 * d + e).filter
      (fun n => 1 ≤ n && n ≤ groups) = none := by
    refine Option.filter_eq_none_iff.2 fun n hn => ?_
    obtain ⟨e, he, rfl⟩ := Option.map_eq_some_iff.1 hn
    obtain ⟨c, hc, hdigit⟩ := Option.bind_eq_some_iff.1 he
    obtain ⟨hlt, rfl⟩ := digit?_eq_some_iff.1 hdigit
    simpa using halone e hlt hc
  simp only [groupRef?, hfirst, Option.bind_eq_bind, Option.bind_some, hnone]

/-- Digits are looked at last. -/
theorem reference?_digit (hd : d < 10) (hasNames : Bool) :
    reference? groups hasNames (d.digitChar :: todo) =
      (groupRef? groups (d.digitChar :: todo)).map fun r => (.group r.1, r.2) := by
  interval_cases d <;> rfl

end Digits

/-- A name goes up to the first bracket. -/
theorem reference?_named {groups : Nat} {name : List Char} (todo : List Char) (hname : '>' ∉ name) :
    reference? groups true ('<' :: (name ++ '>' :: todo)) =
      some (.named name, name.length + 2) := by
  have hread : (name ++ '>' :: todo).takeWhile (· ≠ '>') = name := by
    rw [List.takeWhile_append_of_pos]
    · simp
    · intro c hc
      simpa using ne_of_mem_of_not_mem hc hname
  simp only [reference?, List.contains_append, List.contains_cons, hread]
  simp

end Template

section Resolve

variable {program : Regex.Program} {haystack : List Char} {found : Regex.Match}
  {rest text todo : List Char}

theorem mark_of_groupRef? {index n : Nat} (h : groupRef? program.groups rest = some (index, n)) :
    Mark program haystack found rest (groupText haystack found index) (rest.drop n) := by
  cases rest with
  | nil => cases h
  | cons c todo =>
    cases hc : digit? c with
    | none => simp [groupRef?, hc] at h
    | some d =>
      obtain ⟨hd, rfl⟩ := digit?_eq_some_iff.1 hc
      by_cases htwo : ∃ e < 10, todo.head? = some e.digitChar ∧
          1 ≤ 10 * d + e ∧ 10 * d + e ≤ program.groups
      · obtain ⟨e, he, hhead, hpos, hle⟩ := htwo
        obtain ⟨todo, rfl⟩ := List.head?_eq_some_iff.1 hhead
        rw [groupRef?_twoDigits hd he hpos hle] at h
        obtain ⟨rfl, rfl⟩ : 10 * d + e = index ∧ 2 = n := by simpa using h
        exact .twoDigits todo hd he hpos hle
      · rw [groupRef?_oneDigit hd fun e he hhead hin => htwo ⟨e, he, hhead, hin⟩] at h
        obtain ⟨⟨hpos, hle⟩, rfl, rfl⟩ : (1 ≤ d ∧ d ≤ program.groups) ∧ d = index ∧ 1 = n := by
          simpa using h
        refine .oneDigit todo hd hpos hle fun e he hhead => ?_
        by_contra hlt
        exact htwo ⟨e, he, hhead, by omega, by omega⟩

/-- What a mark is resolved to is what it stands for. -/
theorem mark_of_reference? {part : TemplatePart} {n : Nat}
    (h : reference? program.groups (!program.names.isEmpty) rest = some (part, n)) :
    Mark program haystack found rest
      (expandPart (captureOf program haystack.toArray found) part) (rest.drop n) := by
  have href := h
  unfold reference? at h
  split at h
  · obtain ⟨rfl, rfl⟩ : TemplatePart.text ['$'] = part ∧ 1 = n := by simpa using h
    exact .sign _
  · obtain ⟨rfl, rfl⟩ : TemplatePart.whole = part ∧ 1 = n := by simpa using h
    simpa [expandPart] using Mark.whole _
  · obtain ⟨rfl, rfl⟩ : TemplatePart.before = part ∧ 1 = n := by simpa using h
    simpa [expandPart] using Mark.before _
  · obtain ⟨rfl, rfl⟩ : TemplatePart.after = part ∧ 1 = n := by simpa using h
    simpa [expandPart] using Mark.after _
  · next tail =>
    split at h
    · next hcond =>
      obtain ⟨hnames, hclose⟩ : program.names ≠ [] ∧ '>' ∈ tail := by simpa using hcond
      obtain ⟨name, todo, rfl, hname⟩ := List.eq_append_cons_of_mem hclose
      rw [show (!program.names.isEmpty) = true by simpa using hnames,
        reference?_named todo hname] at href
      obtain ⟨rfl, rfl⟩ : TemplatePart.named name = part ∧ name.length + 2 = n := by
        simpa using href
      simpa [expandPart] using Mark.named name todo hnames hname
    · cases h
  · obtain ⟨⟨index, digits⟩, hdigits, heq⟩ := Option.map_eq_some_iff.1 h
    obtain ⟨rfl, rfl⟩ : TemplatePart.group index = part ∧ digits = n := by simpa using heq
    simpa [expandPart] using mark_of_groupRef? hdigits

/-- Every mark is resolved. -/
theorem exists_reference?_of_mark (h : Mark program haystack found rest text todo) :
    ∃ part n, reference? program.groups (!program.names.isEmpty) rest = some (part, n) ∧
      expandPart (captureOf program haystack.toArray found) part = text ∧ rest.drop n = todo := by
  cases h with
  | sign => exact ⟨.text ['$'], 1, rfl, rfl, rfl⟩
  | whole => exact ⟨.whole, 1, rfl, captureOf_whole program haystack found, rfl⟩
  | before => exact ⟨.before, 1, rfl, captureOf_before program haystack found, rfl⟩
  | after => exact ⟨.after, 1, rfl, captureOf_after program haystack found, rfl⟩
  | @twoDigits d e _ hd he hpos hle =>
    refine ⟨.group (10 * d + e), 2, ?_, getD_captureOf_group program haystack found _, rfl⟩
    rw [reference?_digit hd, groupRef?_twoDigits hd he hpos hle]
    rfl
  | @oneDigit d _ hd hpos hle halone =>
    refine ⟨.group d, 1, ?_, getD_captureOf_group program haystack found d, rfl⟩
    rw [reference?_digit hd, groupRef?_oneDigit hd fun e he hhead hin => ?_]
    · simp [hpos, hle]
    · exact Nat.not_lt.2 hin.2 (halone e he hhead)
  | named name _ hnames hname =>
    refine ⟨.named name, name.length + 2, ?_, getD_captureOf_named program haystack found name, ?_⟩
    · rw [show (!program.names.isEmpty) = true by simpa using hnames, reference?_named _ hname]
    · simp

end Resolve

/-! ### Reading ahead -/

namespace Template

variable {groups : Nat} {hasNames : Bool} (m : Capture)

@[simp] theorem expand_cons (part : TemplatePart) (t : Template) :
    expand (part :: t) m = expandPart m part ++ expand t m :=
  List.flatMap_cons

theorem expand_consText (c : Char) (t : Template) : expand (consText c t) m = c :: expand t m := by
  rw [consText.eq_def]
  split <;> rfl

/-- A mark that has been read is left behind. -/
theorem parseFrom_eq_parse_drop :
    ∀ (n : Nat) (rest : List Char), parseFrom groups hasNames n rest =
      parse groups hasNames (rest.drop n) := by
  intro n
  induction n with
  | zero => exact fun _ => rfl
  | succ n ih =>
    intro rest
    cases rest with
    | nil => rfl
    | cons c rest => exact ih rest

/-- The one mark that stands for a fixed text. -/
theorem eq_sign_of_reference? {rest cs : List Char} {n : Nat}
    (h : reference? groups hasNames rest = some (.text cs, n)) : cs = ['$'] := by
  unfold reference? at h
  split at h
  · have hsame : cs = ['$'] ∧ n = 1 := by simpa using h.symm
    exact hsame.1
  · cases h
  · cases h
  · cases h
  · split at h <;> cases h
  · simp at h

theorem expand_parse_char {c : Char} (hc : c ≠ '$') (rest : List Char) :
    expand (parse groups hasNames (c :: rest)) m =
      c :: expand (parse groups hasNames rest) m := by
  rw [parse, parseFrom, if_neg hc, expand_consText, parse]

theorem expand_parse_sign {rest : List Char} (h : reference? groups hasNames rest = none) :
    expand (parse groups hasNames ('$' :: rest)) m =
      '$' :: expand (parse groups hasNames rest) m := by
  rw [parse, parseFrom, if_pos rfl, h]
  exact expand_consText m '$' _

theorem expand_parse_mark {rest : List Char} {part : TemplatePart} {n : Nat}
    (h : reference? groups hasNames rest = some (part, n)) :
    expand (parse groups hasNames ('$' :: rest)) m =
      expandPart m part ++ expand (parse groups hasNames (rest.drop n)) m := by
  rw [parse, parseFrom, if_pos rfl, h, ← parseFrom_eq_parse_drop]
  cases part with
  | text cs =>
    rw [eq_sign_of_reference? h]
    exact expand_consText m '$' _
  | group _ => exact expand_cons m _ _
  | named _ => exact expand_cons m _ _
  | whole => exact expand_cons m _ _
  | before => exact expand_cons m _ _
  | after => exact expand_cons m _ _

end Template

section Read

variable (program : Regex.Program) (haystack : List Char) (found : Regex.Match)

/-- What a template that is read ahead is expanded to is a substitution.  The induction is on the
length of the template, since a mark is left behind in one step. -/
theorem substitution_expand_parse :
    ∀ (k : Nat) (template : List Char), template.length = k →
      Substitution program haystack found template
        ((parse program.groups (!program.names.isEmpty) template).expand
          (captureOf program haystack.toArray found)) := by
  intro k
  induction k using Nat.strongRecOn with
  | ind k ih =>
    intro template hk
    cases template with
    | nil => exact .nil
    | cons c rest =>
      have hrest : rest.length < k := by rw [← hk, List.length_cons]; omega
      by_cases hc : c = '$'
      · subst hc
        cases href : reference? program.groups (!program.names.isEmpty) rest with
        | none =>
          rw [expand_parse_sign _ href]
          refine .sign (fun text todo hmark => ?_) (ih _ hrest rest rfl)
          obtain ⟨part, n, hsome, -, -⟩ := exists_reference?_of_mark hmark
          rw [href] at hsome
          cases hsome
        | some resolved =>
          obtain ⟨part, n⟩ := resolved
          rw [expand_parse_mark _ href]
          have htodo : (rest.drop n).length < k := by rw [List.length_drop]; omega
          exact .mark (mark_of_reference? href) (ih _ htodo _ rfl)
      · rw [expand_parse_char _ hc]
        exact .char hc (ih _ hrest rest rfl)

/-- There is no other substitution. -/
theorem Substitution.eq_expand_parse {template out : List Char}
    (h : Substitution program haystack found template out) :
    (parse program.groups (!program.names.isEmpty) template).expand
      (captureOf program haystack.toArray found) = out := by
  induction h with
  | nil => rfl
  | char hc _ ih => rw [expand_parse_char _ hc, ih]
  | mark hmark _ ih =>
    obtain ⟨part, n, href, rfl, rfl⟩ := exists_reference?_of_mark hmark
    rw [expand_parse_mark _ href, ih]
  | @sign rest out hnone _ ih =>
    have href : reference? program.groups (!program.names.isEmpty) rest = none := by
      refine Option.eq_none_iff_forall_ne_some.2 fun resolved href => ?_
      exact hnone _ _ (mark_of_reference? href)
    rw [expand_parse_sign _ href, ih]

end Read

/-- **A template that is read ahead and expanded gives its substitution.**  For every number of groups
and all names of groups, every match in a text and every template, reading the template ahead and
expanding it gives the one text that the rules give from left to right: two dollar signs give one, the
match and the texts around it take the place of their marks, digits and names give the texts of their
groups, and any other dollar sign stays. -/
theorem expand_parse_iff (program : Regex.Program) (haystack : List Char) (found : Regex.Match)
    (template out : List Char) :
    (parse program.groups (!program.names.isEmpty) template).expand
        (captureOf program haystack.toArray found) = out ↔
      Substitution program haystack found template out := by
  constructor
  · rintro rfl
    exact substitution_expand_parse program haystack found _ template rfl
  · exact Substitution.eq_expand_parse program haystack found

/-- One group: ten is no group, so that the zero stays; neither is two; and a dollar sign that is
written by two opens no mark. -/
example :
    (parse 1 false "$10 $2 $$1 $".toList).expand
      ⟨"a".toList, "b".toList, "c".toList, fun _ => some "g".toList, fun _ => none⟩ =
        "g0 $2 $1 $".toList := by
  decide

end Codemod
