import Codemod.Path

/-!
# Names on a disk

The name of a file is any bytes, and most names are the bytes of a text.  A name is shown as text
all the same: where its bytes are no character, U+FFFD stands for them, so that different names can
look alike.

## Main definitions

* `Name` — the name of a file, a link or a directory.
* `Name.ofText` — the name that is a text.
* `Name.text` — a name shown as text.
* `Path.names`, `Path.ofNames` — the names that a path speaks of, and names shown as a path.
-/

namespace Codemod

/-- The name of a file, a link or a directory. -/
structure Name where
  bytes : List UInt8
  deriving DecidableEq, Repr, Inhabited

namespace Name

/-- The name that is a text. -/
def ofText (text : String) : Name := ⟨text.toList.flatMap String.utf8EncodeChar⟩

instance : Coe String Name := ⟨ofText⟩

/-! ### Shown as text -/

/-- What stands for bytes that are no character. -/
def replacement : Char := '\uFFFD'

/-- `isTail b` says that the byte `b` goes on with a character. -/
def isTail (b : UInt8) : Bool := 0x80 ≤ b && b ≤ 0xBF

/-- `continues a b` says that `b` can be the second byte of a character of three or four bytes that
starts with `a`. -/
def continues (a b : UInt8) : Bool :=
  if a = 0xE0 then 0xA0 ≤ b && b ≤ 0xBF
  else if a = 0xED then 0x80 ≤ b && b ≤ 0x9F
  else if a = 0xF0 then 0x90 ≤ b && b ≤ 0xBF
  else if a = 0xF4 then 0x80 ≤ b && b ≤ 0x8F
  else 0xE1 ≤ a && a ≤ 0xF3 && isTail b

/-- How many bytes after the first are passed over with it where no character can be read: those
that could have gone on with one. -/
def brokenTail (a : UInt8) : List UInt8 → Nat
  | [] => 0
  | b :: bs =>
    if continues a b then if 0xF0 ≤ a && bs.head?.any isTail then 2 else 1
    else 0

/-- The characters of bytes, of which `skip` have been read. -/
def charsFrom : (skip : Nat) → List UInt8 → List Char
  | _, [] => []
  | skip + 1, _ :: bs => charsFrom skip bs
  | 0, b :: bs =>
    match (b :: bs).toByteArray.utf8DecodeChar? 0 with
    | some c => c :: charsFrom (c.utf8Size - 1) bs
    | none => replacement :: charsFrom (brokenTail b bs) bs

/-- A name shown as text. -/
def text (name : Name) : String := String.ofList (charsFrom 0 name.bytes)

/-! ### Order -/

/-- Puts something between others, in the order of the bytes of their names. -/
def insertByName {α : Type} (e : Name × α) : List (Name × α) → List (Name × α)
  | [] => [e]
  | f :: fs => if e.1.bytes ≤ f.1.bytes then e :: f :: fs else f :: insertByName e fs

/-- Things in the order of the bytes of their names. -/
def sortByName {α : Type} : List (Name × α) → List (Name × α)
  | [] => []
  | e :: es => insertByName e (sortByName es)

end Name

namespace Path

/-- The names that a path speaks of. -/
def names (path : String) : List Name := (split path).map Name.ofText

/-- Names shown as a path. -/
def ofNames (names : List Name) : String := join (names.map Name.text)

/-- The byte of a slash. -/
def slashByte : UInt8 := 47

/-- The names of a path that is given by its bytes. -/
def namesOfBytes (path : List UInt8) : List Name := (pieces slashByte path).map Name.mk

end Path

end Codemod
