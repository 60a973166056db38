import WritePolicy.Number.Power

/-! # Checked operations on bytes and words

    Temporal texts come from outside, so the readers take them as UTF-8 bytes
    and use only operations that can fail: a slice must lie within the text and
    between characters, an index must lie within the text, and every number
    must fit its word. Such a failure is a fault of the reader, and is kept
    apart from the verdict that a text is not valid.
-/

namespace WritePolicy

/-- Bytes of a UTF-8 text. -/
abbrev Bytes := List UInt8

/-- What can go wrong inside a reader, whatever the text says. -/
inductive Fault where
  | sliceOutOfRange
  | sliceInsideCharacter
  | indexOutOfRange
  | overflow
  deriving DecidableEq, Repr

/-- A computation that may fault. -/
abbrev Checked (α : Type) := Except Fault α

namespace Bytes

/-- The bytes of a text. -/
def ofString (text : String) : Bytes :=
  text.toList.flatMap String.utf8EncodeChar

/-- A byte that continues a character of several bytes. -/
def isContinuation (b : UInt8) : Bool :=
  0x80 ≤ b && b < 0xC0

/-- An offset that lies between two characters, or at either end. -/
def isBoundary (bs : Bytes) (i : Nat) : Bool :=
  match bs[i]? with
  | some b => !isContinuation b
  | none => i == bs.length

/-- An ASCII digit. -/
def isDigit (b : UInt8) : Bool :=
  0x30 ≤ b && b ≤ 0x39

/-! ## Slices and indexes -/

/-- The bytes from one offset up to another. -/
def slice (bs : Bytes) (start stop : Nat) : Checked Bytes :=
  if start ≤ stop ∧ stop ≤ bs.length then
    if isBoundary bs start && isBoundary bs stop then .ok ((bs.take stop).drop start)
    else .error .sliceInsideCharacter
  else .error .sliceOutOfRange

/-- The bytes from an offset to the end. -/
def sliceFrom (bs : Bytes) (start : Nat) : Checked Bytes :=
  slice bs start bs.length

/-- A slice that may be refused: nothing when it would not be well placed. -/
def slice? (bs : Bytes) (start stop : Nat) : Option Bytes :=
  match slice bs start stop with
  | .ok s => some s
  | .error _ => none

/-- The byte at an offset. -/
def byteAt (bs : Bytes) (i : Nat) : Checked UInt8 :=
  match bs[i]? with
  | some b => .ok b
  | none => .error .indexOutOfRange

/-! ## Splitting at ASCII marks -/

/-- The pieces between occurrences of an ASCII mark: one more than there are
    marks. -/
def pieces (mark : UInt8) : Bytes → List Bytes
  | [] => [[]]
  | b :: rest =>
    if b = mark then [] :: pieces mark rest
    else
      match pieces mark rest with
      | [] => [[b]]
      | first :: others => (b :: first) :: others

/-- What stands before and after the first occurrence of an ASCII mark. -/
def splitOnce? (mark : UInt8) : Bytes → Option (Bytes × Bytes)
  | [] => none
  | b :: rest =>
    if b = mark then some ([], rest)
    else (splitOnce? mark rest).map fun p => (b :: p.1, p.2)

/-- Offset of the first byte with a property. -/
def find? (p : UInt8 → Bool) : Bytes → Option Nat
  | [] => none
  | b :: rest => if p b then some 0 else (find? p rest).map (· + 1)

/-! ## Words -/

/-- A number that must fit an unsigned 32-bit word. -/
def word32 (n : Nat) : Checked Nat :=
  if n < twoTo 32 then .ok n else .error .overflow

/-- A difference of unsigned words. -/
def minus (a b : Nat) : Checked Nat :=
  if b ≤ a then .ok (a - b) else .error .overflow

/-- A number that must fit a signed 32-bit word. -/
def signed32 (i : Int) : Checked Int :=
  if -twoTo 31 ≤ i ∧ i < twoTo 31 then .ok i else .error .overflow

/-- A number that must fit a signed 64-bit word. -/
def signed64 (i : Int) : Checked Int :=
  if -twoTo 63 ≤ i ∧ i < twoTo 63 then .ok i else .error .overflow

/-- The number written by exactly `count` ASCII digits; nothing for other
    texts, nor for numbers beyond 32 bits. -/
def digits? (bs : Bytes) (count : Nat) : Option Nat :=
  if bs.length = count ∧ bs.all isDigit then
    let n := bs.foldl (fun n b => 10 * n + (b.toNat - 0x30)) 0
    if n < twoTo 32 then some n else none
  else none

end Bytes

end WritePolicy
