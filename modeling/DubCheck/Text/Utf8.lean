/-!
# Reading UTF-8

Bytes are read one character at a time by `readChar`, which either finds a character and tells how
many continuation bytes it took, or finds a fault.  A fault covers the longest beginning of a
character that is there, so several bytes may belong to one fault.

* `decode` stops at the first fault and says where it is.
* `decodeLossy` puts one replacement character in the place of each fault.
-/

namespace DubCheck.Text.Utf8

/-- Why bytes are not UTF-8. -/
inductive Reason where
  /-- No character starts with this byte. -/
  | start
  /-- A character has begun, and the next byte does not go on with it. -/
  | continuation
  /-- A character has begun, and there are no more bytes. -/
  | truncated
deriving DecidableEq, Repr

/-- What is said about bytes that are not UTF-8. -/
def Reason.message : Reason → String
  | .start => "invalid start byte"
  | .continuation => "invalid continuation byte"
  | .truncated => "unexpected end of data"

/-- What stands at the head of a sequence of bytes. -/
inductive Head where
  /-- A character that takes `tail` bytes after the first. -/
  | char (c : Char) (tail : Nat)
  /-- A fault that takes `tail` bytes after the first. -/
  | fault (reason : Reason) (tail : Nat)

/-- A byte that goes on with a character. -/
def isContinuation (b : UInt8) : Bool :=
  0x80 ≤ b.toNat && b.toNat < 0xC0

/-- The character with the given high bits and continuation bytes. -/
def charOf (high : Nat) (tail : List UInt8) : Char :=
  Char.ofNat (tail.foldl (fun n b => n * 64 + (b.toNat - 0x80)) high)

/-- The fault of a character that needs `need` continuation bytes, of which the first must satisfy
`first`, when those bytes do not follow. -/
def faultAfter (first : UInt8 → Bool) (need : Nat) (rest : List UInt8) : Head :=
  match rest with
  | [] => .fault .truncated 0
  | b :: more =>
    if !first b then .fault .continuation 0
    else
      let good := (more.take (need - 1)).takeWhile isContinuation
      if good.length = more.length then .fault .truncated (good.length + 1)
      else .fault .continuation (good.length + 1)

/-- A character of `need` continuation bytes, of which the first must satisfy `first`. -/
def readTail (high : Nat) (first : UInt8 → Bool) (need : Nat) (rest : List UInt8) : Head :=
  let tail := rest.take need
  if tail.length = need && tail.head?.all first && tail.all isContinuation then
    .char (charOf high tail) need
  else faultAfter first need rest

/-- What stands at the head of the bytes `b :: rest`. -/
def readChar (b : UInt8) (rest : List UInt8) : Head :=
  let n := b.toNat
  if n < 0x80 then .char (Char.ofNat n) 0
  else if n < 0xC2 then .fault .start 0
  else if n < 0xE0 then readTail (n - 0xC0) isContinuation 1 rest
  else if n < 0xF0 then
    let first (c : UInt8) : Bool :=
      isContinuation c &&
        (if n = 0xE0 then 0xA0 ≤ c.toNat else if n = 0xED then c.toNat < 0xA0 else true)
    readTail (n - 0xE0) first 2 rest
  else if n < 0xF5 then
    let first (c : UInt8) : Bool :=
      isContinuation c &&
        (if n = 0xF0 then 0x90 ≤ c.toNat else if n = 0xF4 then c.toNat < 0x90 else true)
    readTail (n - 0xF0) first 3 rest
  else .fault .start 0

/-- A place where bytes are not UTF-8. -/
structure Fault where
  /-- The position of the first byte that does not fit. -/
  position : Nat
  /-- That byte. -/
  byte : UInt8
  /-- How many bytes belong to the fault. -/
  size : Nat
  /-- What is wrong. -/
  reason : Reason
deriving DecidableEq, Repr

/-- What is said about a fault: one byte is shown, several are only counted. -/
def Fault.message (f : Fault) : String :=
  let hex (n : Nat) : String := String.ofList [Nat.digitChar (n / 16), Nat.digitChar (n % 16)]
  if f.size = 1 then
    s!"'utf-8' codec can't decode byte 0x{hex f.byte.toNat} in position {f.position}: " ++
      f.reason.message
  else
    s!"'utf-8' codec can't decode bytes in position {f.position}-{f.position + f.size - 1}: " ++
      f.reason.message

/-- The text that bytes encode, where `position` bytes came before them. -/
def decodeFrom (position : Nat) : List UInt8 → Except Fault (List Char)
  | [] => .ok []
  | b :: rest =>
    match readChar b rest with
    | .char c tail => do
      let cs ← decodeFrom (position + tail + 1) (rest.drop tail)
      return c :: cs
    | .fault reason tail => .error ⟨position, b, tail + 1, reason⟩
termination_by bytes => bytes.length
decreasing_by all_goals (simp only [List.length_drop, List.length_cons]; omega)

/-- The text that bytes encode, or the first place where they are not UTF-8. -/
def decode (bytes : List UInt8) : Except Fault (List Char) :=
  decodeFrom 0 bytes

/-- The text that bytes encode, with a replacement character in the place of each fault. -/
def decodeLossy : List UInt8 → List Char
  | [] => []
  | b :: rest =>
    match readChar b rest with
    | .char c tail => c :: decodeLossy (rest.drop tail)
    | .fault _ tail => Char.ofNat 0xFFFD :: decodeLossy (rest.drop tail)
termination_by bytes => bytes.length
decreasing_by all_goals (simp only [List.length_drop, List.length_cons]; omega)

/-- The bytes that encode a string. -/
def encode (s : String) : List UInt8 :=
  s.toUTF8.toList

end DubCheck.Text.Utf8
