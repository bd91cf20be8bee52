/-!
# Byte strings

Messages, records, file contents and file names are plain lists of bytes.  A
record ends in one newline byte.  A byte string that has to be shown as text is
read as UTF-8; `lossy` replaces every maximal ill-formed piece by U+FFFD, so
every byte string has a text.
-/

namespace LineLog

abbrev Byte := UInt8

abbrev Bytes := List Byte

/-- The byte that ends a record. -/
def newline : Byte := 10

/-- The separator of path components. -/
def slash : Byte := 47

def dot : Byte := 46

namespace Bytes

def ofString (text : String) : Bytes :=
  text.toUTF8.data.toList

/-- The text whose UTF-8 encoding is `bytes`, if there is one. -/
def text? (bytes : Bytes) : Option String :=
  String.fromUTF8? ⟨bytes.toArray⟩

/-- The pieces that end behind each newline, and the rest if it is not empty. -/
def records (bytes : Bytes) : List Bytes :=
  bytes.foldr (fun byte pieces =>
    if byte = newline then [byte] :: pieces
    else
      match pieces with
      | [] => [[byte]]
      | piece :: others => (byte :: piece) :: others) []

/-- What the front of a byte string is when it is read as UTF-8. -/
inductive Front where
  | char (value : Char)
  | illFormed

/-- The bounds for the byte after the lead byte and the number of bytes after
the lead byte, for a lead byte of two or more.  The bounds exclude overlong
forms, surrogates and values above U+10FFFF. -/
def continuation? (lead : Byte) : Option (Byte × Byte × Nat) :=
  if 0xC2 ≤ lead && lead ≤ 0xDF then some (0x80, 0xBF, 1)
  else if lead = 0xE0 then some (0xA0, 0xBF, 2)
  else if lead = 0xED then some (0x80, 0x9F, 2)
  else if 0xE1 ≤ lead && lead ≤ 0xEF then some (0x80, 0xBF, 2)
  else if lead = 0xF0 then some (0x90, 0xBF, 3)
  else if 0xF1 ≤ lead && lead ≤ 0xF3 then some (0x80, 0xBF, 3)
  else if lead = 0xF4 then some (0x80, 0x8F, 3)
  else none

/-- Reads `count` more bytes of a sequence, the first of them between `low` and
`high` and the others any continuation byte, accumulating the code point.  On
failure the bytes that did fit are already gone from the rest. -/
def sequence (low high : Byte) : Nat → Nat → Bytes → Front × Bytes
  | 0, value, rest => (.char (Char.ofNat value), rest)
  | _ + 1, _, [] => (.illFormed, [])
  | count + 1, value, byte :: rest =>
      if low ≤ byte && byte ≤ high then
        sequence 0x80 0xBF count (value * 64 + byte.toNat % 64) rest
      else (.illFormed, byte :: rest)

/-- The character at the front, or the ill-formed piece there, and the rest. -/
def front (lead : Byte) (rest : Bytes) : Front × Bytes :=
  if lead < 0x80 then (.char (Char.ofNat lead.toNat), rest)
  else
    match continuation? lead with
    | none => (.illFormed, rest)
    | some (low, high, count) =>
        let mask := if count = 1 then 32 else if count = 2 then 16 else 8
        sequence low high count (lead.toNat % mask) rest

theorem sequence_length_le (low high : Byte) (count value : Nat) (rest : Bytes) :
    (sequence low high count value rest).2.length ≤ rest.length := by
  induction count generalizing low high value rest with
  | zero => simp [sequence]
  | succ count ih =>
      cases rest with
      | nil => simp [sequence]
      | cons byte rest =>
          unfold sequence
          split
          · have := ih 0x80 0xBF (value * 64 + byte.toNat % 64) rest
            simp only [List.length_cons]
            omega
          · simp

theorem front_length_le (lead : Byte) (rest : Bytes) :
    (front lead rest).2.length ≤ rest.length := by
  unfold front
  split
  · simp
  · split
    · simp
    · exact sequence_length_le _ _ _ _ _

/-- The text of a byte string, with U+FFFD for each maximal ill-formed piece. -/
def lossyChars : Bytes → List Char
  | [] => []
  | lead :: rest =>
      have := front_length_le lead rest
      (match (front lead rest).1 with
        | .char value => value
        | .illFormed => '\uFFFD') :: lossyChars (front lead rest).2
termination_by bytes => bytes.length
decreasing_by simp only [List.length_cons]; omega

def lossy (bytes : Bytes) : String :=
  String.ofList (lossyChars bytes)

end Bytes

end LineLog
