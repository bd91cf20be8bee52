import LineLog.Bytes
import LineLog.Text.Glyph

/-!
# Quoted text

Text that a message quotes stands in double quotes.  Quotes and backslashes in
it have a backslash in front, common controls have a letter, and every other
character without a glyph of its own is written by its number.  In a byte string
bytes that are no text are written by their numbers.
-/

namespace LineLog.Text

def hexDigits (char : Char) : List Char :=
  Nat.toDigits 16 char.toNat

/-- How a character is written between the quotes. -/
def quotedChar (char : Char) : List Char :=
  match char with
  | '\x00' => ['\\', '0']
  | '\t' => ['\\', 't']
  | '\n' => ['\\', 'n']
  | '\r' => ['\\', 'r']
  | '"' => ['\\', '"']
  | '\\' => ['\\', '\\']
  | _ =>
      if isShown char then [char]
      else ['\\', 'u', '\x7b'] ++ hexDigits char ++ ['\x7d']

def quoted (text : String) : String :=
  String.ofList ('"' :: text.toList.flatMap quotedChar ++ ['"'])

/-- The number of a byte as two hexadecimal digits. -/
def quotedByte (byte : Byte) : List Char :=
  let digits := (Nat.toDigits 16 byte.toNat).map Char.toUpper
  ['\\', 'x'] ++ List.replicate (2 - digits.length) '0' ++ digits

/-- How the bytes of a byte string are written between the quotes. -/
def quotedFrom : Bytes → List Char
  | [] => []
  | lead :: rest =>
      have := Bytes.front_length_le lead rest
      (match (Bytes.front lead rest).1 with
        | .char char => quotedChar char
        | .illFormed =>
            (lead :: rest.take (rest.length - (Bytes.front lead rest).2.length)).flatMap
              quotedByte) ++
        quotedFrom (Bytes.front lead rest).2
termination_by bytes => bytes.length
decreasing_by simp only [List.length_cons]; omega

def quotedBytes (bytes : Bytes) : String :=
  String.ofList ('"' :: quotedFrom bytes ++ ['"'])

end LineLog.Text
