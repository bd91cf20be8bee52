import LineLog.Toml.Parser

/-!
# Strings

A basic string stands in double quotes and has escapes; a literal string stands
in single quotes and has none.  Three quotes begin a string that may run over
several lines; a line break directly behind them is left out, and up to two
quotes may stand directly before the three that end it.  A line break in such a
string is one line feed, however it is written.
-/

namespace LineLog.Toml

open LineLog.Toml.Parser

def hexDigit? (char : Char) : Option Nat :=
  if '0' ≤ char && char ≤ '9' then some (char.toNat - '0'.toNat)
  else if 'a' ≤ char && char ≤ 'f' then some (char.toNat - 'a'.toNat + 10)
  else if 'A' ≤ char && char ≤ 'F' then some (char.toNat - 'A'.toNat + 10)
  else none

def isHexDigit (char : Char) : Bool :=
  (hexDigit? char).isSome

/-- The value of digits in a base. -/
def valueOfDigits (base : Nat) (digits : List Char) : Nat :=
  digits.foldl (fun value digit => value * base + (hexDigit? digit).getD 0) 0

/-- The character with a number, unless the number is a surrogate or too large. -/
def charOf? (number : Nat) : Option Char :=
  if h : number.isValidChar then some (Char.ofNatAux number h) else none

/-- A character given by its number in exactly `digits` digits. -/
def numbered (digits : Nat) : Parser Char := do
  let text ← exactly (satisfy isHexDigit) digits
  ofOption (charOf? (valueOfDigits 16 text))

def escape : Parser Char := do
  char '\\'
  match ← satisfy fun _ => true with
  | 'b' => pure '\x08'
  | 't' => pure '\t'
  | 'n' => pure '\n'
  | 'f' => pure '\x0c'
  | 'r' => pure '\r'
  | '"' => pure '"'
  | '\\' => pure '\\'
  | 'u' => numbered 4
  | 'U' => numbered 8
  | _ => fail

def isBasicText (char : Char) : Bool :=
  isText char && char ≠ '"' && char ≠ '\\'

def isLiteralText (char : Char) : Bool :=
  isText char && char ≠ '\''

def basicString : Parser String := do
  char '"'
  let chars ← many (satisfy isBasicText <|> escape)
  char '"'
  pure (String.ofList chars)

def literalString : Parser String := do
  char '\''
  let chars ← many (satisfy isLiteralText)
  char '\''
  pure (String.ofList chars)

/-- A backslash at the end of a line, with all blanks and line breaks behind it. -/
def continuation : Parser Unit := do
  char '\\'
  blanks
  lineBreak
  let _ ← many ((do let _ ← satisfy isBlank) <|> lineBreak)

/-- One or two quotes that are followed by some other character. -/
def innerQuotes (quote : Char) : Parser (List Char) := do
  let quotes ← many1 (satisfy (· = quote))
  let next ← peek?
  if quotes.length ≤ 2 && next.isSome then pure quotes else fail

/-- The quotes that end a string over several lines: three, and up to two more
in front that belong to the string. -/
def closingQuotes (quote : Char) : Parser (List Char) :=
  (text [quote, quote, quote, quote, quote] *> pure [quote, quote]) <|>
  (text [quote, quote, quote, quote] *> pure [quote]) <|>
  (text [quote, quote, quote] *> pure [])

/-- A string over several lines, made of pieces that contain no quote. -/
def multiline (quote : Char) (piece : Parser (List Char)) : Parser String := do
  text [quote, quote, quote]
  let _ ← perhaps lineBreak
  let pieces ← many (piece <|> innerQuotes quote)
  let extra ← closingQuotes quote
  pure (String.ofList (pieces.flatten ++ extra))

def brokenLine : Parser (List Char) := do
  lineBreak
  pure ['\n']

def multilineBasic : Parser String :=
  multiline '"'
    ((List.singleton <$> satisfy isBasicText) <|> (continuation *> pure []) <|>
      (List.singleton <$> escape) <|> brokenLine)

def multilineLiteral : Parser String :=
  multiline '\'' ((List.singleton <$> satisfy isLiteralText) <|> brokenLine)

def string : Parser String :=
  multilineBasic <|> basicString <|> multilineLiteral <|> literalString

end LineLog.Toml
