import LineLog.Toml.Scalars

/-!
# Statements of a document

A document is a sequence of lines that are empty, assign a value to a key, or
begin a table.  A key is a sequence of names with dots between them.  Arrays may
run over several lines and may end in a comma; tables between braces stand on
one line and may not.  Keys have fewer than eighty names, and values are nested
less than eighty deep.
-/

namespace LineLog.Toml

open LineLog.Toml.Parser

/-- The bound on the names of a key and on the nesting of values. -/
def depthLimit : Nat := 80

inductive Statement where
  | assign (path : List Key) (key : Key) (value : Value)
  /-- The header of a table, or with `repeated` of the next of several tables. -/
  | header (repeated : Bool) (path : List Key) (key : Key) (span : Span)

def isNameChar (char : Char) : Bool :=
  char.isAlphanum || char = '-' || char = '_'

def name : Parser String :=
  basicString <|> literalString <|> (String.ofList <$> many1 (satisfy isNameChar))

/-- The names of a key, with blanks around each of them: those that lead to the
table, and the last. -/
def keyPath : Parser (List Key × Key) := do
  let keys ← separated1 (do
    blanks
    let (name, span) ← spanned name
    blanks
    pure (⟨name, span⟩ : Key)) (char '.')
  match keys.getLast? with
  | some last => if keys.length < depthLimit then pure (keys.dropLast, last) else fail
  | none => fail

/-- Assigns a value in a table between braces, through the tables that its
dotted key names.  Those come about by dotted keys only. -/
def assignInline (key : Key) (value : Value) (entries : Entries) : List Key → Option Entries
  | [] => Entries.add? key value entries
  | first :: rest =>
      match Entries.get? first.name entries with
      | none => do
          let inner ← assignInline key value [] rest
          some (Entries.put first (.table .inlineDotted none inner) entries)
      | some (.table .inlineDotted span inner) => do
          let inner ← assignInline key value inner rest
          some (Entries.put first (.table .inlineDotted span inner) entries)
      | some _ => none

/-- The entries of a table between braces, from its assignments in order. -/
def inlineEntries? (assignments : List ((List Key × Key) × Value)) : Option Entries :=
  assignments.foldlM
    (fun entries ((path, key), value) => assignInline key value entries path) []

def scalar : Parser Value := do
  match ← peek? with
  | some '"' | some '\'' => do
      let (text, span) ← spanned string
      pure (.string span text)
  | some 't' | some 'f' => do
      let (flag, span) ← spanned boolean
      pure (.boolean span flag)
  | _ =>
      (do
        let (moment, span) ← spanned dateTime
        pure (.dateTime span moment)) <|>
      (do
        let (number, span) ← spanned float
        pure (.float span number)) <|>
      (do
        let (number, span) ← spanned integer
        pure (.integer span number))

def arrayOf (item : Parser Value) : Parser Value := do
  let (items, span) ← spanned do
    char '['
    let items ← separated (filler *> item <* filler) (char ',')
    if !items.isEmpty then
      let _ ← perhaps (char ',')
    filler
    char ']'
    pure items
  pure (.array span items)

def inlineTableOf (item : Parser Value) : Parser Value := do
  let (entries, span) ← spanned do
    char '\x7b'
    let assignments ← separated (do
      let path ← keyPath
      char '='
      blanks
      let value ← item
      blanks
      pure (path, value)) (char ',')
    blanks
    char '\x7d'
    ofOption (inlineEntries? assignments)
  pure (.table .inline (some span) entries)

/-- A value with at most `depth` arrays and tables around its innermost part. -/
def value : Nat → Parser Value
  | 0 => scalar
  | depth + 1 => do
      match ← peek? with
      | some '[' => arrayOf (value depth)
      | some '\x7b' => inlineTableOf (value depth)
      | _ => scalar

def assignment : Parser Statement := do
  let (path, key) ← keyPath
  char '='
  blanks
  let value ← value (depthLimit - 1)
  lineRest
  pure (.assign path key value)

def header : Parser Statement := do
  let ((repeated, path, key), span) ← spanned do
    let repeated ← (text ['[', '['] *> pure true) <|> (text ['['] *> pure false)
    let (path, key) ← keyPath
    text (if repeated then [']', ']'] else [']'])
    pure (repeated, path, key)
  lineRest
  pure (.header repeated path key span)

/-- One line of a document, or one statement if it runs over several. -/
def line : Parser (List Statement) := do
  let statements ←
    match ← peek? with
    | some '#' => (do
        comment
        lineEnd
        pure [])
    | some '[' => List.singleton <$> header
    | some '\n' | some '\r' => lineBreak *> pure []
    | _ => List.singleton <$> assignment
  blanks
  pure statements

/-- The mark that may stand in front of a text. -/
def byteOrderMark : Char := '\uFEFF'

def document : Parser (List Statement) := do
  let _ ← perhaps (char byteOrderMark)
  blanks
  let lines ← many line
  atEnd
  pure lines.flatten

end LineLog.Toml
