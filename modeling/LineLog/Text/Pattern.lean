import LineLog.Text.Pattern.Expression

/-!
# Patterns

A value may be described by a number, a truth value or a regular expression.
Only whether a text is such a description matters here, not what it matches.  A
truth value, a number without a sign and one with a minus sign are expressions
anyway.
-/

namespace LineLog.Text.Pattern

/-- Whether a text is a decimal number: digits, perhaps with a point among them,
and perhaps an exponent with a sign. -/
def isNumber (text : List Char) : Bool :=
  let isPlain (char : Char) : Bool := char.isDigit || char = '.'
  let mantissa := text.takeWhile isPlain
  let exponent :=
    match text.drop mantissa.length with
    | [] => true
    | mark :: digits =>
        let digits :=
          match digits with
          | '+' :: digits | '-' :: digits => digits
          | digits => digits
        (mark = 'e' || mark = 'E') && digits ≠ [] && digits.all Char.isDigit
  mantissa.any Char.isDigit && mantissa.count '.' ≤ 1 && exponent

/-- Whether a text is a number with a plus sign in front. -/
def isSignedNumber : List Char → Bool
  | '+' :: rest =>
      ["inf", "infinity", "nan"].contains (String.ofList (rest.map Char.toLower)) || isNumber rest
  | _ => false

/-- Whether a text describes values. -/
def isValid (text : String) : Bool :=
  isSignedNumber text.toList || isExpression text.toList

end LineLog.Text.Pattern
