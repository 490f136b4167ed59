import BondQuery.Number.Written
import BondQuery.Text.Hex
import BondQuery.Text.Printable

/- Why a text is no literal value. -/
namespace BondQuery.Console

inductive NumberForm where
  | decimal
  | hexadecimal
  | octal
  | binary
  | imaginary
  deriving DecidableEq, Repr

def NumberForm.name : NumberForm → String
  | decimal => "decimal"
  | hexadecimal => "hexadecimal"
  | octal => "octal"
  | binary => "binary"
  | imaginary => "imaginary"

inductive EscapeFault where
  | truncated (letter : Char) (digits : Nat)
  | tooLarge
  | malformedName
  | unknownName
  deriving DecidableEq, Repr

def EscapeFault.message : EscapeFault → String
  | truncated letter digits =>
    "truncated \\" ++ String.ofList (letter :: List.replicate digits 'X') ++ " escape"
  | tooLarge => "illegal Unicode character"
  | malformedName => "malformed \\N character escape"
  | unknownName => "unknown Unicode character name"

inductive FieldFault where
  | straySingle
  | tooDeep
  | tooManyBrackets
  | backslash
  | comment
  | unmatched (bracket : Char)
  | mismatched (closing opening : Char)
  | openText
  | noEnd
  | conversion
  | empty
  | emptyBefore (mark : Char)
  deriving DecidableEq, Repr

def FieldFault.message : FieldFault → String
  | straySingle => "f-string: single '\x7d' is not allowed"
  | tooDeep => "f-string: expressions nested too deeply"
  | tooManyBrackets => "f-string: too many nested parenthesis"
  | backslash => "f-string expression part cannot include a backslash"
  | comment => "f-string expression part cannot include '#'"
  | unmatched bracket => "f-string: unmatched '" ++ String.ofList [bracket] ++ "'"
  | mismatched closing opening =>
    "f-string: closing parenthesis '" ++ String.ofList [closing] ++
      "' does not match opening parenthesis '" ++ String.ofList [opening] ++ "'"
  | openText => "f-string: unterminated string"
  | noEnd => "f-string: expecting '\x7d'"
  | conversion => "f-string: invalid conversion character: expected 's', 'r', or 'a'"
  | empty => "f-string: empty expression not allowed"
  | emptyBefore mark => "f-string: expression required before '" ++ String.ofList [mark] ++ "'"

inductive ParameterFault where
  | lateRequired
  | parenthesized
  | nothingBeforeSlash
  | secondSlash
  | lateSlash
  | joinedStar
  | bareStar
  | starDefault
  | secondStar
  | keywordsDefault
  | afterKeywords
  | noDefault
  deriving DecidableEq, Repr

def ParameterFault.message : ParameterFault → String
  | lateRequired => "non-default argument follows default argument"
  | parenthesized => "Lambda expression parameters cannot be parenthesized"
  | nothingBeforeSlash => "at least one argument must precede /"
  | secondSlash => "/ may appear only once"
  | lateSlash => "/ must be ahead of *"
  | joinedStar => "expected comma between / and *"
  | bareStar => "named arguments must follow bare *"
  | starDefault => "var-positional argument cannot have default value"
  | secondStar => "* argument may appear only once"
  | keywordsDefault => "var-keyword argument cannot have default value"
  | afterKeywords => "arguments cannot follow var-keyword argument"
  | noDefault => "expected default value expression"

inductive LiteralFault where
  | invalid
  | nullCharacter
  | indented
  | continued
  | ended
  | neverClosed (opening : Char)
  | unmatched (closing : Char)
  | mismatched (closing opening : Char) (line : Option Nat)
  | tooDeep
  | openText (line : Nat)
  | openLongText (line : Nat)
  | number (form : NumberForm)
  | digit (digit : Char) (form : NumberForm)
  | leadingZeros
  | tooManyDigits (count : Nat)
  | character (c : Char)
  | mixedTexts
  | wideBytes
  | escape (start last : Nat) (fault : EscapeFault)
  | byteEscape (position : Nat)
  | field (fault : FieldFault)
  | withinField (fault : LiteralFault)
  | missingComma
  | missingElse
  | equalsSign
  | assigned (what : String)
  | unassignable (what : String)
  | renamed (what : String)
  | bareCall (name : String)
  | starredGroup
  | doubleStarredGroup
  | invalidStar
  | missingColon
  | missingValue
  | starredValue
  | starredComprehension
  | bareComprehension
  | doubleStarredComprehension
  | bareGenerator
  | assignedArgument
  | latePositional
  | lateAfterTable
  | lateStar
  | parameter (fault : ParameterFault)
  | unhashable (kind : String)
  | noKey
  | noValue
  deriving DecidableEq, Repr

def LiteralFault.isSyntax : LiteralFault → Bool
  | unhashable _ => false
  | noKey => false
  | noValue => false
  | _ => true

def codePoint (c : Char) : String :=
  let digits := Nat.toDigits 16 c.toNat
  "U+" ++ String.ofList ((List.replicate (4 - digits.length) '0' ++ digits).map Char.toUpper)

def LiteralFault.message : LiteralFault → String
  | invalid => "invalid syntax"
  | nullCharacter => "source code string cannot contain null bytes"
  | indented => "unexpected indent"
  | continued => "unexpected character after line continuation character"
  | ended => "unexpected EOF while parsing"
  | neverClosed opening => "'" ++ String.ofList [opening] ++ "' was never closed"
  | unmatched closing => "unmatched '" ++ String.ofList [closing] ++ "'"
  | mismatched closing opening line =>
    "closing parenthesis '" ++ String.ofList [closing] ++
      "' does not match opening parenthesis '" ++ String.ofList [opening] ++ "'" ++
      ((line.map fun n => " on line " ++ intText n).getD "")
  | tooDeep => "too many nested parentheses"
  | openText line => "unterminated string literal (detected at line " ++ intText line ++ ")"
  | openLongText line =>
    "unterminated triple-quoted string literal (detected at line " ++ intText line ++ ")"
  | number form => "invalid " ++ form.name ++ " literal"
  | digit d form =>
    "invalid digit '" ++ String.ofList [d] ++ "' in " ++ form.name ++ " literal"
  | leadingZeros => "leading zeros in decimal integer literals are not permitted; " ++
      "use an 0o prefix for octal integers"
  | tooManyDigits count =>
    "Exceeds the limit (4300 digits) for integer string conversion: value has " ++
      intText count ++ " digits; use sys.set_int_max_str_digits() to increase the limit" ++
      " - Consider hexadecimal for huge integer literals to avoid decimal conversion limits."
  | character c =>
    if Text.isPrintable c then
      "invalid character '" ++ String.ofList [c] ++ "' (" ++ codePoint c ++ ")"
    else "invalid non-printable character " ++ codePoint c
  | mixedTexts => "cannot mix bytes and nonbytes literals"
  | wideBytes => "bytes can only contain ASCII literal characters"
  | escape start last fault =>
    "(unicode error) 'unicodeescape' codec can't decode bytes in position " ++
      intText start ++ "-" ++ intText last ++ ": " ++ fault.message
  | byteEscape position => "(value error) invalid \\x escape at position " ++ intText position
  | field fault => fault.message
  | withinField fault => "f-string: " ++ fault.message
  | missingComma => "invalid syntax. Perhaps you forgot a comma?"
  | missingElse => "expected 'else' after 'if' expression"
  | equalsSign => "invalid syntax. Maybe you meant '==' or ':=' instead of '='?"
  | assigned what => "cannot assign to " ++ what ++ " here. Maybe you meant '==' instead of '='?"
  | unassignable what => "cannot assign to " ++ what
  | renamed what => "cannot use assignment expressions with " ++ what
  | bareCall name =>
    "Missing parentheses in call to '" ++ name ++ "'. Did you mean " ++ name ++ "(...)?"
  | starredGroup => "cannot use starred expression here"
  | doubleStarredGroup => "cannot use double starred expression here"
  | invalidStar => "Invalid star expression"
  | missingColon => "':' expected after dictionary key"
  | missingValue => "expression expected after dictionary key and ':'"
  | starredValue => "cannot use a starred expression in a dictionary value"
  | starredComprehension => "iterable unpacking cannot be used in comprehension"
  | bareComprehension => "did you forget parentheses around the comprehension target?"
  | doubleStarredComprehension => "dict unpacking cannot be used in dict comprehension"
  | bareGenerator => "Generator expression must be parenthesized"
  | assignedArgument => "expression cannot contain assignment, perhaps you meant \"==\"?"
  | latePositional => "positional argument follows keyword argument"
  | lateAfterTable => "positional argument follows keyword argument unpacking"
  | lateStar => "iterable argument unpacking follows keyword argument unpacking"
  | parameter fault => fault.message
  | unhashable kind => "unhashable type: '" ++ kind ++ "'"
  | noKey => "malformed node or string: None"
  | noValue => "malformed node or string"

end BondQuery.Console
