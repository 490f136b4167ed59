import BondQuery.Bond.SyntaxError
import BondQuery.Console.Literal.Fault

/- Everything that can go wrong, by its cause. The wording is in one place. -/
namespace BondQuery

inductive CalendarFault where
  | unreadable (text : String)
  | month
  | day
  | year (year : Nat)
  | hour
  | minute
  | second
  | offset (microseconds : Int)
  deriving DecidableEq, Repr

inductive ValueFault where
  | noInteger (text : String)
  | tooManyDigits (count : Nat)
  | noNumber (text : String)
  | calendar (fault : CalendarFault)
  deriving DecidableEq, Repr

inductive AssemblyFault where
  | finalized
  | separatorOutside
  | separatorWithoutClause
  | missingSeparator
  | nothingToClose
  | trailingSeparator
  | leftOpen (groups : Nat)
  | severalRoots (roots : Nat)
  deriving DecidableEq, Repr

inductive SettingFault where
  | noTable
  | noString
  | noStringList
  | noBoolean
  | noNumber
  | belowOne
  deriving DecidableEq, Repr

inductive MarkupFault where
  | unopened (tag : String) (position : Nat)
  | nothingToClose (position : Nat)
  | badParameters (literal parameters : String) (fault : Console.LiteralFault)
  deriving DecidableEq, Repr

inductive Error where
  | syntaxError (error : Syntax.SyntaxError)
  | arity (fault : ArityFault)
  | value (field text : String) (fault : ValueFault)
  | unsupportedOperator (operator : Operator) (field : String)
  | unsupportedRelation (operator : Operator)
  | assembly (fault : AssemblyFault)
  | discovery (field detail : String)
  | configText (path detail : String)
  | setting (key : String) (fault : SettingFault)
  | lowWeight (name weight : String)
  | levelOutOfRange (level : Int)
  | valuesMissing
  | reservedField
  | integerTooLarge
  | integerTooLong
  | digitsTooMany (count : Nat)
  | infiniteToInteger
  | nanToInteger
  | markup (fault : MarkupFault)
  | colour (fault : ValueFault)
  | isDirectory (path : String)
  | fileExists (path : String)
  | notDirectory (path : String)
  | nameTooLong (path : String)
  | noHome
  | nullCharacter
  deriving DecidableEq, Repr

/-- A span of time as messages show it: whole days first, so only they can be negative. -/
def spanText (microseconds : Int) : String :=
  let perDay : Int := 86400000000
  let days := Int.fdiv microseconds perDay
  let left := Int.fmod microseconds perDay
  let part (name : String) (n : Int) : List String :=
    if n = 0 then [] else [name ++ "=" ++ intText n]
  let parts := part "days" days ++ part "seconds" (left / 1000000) ++
    part "microseconds" (left % 1000000)
  "datetime.timedelta(" ++ (if parts.isEmpty then "0" else ", ".intercalate parts) ++ ")"

def CalendarFault.message : CalendarFault → String
  | unreadable text => "Invalid isoformat string: " ++ Text.quoted text
  | month => "month must be in 1..12"
  | day => "day is out of range for month"
  | year n => "year " ++ intText n ++ " is out of range"
  | hour => "hour must be in 0..23"
  | minute => "minute must be in 0..59"
  | second => "second must be in 0..59"
  | offset microseconds =>
    "offset must be a timedelta strictly between -timedelta(hours=24) and timedelta(hours=24), not " ++
      spanText microseconds ++ "."

def digitLimit : String :=
  "Exceeds the limit (" ++ intText maxDigits ++ " digits) for integer string conversion"

def digitLimitHint : String :=
  "; use sys.set_int_max_str_digits() to increase the limit"

def ValueFault.message : ValueFault → String
  | noInteger text =>
    "invalid literal for int() with base 10: " ++ String.ofList ((Text.quoted text).toList.take 200)
  | tooManyDigits count => digitLimit ++ ": value has " ++ intText count ++ " digits" ++ digitLimitHint
  | noNumber text => "could not convert string to float: " ++ Text.quoted text
  | calendar fault => fault.message

def AssemblyFault.message : AssemblyFault → String
  | finalized => "builder already finalized"
  | separatorOutside => "separator outside of a group"
  | separatorWithoutClause => "separator must follow a clause"
  | missingSeparator => "sibling clauses must be delimited by a separator"
  | nothingToClose => "closing tag without an open group"
  | trailingSeparator => "trailing separator before closing tag"
  | leftOpen groups => intText groups ++ " group(s) left open"
  | severalRoots roots => intText roots ++ " top-level queries, expected one"

def SettingFault.message : SettingFault → String
  | noTable => "must be a table"
  | noString => "must be a string"
  | noStringList => "must be a list of strings"
  | noBoolean => "must be a boolean"
  | noNumber => "must be a number"
  | belowOne => "must be >= 1"

def ArityFault.message : ArityFault → String
  | notExactlyOne => "NOT bond takes exactly one operand"
  | noOperand connective => connective.name ++ " bond needs at least one operand"

def MarkupFault.message : MarkupFault → String
  | unopened tag position =>
    "closing tag '" ++ tag ++ "' at position " ++ intText position ++ " doesn't match any open tag"
  | nothingToClose position =>
    "closing tag '[/]' at position " ++ intText position ++ " has nothing to close"
  | badParameters literal parameters fault =>
    "error parsing " ++
      (if fault.isSyntax then Text.quoted literal ++ " in " ++ Text.quoted parameters
        else Text.quoted parameters) ++ "; " ++ fault.message

def Error.message : Error → String
  | syntaxError error => error.message
  | arity fault => fault.message
  | value field text fault =>
    "Invalid value " ++ Text.quoted text ++ " for field " ++ field ++ ": " ++ fault.message
  | unsupportedOperator operator field =>
    "Operator " ++ operator.name ++ " not supported for field " ++ field
  | unsupportedRelation operator =>
    "Spatial operator " ++ operator.name ++ " has no supported shape relation"
  | assembly fault => "Malformed query assembly: " ++ fault.message
  | discovery field detail => "Failed to find extremum of " ++ field ++ ": " ++ detail
  | configText path detail => "Invalid config at " ++ path ++ ": " ++ detail
  | setting key fault => "Invalid config value for '" ++ key ++ "': " ++ fault.message
  | lowWeight name weight => "Weight for " ++ name ++ " must be >= 1, got " ++ weight
  | levelOutOfRange level => "Level " ++ intText level ++ " outside 1..5"
  | valuesMissing => "values are required when field is given"
  | reservedField => "DslBase.__init__() got multiple values for argument 'self'"
  | integerTooLarge => "int too large to convert to float"
  | integerTooLong => digitLimit ++ digitLimitHint
  | digitsTooMany count => (ValueFault.tooManyDigits count).message
  | infiniteToInteger => "cannot convert float infinity to integer"
  | nanToInteger => "cannot convert float NaN to integer"
  | markup fault => fault.message
  | colour fault => fault.message
  | isDirectory path => "[Errno 21] Is a directory: " ++ Text.quoted path
  | fileExists path => "[Errno 17] File exists: " ++ Text.quoted path
  | notDirectory path => "[Errno 20] Not a directory: " ++ Text.quoted path
  | nameTooLong path => "[Errno 36] File name too long: " ++ Text.quoted path
  | noHome => "Could not determine home directory."
  | nullCharacter => "embedded null byte"

end BondQuery
