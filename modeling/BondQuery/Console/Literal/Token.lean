import BondQuery.Console.Literal.Fault
import BondQuery.Text.Name

/- Tokens of a literal value: names, numbers, texts in quotes, and marks. -/
namespace BondQuery.Console.Literal

structure Quoted where
  bytes : Bool
  filled : Bool
  raw : Bool
  body : List Char
  deriving DecidableEq, Repr

structure Bracket where
  opening : Char
  line : Nat
  deriving DecidableEq, Repr

/-- Tokens. The text cannot be split behind a `halt`, within the given brackets. A loud one counts
    even where no reading gets to it. -/
inductive Token where
  | name (text : String)
  | number (imaginary : Bool) (excess : Option Nat)
  | text (quoted : Quoted)
  | mark (text : String)
  | newline
  | indent
  | finish
  | halt (fault : LiteralFault) (loud : Bool) (within : List Bracket)
  deriving DecidableEq, Repr

/-- A token with its line, how many brackets are open behind it, and whether the end of the text
    was met in reading it. -/
structure Placed where
  token : Token
  line : Nat
  depth : Nat
  last : Bool

def isNameChar (c : Char) : Bool :=
  Text.isAsciiWord c || 0x80 ≤ c.toNat

def digitNext (cs : List Char) : Bool :=
  cs.head?.any Char.isDigit

/-- Words that may follow a number without a blank: these have to end there, -/
def wordsBehindNumbers : List (List Char) :=
  ["and", "else", "for", "or", "not"].map String.toList

/-- and these may be the beginning of a longer one. -/
def beginningsBehindNumbers : List (List Char) :=
  ["if", "in", "is"].map String.toList

def followsNumber (cs : List Char) : Bool :=
  beginningsBehindNumbers.any (·.isPrefixOf cs) ||
    wordsBehindNumbers.any fun word => word.isPrefixOf cs && !(cs.drop word.length).head?.any isNameChar

def endNumber (form : NumberForm) (cs : List Char) : Except LiteralFault (List Char) :=
  if followsNumber cs || !cs.head?.any Text.isAsciiWord then .ok cs else .error (.number form)

def skipDigits : List Char → Except LiteralFault (List Char)
  | [] => .ok []
  | '_' :: rest => if digitNext rest then skipDigits rest else .error (.number .decimal)
  | c :: rest => if c.isDigit then skipDigits rest else .ok (c :: rest)

def skipZeros : List Char → Except LiteralFault (List Char)
  | [] => .ok []
  | '_' :: rest => if digitNext rest then skipZeros rest else .error (.number .decimal)
  | '0' :: rest => skipZeros rest
  | cs => .ok cs

def isDigitOf (form : NumberForm) (c : Char) : Bool :=
  match form with
  | .hexadecimal => (Text.hexValue? c).isSome
  | .octal => '0' ≤ c && c ≤ '7'
  | .binary => c == '0' || c == '1'
  | _ => c.isDigit

def skipBaseDigits (form : NumberForm) (digitBefore : Bool) :
    List Char → Except LiteralFault (List Char)
  | '_' :: rest =>
    if rest.head?.any (isDigitOf form) then skipBaseDigits form false rest
    else match rest with
      | d :: _ => .error (if d.isDigit && form != .hexadecimal then .digit d form else .number form)
      | [] => .error (.number form)
  | c :: rest =>
    if isDigitOf form c then skipBaseDigits form true rest
    else if c.isDigit && form != .hexadecimal then .error (.digit c form)
    else if digitBefore then endNumber form (c :: rest)
    else .error (.number form)
  | [] => if digitBefore then .ok [] else .error (.number form)

def sameLetter (small c : Char) : Bool :=
  c.toLower == small

def scanSuffix (cs : List Char) : Except LiteralFault (Bool × List Char) :=
  match cs with
  | c :: rest =>
    if sameLetter 'j' c then (endNumber .imaginary rest).map (true, ·)
    else (endNumber .decimal cs).map (false, ·)
  | [] => .ok (false, [])

def scanExponent (cs : List Char) : Except LiteralFault (Bool × List Char) :=
  match cs with
  | c :: rest =>
    if sameLetter 'e' c then
      match rest with
      | sign :: digits =>
        if sign == '+' || sign == '-' then do
          if digitNext digits then scanSuffix (← skipDigits digits) else throw (.number .decimal)
        else if sign.isDigit then do scanSuffix (← skipDigits rest)
        else (endNumber .decimal cs).map (false, ·)
      | [] => (endNumber .decimal cs).map (false, ·)
    else scanSuffix cs
  | [] => .ok (false, [])

def scanFraction (cs : List Char) : Except LiteralFault (Bool × List Char) :=
  match cs with
  | '.' :: rest => do scanExponent (← if digitNext rest then skipDigits rest else pure rest)
  | _ => scanExponent cs

def leavesWhole (cs : List Char) : Bool :=
  cs.head?.any fun c => c == '.' || sameLetter 'e' c || sameLetter 'j' c

/-- A number, true if it is imaginary. Only zero itself may begin with a zero. -/
def scanNumber (cs : List Char) : Except LiteralFault (Bool × List Char) :=
  match cs with
  | '0' :: rest =>
    let based (form : NumberForm) := (skipBaseDigits form false (rest.drop 1)).map (false, ·)
    match rest.head?.map Char.toLower with
    | some 'x' => based .hexadecimal
    | some 'o' => based .octal
    | some 'b' => based .binary
    | _ => do
      let behind ← skipZeros rest
      let more ← skipDigits behind
      if leavesWhole more then scanFraction more
      else if digitNext behind then throw .leadingZeros
      else scanSuffix more
  | '.' :: _ => scanFraction cs
  | _ => do scanFraction (← skipDigits cs)

def textMarks : List (List Char) :=
  ["r", "b", "u", "f", "br", "rb", "fr", "rf"].map String.toList

def takeText? (long : Bool) (quote : Char) : List Char → Option (List Char × List Char)
  | [] => none
  -- a backslash takes the next character with it, be it a quotation mark or a line end
  | '\\' :: c :: rest => (takeText? long quote rest).map fun (body, behind) => ('\\' :: c :: body, behind)
  | c :: rest =>
    if c == quote && (!long || [quote, quote].isPrefixOf rest) then
      some ([], if long then rest.drop 2 else rest)
    else if c == '\n' && !long then none
    else (takeText? long quote rest).map fun (body, behind) => (c :: body, behind)

def openLine (long : Bool) (line : Nat) : List Char → Nat
  | [] => line
  | '\\' :: c :: rest => openLine long (if c == '\n' then line + 1 else line) rest
  | c :: rest =>
    if c == '\n' then (if long then openLine long (line + 1) rest else line)
    else openLine long line rest

def scanText (line : Nat) (quote : Char) (cs : List Char) :
    Except LiteralFault (Bool × List Char × List Char) :=
  let long := [quote, quote].isPrefixOf cs
  let inside := if long then cs.drop 2 else cs
  match takeText? long quote inside with
  | some r => .ok (long, r)
  | none =>
    let last := openLine long line inside
    .error (if long then .openLongText last else .openText last)

def longMarks : List String := [
  "...", "**=", "//=", ">>=", "<<=", "**", "//", ">>", "<<", "<=", ">=", "==", "!=", "<>", "->",
  "+=", "-=", "*=", "/=", "%=", "&=", "|=", "^=", "@=", ":="]

/-- A mark of so many characters is complete without a look at what follows. -/
def longestMark : Nat := 3

def bracketPairs : List (Char × Char) := [(')', '('), ('\x7d', '\x7b'), (']', '[')]

def maxBrackets : Nat := 200

def bracketsAfter (brackets : List Bracket) (line : Nat) (c : Char) :
    Except LiteralFault (List Bracket) :=
  if bracketPairs.any (·.2 == c) then
    if brackets.length ≥ maxBrackets then .error .tooDeep else .ok (⟨c, line⟩ :: brackets)
  else match bracketPairs.lookup c, brackets with
    | none, _ => .ok brackets
    | some _, [] => .error (.unmatched c)
    | some wanted, latest :: before =>
      if latest.opening == wanted then .ok before
      else .error (.mismatched c latest.opening
        (if latest.line = line then none else some latest.line))

def checkName (name : List Char) : Except LiteralFault Unit :=
  match Text.badNameChar? name with
  | some bad => .error (.character bad)
  | none => .ok ()

structure Margin where
  wide : Nat
  narrow : Nat
  deriving DecidableEq, Repr

def Margin.none : Margin := ⟨0, 0⟩

/-- The blanks before a line: the line they end on, their margin, and the text behind them. If the
    line is continued within them, the margin is that of its first part that is set in. -/
def scanMargin (line : Nat) (margin held : Margin) (cs : List Char) :
    Except LiteralFault (Nat × Margin × List Char) :=
  match cs with
  | ' ' :: rest => scanMargin line ⟨margin.wide + 1, margin.narrow + 1⟩ held rest
  | '\t' :: rest => scanMargin line ⟨(margin.wide / 8 + 1) * 8, margin.narrow + 1⟩ held rest
  | '\x0c' :: rest => scanMargin line .none held rest
  | ['\\', '\n'] => .error .ended
  | '\\' :: '\n' :: rest =>
    scanMargin (line + 1) margin
      (if held = .none then ⟨margin.wide, margin.wide⟩ else held) rest
  | '\\' :: _ => .error .continued
  | cs => .ok (line, if held = .none then margin else held, cs)

/-- The margins of the lines around a new one, latest first, and whether it is set in deeper. None
    if its margin is that of no line around it. -/
def setIn? (margins : List Margin) (new : Margin) : Option (Bool × List Margin) :=
  match margins with
  | [] => if new = .none then some (false, []) else some (true, [new])
  | latest :: _ =>
    if new.wide = latest.wide then
      if new.narrow = latest.narrow then some (false, margins) else none
    else if latest.wide < new.wide then
      if new.narrow ≤ latest.narrow then none else some (true, new :: margins)
    else match margins.dropWhile (new.wide < ·.wide) with
      | [] => if new = .none then some (false, []) else none
      | outer :: further => if outer = new then some (false, outer :: further) else none

structure Standing where
  line : Nat
  brackets : List Bracket
  margins : List Margin

def Standing.start : Standing := ⟨1, [], []⟩

def Standing.nextLine (s : Standing) : Standing :=
  { s with line := s.line + 1 }

def Standing.place (s : Standing) (token : Token) (last : Bool) : Placed :=
  ⟨token, s.line, s.brackets.length, last⟩

def Standing.halt (s : Standing) (fault : LiteralFault) (loud : Bool) : List Placed :=
  [s.place (.halt fault loud s.brackets) true]

def Standing.finish (s : Standing) : List Placed :=
  match s.brackets with
  | [] => [s.place .finish true]
  | latest :: _ => s.halt (.neverClosed latest.opening) false

def maxDigits : Nat := 4300

def excess? (spelling : List Char) : Option Nat :=
  let digits := (spelling.filter (· != '_')).length
  if spelling.all (fun c => c.isDigit || c == '_') && spelling.head? != some '0' &&
    maxDigits < digits then some digits else none

def scanToken (line : Nat) (cs : List Char) : Except LiteralFault (Token × Nat × Bool × List Char) :=
  let quoted (bytes filled raw : Bool) (quote : Char) (inside : List Char) := do
    let (long, body, behind) ← scanText line quote inside
    let last := !long && body.isEmpty && behind.isEmpty
    return (Token.text ⟨bytes, filled, raw, body⟩, body.count '\n', last, behind)
  match cs with
  | [] => .ok (.finish, 0, true, [])
  | c :: rest =>
    if c.isDigit || (c == '.' && digitNext rest) then do
      let (imaginary, behind) ← scanNumber cs
      let spelling := cs.take (cs.length - behind.length)
      return (.number imaginary (excess? spelling), 0, behind.isEmpty, behind)
    else if c == '"' || c == '\'' then quoted false false false c rest
    else if isNameChar c then
      let name := cs.takeWhile isNameChar
      let behind := cs.drop name.length
      let marks := name.map Char.toLower
      let plain := do
        checkName name
        return (Token.name (String.ofList name), 0, behind.isEmpty, behind)
      match behind with
      | quote :: inside =>
        if (quote == '"' || quote == '\'') && textMarks.contains marks then
          quoted (marks.contains 'b') (marks.contains 'f') (marks.contains 'r') quote inside
        else plain
      | [] => plain
    else match longMarks.find? (·.toList.isPrefixOf cs) with
      | some mark =>
        let behind := cs.drop mark.length
        .ok (.mark mark, 0, mark.length ≠ longestMark && behind.isEmpty, behind)
      | none =>
        if Text.isPrintable c then .ok (.mark (String.ofList [c]), 0, rest.isEmpty, rest)
        else .error (.character c)

/-- All tokens of a text; a new line has its margin looked at. There are at most two steps for each
    character. -/
def tokens (fuel : Nat) (new : Bool) (s : Standing) (cs : List Char) : List Placed :=
  match fuel with
  | 0 => s.finish
  | fuel + 1 =>
    if new && s.brackets.isEmpty then
      match scanMargin s.line .none .none cs with
      | .error fault => s.halt fault false
      | .ok (line, margin, rest) =>
        let s := { s with line := line }
        match rest with
        | [] => s.finish
        | '\n' :: more => tokens fuel true s.nextLine more
        | '#' :: more =>
          match more.dropWhile (· != '\n') with
          | [] => s.finish
          | _ :: next => tokens fuel true s.nextLine next
        | _ =>
          match setIn? s.margins margin with
          | none => s.halt .invalid false
          | some (deeper, margins) =>
            let s := { s with margins := margins }
            if deeper then s.place .indent false :: tokens fuel false s rest
            else tokens fuel false s rest
    else
      match cs with
      | [] => s.finish
      | '\n' :: rest =>
        if s.brackets.isEmpty then s.place .newline false :: tokens fuel true s.nextLine rest
        else tokens fuel false s.nextLine rest
      | ['\\', '\n'] =>
        match s.brackets with
        | [] => s.halt .ended false
        | _ => s.finish
      | '\\' :: '\n' :: rest => tokens fuel false s.nextLine rest
      | '\\' :: _ => s.halt .continued false
      | '#' :: rest => tokens fuel false s (rest.dropWhile (· != '\n'))
      | c :: rest =>
        if c == ' ' || c == '\t' || c == '\x0c' then tokens fuel false s rest
        else match scanToken s.line cs with
          | .error fault => s.halt fault true
          | .ok (token, lines, last, behind) =>
            match bracketsAfter s.brackets s.line c with
            | .error fault => s.halt fault true
            | .ok brackets =>
              let s := { s with brackets := brackets }
              s.place token last :: tokens fuel false { s with line := s.line + lines } behind

def withLineFeeds : List Char → List Char
  | '\x0d' :: '\n' :: rest => '\n' :: withLineFeeds rest
  | '\x0d' :: rest => '\n' :: withLineFeeds rest
  | c :: rest => c :: withLineFeeds rest
  | [] => []

def split (cs : List Char) : List Placed :=
  tokens (2 * cs.length + 2) true .start (withLineFeeds cs)

end BondQuery.Console.Literal
