import BondQuery.Console.Literal.Grammar

/- Whether a text is a literal value. When it is no expression, a second reading looks for a likely
   reason; but what keeps the text from being split into tokens comes first. -/
namespace BondQuery.Console.Literal

def depthPerToken : Nat := 24

def faultBehind? (line : Nat) (unseen : List Placed) : Option LiteralFault :=
  unseen.findSome? fun placed =>
    match placed.token with
    | .halt fault loud within =>
      if loud then some fault
      else match within with
        | latest :: _ => if latest.line < line then some (.neverClosed latest.opening) else none
        | [] => none
    | _ => none

/-- The fault to tell when a reading blames the text, by how far the tokens have been looked at.
    One in the tokens is told as it is. -/
def toldFault (placed : List Placed) (p : Progress) (fault : LiteralFault) : LiteralFault :=
  match p.farthest with
  | none => fault
  | some farthest =>
    match farthest.token with
    | .halt .. => fault
    | _ =>
      if farthest.last then fault
      else (faultBehind? farthest.line (placed.drop p.seen)).getD fault

def defaultFault (placed : List Placed) (first second : Progress) : LiteralFault :=
  match first.farthest with
  | some ⟨.indent, _, _, _⟩ => .indented
  | _ =>
    let line := (second.farthest.map (·.line)).getD 0
    (faultBehind? line (placed.drop second.seen)).getD .invalid

def readTokens (whole : Nat → Read Value) (placed : List Placed) : Except LiteralFault Value :=
  let read := (whole (depthPerToken * (placed.length + 1))).run.run
  match read.run (.start placed) with
  | (.ok (some value), _) => .ok value
  | (.error fault, p) => .error (toldFault placed p fault)
  | (.ok none, first) =>
    match read.run (.again placed first) with
    | (.error fault, p) => .error (toldFault placed p fault)
    | (.ok _, second) => .error (defaultFault placed first second)

def inField (placed : List Placed) (fault : LiteralFault) : LiteralFault :=
  let loud := placed.any fun p =>
    match p.token with
    | .halt _ loud _ => loud
    | _ => false
  if loud then fault else .withinField fault

/-- Checks texts that may have fields, in which there may be such texts again up to a depth. -/
def checkFields : Nat → List Quoted → Except LiteralFault Unit
  | 0, _ => .ok ()
  | depth + 1, texts =>
    let read (cs : List Char) : Except LiteralFault Unit :=
      let placed := split cs
      match readTokens (fun n => spreadExpressions (grammar (checkFields depth) n)) placed with
      | .ok _ => .ok ()
      | .error fault => .error (inField placed fault)
    checkTexts read texts

def wholeText (check : List Quoted → Except LiteralFault Unit) (depth : Nat) : Read Value := do
  let value ← sideBySide (grammar check depth .expression)
  let _ ← many (need .newline)
  need .finish
  return value

def read (cs : List Char) : Except LiteralFault Value :=
  if cs.contains '\x00' then .error .nullCharacter
  else readTokens (wholeText (checkFields cs.length)) (split cs)

def check (cs : List Char) : Except LiteralFault Unit := do
  match (← read cs).fault with
  | some fault => throw fault
  | none => return

end BondQuery.Console.Literal
