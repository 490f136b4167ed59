/- Reading options from command-line arguments. Long options begin with two hyphens and may carry
   their value behind an equals sign; short ones may be written together behind one hyphen. -/
namespace BondQuery.Command

/-- What an option does to the options read so far. -/
inductive Effect (σ : Type) where
  | flag (apply : σ → σ)
  | value (apply : String → σ → σ)

structure Switch (σ : Type) where
  names : List String
  effect : Effect σ

inductive Misuse where
  | unknown
  | takesNoValue (name : String)
  | needsValue (name : String)
  | nullCharacter
  deriving DecidableEq, Repr

def effect {σ : Type} (switches : List (Switch σ)) (name : String) : Except Misuse (Effect σ) :=
  match switches.find? (·.names.contains name) with
  | some switch => .ok switch.effect
  | none => .error .unknown

def applyEffect {σ : Type} (name : String) (effect : Effect σ) (attached : Option String) (state : σ)
    (rest : List String) : Except Misuse (σ × List String) :=
  match effect, attached, rest with
  | .flag apply, none, _ => .ok (apply state, rest)
  | .flag _, some _, _ => .error (.takesNoValue name)
  | .value apply, some v, _ => .ok (apply v state, rest)
  | .value apply, none, v :: behind => .ok (apply v state, behind)
  | .value _, none, [] => .error (.needsValue name)

def readShort {σ : Type} (switches : List (Switch σ)) (state : σ) (rest : List String) :
    List Char → Except Misuse (σ × List String)
  | [] => .ok (state, rest)
  | c :: more => do
    let name := String.ofList ['-', c]
    match ← effect switches name with
    | .flag apply => readShort switches (apply state) rest more
    -- what is written behind an option that takes a value is the value
    | effect =>
      applyEffect name effect (if more = [] then none else some (String.ofList more)) state rest

def checkPath (path : Option String) : Except Misuse Unit :=
  if path.any (·.toList.contains '\x00') then .error .nullCharacter else .ok ()

def isLong (cs : List Char) : Bool :=
  match cs with
  | '-' :: '-' :: _ => true
  | _ => false

def isOption (argument : String) : Bool :=
  match argument.toList with
  | '-' :: _ :: _ => true
  | _ => false

def readOption {σ : Type} (switches : List (Switch σ)) (state : σ) (argument : String)
    (rest : List String) : Except Misuse (σ × List String) :=
  let cs := argument.toList
  let name := cs.takeWhile (· != '=')
  let attached := match cs.drop name.length with
    | _ :: value => some (String.ofList value)
    | [] => none
  if isLong cs then do
    let name := String.ofList name
    applyEffect name (← effect switches name) attached state rest
  else readShort switches state rest (cs.drop 1)

/-- Reads arguments: the options, and the other arguments in order. Two hyphens end the options;
    unless options may stand anywhere, so does the first argument that is none. There is at most
    one step for each argument. -/
def readArguments {σ : Type} (switches : List (Switch σ)) (anywhere : Bool) (fuel : Nat) (state : σ)
    (arguments : List String) : Except Misuse (σ × List String) :=
  match fuel, arguments with
  | _, [] => .ok (state, [])
  | 0, _ => .error .unknown
  | fuel + 1, argument :: rest =>
    if argument == "--" then .ok (state, rest)
    else if isOption argument then do
      let (state, rest) ← readOption switches state argument rest
      readArguments switches anywhere fuel state rest
    else if anywhere then do
      let (state, others) ← readArguments switches anywhere fuel state rest
      return (state, argument :: others)
    else .ok (state, argument :: rest)

end BondQuery.Command
