import BondQuery.Console.Literal.Reading

/- Anonymous functions and the order of their parameters: those without a default, those with one,
   a slash behind some of them, then a star and a double star. -/
namespace BondQuery.Console.Literal

def parameterEnd : Read Unit :=
  firstOf [mark ",", follows (mark ":")]

def parameterFault {α : Type} (fault : ParameterFault) : Read α :=
  blame (.parameter fault)

def parameterDefault (call : Grammar) : Read Unit :=
  firstOf [
    do
      mark "="
      let _ ← call .expression,
    whenLooking (seek [do
      mark "="
      follows (marks [")", ","])
      parameterFault .noDefault])]

def required : Read Unit := do
  let _ ← name
  parameterEnd

def defaulted (call : Grammar) : Read Unit := do
  let _ ← name
  parameterDefault call
  parameterEnd

def parameter (call : Grammar) : Read Unit := do
  let _ ← name
  let _ ← attempt (parameterDefault call)
  parameterEnd

def slashEnd : Read Unit := do
  mark "/"
  parameterEnd

def requiredWithSlash : Read Unit := do
  let _ ← many1 required
  slashEnd

def defaultedWithSlash (call : Grammar) : Read Unit := do
  let _ ← many required
  let _ ← many1 (defaulted call)
  slashEnd

def keywordParameters : Read Unit :=
  firstOf [
    whenLooking (seek [
      do
        mark "**"
        let _ ← name
        mark "="
        parameterFault .keywordsDefault,
      do
        mark "**"
        let _ ← name
        mark ","
        let _ ← name
        parameterFault .afterKeywords,
      do
        mark "**"
        let _ ← name
        mark ","
        marks ["*", "**", "/"]
        parameterFault .afterKeywords]),
    do
      mark "**"
      required]

def starParameters (call : Grammar) : Read Unit :=
  firstOf [
    whenLooking (seek [
      do
        mark "*"
        firstOf [
          mark ":",
          do
            mark ","
            marks [":", "**"]]
        parameterFault .bareStar,
      do
        mark "*"
        let _ ← name
        mark "="
        parameterFault .starDefault,
      do
        mark "*"
        firstOf [required, mark ","]
        let _ ← many (parameter call)
        mark "*"
        firstOf [required, mark ","]
        parameterFault .secondStar]),
    do
      mark "*"
      required
      let _ ← many (parameter call)
      let _ ← attempt keywordParameters,
    do
      mark "*"
      mark ","
      let _ ← many1 (parameter call)
      let _ ← attempt keywordParameters,
    keywordParameters]

def someSlash (call : Grammar) : Read Unit :=
  firstOf [requiredWithSlash, defaultedWithSlash call]

def seekParameters (call : Grammar) : Read Unit :=
  seek [
    do
      let _ ← many required
      firstOf [
        defaultedWithSlash call,
        do let _ ← many1 (defaulted call)]
      required
      parameterFault .lateRequired,
    do
      let _ ← many required
      mark "("
      let _ ← separated name
      let _ ← optionalComma
      mark ")"
      parameterFault .parenthesized,
    do
      mark "/"
      mark ","
      parameterFault .nothingBeforeSlash,
    do
      someSlash call
      let _ ← many (parameter call)
      mark "/"
      parameterFault .secondSlash,
    do
      let _ ← attempt (someSlash call)
      let _ ← many (parameter call)
      mark "*"
      firstOf [mark ",", required]
      let _ ← many (parameter call)
      mark "/"
      parameterFault .lateSlash,
    do
      let _ ← many1 (parameter call)
      mark "/"
      mark "*"
      parameterFault .joinedStar]

def parameters (call : Grammar) : Read Unit :=
  firstOf [
    whenLooking (seekParameters call),
    do
      requiredWithSlash
      let _ ← many required
      let _ ← many (defaulted call)
      let _ ← attempt (starParameters call),
    do
      defaultedWithSlash call
      let _ ← many (defaulted call)
      let _ ← attempt (starParameters call),
    do
      let _ ← many1 required
      let _ ← many (defaulted call)
      let _ ← attempt (starParameters call),
    do
      let _ ← many1 (defaulted call)
      let _ ← attempt (starParameters call),
    starParameters call]

def function (call : Grammar) : Read Value := do
  word "lambda"
  let _ ← attempt (parameters call)
  mark ":"
  let _ ← call .expression
  return .computed .function

end BondQuery.Console.Literal
