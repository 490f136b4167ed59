/- White space, in the three senses that the readers use. The narrowest separates the tokens
   of an expression; numbers may stand between the characters of the second; the widest adds
   the four information separators, and is what trimming removes. -/
namespace BondQuery.Text

/-- White space between the tokens of an expression: space, tab, form feed, return, newline. -/
def isGap (c : Char) : Bool :=
  c == ' ' || c == '\t' || c == '\x0c' || c == '\r' || c == '\n'

def isSpace (c : Char) : Bool :=
  let n := c.toNat
  (0x09 ≤ n && n ≤ 0x0d) || n == 0x20 || n == 0x85 || n == 0xa0 || n == 0x1680 ||
    (0x2000 ≤ n && n ≤ 0x200a) || n == 0x2028 || n == 0x2029 || n == 0x202f ||
    n == 0x205f || n == 0x3000

/-- White space or an information separator. -/
def isBlank (c : Char) : Bool :=
  isSpace c || (0x1c ≤ c.toNat && c.toNat ≤ 0x1f)

def trimBy (test : Char → Bool) (cs : List Char) : List Char :=
  ((cs.dropWhile test).reverse.dropWhile test).reverse

def trim (cs : List Char) : List Char :=
  trimBy isBlank cs

def splitBlanks (cs : List Char) : List (List Char) :=
  (cs.splitBy fun a b => isBlank a == isBlank b).filter (!·.any isBlank)

end BondQuery.Text
