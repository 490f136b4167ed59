import BondQuery.Number.Double

/- TOML values. Tables keep the order of their keys. Dates and times keep their text, since
   nothing here computes with them. -/
namespace BondQuery

inductive Toml where
  | string (value : String)
  | int (value : Int)
  | double (value : Double)
  | bool (value : Bool)
  | moment (text : String)
  | array (items : List Toml)
  | table (entries : List (String × Toml))
  deriving Repr, Inhabited

namespace Toml

abbrev Table := List (String × Toml)

def isContainer : Toml → Bool
  | array _ => true
  | table _ => true
  | _ => false

def string? : Toml → Option String
  | string value => some value
  | _ => none

def replace (key : String) (value : Toml) : Table → Table
  | [] => []
  | (k, v) :: rest => if k == key then (k, value) :: rest else (k, v) :: replace key value rest

end Toml

end BondQuery
