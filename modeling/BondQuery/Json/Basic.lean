import BondQuery.Number.Written

/- JSON values. The fields of an object keep their order, and whole numbers are kept apart from
   numbers with a fraction or an exponent. -/
namespace BondQuery

inductive Json where
  | null
  | bool (value : Bool)
  | int (value : Int)
  | double (value : Double)
  | string (value : String)
  | array (items : List Json)
  | object (fields : List (String × Json))
  deriving Repr, Inhabited

namespace Json

@[elab_as_elim, induction_eliminator]
theorem item_induction {motive : Json → Prop} (null : motive .null)
    (bool : ∀ value, motive (.bool value)) (int : ∀ value, motive (.int value))
    (double : ∀ value, motive (.double value)) (string : ∀ value, motive (.string value))
    (array : ∀ items, (∀ item ∈ items, motive item) → motive (.array items))
    (object : ∀ fields, (∀ field ∈ fields, motive field.2) → motive (.object fields)) :
    ∀ json, motive json
  | .null => null
  | .bool value => bool value
  | .int value => int value
  | .double value => double value
  | .string value => string value
  | .array items => array items fun item _ =>
    item_induction null bool int double string array object item
  | .object fields => object fields fun (_, value) _ =>
    item_induction null bool int double string array object value
termination_by json => sizeOf json
decreasing_by
  · decreasing_trivial
  · rename_i member
    have smaller := List.sizeOf_lt_of_mem member
    simp only [Prod.mk.sizeOf_spec, Json.object.sizeOf_spec] at smaller ⊢
    omega

def ofStrings (values : List String) : Json :=
  array (values.map string)

def field (name : String) (value : Json) : Json :=
  object [(name, value)]

def get? (json : Json) (name : String) : Option Json :=
  match json with
  | object fields => fields.lookup name
  | _ => none

end Json

end BondQuery
