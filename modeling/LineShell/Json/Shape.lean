import LineShell.Json.Value

/-!
# Shapes of JSON values

How deep values are nested, and which of them hold numbers that have no decimal form.
-/

namespace LineShell.Json

/-! ## Height -/

mutual

/-- The number of values on the longest way from a value to one inside it, both counted. -/
def height : Json → Nat
  | .array items => 1 + heightOfItems items
  | .object fields => 1 + heightOfFields fields
  | .raggedObject _ values => 1 + heightOfItems values
  | .null | .bool _ | .int _ | .float _ | .string _ | .raggedString _ => 1

def heightOfItems : List Json → Nat
  | [] => 0
  | item :: items => max (height item) (heightOfItems items)

def heightOfFields : List (String × Json) → Nat
  | [] => 0
  | (_, value) :: fields => max (height value) (heightOfFields fields)

end

/-! ## Strict values -/

mutual

/-- Whether all numbers in a value have a decimal form. -/
def isStrict : Json → Bool
  | .float (.finite ..) => true
  | .float _ => false
  | .array items => areStrict items
  | .object fields => fieldsAreStrict fields
  | .raggedObject _ values => areStrict values
  | .null | .bool _ | .int _ | .string _ | .raggedString _ => true

def areStrict : List Json → Bool
  | [] => true
  | item :: items => isStrict item && areStrict items

def fieldsAreStrict : List (String × Json) → Bool
  | [] => true
  | (_, value) :: fields => isStrict value && fieldsAreStrict fields

end

mutual

/-- The value with null for every number that has no decimal form. -/
def strict : Json → Json
  | .float (.finite negative mantissa exponent) => .float (.finite negative mantissa exponent)
  | .float _ => .null
  | .array items => .array (strictItems items)
  | .object fields => .object (strictFields fields)
  | .raggedObject names values => .raggedObject names (strictItems values)
  | .null => .null
  | .bool b => .bool b
  | .int n => .int n
  | .string s => .string s
  | .raggedString text => .raggedString text

def strictItems : List Json → List Json
  | [] => []
  | item :: items => strict item :: strictItems items

def strictFields : List (String × Json) → List (String × Json)
  | [] => []
  | (name, value) :: fields => (name, strict value) :: strictFields fields

end

end LineShell.Json
