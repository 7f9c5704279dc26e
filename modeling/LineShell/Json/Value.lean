import LineShell.Number.Layout
import LineShell.Text.Encoding

/-!
# JSON values

Values of the data format in which the backend answers. Whole numbers and numbers with a point or an
exponent are told apart, and of two fields with one name the later counts. A text with a lone surrogate
is a value of its own kind, and so is an object with such a name.
-/

namespace LineShell

open Text

inductive Json
  | null
  | bool (value : Bool)
  | int (value : Int)
  | float (value : Binary64)
  | string (value : String)
  | raggedString (value : List Glyph)
  | array (items : List Json)
  | object (fields : List (String × Json))
  | raggedObject (names : List (List Glyph)) (values : List Json)
deriving Repr, Inhabited

namespace Json

def ofGlyphs (text : List Glyph) : Json :=
  match plain? text with
  | some s => .string s
  | none => .raggedString text

/-- Sets a field; a field of that name keeps its place. -/
def setField (name : List Glyph) (value : Json) : List (List Glyph × Json) → List (List Glyph × Json)
  | [] => [(name, value)]
  | (other, old) :: rest =>
    if other == name then (name, value) :: rest else (other, old) :: setField name value rest

/-- The fields of an object as written, each name once with its last value. -/
def ofFields (fields : List (List Glyph × Json)) : Json :=
  let fields := fields.foldl (fun done (name, value) => setField name value done) []
  match fields.mapM fun (name, value) => (plain? name).map (·, value) with
  | some fields => .object fields
  | none => .raggedObject (fields.map (·.1)) (fields.map (·.2))

def field? (name : String) : Json → Option Json
  | .object fields => fields.lookup name
  | .raggedObject names values => (names.zip values).lookup (glyphs name)
  | _ => none

end Json

end LineShell
