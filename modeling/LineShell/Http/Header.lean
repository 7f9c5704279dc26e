import LineShell.Text.Quoted

/-!
# Headers

Which characters a header of a request may hold, and the words that refuse one.
-/

namespace LineShell.Http

def inHeader (c : Char) : Bool := c.toNat < 0x80

def isHeader (value : String) : Bool := value.toList.all inHeader

/-- The words that refuse a header: where the first characters stand that it may not hold. -/
def headerRefusal (value : String) : String :=
  Text.refusal "ascii" "ordinal not in range(128)" (fun n => inHeader (Char.ofNat n)) (value.toList.map Char.toNat)

end LineShell.Http
