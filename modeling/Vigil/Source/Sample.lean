import Vigil.Double.Basic

/-!
# Samples

What a load brings for one target: a value, or nothing where the series has none.
-/

namespace Vigil

/-- One value of one target. -/
structure Sample where
  value : Option Double
  target : String
deriving DecidableEq

end Vigil
