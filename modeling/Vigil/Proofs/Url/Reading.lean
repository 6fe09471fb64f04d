import Vigil.Proofs.Url.Query

/-!
# Addresses that are read are tidy

Each part of an address is written with escapes, with letters and digits, or with characters that a
host may have, and none of these begins a query or a fragment.
-/

namespace Vigil.Url

open Text

/-! ## Schemes -/

end Vigil.Url
