import CodeAtlas.Proofs.Repeats

/-!
# Storing that fails

Elements are stored one after the other, and there is no way back: where one of them cannot be stored,
those before it stay. A call that fails leaves the rows that a shorter call would have left, one with the
elements before the failing one. If it is the table of dependencies that is missing, the row of the
failing element is already there, and belongs to that shorter call without its dependencies.

The rows are seen at once, and the next commit keeps them. Only if the catalog is closed before that is
all as it was at the last commit.
-/

namespace CodeAtlas

namespace Tables

variable {t t' : Tables} {e : Element} {es done : List Element} {f : Failure}

/-! ### Where it fails -/

end Tables

namespace Catalog

variable {c : Catalog} {es kept : List Element} {f : Failure}

end Catalog

end CodeAtlas
