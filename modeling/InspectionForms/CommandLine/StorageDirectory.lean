import InspectionForms.CommandLine.FileTree

namespace InspectionForms

/-- The nearest marked directory on the way up, the names given from the innermost on. -/
def markedAncestor? (isMarked : Path → Bool) : List FileName → Option Path
  | [] => if isMarked [] then some [] else none
  | name :: above =>
    if isMarked (name :: above).reverse then some (name :: above).reverse else markedAncestor? isMarked above

/-- The root of the checkout that a directory lies in: the deepest directory with a mark from this one up. -/
def checkoutRoot? (isMarked : Path → Bool) (start : Path) : Option Path :=
  markedAncestor? isMarked start.reverse

/-- Where submissions are kept if nothing else is said: at the root of the checkout, so that all of its
directories share one store. -/
def defaultStorageDirectory (isMarked : Path → Bool) (start : Path) : Path :=
  (checkoutRoot? isMarked start).getD start ++ [utf8 ".inspection"]

/-- A directory is marked by an entry of the version control system. -/
def FileTree.isCheckout (tree : FileTree) (path : Path) : Bool := tree.contains (path ++ [utf8 ".git"])

end InspectionForms
