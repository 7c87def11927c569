/-!
# How letters join

Each word starts a range of code points: a step from the start of the range before,
in base 36, and a letter for how its characters join their neighbours: `L` on the
left, `R` on the right, `D` on both sides, `T` not at all but transparently, `C` by
causing it, `U` not at all.
-/

namespace LiveLink.Domain

/-- The ranges of the joining types, as words. -/
def joiningRows : List String := [
  "4hU gvT 35U 7mT 8U 7aT 19U 1T 1U 1T 2U 1T 2U 1T 9U 1sT bU 5D 1U 1R 4D 1R 1D 1R 1D 5R 4D dC",
  "1D 7R 1D 2T lU eD 2T 1R 3U 5D fR iD 12R 1D 2R 9D 1R 1D 1R 1D 2R 2U 1R 1T 8U 1T 6U 2T 2U 1T",
  "4R 2U aD 3U 2D 1U gR 1T 1D 3R 5D 4R 1D 9R 1D 1R 1D 1R 1D 2R 1T tR 1D bR 3D fR 2D 4R 1D 1R 2D",
  "3R 2D 6U 12T bU pD xT 9U 6C 3T 1U oT 4U 1T 9U 1T 3U 1T 7U gR 1D 5R 2D 1R 1D aR 1D 1R 3T 5U",
  "2D 1U 1D 4U 1R 1D 1R qC 3D 1U 2D 5R 1D 8T 9D aR 3U 1R 1D 2R 2D 6R 1D fU 1T 1lU 1jT 1U 1T 1U",
  "4T 8U 4T 1U 3T fU 2T 2U tT 1U 1mT 1U 4T 6U 6T 1U kT 4U oT 5U 1lT 2U 3T rU kT 2U 3T 1U bT 2U",
  "1lT 1U 4T 8U 4T 3U iT 4U kT 8U 1mT 1U 2T 1U 1T 6U 6T aU bT 4U sT 1U 1pT 1U cT 3U 1cT 1U 3T",
  "1U 1jT 1U 1T 3U 5T iU aT 4U rT 1U 1mT 1U 2T 1U 6T 1U 5T 9U dT 4U qT 2U 1lT 2U 4T 5U 7T 1U kT",
  "4U rT 1U 20T 5U 3T 6U 2hT 1U 2T bU 8T 8U 2qT 1U 2T 9U bT 8U 20T 2U rT 1U 1T 1U 1T 1U 1jT eU",
  "1T 5U 1T 2U 5T 1dU 8T 1U 2uT 4U 1T 6U 1T 2U 2T 2U pT 2U 4T 3U gT 4U dT 1U 2T 2U 6T 1U fT 1U",
  "jjT 3U qaT 3U tT 2U uT eU iT eU 1jT 7U 8T 1U 2T bU 9T 3U 13D 1U 2C 6U gD 2oU 5T 2D yT 1D 6U",
  "34T 3U 4T 2U 9T 1U 6T 7U 5zT 2U 2T 3U 1kT 1U 1T 9U 1T 1U 2T 8U 6T dU 1cT 2cU 1cT 1U 1T 4U 8T",
  "1U 14T 9U cT 2U wT 4U 2T 2U 1T 3U 1kT 1U 1T 2U 3T 1U 1T 3U 1mT 8U 2T 5U 45T 3U 1T dU 1T 7U",
  "4T 1U 6T 1U 3T 2U 5iT 1tU ekC 3U 5cT 1gU 2crT 4U 3wT 1U 2oT wU feT 4U 2zT 4U n9uT 4U 1T aU",
  "wT 2U 28T 2U 7kT 1U 3T 1U 4T 1U pT 2U 5T 4U gD 1eL 1U 29T aU iT iU dT 1U 12T 8U pT bU 1aT 3U",
  "1cT 1U 2T 4U 2T 2U 13T 1U 1vT 6U 2T 2U 2T bU 3T 1U 8T 1U 1bT 1U 1fT 1U 1T 3U 2T 2U 5T 2U 1T",
  "1U 16T 2U 8T bU 6cT 1U 2T 1U 4T 3U fn2T 44U haT 11U qgT 3nU 2oT 1U 45T aU 1a9T fU 14T 8U 3kD",
  "5R 1U 1R 1U 1R 2U 2L 1R 5D 4L 1D 5R 1D 3R 1U 2R 1T 6D 4R 1U 40D 1R 1D 1R 3D 3R 1D 2R 1D 1R",
  "2D 1R 8U gR 4D 2U 9dL 1D xR 1D 1T cU 1lT 5U 8tT 2U lR 1D 2U 1D aU 16T 6U 1cD 3R 1D hU 1T bD",
  "3R 1U rD 4R 2D cT 4U 16D 1U 1D 2R 3U 1D 1R 2D 2R 1D 2U 1D 1R 2D 1U 4R 1D 1L lU xT 1U 1iT fU",
  "15T 1U 2T 2U aT 3U 1dT 4U 2T 2U 7T eU 1cT 3U 10T 5U 1T 9U 1pT 1U cT 2U 1gT 9U aT 4U 2T 1U",
  "2nT 3U 2T 1U 1T 2U 6T 1U 2T 1rU 2nT 1U 3T dU gT 2U 1lT 2U 3T 1U 11T qU 1nT 7U cT 1U 1T 1U 1T",
  "1U eT vU 1kT 8U 2T 3U 1T 1U nT 1U 2cT 6U 1T 1U 4T 2U 1T 2U 6mT 6U 4T 2U 1T 2U rT 10U 1fT 8U",
  "2T 1U 1T 2U 2yT 1U 1T 1U 2T 6U 1T 1U 2tT 1U 1T 1U 2T 4U 1T 9U 73T 9U 1T 2U 74T 2U 1T 1U 4T",
  "1U 40T 8U 4T 1U wT aU 14T 6U 2T 4U 8T 9U 1T 6U 2T 3U 1aT dU 1T 2U 5iT 1U 1T 3U 1T 1U 5lT eU",
  "1T 1U 2aT nU 1T 7U 1T 2U 1T 23U 1dT lU 1T 9U 1sT 3U 2T 1U 1T 1U 9nT 2U bT 2U 1gT 8U 2T 1U 1T",
  "1U nT 2eU 428T 1U 6T pU 8u6T cU 3T 3U 1xcT 5U 1nT 7U t4T 1U 1rT 4U 29T cU f59T 2U 3mpT 28U",
  "evT 3U hT 8U 2T 7U uT 4U 44T 3U 1izT 1jU 4T 1eU 8T 1U eT 1U mT v9U 74T 74U 1cT 7U afT iU 18T",
  "4U e4T 4U 72T 2U 6rT 1U 2T 1U 7T 2U 5T 9U cyT 2aD yT cU"]

end LiveLink.Domain
