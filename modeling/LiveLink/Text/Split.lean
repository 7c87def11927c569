/-!
# Splitting text
-/

namespace LiveLink.Text

/-- Splits characters at every separator. -/
def splitAt (sep : Char) : List Char → List (List Char)
  | [] => [[]]
  | c :: cs =>
    if c = sep then [] :: splitAt sep cs
    else
      match splitAt sep cs with
      | p :: ps => (c :: p) :: ps
      | [] => [[c]]

end LiveLink.Text
