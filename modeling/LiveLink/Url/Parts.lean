import LiveLink.Url.Host
import LiveLink.Url.Path

/-!
# URLs

A URL in its parts, each kept the way it is written, and the text they make.
-/

namespace LiveLink

/-- A URL. -/
structure Url where
  scheme : String
  username : String
  password : String
  host? : Option Url.Host
  port? : Option Nat
  path : Url.Path
  query? : Option String
  fragment? : Option String
  deriving DecidableEq

namespace Url

/-- The user name and the password, with the sign that ends them. -/
def writeUser (u : Url) : String :=
  if u.username = "" ∧ u.password = "" then ""
  else u.username ++ (if u.password = "" then "" else ":" ++ u.password) ++ "@"

/-- A port behind its colon. -/
def writePort : Option Nat → String
  | none => ""
  | some p => ":" ++ Layout.digits p

/-- Whether the written path would be taken for a host. -/
def pathLooksLikeHost (u : Url) : Bool :=
  match u.host?, u.path with
  | none, .segments ("" :: _ :: _) => true
  | _, _ => false

/-- What stands between the scheme and the path. -/
def writeAuthority (u : Url) : String :=
  match u.host? with
  | none => if u.pathLooksLikeHost then "/." else ""
  | some h => "//" ++ u.writeUser ++ h.write ++ writePort u.port?

/-- A part behind the sign that starts it. -/
def writeTail (sign : String) : Option String → String
  | none => ""
  | some s => sign ++ s

/-- A URL as text. -/
def write (u : Url) : String :=
  u.scheme ++ ":" ++ u.writeAuthority ++ u.path.write ++ writeTail "?" u.query? ++
    writeTail "#" u.fragment?

/-- The path and the query, as a request names them. -/
def target (u : Url) : String := u.path.write ++ writeTail "?" u.query?

/-- The decoded pairs of the query. -/
def pairs (u : Url) : List (String × String) := readPairs (u.query?.getD "")

/-- The URL with a token under a parameter, in place of all pairs of that key. Without a token
the URL stays as it is. -/
def withToken (u : Url) (param : String) : Option String → Url
  | none => u
  | some token =>
    { u with query? := some (writePairs (u.pairs.filter (·.1 ≠ param) ++ [(param, token)])) }

end Url

end LiveLink
