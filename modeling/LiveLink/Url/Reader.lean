import LiveLink.Url.Parts

/-!
# Reading a URL

Spaces and control characters around a URL and tabs and line breaks inside it do
not count. The schemes of files, of web pages and of sockets are special: they
need a host, and a backslash counts as a slash.
-/

namespace LiveLink.Url

/-- What a scheme says about the rest of a URL. -/
inductive Kind where
  | file
  | special (defaultPort : Nat)
  | plain
  deriving DecidableEq

namespace Kind

/-- The kind of a scheme. -/
def ofScheme (s : String) : Kind :=
  if s = "file" then file
  else if s = "http" ∨ s = "ws" then special 80
  else if s = "https" ∨ s = "wss" then special 443
  else if s = "ftp" then special 21
  else plain

/-- Whether a backslash counts as a slash. -/
def isSpecial : Kind → Bool
  | plain => false
  | _ => true

/-- The port that is not written. -/
def defaultPort? : Kind → Option Nat
  | special p => some p
  | _ => none

/-- Whether a character is a slash. -/
def isSlash (k : Kind) (c : Char) : Bool := c = '/' || (k.isSpecial && c = '\\')

/-- Whether a character ends the part before the path. -/
def endsAuthority (k : Kind) (c : Char) : Bool := k.isSlash c || c = '?' || c = '#'

end Kind

/-- The characters of a text that count. -/
def relevant (s : String) : List Char :=
  let blank (c : Char) : Bool := c.toNat ≤ 0x20
  -- around the text all of these are dropped, inside it only three of them
  let cs := ((s.toList.dropWhile blank).reverse.dropWhile blank).reverse
  cs.filter fun c => c ≠ '\t' && c ≠ '\n' && c ≠ '\r'

/-- The scheme, in lower case, and what follows its colon. -/
def readScheme (cs : List Char) : Except Error (String × List Char) :=
  let name := cs.takeWhile fun c => c.isAlphanum || c = '+' || c = '-' || c = '.'
  match cs.drop name.length with
  | ':' :: rest =>
    if (name.head?.map Char.isAlpha).getD false then
      .ok (String.ofList (name.map Char.toLower), rest)
    else .error .noScheme
  | _ => .error .noScheme

/-- The query and the fragment at the end of a URL. -/
def readTail (k : Kind) (cs : List Char) : Option String × Option String :=
  let fragment := fun (cs : List Char) => match cs with
    | '#' :: f => some (String.ofList (percentEncode fragmentSet f))
    | _ => none
  match cs with
  | '?' :: rest =>
    let query := rest.takeWhile (· ≠ '#')
    let set := if k.isSpecial then specialQuerySet else querySet
    (some (String.ofList (percentEncode set query)), fragment (rest.drop query.length))
  | cs => (none, fragment cs)

/-- What stands before the query and the fragment, and those. -/
def cutTail (cs : List Char) : List Char × List Char :=
  let front := cs.takeWhile fun c => c ≠ '?' && c ≠ '#'
  (front, cs.drop front.length)

/-- The user name and the password. -/
def readUser (cs : List Char) : String × String :=
  let name := cs.takeWhile (· ≠ ':')
  (String.ofList (percentEncode userSet name),
    String.ofList (percentEncode userSet ((cs.drop name.length).drop 1)))

/-- What stands before the last at sign and what stands behind it. -/
def cutUser (cs : List Char) : Option (List Char × List Char) :=
  if cs.contains '@' then
    -- an at sign before the last one belongs to the user name or the password
    let host := (cs.reverse.takeWhile (· ≠ '@')).reverse
    some (cs.take (cs.length - host.length - 1), host)
  else none

/-- The host up to a colon outside brackets. -/
def hostPart (k : Kind) : Bool → List Char → List Char
  | _, [] => []
  | inside, c :: cs =>
    if c = ':' && !inside then []
    else if k.endsAuthority c then []
    else c :: hostPart k (c = '[' || (inside && c ≠ ']')) cs

/-- A port, which fits 16 bits, up to what ends it. -/
def readPort (k : Kind) (cs : List Char) : Except Error (Option Nat × List Char) :=
  let ds := cs.takeWhile Char.isDigit
  let rest := cs.drop ds.length
  match valueInBase? 10 ds with
  | none => .error .invalidPort
  | some n =>
    if 65535 < n then .error .invalidPort
    else if (rest.head?.map fun c => c = '\\' || Kind.plain.endsAuthority c).getD true then
      -- the usual port of a scheme is not written
      .ok (if ds.isEmpty || k.defaultPort? = some n then none else some n, rest)
    else .error .invalidPort

/-- The host, the port and what follows them. -/
def readHostPort (k : Kind) (cs : List Char) :
    Except Error (Host × Option Nat × List Char) := do
  let part := hostPart k false cs
  let rest := cs.drop part.length
  if k.isSpecial && part.isEmpty then throw .emptyHost
  let host ← if k.isSpecial then Host.readSpecial part else Host.readPlain part
  match rest with
  | ':' :: rest =>
    if host = .empty then throw .emptyHost
    let (port?, rest) ← readPort k rest
    return (host, port?, rest)
  | rest => return (host, none, rest)

/-- The path of a URL with a host. -/
def readPath (k : Kind) (cs : List Char) : Path :=
  let cs := if k.isSpecial then cs.map fun c => if c = '\\' then '/' else c else cs
  -- a special URL has at least one segment
  if cs.isEmpty && !k.isSpecial then .segments [] else .ofSegments (Path.split cs)

/-- A URL from what follows the double slash. -/
def readAuthority (scheme : String) (k : Kind) (cs : List Char) : Except Error Url := do
  let part := cs.takeWhile fun c => !k.endsAuthority c
  let (user, behind) := (cutUser part).getD ([], part)
  let rest := behind ++ cs.drop part.length
  -- an at sign alone, where there should be a host
  if part.head? = some '@' && user.isEmpty && behind.isEmpty && !rest.isEmpty then
    throw .emptyHost
  let (username, password) := readUser user
  let (host, port?, rest) ← readHostPort k rest
  if host = .empty && (username ≠ "" || password ≠ "") then throw .emptyHost
  let (path, tail) := cutTail rest
  let (query?, fragment?) := readTail k tail
  return ⟨scheme, username, password, some host, port?, readPath k path, query?, fragment?⟩

/-- The host of a file, the empty one for this machine, and what follows it. A drive letter is no
host, and without a host the path starts right here. -/
def readFileHost (cs : List Char) : Except Error (Host × List Char) := do
  let part := cs.takeWhile fun c => !Kind.file.endsAuthority c
  if part.isEmpty || Path.isDrive part then return (.empty, '/' :: cs)
  let host ← Host.readSpecial part
  let rest := cs.drop part.length
  return if host = .name "localhost" then (.empty, '/' :: rest) else (host, rest)

/-- The URL of a file. A path that starts with a drive letter belongs to this machine. -/
def readFile (cs : List Char) : Except Error Url := do
  let (host, rest) ←
    match cs with
    | a :: b :: rest =>
      if Kind.file.isSlash a && Kind.file.isSlash b then readFileHost rest
      else pure (.empty, cs)
    | _ => pure (.empty, cs)
  let (front, tail) := cutTail rest
  let (path, drive) :=
    Path.ofFileSegments (Path.split (front.map fun c => if c = '\\' then '/' else c))
  let (query?, fragment?) := readTail .file tail
  return ⟨"file", "", "", some (if drive then .empty else host), none, path, query?, fragment?⟩

/-- A URL that has neither a special scheme nor a double slash. -/
def readPlain (scheme : String) (cs : List Char) : Url :=
  let (front, tail) := cutTail cs
  let path := match front with
    | '/' :: rest => Path.ofSegments (Text.splitAt '/' rest)
    | front => Path.ofOpaque front
  let (query?, fragment?) := readTail .plain tail
  ⟨scheme, "", "", none, none, path, query?, fragment?⟩

/-- The URL of a text. -/
def read (s : String) : Except Error Url := do
  let (scheme, rest) ← readScheme (relevant s)
  match Kind.ofScheme scheme with
  | .file => readFile rest
  | .special p => readAuthority scheme (.special p) (rest.dropWhile fun c => c = '/' || c = '\\')
  | .plain =>
    match rest with
    | '/' :: '/' :: rest => readAuthority scheme .plain rest
    | rest => return readPlain scheme rest

end LiveLink.Url
