import WaybillBoard.Url.Segments

/-!
Reading an absolute URL by the rules of browsers: blanks around it are dropped, and much that is not
well formed is mended.
-/

namespace WaybillBoard.Url

open Text (splitOn)

/-- Without control characters and spaces at either end, and without tabs and line breaks. -/
def cleaned (cs : List Char) : List Char :=
  let isEdge (c : Char) : Bool := c.toNat ≤ 0x20
  (((cs.dropWhile isEdge).reverse.dropWhile isEdge).reverse).filter (fun c => !isIgnored c)

def isSchemeChar (c : Char) : Bool := c.isAlphanum || c = '+' || c = '-' || c = '.'

/-- The scheme in lower case, and what follows its colon. -/
def scheme? (cs : List Char) : Option (List Char × List Char) :=
  match cs with
  | [] => none
  | c :: _ =>
    match c.isAlpha, cs.dropWhile isSchemeChar with
    | true, ':' :: rest => some ((cs.takeWhile isSchemeChar).map Text.asciiLower, rest)
    | _, _ => none

def isSlash (special : Bool) (c : Char) : Bool := c = '/' || (special && c = '\\')

/-- Does the character end the authority? -/
def endsAuthority (special : Bool) (c : Char) : Bool := isSlash special c || c = '?' || c = '#'

/-- Splits at the last `@`. -/
def splitAtLast (cs : List Char) : Option (List Char × List Char) :=
  let after := cs.reverse.takeWhile (· ≠ '@')
  if after.length < cs.length then
    some (cs.take (cs.length - after.length - 1), after.reverse)
  else none

/-- Name and password. A colon without a password is dropped. -/
def userText (cs : List Char) : List Char :=
  let name := cs.takeWhile (· ≠ ':')
  let password := (cs.dropWhile (· ≠ ':')).drop 1
  Percent.encode Percent.inUser name ++
    (if password.isEmpty then [] else ':' :: Percent.encode Percent.inUser password)

/-- The host at the beginning, up to a colon outside of brackets, and the rest. -/
def splitHost (inBrackets : Bool) : List Char → List Char × List Char
  | [] => ([], [])
  | c :: cs =>
    if c = ':' ∧ !inBrackets then ([], c :: cs)
    else
      let (host, rest) :=
        splitHost (if c = '[' then true else if c = ']' then false else inBrackets) cs
      (c :: host, rest)

def portLimit : Nat := 65535

/-- The number of a port, none when there are no digits, and what follows it. A backslash ends it,
whatever the scheme. -/
def port? (cs : List Char) : Except UrlError (Option Nat × List Char) :=
  let digits := cs.takeWhile Text.isDigit
  let rest := cs.dropWhile Text.isDigit
  if portLimit < Text.digitsValue digits ∨ !(rest.isEmpty ∨ rest.head? = some '\\') then
    .error .invalidPort
  else .ok (if digits.isEmpty then none else some (Text.digitsValue digits), rest)

/-- Reads host and port: the authority, and what follows it. -/
def hostAndPort (scheme : List Char) (user cs : List Char) :
    Except UrlError (Authority × List Char) := do
  let special := isSpecialScheme scheme
  let (hostText, rest) := splitHost false cs
  if hostText.isEmpty then
    if special ∨ !rest.isEmpty ∨ !user.isEmpty then .error .emptyHost
    else .ok ({}, [])
  else
    let host ← if special then Host.read hostText else Host.readOpaque hostText
    let (port, rest) ← port? (rest.drop 1)
    .ok (⟨user, some host, if port = defaultPort? scheme then none else port⟩, rest)

/-- Reads the text before the path. An `@` by itself is no authority, if anything follows. -/
def authority? (scheme cs : List Char) (isEnd : Bool) : Except UrlError (Authority × List Char) :=
  match splitAtLast cs with
  | none => hostAndPort scheme [] cs
  | some (user, rest) =>
    if user.isEmpty ∧ rest.isEmpty ∧ !isEnd then .error .emptyHost
    else hostAndPort scheme (userText user) rest

/-- The characters before the first that holds, and the rest. -/
def upTo (p : Char → Bool) (cs : List Char) : List Char × List Char :=
  (cs.takeWhile (fun c => !p c), cs.dropWhile (fun c => !p c))

/-- Splits a path, from its beginning, at every slash. -/
def splitPath (special : Bool) (cs : List Char) : List (List Char) :=
  splitOn '/' (if special then cs.map (fun c => if c = '\\' then '/' else c) else cs)

/-- The segments of a path. One that begins without a slash begins as if it had one. -/
def readPath (scheme cs : List Char) : List (List Char) :=
  let special := isSpecialScheme scheme
  let isFile := isFileScheme scheme
  let body := match cs with
    | c :: rest => if isSlash special c then rest else cs
    | [] => []
  if cs.isEmpty && !special then []
  else
    settle isFile
      (followAll isFile [] ((splitPath special body).map (Percent.encode Percent.inPath)))

/-- Query and fragment from where the path ends. -/
def readTail (scheme cs : List Char) : Option (List Char) × Option (List Char) :=
  let (front, fragment) := upTo (· = '#') cs
  let reserved := if isSpecialScheme scheme then Percent.inSpecialQuery else Percent.inQuery
  let query := match front with
    | _ :: q => some (Percent.encode reserved q)
    | [] => none
  let fragment := match fragment with
    | _ :: f => some (Percent.encode Percent.inFragment f)
    | [] => none
  (query, fragment)

def isTail (c : Char) : Bool := c = '?' || c = '#'

/-- Assembles a URL whose path is a list of segments. -/
def withPath (scheme : List Char) (authority : Option Authority) (cs : List Char) : Url :=
  let (path, tail) := upTo isTail cs
  let (query, fragment) := readTail scheme tail
  ⟨scheme, authority, .segments (readPath scheme path), query, fragment⟩

/-- What follows two slashes. -/
def readAuthority (scheme cs : List Char) : Except UrlError Url := do
  let (text, rest) := upTo (endsAuthority (isSpecialScheme scheme)) cs
  let (authority, more) ← authority? scheme text rest.isEmpty
  .ok (withPath scheme (some authority) (more ++ rest))

/-- The host of a file URL; the machine itself is none, and a drive letter belongs to the path. -/
def fileHost (text : List Char) : Except UrlError (Option Host) :=
  if text.isEmpty then .ok none
  else do
    let host ← Host.read text
    .ok (if host = .domain "localhost".toList then none else some host)

/-- What follows the colon of a file URL. A path that begins with a drive letter has no host. -/
def readFile (scheme cs : List Char) : Except UrlError Url :=
  match cs with
  | a :: b :: rest =>
    if isSlash true a && isSlash true b then
      let (text, after) := upTo (endsAuthority true) rest
      if isDriveLetter text then .ok (withPath scheme (some {}) rest)
      else do
        let host ← fileHost text
        let url := withPath scheme (some { host }) after
        match url.path with
        | .segments (first :: _) =>
          .ok (if isDriveLetter first then { url with authority := some {} } else url)
        | _ => .ok url
    else .ok (withPath scheme (some {}) cs)
  | _ => .ok (withPath scheme (some {}) cs)

/-- What follows the colon where the scheme is not known. -/
def readOther (scheme cs : List Char) : Except UrlError Url :=
  match cs with
  | '/' :: '/' :: rest => readAuthority scheme rest
  | '/' :: _ => .ok (withPath scheme none cs)
  | _ =>
    let (path, tail) := upTo isTail cs
    let (query, fragment) := readTail scheme tail
    .ok ⟨scheme, none, .opaqueText (Percent.encode [] path), query, fragment⟩

/-- The URL that a text spells. -/
def read (cs : List Char) : Except UrlError Url :=
  match scheme? (cleaned cs) with
  | none => .error .notAbsolute
  | some (scheme, rest) =>
    if isFileScheme scheme then readFile scheme rest
    else if isSpecialScheme scheme then readAuthority scheme (rest.dropWhile (isSlash true))
    else readOther scheme rest

end WaybillBoard.Url
