import WaybillBoard.Url.Host

/-!
URLs in their parts. Paths are lists of segments; only a URL that cannot have paths added to it has
a path that is a bare text.
-/

namespace WaybillBoard

namespace Url

/-- What stands between the two slashes and the path. -/
structure Authority where
  /-- Name and password, as far as they are there. -/
  user : List Char := []
  host : Option Host := none
  port : Option Nat := none
  deriving DecidableEq, Repr

inductive Path
  | opaqueText (text : List Char)
  | segments (segments : List (List Char))
  deriving DecidableEq, Repr

end Url

structure Url where
  scheme : List Char
  authority : Option Url.Authority := none
  path : Url.Path
  query : Option (List Char) := none
  fragment : Option (List Char) := none
  deriving DecidableEq, Repr

namespace Url

def Authority.write (a : Authority) : List Char :=
  (if a.user.isEmpty then [] else a.user ++ ['@']) ++
    ((a.host.map Host.write).getD []) ++
    (match a.port with
      | none => []
      | some port => ':' :: Text.natDigits port)

def segmentsText (segments : List (List Char)) : List Char :=
  segments.flatMap (fun s => '/' :: s)

/-- A slash and a dot keep a path from being taken for an authority. -/
def guardText (u : Url) : List Char :=
  match u.authority, u.path with
  | none, .segments ([] :: _ :: _) => ['/', '.']
  | _, _ => []

def pathText (u : Url) : List Char :=
  match u.path with
  | .opaqueText text => text
  | .segments segments => segmentsText segments

def write (u : Url) : List Char :=
  u.scheme ++ ':' ::
    (match u.authority with
      | none => []
      | some a => '/' :: '/' :: a.write) ++
    u.guardText ++ u.pathText ++
    (match u.query with
      | none => []
      | some q => '?' :: q) ++
    (match u.fragment with
      | none => []
      | some f => '#' :: f)

/-- Can paths be added to the URL? -/
def isBase (u : Url) : Bool :=
  match u.path with
  | .opaqueText _ => false
  | .segments _ => true

/-- The schemes whose URLs have a host, and where a backslash is a slash, with their ports. -/
def webSchemes : List (String × Nat) :=
  [("http", 80), ("https", 443), ("ws", 80), ("wss", 443), ("ftp", 21)]

def isFileScheme (scheme : List Char) : Bool := scheme = "file".toList

def defaultPort? (scheme : List Char) : Option Nat :=
  (webSchemes.find? (fun s => s.1.toList = scheme)).map (·.2)

def isSpecialScheme (scheme : List Char) : Bool :=
  isFileScheme scheme || (defaultPort? scheme).isSome

/-- Tabs and line breaks mean nothing in a URL. -/
def isIgnored (c : Char) : Bool := c = '\t' || c = '\n' || c = '\r'

end Url

end WaybillBoard
