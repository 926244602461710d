import WaybillBoard.Text.Octets

/-!
What stands under the name of a file.
-/

namespace WaybillBoard

inductive FileContent
  | missing
  | directory
  | octets (content : List UInt8)
  deriving DecidableEq

inductive FileError
  | missing
  | directory
  /-- The file was to hold a text. -/
  | notText
  deriving DecidableEq

def FileError.message : FileError → String
  | .missing => "No such file or directory (os error 2)"
  | .directory => "Is a directory (os error 21)"
  | .notText => "stream did not contain valid UTF-8"

namespace FileContent

def isPresent : FileContent → Bool
  | .missing => false
  | _ => true

def read : FileContent → Except FileError (List UInt8)
  | .missing => .error .missing
  | .directory => .error .directory
  | .octets content => .ok content

def readText (file : FileContent) : Except FileError (List Char) := do
  match Text.Octets.decode (← file.read) with
  | some text => return text
  | none => throw .notText

end FileContent

end WaybillBoard
