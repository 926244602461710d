import WaybillBoard.Files.Content
import WaybillBoard.Source.Decode
import WaybillBoard.Text.Quoted

/-!
Snapshots without a server: from a file that holds a saved body, and from a list in memory.
-/

namespace WaybillBoard

/-- Does the document have a list of all Waybills? -/
def isListDocument : Json → Bool
  | .object members =>
    members.any (fun m => m.1.text? = some "Waybills")
  | _ => false

/-- The snapshot of a saved body, which may be of either form. -/
def Snapshot.ofSaved (content : List UInt8) (scope : Scope) (fetchedAt : Time.Instant) :
    Except FetchError Snapshot :=
  match Json.read content with
  | none => .error .malformedBody
  | some document =>
    if !document.isValue 0 then .error .malformedBody
    else if isListDocument document then
      match StatusList.ofJson? document with
      | some list => select list scope fetchedAt
      | none => .error .malformedBody
    else ofJson scope document fetchedAt

def FileError.fetchError (path : String) (e : FileError) : FetchError :=
  .network ("failed to read " ++ Text.Quoted.write path ++ ": " ++ e.message)

/-- The snapshot of a file. -/
def Snapshot.ofFile (path : String) (file : FileContent) (scope : Scope)
    (fetchedAt : Time.Instant) : Except FetchError Snapshot :=
  match file.read with
  | .error e => .error (e.fetchError path)
  | .ok content => ofSaved content scope fetchedAt

end WaybillBoard
