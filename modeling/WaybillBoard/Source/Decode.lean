import WaybillBoard.Snapshot.Basic
import WaybillBoard.Source.FetchError
import WaybillBoard.Waybill.Decode

/-!
Snapshots from the bodies that a status server sends: one form for all Waybills, another for the
Waybill of a namespace.
-/

namespace WaybillBoard

open Json

/-- All Waybills: `Waybills`, which may be `null`, and `DiffURLFormat`. -/
def StatusList.ofJson? (j : Json) : Option StatusList := do
  match ← fields ["Waybills", "DiffURLFormat"] j with
  | [waybills, diffUrlFormat] =>
    return {
      waybills := ← fieldOr [] (nullOr [] (asList (Waybill.ofJson? 2))) waybills
      diffUrlFormat := ← fieldOr "" asText diffUrlFormat }
  | _ => none

/-- The Waybill of one namespace, if it has one. -/
structure NamespaceStatus where
  waybill : Option Waybill := none
  diffUrlFormat : String := ""

/-- `Waybill`, which may be `null`, and `DiffURLFormat`. -/
def NamespaceStatus.ofJson? (j : Json) : Option NamespaceStatus := do
  match ← fields ["Waybill", "DiffURLFormat"] j with
  | [waybill, diffUrlFormat] =>
    return {
      waybill := ← fieldOr none (nullable (Waybill.ofJson? 1)) waybill
      diffUrlFormat := ← fieldOr "" asText diffUrlFormat }
  | _ => none

def FetchError.malformedBody : FetchError := .malformed "the body is not a status document"

/-- The snapshot that a document holds for a scope. -/
def Snapshot.ofJson (scope : Scope) (document : Json) (fetchedAt : Time.Instant) :
    Except FetchError Snapshot :=
  match scope with
  | .all =>
    match StatusList.ofJson? document with
    | some list => .ok (ofList list fetchedAt)
    | none => .error .malformedBody
  | .only ns =>
    match NamespaceStatus.ofJson? document with
    | none => .error .malformedBody
    | some ⟨none, _⟩ => .error (.notFound ns)
    | some ⟨some waybill, diffUrlFormat⟩ => .ok (single ns waybill diffUrlFormat fetchedAt)

/-- The snapshot that a body holds for a scope. -/
def Snapshot.decode (scope : Scope) (body : List UInt8) (fetchedAt : Time.Instant) :
    Except FetchError Snapshot :=
  match Json.read body with
  | some document => ofJson scope document fetchedAt
  | none => .error .malformedBody

/-- Narrows a list of all Waybills to a scope. -/
def Snapshot.select (list : StatusList) (scope : Scope) (fetchedAt : Time.Instant) :
    Except FetchError Snapshot :=
  match scope with
  | .all => .ok (ofList list fetchedAt)
  | .only ns =>
    match list.waybills.find? (fun w => w.namespaceName = ns) with
    | some waybill => .ok (single ns waybill list.diffUrlFormat fetchedAt)
    | none => .error (.notFound ns)

end WaybillBoard
