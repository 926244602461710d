import WaybillBoard.Text.Blank
import WaybillBoard.Waybill.Encode

/-!
Snapshots: the Waybills that one fetch brought, and what it asked for.
-/

namespace WaybillBoard

/-- What a fetch asks for: every Waybill, or the one of a namespace. -/
inductive Scope
  | all
  | only (namespaceName : String)
  deriving DecidableEq, Repr

namespace Scope

/-- The scope of a namespace that may be missing or blank. -/
def ofNamespace? (given : Option String) : Scope :=
  match given.map Text.trimmed with
  | none => .all
  | some ns => if ns = "" then .all else .only ns

def namespaceName? : Scope → Option String
  | .all => none
  | .only ns => some ns

def text : Scope → String
  | .all => "all"
  | .only ns => ns

def toJson : Scope → Json
  | .all => Json.text "all"
  | .only ns => .object (Json.member "namespace" (Json.text ns))

end Scope

/-- A list of Waybills with the template of links to their commits. -/
structure StatusList where
  waybills : List Waybill := []
  diffUrlFormat : String := ""
  deriving DecidableEq, Repr

structure Snapshot where
  scope : Scope
  waybills : List Waybill
  diffUrlFormat : String
  fetchedAt : Time.Instant
  deriving DecidableEq, Repr

namespace Snapshot

def ofList (list : StatusList) (fetchedAt : Time.Instant) : Snapshot :=
  ⟨.all, list.waybills, list.diffUrlFormat, fetchedAt⟩

/-- The snapshot of one Waybill. -/
def single (namespaceName : String) (waybill : Waybill) (diffUrlFormat : String)
    (fetchedAt : Time.Instant) : Snapshot :=
  ⟨.only namespaceName, [waybill], diffUrlFormat, fetchedAt⟩

/-- The first Waybill of a namespace. -/
def get? (s : Snapshot) (namespaceName : String) : Option Waybill :=
  s.waybills.find? (fun w => w.namespaceName = namespaceName)

def holds (s : Snapshot) (namespaceName : String) : Bool :=
  s.waybills.any (fun w => w.namespaceName = namespaceName)

def toJson (s : Snapshot) : Json :=
  .object (Json.member "scope" s.scope.toJson ++
    Json.member "waybills" (.array (s.waybills.map Waybill.toJson)) ++
    Json.member "diffUrlFormat" (Json.text s.diffUrlFormat) ++
    Json.member "fetchedAt" (instantJson s.fetchedAt))

end Snapshot

end WaybillBoard
