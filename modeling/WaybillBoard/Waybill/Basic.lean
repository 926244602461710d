import WaybillBoard.Time.Instant

/-!
Waybills: how one namespace is applied from a repository, and what the last run did.
-/

namespace WaybillBoard

/-- Who a Waybill is. -/
structure Identity where
  name : String := ""
  generateName : String := ""
  namespaceName : String := ""
  created : Option Time.Instant := none
  deriving DecidableEq, Repr

/-- A Secret by name, in the namespace of the Waybill unless another is given. -/
structure SecretReference where
  name : String := ""
  namespaceName : Option String := none
  deriving DecidableEq, Repr

/-- What a Waybill asks for. -/
structure Spec where
  autoApply : Option Bool := none
  dryRun : Bool := false
  prune : Option Bool := none
  pruneClusterResources : Option Bool := none
  pruneBlacklist : List String := []
  repositoryPath : String := ""
  /-- The text of the number of seconds between runs. -/
  runInterval : Option String := none
  runTimeout : Option Int := none
  serverSideApply : Bool := false
  gitSshSecret : Option SecretReference := none
  strongboxKeyringSecret : Option SecretReference := none
  delegateServiceAccountSecret : Option SecretReference := none
  deriving DecidableEq, Repr

/-- A finished or running application of a Waybill. -/
structure Run where
  kind : String := ""
  command : String := ""
  commit : String := ""
  started : Option Time.Instant := none
  finished : Option Time.Instant := none
  output : String := ""
  errorMessage : Option String := none
  success : Bool := false
  deriving DecidableEq, Repr

structure Waybill where
  kind : String := ""
  apiVersion : String := ""
  identity : Identity := {}
  spec : Spec := {}
  lastRun : Option Run := none
  deriving DecidableEq, Repr

namespace Waybill

def namespaceName (w : Waybill) : String := w.identity.namespaceName

def name (w : Waybill) : String := w.identity.name

end Waybill

end WaybillBoard
