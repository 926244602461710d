import WaybillBoard.Json.Printer
import WaybillBoard.Json.Record
import WaybillBoard.Time.Rfc3339
import WaybillBoard.Waybill.Basic

/-!
Writing Waybills as JSON. What is absent is left out, but for the times of a run, which are `null`.
-/

namespace WaybillBoard

open Json

def instantJson (t : Time.Instant) : Json := Json.chars (Time.Rfc3339.write t)

namespace Identity

def toJson (i : Identity) : Json :=
  .object (member "name" (Json.text i.name) ++
    (if i.generateName = "" then [] else member "generateName" (Json.text i.generateName)) ++
    member "namespace" (Json.text i.namespaceName) ++
    memberIf "creationTimestamp" (i.created.map instantJson))

end Identity

namespace SecretReference

def toJson (r : SecretReference) : Json :=
  .object (member "name" (Json.text r.name) ++
    memberIf "namespace" (r.namespaceName.map Json.text))

end SecretReference

namespace Spec

def toJson (s : Spec) : Json :=
  .object (memberIf "autoApply" (s.autoApply.map .bool) ++
    member "dryRun" (.bool s.dryRun) ++
    memberIf "prune" (s.prune.map .bool) ++
    memberIf "pruneClusterResources" (s.pruneClusterResources.map .bool) ++
    member "pruneBlacklist" (.array (s.pruneBlacklist.map Json.text)) ++
    member "repositoryPath" (Json.text s.repositoryPath) ++
    memberIf "runInterval" (s.runInterval.map Json.text) ++
    memberIf "runTimeout" (s.runTimeout.map Json.ofInt) ++
    member "serverSideApply" (.bool s.serverSideApply) ++
    memberIf "gitSSHSecretRef" (s.gitSshSecret.map SecretReference.toJson) ++
    memberIf "strongboxKeyringSecretRef" (s.strongboxKeyringSecret.map SecretReference.toJson) ++
    memberIf "delegateServiceAccountSecretRef"
      (s.delegateServiceAccountSecret.map SecretReference.toJson))

end Spec

namespace Run

def toJson (r : Run) : Json :=
  .object (member "type" (Json.text r.kind) ++
    member "command" (Json.text r.command) ++
    member "commit" (Json.text r.commit) ++
    member "started" (orNull instantJson r.started) ++
    member "finished" (orNull instantJson r.finished) ++
    member "output" (Json.text r.output) ++
    memberIf "errorMessage" (r.errorMessage.map Json.text) ++
    member "success" (.bool r.success))

end Run

namespace Waybill

def toJson (w : Waybill) : Json :=
  .object (member "kind" (Json.text w.kind) ++
    member "apiVersion" (Json.text w.apiVersion) ++
    member "metadata" w.identity.toJson ++
    member "spec" w.spec.toJson ++
    member "status" (.object (memberIf "lastRun" (w.lastRun.map Run.toJson))))

/-- The octets of a Waybill. -/
def encode (w : Waybill) : List UInt8 := w.toJson.render

end Waybill

end WaybillBoard
