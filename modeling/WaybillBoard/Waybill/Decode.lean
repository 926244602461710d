import WaybillBoard.Json.Reader
import WaybillBoard.Json.Record
import WaybillBoard.Time.Rfc3339
import WaybillBoard.Waybill.Basic

/-!
Reading Waybills from JSON. `around` counts the containers that a document stands in: nesting is
limited where a value of any shape is held before its kind is known.
-/

namespace WaybillBoard

open Json

def readInstant (j : Json) : Option Time.Instant :=
  (asText j).bind fun s => Time.Rfc3339.read s.toList

namespace Identity

def fieldNames : List String := ["name", "generateName", "namespace", "creationTimestamp"]

def ofJson? (j : Json) : Option Identity := do
  match ← fields fieldNames j with
  | [name, generateName, namespaceName, created] =>
    return {
      name := ← fieldOr "" asText name
      generateName := ← fieldOr "" asText generateName
      namespaceName := ← fieldOr "" asText namespaceName
      created := ← fieldOr none (nullable readInstant) created }
  | _ => none

end Identity

namespace SecretReference

def fieldNames : List String := ["name", "namespace"]

/-- The fields of an object; an empty namespace is none. -/
def ofMembers? (j : Json) : Option SecretReference := do
  match ← fields fieldNames j with
  | [name, namespaceName] =>
    let name ← fieldOr "" asText name
    let namespaceName ← fieldOr none (nullable asText) namespaceName
    return ⟨name, namespaceName.filter (· ≠ "")⟩
  | _ => none

/-- A bare name or an object. -/
def ofJson? (around : Nat) (j : Json) : Option SecretReference :=
  if !j.isValue around then none
  else match j with
    | .string literal => literal.text?.map (⟨·, none⟩)
    | .object _ => ofMembers? j
    | _ => none

end SecretReference

/-- A text, or the text of a number. -/
def textOrNumber (around : Nat) (j : Json) : Option String :=
  if !j.isValue around then none
  else match j with
    | .string literal => literal.text?
    | .number digits => (numberValue? digits).map (fun n => String.ofList n.text)
    | _ => none

namespace Spec

def fieldNames : List String :=
  ["autoApply", "dryRun", "prune", "pruneClusterResources", "pruneBlacklist", "repositoryPath",
    "runInterval", "runTimeout", "serverSideApply", "gitSSHSecretRef",
    "strongboxKeyringSecretRef", "delegateServiceAccountSecretRef"]

def ofJson? (around : Nat) (j : Json) : Option Spec := do
  let secret := nullable (SecretReference.ofJson? (around + 1))
  match ← fields fieldNames j with
  | [autoApply, dryRun, prune, pruneClusterResources, pruneBlacklist, repositoryPath, runInterval,
      runTimeout, serverSideApply, gitSshSecret, strongboxKeyringSecret,
      delegateServiceAccountSecret] =>
    return {
      autoApply := ← fieldOr none (nullable asBool) autoApply
      dryRun := ← fieldOr false asBool dryRun
      prune := ← fieldOr none (nullable asBool) prune
      pruneClusterResources := ← fieldOr none (nullable asBool) pruneClusterResources
      pruneBlacklist := ← fieldOr [] (nullOr [] (asList asText)) pruneBlacklist
      repositoryPath := ← fieldOr "" asText repositoryPath
      runInterval := ← fieldOr none (nullable (textOrNumber (around + 1))) runInterval
      runTimeout := ← fieldOr none (nullable asInt64) runTimeout
      serverSideApply := ← fieldOr false asBool serverSideApply
      gitSshSecret := ← fieldOr none secret gitSshSecret
      strongboxKeyringSecret := ← fieldOr none secret strongboxKeyringSecret
      delegateServiceAccountSecret := ← fieldOr none secret delegateServiceAccountSecret }
  | _ => none

end Spec

namespace Run

def fieldNames : List String :=
  ["type", "command", "commit", "started", "finished", "output", "errorMessage", "success"]

def ofJson? (j : Json) : Option Run := do
  match ← fields fieldNames j with
  | [kind, command, commit, started, finished, output, errorMessage, success] =>
    return {
      kind := ← fieldOr "" asText kind
      command := ← fieldOr "" asText command
      commit := ← fieldOr "" asText commit
      started := ← fieldOr none (nullable readInstant) started
      finished := ← fieldOr none (nullable readInstant) finished
      output := ← fieldOr "" asText output
      errorMessage := ← fieldOr none (nullable asText) errorMessage
      success := ← fieldOr false asBool success }
  | _ => none

end Run

namespace Waybill

/-- The last run in the status of a Waybill. -/
def lastRun? (j : Json) : Option (Option Run) := do
  match ← fields ["lastRun"] j with
  | [lastRun] => fieldOr none (nullable Run.ofJson?) lastRun
  | _ => none

def fieldNames : List String := ["kind", "apiVersion", "metadata", "spec", "status"]

def ofJson? (around : Nat) (j : Json) : Option Waybill := do
  match ← fields fieldNames j with
  | [kind, apiVersion, identity, spec, status] =>
    return {
      kind := ← fieldOr "" asText kind
      apiVersion := ← fieldOr "" asText apiVersion
      identity := ← fieldOr {} Identity.ofJson? identity
      spec := ← fieldOr {} (Spec.ofJson? (around + 1)) spec
      lastRun := ← fieldOr none lastRun? status }
  | _ => none

/-- The Waybill that the octets of a document spell. -/
def decode (octets : List UInt8) : Option Waybill := (Json.read octets).bind (ofJson? 0)

end Waybill

end WaybillBoard
