import WaybillBoard.Binary64.Reader

/-!
What a plain scalar stands for besides its text: nothing, a truth value or a number.
-/

namespace WaybillBoard.Yaml.Scalar

def isNull (cs : List Char) : Bool :=
  ["", "~", "null", "Null", "NULL"].contains (String.ofList cs)

def bool? (cs : List Char) : Option Bool :=
  if ["true", "True", "TRUE"].contains (String.ofList cs) then some true
  else if ["false", "False", "FALSE"].contains (String.ofList cs) then some false
  else none

/-- A zero before other digits makes no number of them. -/
def isPadded (cs : List Char) : Bool :=
  match (match cs with | '-' :: r | '+' :: r => r | r => r) with
  | '0' :: d :: ds => (d :: ds).all Char.isDigit
  | _ => false

/-- An infinity, no number or a finite decimal literal. -/
def number? (cs : List Char) : Option Binary64 :=
  let unsigned := match cs with | '+' :: r => r | r => r
  if cs.head? = some '+' && (unsigned.head? = some '+' || unsigned.head? = some '-') then none
  else if [".inf", ".Inf", ".INF"].contains (String.ofList unsigned) then some (.infinity false)
  else if ["-.inf", "-.Inf", "-.INF"].contains (String.ofList cs) then some (.infinity true)
  else if [".nan", ".NaN", ".NAN"].contains (String.ofList cs) then some .nan
  else match Binary64.ofLiteral unsigned with
    | .ok x => if x.isFinite then some x else none
    | .error _ => none

def digitValue? (base : Nat) (c : Char) : Option Nat :=
  let value := if '0' ≤ c ∧ c ≤ '9' then c.toNat - 48
    else if 'a' ≤ c ∧ c ≤ 'z' then c.toNat - 87
    else if 'A' ≤ c ∧ c ≤ 'Z' then c.toNat - 55
    else base
  if value < base then some value else none

def natural? (base : Nat) : List Char → Option Nat
  | [] => none
  | cs => cs.foldlM (fun n c => (digitValue? base c).map (base * n + ·)) 0

def bases : List (Char × Nat) := [('x', 16), ('o', 8), ('b', 2)]

/-- A whole number in another base, of at most 128 bits. -/
def isBased (cs : List Char) : Bool :=
  let limit := if cs.head? = some '-' then Nat.pow 2 127 else Nat.pow 2 128 - 1
  match (match cs with | '-' :: r | '+' :: r => r | r => r) with
  | '0' :: mark :: digits =>
    match bases.lookup mark with
    | some base => (natural? base digits).any (· ≤ limit)
    | none => false
  | _ => false

/-- Would the plain text read as something else than text? -/
def isSpecial (cs : List Char) : Bool :=
  isNull cs || (bool? cs).isSome || isBased cs || isPadded cs || (number? cs).isSome

end WaybillBoard.Yaml.Scalar
