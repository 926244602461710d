import WaybillBoard.Yaml.Token

/-!
Nodes of a YAML document. A node may have an anchor, which is a number here, and an alias stands for
the node with its number.
-/

namespace WaybillBoard.Yaml

inductive Node
  | alias (id : Nat)
  | scalar (anchor : Option Nat) (tag : Option (List UInt8)) (style : ScalarStyle)
      (text : List Char)
  | sequence (anchor : Option Nat) (items : List Node)
  | mapping (anchor : Option Nat) (entries : List (Node × Node))

namespace Node

/-- The scalar that stands where nothing does. -/
def empty : Node := .scalar none none .plain []

def anchor? : Node → Option Nat
  | .alias _ => none
  | .scalar anchor _ _ _ => anchor
  | .sequence anchor _ => anchor
  | .mapping anchor _ => anchor

mutual

/-- A node and all within it, in the order of the text. -/
def all : Node → List Node
  | .sequence anchor items => .sequence anchor items :: allOf items
  | .mapping anchor entries => .mapping anchor entries :: allOfEntries entries
  | node => [node]

def allOf : List Node → List Node
  | [] => []
  | node :: nodes => all node ++ allOf nodes

def allOfEntries : List (Node × Node) → List Node
  | [] => []
  | (key, value) :: entries => all key ++ all value ++ allOfEntries entries

end

/-- What a node within the document stands for; of two nodes with a number the later counts. -/
def resolve (root : Node) : Node → Option Node
  | .alias id => ((root.all).filter (·.anchor? == some id)).getLast?
  | node => some node

end Node

end WaybillBoard.Yaml
