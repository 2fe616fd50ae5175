import UserDirectory.Configuration.Tree

/-!
TOML tables while a document is read: each remembers how it came into being, which decides what may
still be added to it.
-/

namespace UserDirectory.Configuration.Toml

inductive Shape
  /-- Named by a header of its own. -/
  | explicit
  /-- There only because a table inside it has a header. -/
  | implicit
  /-- Made by a dotted key. -/
  | dotted
deriving DecidableEq, Repr

inductive Node
  | value (tree : Tree)
  | table (shape : Shape) (members : List (String × Node))
  /-- The tables under headers with double brackets. -/
  | tables (items : List Node)
deriving Inhabited

namespace Node

def empty (shape : Shape) : Node := table shape []

def members : Node → List (String × Node)
  | table _ members => members
  | _ => []

def shape : Node → Shape
  | table shape _ => shape
  | _ => .explicit

def put (owner : Node) (name : String) (node : Node) : Node :=
  let members := owner.members
  table owner.shape (
    if (members.lookup name).isSome then
      members.map fun (key, old) => if key = name then (key, node) else (key, old)
    else members ++ [(name, node)])

/-- Changes the table at a path. Tables missing on the way are made. A path through a list of tables
goes on in its last one; a dotted key may not pass through a table that has a header. -/
def within (dotted : Bool) : List String → (Node → Option Node) → Node → Option Node
  | [], change, owner => change owner
  | key :: rest, change, owner =>
    match owner.members.lookup key with
    | none =>
      (within dotted rest change (empty (if dotted then .dotted else .implicit))).map
        fun node => owner.put key node
    | some (.value _) => none
    | some (.tables items) => do
      let last ← items.getLast?
      let node ← within dotted rest change last
      return owner.put key (.tables (items.dropLast ++ [node]))
    | some (.table shape members) =>
      if dotted ∧ shape = .explicit then none
      else
        (within dotted rest change (.table shape members)).map fun node => owner.put key node

/-- Gives a key a value. No key has two values, and dotted keys add only to tables made by dotted
keys. -/
def assign (path : List String) (key : String) (tree : Tree) : Node → Option Node :=
  within true path fun owner =>
    if (owner.shape = .dotted) = (path = []) then none
    else if (owner.members.lookup key).isSome then none
    else some (owner.put key (.value tree))

/-- Opens the table of a header. No table has two headers. -/
def openTable (path : List String) (key : String) : Node → Option Node :=
  within false path fun owner =>
    match owner.members.lookup key with
    | none => some (owner.put key (empty .explicit))
    | some (.table .implicit members) => some (owner.put key (.table .explicit members))
    | some _ => none

def openItem (path : List String) (key : String) : Node → Option Node :=
  within false path fun owner =>
    match owner.members.lookup key with
    | none => some (owner.put key (.tables [empty .explicit]))
    | some (.tables items) => some (owner.put key (.tables (items ++ [empty .explicit])))
    | some _ => none

mutual

def tree : Node → Tree
  | value tree => tree
  | table _ members => .table (memberTrees members)
  | tables items => .list (itemTrees items)

def memberTrees : List (String × Node) → List (String × Tree)
  | [] => []
  | (name, node) :: rest => (name, node.tree) :: memberTrees rest

def itemTrees : List Node → List Tree
  | [] => []
  | node :: rest => node.tree :: itemTrees rest

end

end Node

end UserDirectory.Configuration.Toml
