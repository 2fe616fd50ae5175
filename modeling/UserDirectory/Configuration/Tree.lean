/-!
Configuration trees: tables, lists and scalars. Later sources are laid over earlier ones member by
member, and single values are put at paths, which come into being where they are missing.
-/

namespace UserDirectory.Configuration

inductive Tree
  | nothing
  | flag (value : Bool)
  | whole (value : Int)
  | decimal (value : Float)
  | text (value : String)
  | table (members : List (String × Tree))
  | list (items : List Tree)
deriving Inhabited

namespace Tree

def members : Tree → List (String × Tree)
  | table members => members
  | _ => []

def items : Tree → List Tree
  | list items => items
  | _ => []

def member? (name : String) (tree : Tree) : Option Tree := tree.members.lookup name

/-- The table in which `name` stands for `value`. What is no table gives way to one. -/
def put (tree : Tree) (name : String) (value : Tree) : Tree :=
  let members := tree.members
  table (
    if (members.lookup name).isSome then
      members.map fun (key, old) => if key = name then (key, value) else (key, old)
    else members ++ [(name, value)])

def putItem (tree : Tree) (index : Nat) (value : Tree) : Tree :=
  let items := tree.items
  list ((items ++ List.replicate (index + 1 - items.length) nothing).set index value)

mutual

/-- Lays a value over the member of a tree: a table member by member, anything else as a whole. -/
def overlay (name : String) : Tree → Tree → Tree
  | table members, tree =>
    tree.put name (overlayAll members ((tree.member? name).getD (table [])))
  | value, tree => tree.put name value

def overlayAll : List (String × Tree) → Tree → Tree
  | [], tree => tree
  | (name, value) :: rest, tree => overlayAll rest (overlay name value tree)

end

inductive Step
  | member (name : String)
  | item (index : Nat)
deriving DecidableEq, Repr

def child (step : Step) (tree : Tree) : Tree :=
  match step with
  | .member name => (tree.member? name).getD nothing
  | .item index => (tree.items)[index]?.getD nothing

def layAt : List Step → Tree → Tree → Tree
  | [], value, _ => value
  | [.member name], value, tree => overlay name value tree
  | .member name :: rest, value, tree =>
    tree.put name (layAt rest value (tree.child (.member name)))
  | .item index :: rest, value, tree =>
    tree.putItem index (layAt rest value (tree.child (.item index)))

end Tree

end UserDirectory.Configuration
