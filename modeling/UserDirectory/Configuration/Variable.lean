import UserDirectory.Configuration.Path
import UserDirectory.Text.Fields
import UserDirectory.Text.Floating

/-!
Environment variables as configuration: `APP__DATABASE__URL` sets `database.url`.
-/

namespace UserDirectory.Configuration

open Text

/-- The variables of an environment. No name stands twice. -/
abbrev Environment := List (String × String)

def variablePrefix : List Char := "app__".toList

def separateParts : List Char → List Char
  | '_' :: '_' :: rest => '.' :: separateParts rest
  | c :: rest => c :: separateParts rest
  | [] => []

def settingName? (given : String) : Option String :=
  let name := given.toList.map Char.toLower
  if variablePrefix.isPrefixOf name then
    some (String.ofList (separateParts (name.drop variablePrefix.length)))
  else none

/-- A text that reads as a truth value or as a number is one. -/
def valueOf (text : String) : Tree :=
  match String.ofList (text.toList.map Char.toLower) with
  | "true" => .flag true
  | "false" => .flag false
  | _ =>
    match (readInt? text.toList).filter isSigned64 with
    | some value => .whole value
    | none =>
      match Floating.read? text.toList with
      | some value => .decimal value
      | none => .text text

def layVariables (environment : Environment) (tree : Tree) : Tree :=
  environment.foldl (fun tree (name, text) =>
    match settingName? name with
    | some name => tree.lay name (valueOf text)
    | none => tree) tree

end UserDirectory.Configuration
