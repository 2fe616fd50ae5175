import UserDirectory.Configuration.Reading
import UserDirectory.Configuration.Toml.Document
import UserDirectory.Configuration.Variable

/-!
Loading the configuration. Later sources win, setting by setting: the default file, the local file,
the environment, and `DATABASE_URL` for the address of the database.
-/

namespace UserDirectory.Configuration

structure Files where
  defaults : Option String := none
  overrides : Option String := none

def layFile (file : Option String) (tree : Tree) : Except LoadError Tree :=
  match file with
  | none => .ok tree
  | some text =>
    match Toml.read? text.toList with
    | none => .error .badFile
    | some found => .ok (found.members.foldl (fun tree (name, value) => tree.lay name value) tree)

def layUrl (environment : Environment) (tree : Tree) : Tree :=
  match environment.lookup "DATABASE_URL" with
  | some url => tree.lay "database.url" (.text url)
  | none => tree

def sources (files : Files) (environment : Environment) : Except LoadError Tree := do
  let tree ← layFile files.defaults (.table [])
  let tree ← layFile files.overrides tree
  return layUrl environment (layVariables environment tree)

def load (files : Files) (environment : Environment) : Except LoadError Configuration := do
  ofTree (← sources files environment)

end UserDirectory.Configuration
