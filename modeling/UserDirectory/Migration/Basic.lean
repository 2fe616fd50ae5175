import UserDirectory.Sql.Schema

/-!
Migrations: numbered steps of the schema, each with the script that takes it and the script that
takes it back, and the table that records which steps are taken.
-/

namespace UserDirectory

structure Migration where
  version : Int
  description : String
  up : String
  down : String
deriving DecidableEq

namespace Migration

open Sql

def schema : List Migration := [
  { version := 1
    description := "Create system_users table"
    up := Schema.createAll
    down := Schema.dropAll },
  { version := 2
    description := "Enforce uniqueness of live account, email and mobile"
    up := Schema.createUniqueIndexes
    down := Schema.dropUniqueIndexes }]

def inOrder (migrations : List Migration) : List Migration :=
  migrations.mergeSort fun a b => a.version ≤ b.version

inductive Bookkeeping
  | createTable
  | versions
  | record (version : Int) (description : String)
  | forget (version : Int)
deriving DecidableEq

namespace Bookkeeping

def template : Bookkeeping → Template
  | createTable =>
    [.words ("CREATE TABLE IF NOT EXISTS _migrations ( version BIGINT PRIMARY KEY, " ++
      "description TEXT NOT NULL, installed_on TIMESTAMPTZ NOT NULL DEFAULT NOW() )")]
  | versions => [.words "SELECT version FROM _migrations ORDER BY version"]
  | record version description =>
    [.words "INSERT INTO _migrations (version, description) VALUES (",
      .value (.integer version), .words ", ", .value (.text description), .words ")"]
  | forget version =>
    [.words "DELETE FROM _migrations WHERE version = ", .value (.integer version)]

def resultColumns : Bookkeeping → List String
  | versions => ["version"]
  | _ => []

end Bookkeeping

end Migration

end UserDirectory
