import UserDirectory.User.Filter

/-!
Listings by pages. Page numbers start at one, and page number and size fit 32 bits.
-/

namespace UserDirectory

structure Query where
  filter : Filter := {}
  page : Nat
  pageSize : Nat
deriving DecidableEq

/-- How many users the page leaves out before its first. Page zero counts as the first page. -/
def Query.skip (query : Query) : Nat := (query.page - 1) * query.pageSize

def Query.limit (query : Query) : Nat := query.pageSize

structure Page where
  users : List User
  /-- All users that the filter selects, on this page or not. -/
  total : Nat
  page : Nat
  pageSize : Nat
deriving DecidableEq

namespace Paging

def greatestPage : Nat := 4294967295
def defaultSize : Nat := 15
def greatestSize : Nat := 100

def page (wanted : Int) : Nat := min (max wanted 1).toNat greatestPage

def size (wanted : Int) : Nat :=
  if wanted ≤ 0 then defaultSize else min wanted.toNat greatestSize

end Paging

end UserDirectory
