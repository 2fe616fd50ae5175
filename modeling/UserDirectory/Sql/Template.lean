import UserDirectory.Text.Decimal
import UserDirectory.Time.Instant

/-!
Statement texts with places for values. The places are numbered as the text is written, so the
values travel beside the text and never in it.
-/

namespace UserDirectory.Sql

open Text

inductive Cell
  | null
  | integer (value : Int)
  | text (value : String)
  | instant (value : Instant)
deriving DecidableEq

namespace Cell

def ofText (value : Option String) : Cell := (value.map text).getD null

def ofInstant (value : Option Instant) : Cell := (value.map instant).getD null

def ofInteger (value : Option Int) : Cell := (value.map integer).getD null

end Cell

inductive Piece
  | words (text : String)
  | value (cell : Cell)
deriving DecidableEq

abbrev Template := List Piece

namespace Template

def placeholder (n : Nat) : String := "$" ++ String.ofList (digits n)

/-- The text with its places numbered from `next` on. -/
def textFrom (next : Nat) : Template → String
  | [] => ""
  | .words text :: rest => text ++ textFrom next rest
  | .value _ :: rest => placeholder next ++ textFrom (next + 1) rest

def text (template : Template) : String := textFrom 1 template

def values (template : Template) : List Cell :=
  template.filterMap fun piece => match piece with
    | .words _ => none
    | .value cell => some cell

def joined (between : String) : List Template → Template
  | [] => []
  | [last] => last
  | first :: rest => first ++ .words between :: joined between rest

end Template

end UserDirectory.Sql
