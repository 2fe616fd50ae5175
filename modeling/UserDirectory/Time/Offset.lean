import UserDirectory.Text.Decimal

namespace UserDirectory

open Text

structure Offset where
  /-- Seconds east of UTC. -/
  seconds : Int
  withinDay : -86400 < seconds ∧ seconds < 86400
deriving DecidableEq

namespace Offset

def ofSeconds? (seconds : Int) : Option Offset :=
  if within : -86400 < seconds ∧ seconds < 86400 then some ⟨seconds, within⟩ else none

def ofMinutes? (minutes : Int) : Option Offset := ofSeconds? (minutes * 60)

def utc : Offset := ⟨0, by decide⟩

def text (offset : Offset) : List Char :=
  let size := offset.seconds.natAbs
  let sign := if offset.seconds < 0 then '-' else '+'
  let minutes := sign :: fixedDigits 2 (size / 3600) ++ ':' :: fixedDigits 2 (size / 60 % 60)
  if size % 60 = 0 then minutes else minutes ++ ':' :: fixedDigits 2 (size % 60)

end Offset

end UserDirectory
