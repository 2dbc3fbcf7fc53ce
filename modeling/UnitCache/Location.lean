namespace UnitCache

structure Location where
  file : String
  line : UInt32
  column : UInt32
  deriving DecidableEq, Inhabited, Repr

/-- The usual form of a place, the parts joined by colons. -/
def Location.text (location : Location) : String :=
  s!"{location.file}:{location.line.toNat}:{location.column.toNat}"

end UnitCache
