import UnitCache.Path

namespace UnitCache

/-- A map from paths, in the order in which the keys came. -/
structure PathMap (α : Type) where
  entries : List (Path × α) := []
  deriving Inhabited

namespace PathMap

variable {α : Type}

def get? (map : PathMap α) (path : Path) : Option α := (map.entries.find? fun entry => entry.1 == path).map Prod.snd

def contains (map : PathMap α) (path : Path) : Bool := map.entries.any fun entry => entry.1 == path

/-- Puts a value into entries in the place of that at the same path, or behind all. -/
def place (path : Path) (value : α) : List (Path × α) → List (Path × α)
  | [] => [(path, value)]
  | entry :: rest => if entry.1 == path then (entry.1, value) :: rest else entry :: place path value rest

def insert (map : PathMap α) (path : Path) (value : α) : PathMap α := ⟨place path value map.entries⟩

def erase (map : PathMap α) (path : Path) : PathMap α := ⟨map.entries.filter fun entry => !(entry.1 == path)⟩

def size (map : PathMap α) : Nat := map.entries.length

def values (map : PathMap α) : List α := map.entries.map Prod.snd

end PathMap

abbrev PathSet := PathMap Unit

end UnitCache
