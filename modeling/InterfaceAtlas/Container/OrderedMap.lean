/-!
# Maps that keep the order of their keys

A key stands where it was first put; putting it again changes only its value.
-/

namespace InterfaceAtlas

/-- Keys with values, in the order in which the keys came. -/
structure OrderedMap (κ ν : Type) where
  entries : List (κ × ν) := []
deriving DecidableEq, Repr, Inhabited

namespace OrderedMap

variable {κ ν : Type} [DecidableEq κ]

/-- The map without keys. -/
def empty : OrderedMap κ ν := ⟨[]⟩

/-- The keys, in order. -/
def keys (m : OrderedMap κ ν) : List κ := m.entries.map Prod.fst

/-- The values, in the order of their keys. -/
def values (m : OrderedMap κ ν) : List ν := m.entries.map Prod.snd

/-- The value of a key in a list of entries. -/
def find? (k : κ) : List (κ × ν) → Option ν
  | [] => none
  | (k', v) :: more => if k' = k then some v else find? k more

/-- The value of a key. -/
def get? (m : OrderedMap κ ν) (k : κ) : Option ν := find? k m.entries

/-- Whether a key has a value. -/
def contains (m : OrderedMap κ ν) (k : κ) : Bool := (m.get? k).isSome

/-- The number of keys. -/
def size (m : OrderedMap κ ν) : Nat := m.entries.length

/-- The entries with the value of `k` made from the one it had; a new key comes last. -/
def alterEntries (k : κ) (f : Option ν → ν) : List (κ × ν) → List (κ × ν)
  | [] => [(k, f none)]
  | (k', v) :: more => if k' = k then (k', f (some v)) :: more else (k', v) :: alterEntries k f more

/-- The map with the value of `k` made from the one it had; a new key comes last. -/
def alter (m : OrderedMap κ ν) (k : κ) (f : Option ν → ν) : OrderedMap κ ν :=
  ⟨alterEntries k f m.entries⟩

/-- The map with the value of `k` set. -/
def insert (m : OrderedMap κ ν) (k : κ) (v : ν) : OrderedMap κ ν := m.alter k fun _ => v

end OrderedMap

end InterfaceAtlas
