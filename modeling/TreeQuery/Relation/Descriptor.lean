import TreeQuery.Relation.Kind

set_option autoImplicit false

/-! # Relation descriptors

A descriptor says which relation is meant: a kind and its modifiers. Number and via pattern are kept
whatever the kind is, so that switching kinds back and forth loses nothing. -/

namespace TreeQuery

/-- The pattern that matches every tree node. -/
def matchAny : String := ".*"

namespace Relation

/-- The argument of the two nth-child kinds: a positive number below `2 ^ 32`. -/
structure ChildIndex where
  value : Nat
  pos : 0 < value
  lt_size : value < UInt32.size
  deriving DecidableEq, Repr

namespace ChildIndex

/-- The first child. -/
def first : ChildIndex := ⟨1, by decide, by decide⟩

instance : Inhabited ChildIndex := ⟨first⟩

/-- A number as a child index, if it is one. -/
def ofInt? (i : Int) : Option ChildIndex :=
  if h : 0 < i.toNat ∧ i.toNat < UInt32.size then some ⟨i.toNat, h.1, h.2⟩ else none

theorem ofInt?_value (n : ChildIndex) : ofInt? n.value = some n :=
  dif_pos (show 0 < (n.value : Int).toNat ∧ (n.value : Int).toNat < UInt32.size from
    ⟨n.pos, n.lt_size⟩)

end ChildIndex

/-- A relation kind together with its modifiers. -/
structure Descriptor where
  kind : Kind := .descendant
  /-- The relation must not hold. -/
  negative : Bool := false
  /-- The relation need not hold. -/
  optional : Bool := false
  /-- The number argument, used by the nth-child kinds. -/
  n : ChildIndex := .first
  /-- The pattern of the nodes passed through, used by the via kinds. -/
  via : String := matchAny
  deriving DecidableEq, Repr, Inhabited

namespace Descriptor

/-! ## Edits -/

/-- One change of a descriptor. -/
inductive Edit
  | setKind (kind : Kind)
  | setNegative (value : Bool)
  | setOptional (value : Bool)
  | setN (value : Int)
  | setVia (via : String)
  deriving DecidableEq, Repr

/-- Change the number argument; a number that is no child index is ignored. -/
def setN (d : Descriptor) (i : Int) : Descriptor :=
  match ChildIndex.ofInt? i with
  | some n => { d with n }
  | none => d

/-- Carry out one change. -/
def edit (d : Descriptor) : Edit → Descriptor
  | .setKind kind => { d with kind }
  | .setNegative negative => { d with negative }
  | .setOptional optional => { d with optional }
  | .setN i => d.setN i
  | .setVia via => { d with via }

end Descriptor

end Relation

end TreeQuery
