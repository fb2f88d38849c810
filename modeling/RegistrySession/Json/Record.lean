import RegistrySession.Json.Codec

/-!
# Codecs of records

A record is described once by its fields in order, and both its writer and its reader follow that
description. The reader takes an object, with members in any order and unknown ones passed over,
or an array of the fields in order.
-/

namespace RegistrySession.Json

/-- One field of a record: its name, its codec, what it is when its member is missing from an
object, what it is when an array is too short for it, and the values that are not written. -/
structure Field (α : Type) where
  name : String
  codec : Codec α
  ifMissing : Option α := none
  ifShort : Option α := none
  isHidden : α → Bool := fun _ => false

def Field.required {α : Type} (name : String) (codec : Codec α) : Field α :=
  { name, codec }

def Field.defaulting {α : Type} (name : String) (codec : Codec α) (value : α) : Field α :=
  { name, codec, ifMissing := some value, ifShort := some value }

/-- A field that may be missing from an object, but not from an array. -/
def Field.optional {α : Type} (name : String) (codec : Codec α) : Field (Option α) :=
  { name, codec := codec.option, ifMissing := some none }

inductive Fields : List Type → Type 1
  | nil : Fields []
  | cons {α : Type} {types : List Type} (field : Field α) (rest : Fields types) :
    Fields (α :: types)

def Row : List Type → Type
  | [] => Unit
  | α :: types => α × Row types

/-- The values of those fields of a record that have been read so far. -/
def Slots : List Type → Type
  | [] => Unit
  | α :: types => Option α × Slots types

namespace Fields

def write : {types : List Type} → Fields types → Row types → List (String × Json)
  | _, .nil, () => []
  | _, .cons field rest, (value, values) =>
    if field.isHidden value then rest.write values
    else (field.name, field.codec.encode value) :: rest.write values

def unread : {types : List Type} → Fields types → Slots types
  | _, .nil => ()
  | _, .cons _ rest => (none, rest.unread)

/-- Reads the member of a name into its slot. Nothing if no field has the name; a second member
for one field is a fault as soon as its name is read. -/
def accept : {types : List Type} → Fields types → Nat → String → Tree → Slots types →
    Option (Except Failure (Slots types))
  | _, .nil, _, _, _, _ => none
  | _, .cons field rest, depth, name, tree, (slot, slots) =>
    if field.name = name then
      some (if slot.isSome then .error .mismatched
        else (field.codec.decode depth tree).map fun value => (some value, slots))
    else (rest.accept depth name tree slots).map fun result =>
      result.map fun slots => (slot, slots)

def complete : {types : List Type} → Fields types → Slots types → Except Failure (Row types)
  | _, .nil, () => .ok ()
  | _, .cons field rest, (slot, slots) =>
    match slot.or field.ifMissing with
    | none => .error .mismatched
    | some value => (rest.complete slots).map fun values => (value, values)

def members {types : List Type} (fields : Fields types) (depth : Nat) :
    List (Name × Tree) → Slots types → Except Failure (Slots types)
  | [], slots => .ok slots
  | (.missing fault, _) :: _, _ => .error fault
  | (.text reading, tree) :: rest, slots => do
    let name ← reading
    match fields.accept depth name tree slots with
    | some result => do
      let slots ← result
      fields.members depth rest slots
    | none => do
      tree.pass
      fields.members depth rest slots

/-- The row of an array. Items beyond the last field are a fault of the text. -/
def items : {types : List Type} → Fields types → Nat → List Tree → Option Failure →
    Except Failure (Row types)
  | _, .nil, _, [], fault => Tree.closing fault
  | _, .nil, _, _ :: _, _ => .error .malformed
  | _, .cons field rest, depth, tree :: trees, fault => do
    let value ← field.codec.decode depth tree
    let values ← rest.items depth trees fault
    return (value, values)
  | _, .cons field rest, depth, [], fault => do
    Tree.closing fault
    match field.ifShort with
    | none => .error .mismatched
    | some value => do
      let values ← rest.items depth [] fault
      return (value, values)

def read {types : List Type} (fields : Fields types) : Nat → Tree → Except Failure (Row types)
  | 0, .object .. => .error .malformed
  | depth + 1, .object found fault => do
    let slots ← fields.members depth found fields.unread
    Tree.closing fault
    fields.complete slots
  | 0, .array .. => .error .malformed
  | depth + 1, .array found fault => fields.items depth found fault
  | _, tree => .error tree.mismatch

end Fields

def Codec.record {types : List Type} {α : Type} (fields : Fields types) (view : α → Row types)
    (build : Row types → α) : Codec α where
  encode value := .object (fields.write (view value))
  decode depth tree := (fields.read depth tree).map build

/-! ## Records that spread out another one

Such a record writes the members of an inner record in front of its own. Its reader cannot tell
whether a member belongs to the inner record, so it keeps every member that is not its own as
a free value and reads the inner record from them at the end. By then the text is known to be
sound, and whatever is wrong is a wrong value.
-/

/-- Reads own members into their slots and keeps the others, checked as free values. -/
def Fields.sift {types : List Type} (fields : Fields types) (depth : Nat) :
    List (Name × Tree) → Slots types → Except Failure (Slots types × List (Name × Tree))
  | [], slots => .ok (slots, [])
  | (.missing fault, _) :: _, _ => .error fault
  | (.text reading, tree) :: rest, slots => do
    let name ← reading
    match fields.accept depth name tree slots with
    | some result => do
      let slots ← result
      fields.sift depth rest slots
    | none => do
      let _ ← tree.json depth
      let (slots, kept) ← fields.sift depth rest slots
      return (slots, (.text (.ok name), tree) :: kept)

def asMismatch {α : Type} : Except Failure α → Except Failure α
  | .ok value => .ok value
  | .error _ => .error .mismatched

/-- The codec of a record with own fields that spreads out an inner record. -/
def Codec.spread {inner own : List Type} {α : Type} (innerFields : Fields inner)
    (ownFields : Fields own) (view : α → Row inner × Row own) (build : Row inner → Row own → α) :
    Codec α where
  encode value :=
    let (innerRow, ownRow) := view value
    .object (innerFields.write innerRow ++ ownFields.write ownRow)
  decode
    | 0, .object .. => .error .malformed
    | depth + 1, .object members fault => do
      let (slots, kept) ← ownFields.sift depth members ownFields.unread
      Tree.closing fault
      let ownRow ← ownFields.complete slots
      let innerSlots ← asMismatch (innerFields.members depth kept innerFields.unread)
      let innerRow ← asMismatch (innerFields.complete innerSlots)
      return build innerRow ownRow
    | _, .array .. => .error .mismatched
    | _, tree => .error tree.mismatch

end RegistrySession.Json
