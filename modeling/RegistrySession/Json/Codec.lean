import RegistrySession.Json.Printer
import RegistrySession.Json.Reader

/-!
# Codecs

A codec pairs the written form of a type with the reader for it. Codecs of compound types are
built from those of their parts, so that what one side writes the other side reads, part by part.
-/

namespace RegistrySession.Json

/-- A reader is given the number of arrays and objects that may still be opened. -/
structure Codec (α : Type) where
  encode : α → Json
  decode : Nat → Tree → Except Failure α

namespace Codec

variable {α β : Type}

def write (codec : Codec α) (value : α) : String :=
  (codec.encode value).render

def read (codec : Codec α) (input : String) : Except Failure α := do
  let document := Document.read input
  let value ← codec.decode maxDepth document.root
  if document.excess then .error .malformed
  return value

def ofJson (codec : Codec α) (value : Json) : Except Failure α :=
  codec.decode maxDepth value.tree

def string : Codec String where
  encode := .text
  decode
    | _, .text reading _ => reading
    | _, tree => .error tree.mismatch

def boolean : Codec Bool where
  encode := .bool
  decode
    | _, .bool value => .ok value
    | _, tree => .error tree.mismatch

/-- Whole numbers from zero to below a bound. -/
def below (bound : Nat) : Codec Nat where
  encode value := .ofNat value
  decode
    | _, .number (some (.whole (.ofNat value) _)) =>
      if value < bound then .ok value else .error .mismatched
    | _, tree => .error tree.mismatch

def uint16 : Codec UInt16 where
  encode value := (below UInt16.size).encode value.toNat
  decode depth tree := ((below UInt16.size).decode depth tree).map UInt16.ofNat

def uint64 : Codec UInt64 where
  encode value := (below UInt64.size).encode value.toNat
  decode depth tree := ((below UInt64.size).decode depth tree).map UInt64.ofNat

/-- Nothing is written as `null`. -/
def option (codec : Codec α) : Codec (Option α) where
  encode
    | none => .null
    | some value => codec.encode value
  decode
    | _, .null => .ok none
    | depth, tree => (codec.decode depth tree).map some

def decodeItems (codec : Codec α) (depth : Nat) : List Tree → Except Failure (List α)
  | [] => .ok []
  | item :: rest => do
    let first ← codec.decode depth item
    let others ← decodeItems codec depth rest
    return first :: others

def list (codec : Codec α) : Codec (List α) where
  encode values := .array (values.map codec.encode)
  decode
    | 0, .array .. => .error .malformed
    | depth + 1, .array items fault => do
      let values ← decodeItems codec depth items
      Tree.closing fault
      return values
    | _, tree => .error tree.mismatch

/-- A value of two forms, each an object with one member that is named for the form. -/
def either (left : String × Codec α) (right : String × Codec β) : Codec (α ⊕ β) where
  encode
    | .inl value => .object [(left.1, left.2.encode value)]
    | .inr value => .object [(right.1, right.2.encode value)]
  decode
    | 0, .object .. => .error .malformed
    | _ + 1, .object [] fault => .error (fault.getD .malformed)
    | _ + 1, .object ((.missing fault, _) :: _) _ => .error fault
    | depth + 1, .object ((.text reading, found) :: more) fault => do
      let name ← reading
      let value ←
        if name = left.1 then (left.2.decode depth found).map .inl
        else if name = right.1 then (right.2.decode depth found).map .inr
        else .error .mismatched
      if !more.isEmpty then .error .malformed
      Tree.closing fault
      return value
    | _, .text reading _ => do
      let _ ← reading
      .error .mismatched
    | _, .absent => .error .truncated
    | _, _ => .error .malformed

/-- A codec carried over to a type of the same values. -/
def iso (codec : Codec α) (forth : α → β) (back : β → α) : Codec β where
  encode value := codec.encode (back value)
  decode depth tree := (codec.decode depth tree).map forth

end Codec

end RegistrySession.Json
