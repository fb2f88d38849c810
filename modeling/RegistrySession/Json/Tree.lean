import RegistrySession.Json.Basic

/-!
# What a reader sees in a JSON text

A text is read once into a tree that records everything up to the first place where reading
cannot go on. Whoever asks for a value walks this tree from left to right and reports the first
fault on the way: a fault of the text where the tree ends, or a value that does not fit.

Two kinds of reading share the tree. A value that somebody asked for is read strictly. A value
that nobody asked for is passed over, and this checks its grammar only: no pairing of surrogates,
no size of numbers, no depth.
-/

namespace RegistrySession.Json

/-- Why a text gives no value: it is no JSON, it ends too early, or it is the wrong value. -/
inductive Failure
  | malformed
  | truncated
  | mismatched
  deriving DecidableEq, Repr, Inhabited

/-- The name of a member as read, or the fault where no text stands in its place. -/
inductive Name
  | text (reading : Except Failure String)
  | missing (fault : Failure)
  deriving Inhabited

inductive Tree
  | null
  | bool (value : Bool)
  /-- A number, or nothing if it is too large to be finite. -/
  | number (value : Option Number)
  /-- The strict reading of a text, and the fault that ends even passing over it, if any. -/
  | text (reading : Except Failure String) (fault : Option Failure)
  /-- The items, and the fault that stands after the last of them instead of the bracket. -/
  | array (items : List Tree) (fault : Option Failure)
  /-- The members, and the fault that stands after the last of them instead of the brace. Under
  a missing name stands nothing. -/
  | object (members : List (Name × Tree)) (fault : Option Failure)
  /-- The text ends here. -/
  | absent
  /-- No value starts here, or a word or number breaks off: the fault for a strict reading and
  the one for passing over. -/
  | broken (strict loose : Failure)
  deriving Inhabited

namespace Tree

/-- The fault to report where a value of another form was asked for. The text of a scalar is read
to its end before its form counts, an array or an object is refused at its bracket. -/
def mismatch : Tree → Failure
  | .text (.error fault) _ => fault
  | .number none => .malformed
  | .absent => .truncated
  | .broken strict _ => strict
  | _ => .mismatched

def closing (fault : Option Failure) : Except Failure Unit :=
  match fault with
  | none => .ok ()
  | some fault => .error fault

mutual

/-- Passes over a value that nobody asked for. -/
def pass : Tree → Except Failure Unit
  | .text _ fault => closing fault
  | .array items fault => do passItems items; closing fault
  | .object members fault => do passMembers members; closing fault
  | .absent => .error .truncated
  | .broken _ loose => .error loose
  | _ => .ok ()
termination_by structural tree => tree

def passItems : List Tree → Except Failure Unit
  | [] => .ok ()
  | item :: rest => do item.pass; passItems rest
termination_by structural items => items

def passMembers : List (Name × Tree) → Except Failure Unit
  | [] => .ok ()
  | (.missing fault, _) :: _ => .error fault
  | (.text _, value) :: rest => do value.pass; passMembers rest
termination_by structural members => members

end

mutual

/-- The value at a tree, read strictly, with at most `depth` arrays and objects inside each
other. Of members with one name the last counts. -/
def json : Nat → Tree → Except Failure Json
  | _, .null => .ok .null
  | _, .bool value => .ok (.bool value)
  | _, .number (some value) => .ok (.number value)
  | _, .number none => .error .malformed
  | _, .text reading _ => reading.map .text
  | 0, .array .. => .error .malformed
  | depth + 1, .array items fault => do
    let items ← jsonItems depth items
    closing fault
    return .array items
  | 0, .object .. => .error .malformed
  | depth + 1, .object members fault => do
    let members ← jsonMembers depth members []
    closing fault
    return .object members
  | _, .absent => .error .truncated
  | _, .broken strict _ => .error strict
termination_by structural _ tree => tree

def jsonItems : Nat → List Tree → Except Failure (List Json)
  | _, [] => .ok []
  | depth, item :: rest => do
    let first ← json depth item
    let others ← jsonItems depth rest
    return first :: others
termination_by structural _ items => items

/-- Adds the members to those already read. -/
def jsonMembers : Nat → List (Name × Tree) → List (String × Json) →
    Except Failure (List (String × Json))
  | _, [], seen => .ok seen
  | _, (.missing fault, _) :: _, _ => .error fault
  | depth, (.text reading, value) :: rest, seen => do
    let name ← reading
    let value ← json depth value
    jsonMembers depth rest (insertMember name value seen)
termination_by structural _ members => members

end

end Tree

/-! ## The tree of a value

The tree that reading the written form of a value gives. -/

mutual

def tree : Json → Tree
  | .null => .null
  | .bool value => .bool value
  | .number value => .number (some value)
  | .text value => .text (.ok value) none
  | .array items => .array (itemTrees items) none
  | .object members => .object (memberTrees members) none
termination_by structural value => value

def itemTrees : List Json → List Tree
  | [] => []
  | item :: rest => item.tree :: itemTrees rest
termination_by structural items => items

def memberTrees : List (String × Json) → List (Name × Tree)
  | [] => []
  | (name, value) :: rest => (.text (.ok name), value.tree) :: memberTrees rest
termination_by structural members => members

end

end RegistrySession.Json
