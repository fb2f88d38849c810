import RegistrySession.Json.Record
import RegistrySession.Text.Blank

/-!
# Resource keys

A key addresses a record by name, either one version of it or the latest slot, which holds
whichever version the server marks as latest.
-/

namespace RegistrySession

/-- No version means the latest slot. -/
structure Key where
  name : String
  version : Option String
  deriving DecidableEq, Inhabited

namespace Key

/-- A blank version means the latest slot. -/
def of (name : String) (version : Option String) : Key :=
  ⟨name, version.filter fun version => !Text.isBlank version⟩

def latest (name : String) : Key := ⟨name, none⟩

def versioned (name version : String) : Key := of name (some version)

def isLatest (key : Key) : Bool := key.version.isNone

def asLatest (key : Key) : Key := latest key.name

def display (key : Key) : String :=
  key.name ++ "::" ++ key.version.getD "latest"

/-- Keys are ordered by name, and of one name the latest slot comes first. -/
def precedes (left right : Key) : Bool :=
  if left.name = right.name then
    match left.version, right.version with
    | none, _ => true
    | some _, none => false
    | some v, some w => v ≤ w
  else left.name < right.name

open Json in
/-- A key is read as it stands, also with a blank version. -/
def codec : Codec Key :=
  .record (.cons (.required "name" .string) (.cons (.optional "version" .string) .nil))
    (fun key => (key.name, key.version, ()))
    (fun (name, version, ()) => ⟨name, version⟩)

def pair (key : Key) : Json :=
  .array [.text key.name, .ofOption .text key.version]

def ofPair? : Json → Option Key
  | .array [.text name] => some (of name none)
  | .array [.text name, .null] => some (of name none)
  | .array [.text name, .text version] => some (of name (some version))
  | _ => none

theorem versioned_of_not_isBlank {name version : String} (h : Text.isBlank version = false) :
    versioned name version = ⟨name, some version⟩ := by
  simp [versioned, of, Option.filter, h]

theorem versioned_of_isBlank {name version : String} (h : Text.isBlank version = true) :
    versioned name version = latest name := by
  simp [versioned, of, latest, Option.filter, h]

end Key

end RegistrySession
