import RegistrySession.Agent.Basic
import RegistrySession.Mcp.Basic

/-!
# Records as resources

What the library needs to know of a record whatever its kind: the key that addresses it, whether
the server marks it as latest, and whether connecting to it would go elsewhere than before. The
last of these compares the version and the places to connect to, as a set, or else one fallback
text where neither record lists places.
-/

namespace RegistrySession

structure Connectivity (α : Type) where
  version : String
  places : Option (List α)
  fallback : String

/-- Each list holds every element of the other. -/
def sameElements {α : Type} [DecidableEq α] (left right : List α) : Bool :=
  left.all (· ∈ right) && right.all (· ∈ left)

/-- The fallback counts only where both sides list no places at all. -/
def Connectivity.differs {α : Type} [DecidableEq α] (left right : Connectivity α) : Bool :=
  if left.version ≠ right.version then true
  else match left.places, right.places with
    | none, none => left.fallback ≠ right.fallback
    | some here, some there => !sameElements here there
    | _, _ => true

/-- A type of records that a session can watch. -/
class Resource (ρ : Type) where
  name : ρ → String
  version : ρ → String
  /-- Whether the server marks the record as latest, nothing if it did not say. -/
  latestMark : ρ → Option Bool
  connectsElsewhere : ρ → ρ → Bool

namespace Resource

variable {ρ : Type} [Resource ρ]

/-- The record's own slot; a blank version leaves only the latest one. -/
def key (record : ρ) : Key :=
  .versioned (name record) (version record)

/-- A record without a mark counts as latest. -/
def isLatest (record : ρ) : Bool :=
  (latestMark record).getD true

/-- A first record always is a change. -/
def changed (current : ρ) (previous : Option ρ) : Bool :=
  match previous with
  | none => true
  | some previous => connectsElsewhere current previous

end Resource

namespace Agent.Record

def connectivity (record : Record) : Connectivity Interface where
  version := record.card.version
  places := record.card.additionalInterfaces
  fallback := record.card.url

instance : Resource Record where
  name record := record.card.name
  version record := record.card.version
  latestMark record := record.latestVersion
  connectsElsewhere current previous := current.connectivity.differs previous.connectivity

end Agent.Record

namespace Mcp.Record

def connectivity (record : Record) : Connectivity Front where
  version := record.version
  places := record.frontEndpoints
  fallback := record.protocol

instance : Resource Record where
  name record := record.name
  version record := record.version
  latestMark record := record.latestVersion
  connectsElsewhere current previous := current.connectivity.differs previous.connectivity

end Mcp.Record

/-! ## What belongs to a kind -/

namespace Kind

abbrev Record : Kind → Type
  | .agent => Agent.Record
  | .mcp => Mcp.Record

abbrev Endpoint : Kind → Type
  | .agent => Agent.Endpoint
  | .mcp => Mcp.Endpoint

/-- What an application wants registered under one name. -/
abbrev Registration : Kind → Type
  | .agent => Agent.Registration
  | .mcp => Mcp.Endpoint

instance (kind : Kind) : Resource kind.Record :=
  match kind with
  | .agent => inferInstanceAs (Resource Agent.Record)
  | .mcp => inferInstanceAs (Resource Mcp.Record)

instance (kind : Kind) : DecidableEq kind.Endpoint :=
  match kind with
  | .agent => inferInstanceAs (DecidableEq Agent.Endpoint)
  | .mcp => inferInstanceAs (DecidableEq Mcp.Endpoint)

instance (kind : Kind) : DecidableEq kind.Registration :=
  match kind with
  | .agent => inferInstanceAs (DecidableEq Agent.Registration)
  | .mcp => inferInstanceAs (DecidableEq Mcp.Endpoint)

/-- The endpoint that withdraws a registration; only an empty batch has none. -/
def primary? : (kind : Kind) → kind.Registration → Option kind.Endpoint
  | .agent, registration => registration.primary?
  | .mcp, endpoint => some endpoint

def validate : (kind : Kind) → kind.Registration → Except Error Unit
  | .agent, registration => registration.validate
  | .mcp, endpoint => endpoint.validate

/-- A valid registration can be withdrawn. -/
theorem isSome_primary?_of_validate {kind : Kind} {registration : kind.Registration}
    (h : kind.validate registration = .ok ()) : (kind.primary? registration).isSome = true := by
  cases kind with
  | mcp => rfl
  | agent =>
    change Agent.Registration.validate registration = .ok () at h
    change (Agent.Registration.primary? registration).isSome = true
    unfold Agent.Registration.validate at h
    cases hprimary : Agent.Registration.primary? registration with
    | none => simp [hprimary] at h
    | some first => rfl

end Kind

end RegistrySession
