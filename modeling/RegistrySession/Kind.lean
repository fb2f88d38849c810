/-!
# Kinds of resources

A registry holds two kinds of records, agents and MCP servers, and everything a session keeps, it
keeps once for each.
-/

namespace RegistrySession

universe u

inductive Kind
  | agent
  | mcp
  deriving DecidableEq, Inhabited

namespace Kind

def all : List Kind := [.agent, .mcp]

def capability : Kind → String
  | .agent => "agent_registry"
  | .mcp => "mcp_registry"

def ofCapability? (name : String) : Option Kind :=
  all.find? fun kind => kind.capability = name

theorem ofCapability?_capability (kind : Kind) : ofCapability? kind.capability = some kind := by
  cases kind <;> rfl

end Kind

structure PerKind (F : Kind → Type u) where
  agent : F .agent
  mcp : F .mcp

namespace PerKind

variable {F : Kind → Type u}

def get (values : PerKind F) : (kind : Kind) → F kind
  | .agent => values.agent
  | .mcp => values.mcp

def set (values : PerKind F) : (kind : Kind) → F kind → PerKind F
  | .agent, value => { values with agent := value }
  | .mcp, value => { values with mcp := value }

def ofFn (f : (kind : Kind) → F kind) : PerKind F := ⟨f .agent, f .mcp⟩

@[simp]
theorem get_set_self (values : PerKind F) (kind : Kind) (value : F kind) :
    (values.set kind value).get kind = value := by
  cases kind <;> rfl

theorem get_set_of_ne (values : PerKind F) {kind other : Kind} (value : F kind)
    (h : other ≠ kind) : (values.set kind value).get other = values.get other := by
  cases kind <;> cases other <;> first | rfl | exact absurd rfl h

@[simp]
theorem set_get (values : PerKind F) (kind : Kind) :
    values.set kind (values.get kind) = values := by
  cases kind <;> rfl

@[simp]
theorem get_ofFn (f : (kind : Kind) → F kind) (kind : Kind) : (ofFn f).get kind = f kind := by
  cases kind <;> rfl

end PerKind

end RegistrySession
