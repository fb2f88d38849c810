import Mathlib.Data.Set.Basic
import RegistrySession.Resource

/-!
# Records that connect alike

Two records connect alike if going from one to the other would not be told to a listener.  This is
an equivalence: places are compared as sets, and the fallback only where neither side lists any.
-/

namespace RegistrySession

section Connectivity

variable {α : Type} [DecidableEq α]

theorem sameElements_iff {left right : List α} :
    sameElements left right = true ↔ ∀ place, place ∈ left ↔ place ∈ right := by
  simp only [sameElements, Bool.and_eq_true, List.all_eq_true, decide_eq_true_eq]
  exact ⟨fun h place => ⟨h.1 place, h.2 place⟩, fun h => ⟨fun place => (h place).1,
    fun place => (h place).2⟩⟩

/-- The places to connect to, as a set, or the text that stands in for them. -/
def Connectivity.target (connectivity : Connectivity α) : Set α ⊕ String :=
  match connectivity.places with
  | some places => .inl {place | place ∈ places}
  | none => .inr connectivity.fallback

/-- Connections go elsewhere just if the version or the target differs. -/
theorem Connectivity.differs_eq_false_iff {left right : Connectivity α} :
    left.differs right = false ↔
      left.version = right.version ∧ left.target = right.target := by
  unfold differs target
  by_cases hversion : left.version = right.version
  · cases hleft : left.places <;> cases hright : right.places
    · simp [hversion]
    · simp [hversion]
    · simp [hversion]
    · simp only [hversion, ne_eq, not_true_eq_false, if_false, Bool.not_eq_false', sameElements_iff,
        true_and, Sum.inl.injEq, Set.ext_iff, Set.mem_ofPred_eq]
  · simp [hversion]

/-- Where both sides list places, neither their order nor their repetition counts. -/
theorem Connectivity.differs_eq_false_iff_of_places {left right : Connectivity α}
    {here there : List α} (hleft : left.places = some here) (hright : right.places = some there) :
    left.differs right = false ↔
      left.version = right.version ∧ ∀ place, place ∈ here ↔ place ∈ there := by
  simp only [differs_eq_false_iff, target, hleft, hright, Sum.inl.injEq, Set.ext_iff,
    Set.mem_ofPred_eq]

end Connectivity

/-- Whether a connection goes elsewhere is read off a part of the record. -/
class LawfulResource (ρ : Type) [Resource ρ] : Prop where
  equivalence : Equivalence fun left right : ρ => Resource.connectsElsewhere left right = false

theorem Connectivity.equivalence {ρ α : Type} [DecidableEq α] (part : ρ → Connectivity α) :
    Equivalence fun left right => (part left).differs (part right) = false := by
  simp only [differs_eq_false_iff]
  constructor
  · exact fun _ => ⟨rfl, rfl⟩
  · exact fun h => ⟨h.1.symm, h.2.symm⟩
  · exact fun h k => ⟨h.1.trans k.1, h.2.trans k.2⟩

instance : LawfulResource Agent.Record :=
  ⟨Connectivity.equivalence Agent.Record.connectivity⟩

instance : LawfulResource Mcp.Record :=
  ⟨Connectivity.equivalence Mcp.Record.connectivity⟩

instance (kind : Kind) : LawfulResource kind.Record :=
  match kind with
  | .agent => inferInstanceAs (LawfulResource Agent.Record)
  | .mcp => inferInstanceAs (LawfulResource Mcp.Record)

namespace Resource

variable {ρ : Type} [Resource ρ] [LawfulResource ρ] {record other third : ρ}

theorem connectsElsewhere_self (record : ρ) : connectsElsewhere record record = false :=
  LawfulResource.equivalence.refl record

theorem connectsElsewhere_comm (record other : ρ) :
    connectsElsewhere record other = connectsElsewhere other record := by
  have hsymm : ∀ {left right : ρ}, connectsElsewhere left right = false →
      connectsElsewhere right left = false := LawfulResource.equivalence.symm
  rw [Bool.eq_iff_iff, ← not_iff_not, Bool.not_eq_true, Bool.not_eq_true]
  exact ⟨hsymm, hsymm⟩

/-- What connects alike to one of two records that connect alike does so to the other. -/
theorem connectsElsewhere_trans (h : connectsElsewhere record other = false)
    (hother : connectsElsewhere other third = false) : connectsElsewhere record third = false :=
  LawfulResource.equivalence.trans h hother

end Resource

namespace Kind

abbrev Place : Kind → Type
  | .agent => Agent.Interface
  | .mcp => Mcp.Front

instance (kind : Kind) : DecidableEq kind.Place :=
  match kind with
  | .agent => inferInstanceAs (DecidableEq Agent.Interface)
  | .mcp => inferInstanceAs (DecidableEq Mcp.Front)

def connectivity : (kind : Kind) → kind.Record → Connectivity kind.Place
  | .agent => Agent.Record.connectivity
  | .mcp => Mcp.Record.connectivity

theorem version_connectivity (kind : Kind) (record : kind.Record) :
    (kind.connectivity record).version = Resource.version record := by
  cases kind <;> rfl

theorem connectsElsewhere_eq_differs (kind : Kind) (record other : kind.Record) :
    Resource.connectsElsewhere record other =
      (kind.connectivity record).differs (kind.connectivity other) := by
  cases kind <;> rfl

/-- No change between two records is an equivalence, and where both list places, only their versions
and the sets of these places decide. -/
theorem unchanged_equivalence (kind : Kind) :
    (∀ record : kind.Record, Resource.changed record (some record) = false) ∧
    (∀ record other : kind.Record,
      Resource.changed record (some other) = Resource.changed other (some record)) ∧
    (∀ record other third : kind.Record, Resource.changed record (some other) = false →
      Resource.changed other (some third) = false →
        Resource.changed record (some third) = false) ∧
    (∀ (record other : kind.Record) (here there : List kind.Place),
      (kind.connectivity record).places = some here →
      (kind.connectivity other).places = some there →
        (Resource.changed record (some other) = false ↔
          Resource.version record = Resource.version other ∧
            ∀ place, place ∈ here ↔ place ∈ there)) := by
  refine ⟨Resource.connectsElsewhere_self, Resource.connectsElsewhere_comm, ?_, ?_⟩
  · intro record other third hfirst hsecond
    exact Resource.connectsElsewhere_trans hfirst hsecond
  · intro record other here there hhere hthere
    rw [Resource.changed, connectsElsewhere_eq_differs,
      Connectivity.differs_eq_false_iff_of_places hhere hthere, version_connectivity,
      version_connectivity]

/-- Two interfaces in one order, in the other, and with repetitions. -/
theorem unchanged_equivalence_repeated :
    let grpc : Agent.Interface := ⟨"https://agent.example/grpc", "GRPC"⟩
    let rest : Agent.Interface := ⟨"https://agent.example/rest", "HTTP+JSON"⟩
    let listing (interfaces : List Agent.Interface) : Agent.Record :=
      { card := { name := "svc-a", version := "1.0", additionalInterfaces := some interfaces } }
    Resource.changed (listing [grpc, rest]) (some (listing [rest, grpc])) = false ∧
      Resource.changed (listing [rest, grpc]) (some (listing [grpc, rest, grpc])) = false ∧
      Resource.changed (listing [grpc, rest]) (some (listing [grpc, rest, grpc])) = false := by
  intro grpc rest listing
  obtain ⟨-, -, htrans, hplaces⟩ := unchanged_equivalence .agent
  have hordered : Resource.changed (listing [grpc, rest]) (some (listing [rest, grpc])) = false :=
    (hplaces _ _ [grpc, rest] [rest, grpc] rfl rfl).2 ⟨rfl, by simp [or_comm]⟩
  have hrepeated :
      Resource.changed (listing [rest, grpc]) (some (listing [grpc, rest, grpc])) = false :=
    (hplaces _ _ [rest, grpc] [grpc, rest, grpc] rfl rfl).2 ⟨rfl, by simp [or_comm]⟩
  exact ⟨hordered, hrepeated, htrans _ _ _ hordered hrepeated⟩

end Kind

end RegistrySession
