import RegistrySession.Double

/-!
# JSON values

Values as they are written: an object lists its members in the order of writing. Free values,
whose shape nobody prescribes, keep their members sorted by name with each name once.
-/

namespace RegistrySession

/-- Whole numbers of 64 bits, signed or unsigned: at least `- 2 ^ 63` and below `2 ^ 64`. -/
abbrev Json.Fits (value : Int) : Prop :=
  -9223372036854775808 ≤ value ∧ value < 18446744073709551616

/-- A number is a whole one of 64 bits or else a binary fraction. -/
inductive Json.Number
  | whole (value : Int) (fits : Json.Fits value)
  | real (value : Double)
  deriving DecidableEq, Inhabited

inductive Json
  | null
  | bool (value : Bool)
  | number (value : Json.Number)
  | text (value : String)
  | array (items : List Json)
  | object (members : List (String × Json))
  deriving Inhabited

namespace Json

/-- A whole number outside the 64 bit ranges becomes the nearest binary fraction. -/
def ofInt (value : Int) : Json :=
  if h : Fits value then .number (.whole value h)
  else .number (.real ((Double.nearest? (value < 0) value.natAbs 1).getD (Double.zero false)))

def ofNat (value : Nat) : Json :=
  ofInt (Int.ofNat value)

def ofOption (f : α → Json) : Option α → Json
  | none => .null
  | some value => f value

def member? (value : Json) (name : String) : Option Json :=
  match value with
  | .object members => (members.find? fun member => member.1 = name).map Prod.snd
  | _ => none

/-- Puts a member at its place among members sorted by name; one of the same name is replaced. -/
def insertMember (name : String) (value : α) : List (String × α) → List (String × α)
  | [] => [(name, value)]
  | member :: rest =>
    if name < member.1 then (name, value) :: member :: rest
    else if name = member.1 then (name, value) :: rest
    else member :: insertMember name value rest

mutual

/-- Puts the members of every object in order of their names. -/
def sorted : Json → Json
  | .array items => .array (sortedItems items)
  | .object members => .object (sortedMembers members)
  | value => value
termination_by structural value => value

def sortedItems : List Json → List Json
  | [] => []
  | item :: rest => item.sorted :: sortedItems rest
termination_by structural items => items

def sortedMembers : List (String × Json) → List (String × Json)
  | [] => []
  | (name, value) :: rest => insertMember name value.sorted (sortedMembers rest)
termination_by structural members => members

end

/-- Nothing but a placeholder: `null`, an empty text, an empty array or an empty object. -/
def isHollow : Json → Bool
  | .null => true
  | .text value => value.isEmpty
  | .array items => items.isEmpty
  | .object members => members.isEmpty
  | _ => false

/-- Leaves out the members that are hollow; members further inside stay. -/
def compact : Json → Json
  | .object members => .object (members.filter fun member => !member.2.isHollow)
  | value => value

/-! ## Free values -/

def namesAscend : List (String × α) → Bool
  | first :: second :: rest => first.1 < second.1 && namesAscend (second :: rest)
  | _ => true

theorem namesAscend_cons (first : String × α) (rest : List (String × α)) :
    namesAscend (first :: rest) = true ↔
      (∀ second ∈ rest.head?, first.1 < second.1) ∧ namesAscend rest = true := by
  cases rest with
  | nil => simp [namesAscend]
  | cons second rest => simp [namesAscend]

theorem mem_head_insertMember {name : String} {value : α} {members : List (String × α)}
    {first : String × α} (h : first ∈ (insertMember name value members).head?) :
    first.1 = name ∨ first ∈ members.head? := by
  cases members with
  | nil => exact .inl (congrArg Prod.fst (Option.some.inj h).symm)
  | cons old rest =>
    rw [insertMember] at h
    by_cases hbefore : name < old.1
    · rw [if_pos hbefore] at h
      exact .inl (congrArg Prod.fst (Option.some.inj h).symm)
    rw [if_neg hbefore] at h
    by_cases hsame : name = old.1
    · rw [if_pos hsame] at h
      exact .inl (congrArg Prod.fst (Option.some.inj h).symm)
    · rw [if_neg hsame] at h
      exact .inr h

theorem namesAscend_insertMember (name : String) (value : α) (members : List (String × α))
    (h : namesAscend members = true) : namesAscend (insertMember name value members) = true := by
  induction members with
  | nil => rfl
  | cons first rest ih =>
    obtain ⟨hfirst, hrest⟩ := (namesAscend_cons first rest).1 h
    rw [insertMember]
    by_cases hbefore : name < first.1
    · rw [if_pos hbefore, namesAscend_cons]
      exact ⟨fun second hsecond => Option.some.inj hsecond ▸ hbefore, h⟩
    rw [if_neg hbefore]
    by_cases hsame : name = first.1
    · rw [if_pos hsame, namesAscend_cons, hsame]
      exact ⟨hfirst, hrest⟩
    · have hafter : first.1 < name := String.not_le.1 fun hle =>
        hsame (String.le_antisymm hle (String.not_lt.1 hbefore))
      rw [if_neg hsame, namesAscend_cons]
      refine ⟨fun second hsecond => ?_, ih hrest⟩
      rcases mem_head_insertMember hsecond with hname | hold
      · exact hname ▸ hafter
      · exact hfirst second hold

end Json

end RegistrySession
