import RegistrySession.Json.Codec

/-!
# Free values and maps of texts

Parts of a record whose shape nobody prescribes. Both keep their names in ascending order with
each name once, and this is part of their types.
-/

namespace RegistrySession.Json

mutual

/-- Every object in the value has its names in strictly ascending order. -/
def ordered : Json → Bool
  | .array items => itemsOrdered items
  | .object members => namesAscend members && membersOrdered members
  | _ => true
termination_by structural value => value

def itemsOrdered : List Json → Bool
  | [] => true
  | item :: rest => item.ordered && itemsOrdered rest
termination_by structural items => items

def membersOrdered : List (String × Json) → Bool
  | [] => true
  | (_, value) :: rest => value.ordered && membersOrdered rest
termination_by structural members => members

end

theorem membersOrdered_insertMember {name : String} {value : Json} (hvalue : value.ordered = true)
    (members : List (String × Json)) (h : membersOrdered members = true) :
    membersOrdered (insertMember name value members) = true := by
  induction members with
  | nil => simp [insertMember, membersOrdered, hvalue]
  | cons member rest ih =>
    simp only [membersOrdered, Bool.and_eq_true] at h
    rw [insertMember]
    by_cases hbefore : name < member.1
    · simp [hbefore, membersOrdered, hvalue, h.1, h.2]
    rw [if_neg hbefore]
    by_cases hsame : name = member.1
    · rw [if_pos hsame]
      simp [membersOrdered, hvalue, h.2]
    · rw [if_neg hsame]
      simp [membersOrdered, h.1, ih h.2]

namespace Tree

mutual

/-- Reading gives ordered values only. -/
theorem ordered_of_json (depth : Nat) (tree : Tree) (value : Json)
    (h : tree.json depth = .ok value) : value.ordered = true := by
  cases tree with
  | null => simp only [json, Except.ok.injEq] at h; subst h; rfl
  | bool flag => simp only [json, Except.ok.injEq] at h; subst h; rfl
  | number found =>
    cases found with
    | some number => simp only [json, Except.ok.injEq] at h; subst h; rfl
    | none => simp [json] at h
  | text reading fault =>
    cases reading with
    | ok content => simp only [json, Except.map, Except.ok.injEq] at h; subst h; rfl
    | error _ => simp [json, Except.map] at h
  | array items fault =>
    cases depth with
    | zero => simp [json] at h
    | succ depth =>
      simp only [json, bind, Except.bind] at h
      cases hfound : jsonItems depth items with
      | error failure => simp [hfound] at h
      | ok found =>
        cases hclosed : closing fault with
        | error failure => simp [hfound, hclosed] at h
        | ok _ =>
          simp only [hfound, hclosed, pure, Except.pure, Except.ok.injEq] at h
          subst h
          exact itemsOrdered_of_jsonItems depth items found hfound
  | object members fault =>
    cases depth with
    | zero => simp [json] at h
    | succ depth =>
      simp only [json, bind, Except.bind] at h
      cases hfound : jsonMembers depth members [] with
      | error failure => simp [hfound] at h
      | ok found =>
        cases hclosed : closing fault with
        | error failure => simp [hfound, hclosed] at h
        | ok _ =>
          simp only [hfound, hclosed, pure, Except.pure, Except.ok.injEq] at h
          subst h
          have both := ordered_of_jsonMembers depth members [] found rfl rfl hfound
          simp [ordered, both.1, both.2]
  | absent => simp [json] at h
  | broken strict loose => simp [json] at h
termination_by structural tree

theorem itemsOrdered_of_jsonItems (depth : Nat) (items : List Tree) (values : List Json)
    (h : jsonItems depth items = .ok values) : itemsOrdered values = true := by
  cases items with
  | nil => simp only [jsonItems, Except.ok.injEq] at h; subst h; rfl
  | cons item rest =>
    simp only [jsonItems, bind, Except.bind] at h
    cases hfirst : item.json depth with
    | error failure => simp [hfirst] at h
    | ok first =>
      cases hothers : jsonItems depth rest with
      | error failure => simp [hfirst, hothers] at h
      | ok others =>
        simp only [hfirst, hothers, pure, Except.pure, Except.ok.injEq] at h
        subst h
        simp [itemsOrdered, ordered_of_json depth item first hfirst,
          itemsOrdered_of_jsonItems depth rest others hothers]
termination_by structural items

theorem ordered_of_jsonMembers (depth : Nat) (members : List (Name × Tree))
    (seen values : List (String × Json)) (hascend : namesAscend seen = true)
    (hordered : membersOrdered seen = true) (h : jsonMembers depth members seen = .ok values) :
    namesAscend values = true ∧ membersOrdered values = true := by
  match members with
  | [] =>
    simp only [jsonMembers, Except.ok.injEq] at h
    subst h
    exact ⟨hascend, hordered⟩
  | (.missing fault, _) :: rest => simp [jsonMembers] at h
  | (.text reading, found) :: rest =>
    simp only [jsonMembers, bind, Except.bind] at h
    cases hname : reading with
    | error failure => simp [hname] at h
    | ok name =>
      cases hvalue : found.json depth with
      | error failure => simp [hname, hvalue] at h
      | ok value =>
        simp only [hname, hvalue] at h
        exact ordered_of_jsonMembers depth rest _ values
          (namesAscend_insertMember _ _ _ hascend)
          (membersOrdered_insertMember (ordered_of_json depth found value hvalue) _ hordered) h
termination_by structural members

end

end Tree

structure Free where
  value : Json
  isOrdered : value.ordered = true

instance : Inhabited Free := ⟨⟨.null, rfl⟩⟩

/-- Texts by name, in ascending order of the names. -/
structure TextMap where
  entries : List (String × String)
  ascend : namesAscend entries = true
  deriving DecidableEq

instance : Inhabited TextMap := ⟨⟨[], rfl⟩⟩

namespace TextMap

def insert (map : TextMap) (name content : String) : TextMap :=
  ⟨insertMember name content map.entries,
    namesAscend_insertMember name content map.entries map.ascend⟩

end TextMap

namespace Codec

def free : Codec Free where
  encode content := content.value
  decode depth tree :=
    match h : tree.json depth with
    | .ok value => .ok ⟨value, tree.ordered_of_json depth value h⟩
    | .error fault => .error fault

/-- Adds the members of an object to a map; of equal names the last counts. -/
def decodeTexts : List (Name × Tree) → TextMap → Except Failure TextMap
  | [], map => .ok map
  | (.missing fault, _) :: _, _ => .error fault
  | (.text reading, tree) :: rest, map => do
    let name ← reading
    let content ← string.decode 0 tree
    decodeTexts rest (map.insert name content)

def textMap : Codec TextMap where
  encode map := .object (map.entries.map fun entry => (entry.1, .text entry.2))
  decode
    | 0, .object .. => .error .malformed
    | _ + 1, .object members fault => do
      let map ← decodeTexts members default
      Tree.closing fault
      return map
    | _, tree => .error tree.mismatch

end Codec

end RegistrySession.Json
