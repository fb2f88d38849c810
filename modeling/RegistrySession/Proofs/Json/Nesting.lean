import RegistrySession.Json.Free
import RegistrySession.Proofs.Json.Reading

/-!
# How deep values nest

A strict reader may open only so many arrays and objects inside each other.  A value that nests no
deeper is read from its own tree, and if its objects are in order it comes back as it was.
-/

namespace RegistrySession.Json

mutual

/-- How many arrays and objects stand inside each other at the deepest place. -/
def nesting : Json → Nat
  | .array items => itemsNesting items + 1
  | .object members => membersNesting members + 1
  | _ => 0
termination_by structural value => value

def itemsNesting : List Json → Nat
  | [] => 0
  | item :: rest => max item.nesting (itemsNesting rest)
termination_by structural items => items

def membersNesting : List (String × Json) → Nat
  | [] => 0
  | (_, value) :: rest => max value.nesting (membersNesting rest)
termination_by structural members => members

end

theorem itemsNesting_le {items : List Json} {depth : Nat} :
    itemsNesting items ≤ depth ↔ ∀ item ∈ items, item.nesting ≤ depth := by
  induction items with
  | nil => simp [itemsNesting]
  | cons item rest ih => rw [itemsNesting, Nat.max_le, ih, List.forall_mem_cons]

theorem membersNesting_le {members : List (String × Json)} {depth : Nat} :
    membersNesting members ≤ depth ↔ ∀ member ∈ members, member.2.nesting ≤ depth := by
  induction members with
  | nil => simp [membersNesting]
  | cons member rest ih => rw [membersNesting, Nat.max_le, ih, List.forall_mem_cons]

theorem allWholeItems_iff {items : List Json} :
    allWholeItems items = true ↔ ∀ item ∈ items, item.allWhole = true := by
  induction items with
  | nil => simp [allWholeItems]
  | cons item rest ih => rw [allWholeItems, Bool.and_eq_true, ih, List.forall_mem_cons]

theorem allWholeMembers_iff {members : List (String × Json)} :
    allWholeMembers members = true ↔ ∀ member ∈ members, member.2.allWhole = true := by
  induction members with
  | nil => simp [allWholeMembers]
  | cons member rest ih => rw [allWholeMembers, Bool.and_eq_true, ih, List.forall_mem_cons]

theorem memberTrees_append (front back : List (String × Json)) :
    memberTrees (front ++ back) = memberTrees front ++ memberTrees back := by
  induction front with
  | nil => rfl
  | cons member rest ih => simp [memberTrees, ih]

/-! ## Members in order -/

variable {α : Type}

/-- In a list in order a member stands behind those of smaller names only. -/
theorem names_lt_of_namesAscend {seen : List (String × α)} {name : String} {value : α}
    {rest : List (String × α)} (h : namesAscend (seen ++ (name, value) :: rest) = true) :
    ∀ member ∈ seen, member.1 < name := by
  induction seen with
  | nil => simp
  | cons first seen ih =>
    have behind : ∀ member ∈ seen, member.1 < name := by
      refine ih ?_
      cases seen <;> simp_all [namesAscend]
    have head : first.1 < name := by
      cases seen with
      | nil => simp_all [namesAscend]
      | cons second seen =>
        have hfirst : first.1 < second.1 := by simp_all [namesAscend]
        exact String.lt_trans hfirst (behind second List.mem_cons_self)
    exact List.forall_mem_cons.2 ⟨head, behind⟩

/-- A member whose name comes after all others stands last. -/
theorem insertMember_of_names_lt {seen : List (String × α)} {name : String} (value : α)
    (h : ∀ member ∈ seen, member.1 < name) :
    insertMember name value seen = seen ++ [(name, value)] := by
  induction seen with
  | nil => rfl
  | cons first seen ih =>
    have hlt : first.1 < name := h first List.mem_cons_self
    have hne : name ≠ first.1 := by
      intro heq
      rw [heq] at hlt
      exact String.lt_irrefl _ hlt
    rw [insertMember, if_neg (String.lt_asymm hlt), if_neg hne,
      ih fun member hmember => h member (List.mem_cons_of_mem first hmember), List.cons_append]

/-! ## Reading a value from its tree -/

mutual

/-- A strict reader that may go as deep as a value nests reads it from its tree, and gives it back
as it was if its objects are in order. -/
theorem json_tree (value : Json) (depth : Nat) (hdepth : value.nesting ≤ depth) :
    ∃ found, value.tree.json depth = .ok found ∧ (value.ordered = true → found = value) := by
  cases value with
  | null => exact ⟨_, rfl, fun _ => rfl⟩
  | bool flag => exact ⟨_, rfl, fun _ => rfl⟩
  | number number => exact ⟨_, rfl, fun _ => rfl⟩
  | text content => exact ⟨_, rfl, fun _ => rfl⟩
  | array items =>
    obtain ⟨depth, rfl⟩ : ∃ less, depth = less + 1 :=
      Nat.exists_eq_succ_of_ne_zero (by simp only [nesting] at hdepth; omega)
    obtain ⟨found, hfound, hsame⟩ :=
      jsonItems_itemTrees items depth (Nat.le_of_succ_le_succ (by simpa [nesting] using hdepth))
    exact ⟨.array found, by simp [tree, Tree.json, hfound, Tree.closing, bind, Except.bind, pure,
      Except.pure], fun hordered => by rw [hsame hordered]⟩
  | object members =>
    obtain ⟨depth, rfl⟩ : ∃ less, depth = less + 1 :=
      Nat.exists_eq_succ_of_ne_zero (by simp only [nesting] at hdepth; omega)
    obtain ⟨found, hfound, hsame⟩ := jsonMembers_memberTrees members depth []
      (Nat.le_of_succ_le_succ (by simpa [nesting] using hdepth))
    refine ⟨.object found, by simp [tree, Tree.json, hfound, Tree.closing, bind, Except.bind, pure,
      Except.pure], fun hordered => ?_⟩
    simp only [ordered, Bool.and_eq_true] at hordered
    rw [hsame hordered.2 hordered.1, List.nil_append]
termination_by structural value

theorem jsonItems_itemTrees (items : List Json) (depth : Nat)
    (hdepth : itemsNesting items ≤ depth) :
    ∃ found, Tree.jsonItems depth (itemTrees items) = .ok found ∧
      (itemsOrdered items = true → found = items) := by
  cases items with
  | nil => exact ⟨[], rfl, fun _ => rfl⟩
  | cons item rest =>
    simp only [itemsNesting, Nat.max_le] at hdepth
    obtain ⟨first, hfirst, hitem⟩ := json_tree item depth hdepth.1
    obtain ⟨others, hothers, hrest⟩ := jsonItems_itemTrees rest depth hdepth.2
    refine ⟨first :: others, by simp [itemTrees, Tree.jsonItems, hfirst, hothers, bind, Except.bind,
      pure, Except.pure], fun hordered => ?_⟩
    simp only [itemsOrdered, Bool.and_eq_true] at hordered
    rw [hitem hordered.1, hrest hordered.2]
termination_by structural items

/-- Members in order are put behind those already read, one after the other. -/
theorem jsonMembers_memberTrees (members : List (String × Json)) (depth : Nat)
    (seen : List (String × Json)) (hdepth : membersNesting members ≤ depth) :
    ∃ found, Tree.jsonMembers depth (memberTrees members) seen = .ok found ∧
      (membersOrdered members = true → namesAscend (seen ++ members) = true →
        found = seen ++ members) := by
  match members with
  | [] => exact ⟨seen, rfl, fun _ _ => (List.append_nil seen).symm⟩
  | (name, value) :: rest =>
    simp only [membersNesting, Nat.max_le] at hdepth
    obtain ⟨first, hfirst, hvalue⟩ := json_tree value depth hdepth.1
    obtain ⟨found, hfound, hrest⟩ :=
      jsonMembers_memberTrees rest depth (insertMember name first seen) hdepth.2
    refine ⟨found, by simp [memberTrees, Tree.jsonMembers, hfirst, hfound, bind, Except.bind],
      fun hordered hascend => ?_⟩
    simp only [membersOrdered, Bool.and_eq_true] at hordered
    rw [insertMember_of_names_lt first (names_lt_of_namesAscend hascend), hvalue hordered.1,
      List.append_assoc] at hrest
    exact hrest hordered.2 hascend
termination_by structural members

end

end RegistrySession.Json
