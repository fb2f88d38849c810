import RegistrySession.Json.Record
import RegistrySession.Proofs.Json.Nesting

/-!
# Codecs that read back what they write

A codec is faithful if its reader gives back every value from the tree of its written form, as
long as it may go deep enough.  Codecs of compound types are faithful if those of their parts are:
for a record this needs names that differ, and a value that is not written has to be the one taken
for a missing member.
-/

namespace RegistrySession.Json

namespace Codec

variable {α β : Type}

def Faithful (codec : Codec α) : Prop :=
  ∀ value depth, (codec.encode value).nesting ≤ depth →
    codec.decode depth (codec.encode value).tree = .ok value

/-- Written forms are whole and nest no deeper than a bound, whatever the value. -/
def Within (codec : Codec α) (depth : Nat) : Prop :=
  ∀ value, (codec.encode value).allWhole = true ∧ (codec.encode value).nesting ≤ depth

/-- `null` stands for no value, so that a missing one can be told apart. -/
def NeverNull (codec : Codec α) : Prop :=
  ∀ value, codec.encode value ≠ .null

/-! ## Scalars -/

@[simp]
theorem string_faithful : string.Faithful := fun _ _ _ => rfl

@[simp]
theorem string_within (depth : Nat) : string.Within depth := fun _ => ⟨rfl, Nat.zero_le depth⟩

@[simp]
theorem string_neverNull : string.NeverNull := nofun

@[simp]
theorem boolean_faithful : boolean.Faithful := fun _ _ _ => rfl

@[simp]
theorem boolean_within (depth : Nat) : boolean.Within depth := fun _ => ⟨rfl, Nat.zero_le depth⟩

@[simp]
theorem boolean_neverNull : boolean.NeverNull := nofun

theorem ofNat_of_fits {value : Nat} (h : Fits (.ofNat value)) :
    Json.ofNat value = .number (.whole (.ofNat value) h) := by
  rw [Json.ofNat, ofInt, dif_pos h]

theorem encode_uint16 (value : UInt16) :
    ∃ fits, uint16.encode value = .number (.whole (.ofNat value.toNat) fits) := by
  have hfits : Fits (.ofNat value.toNat) := by
    have := value.toNat_lt
    simp only [Fits, Int.ofNat_eq_natCast]
    omega
  exact ⟨hfits, by simp only [uint16, below, ofNat_of_fits hfits]⟩

@[simp]
theorem uint16_faithful : uint16.Faithful := by
  intro value depth _
  obtain ⟨fits, hwritten⟩ := encode_uint16 value
  rw [hwritten]
  simp only [uint16, below, tree, if_pos (UInt16.toNat_lt_size value), Except.map,
    UInt16.ofNat_toNat]

@[simp]
theorem uint16_within (depth : Nat) : uint16.Within depth := by
  intro value
  obtain ⟨fits, hwritten⟩ := encode_uint16 value
  rw [hwritten]
  exact ⟨rfl, Nat.zero_le depth⟩

/-! ## Options, lists and choices -/

@[simp]
theorem option_faithful {codec : Codec α} (h : codec.Faithful) (hnull : codec.NeverNull) :
    codec.option.Faithful := by
  intro value depth hdepth
  cases value with
  | none => rfl
  | some value =>
    have hread : codec.decode depth (codec.encode value).tree = .ok value := h value depth hdepth
    have hsome : (codec.encode value).tree ≠ .null := by
      have := hnull value
      generalize codec.encode value = written at this
      cases written <;> simp_all [tree]
    simp only [option, hread, Except.map]

@[simp]
theorem option_within {codec : Codec α} {depth : Nat} (h : codec.Within depth) :
    codec.option.Within depth
  | none => ⟨rfl, Nat.zero_le depth⟩
  | some value => h value

theorem decodeItems_itemTrees {codec : Codec α} (h : codec.Faithful) (depth : Nat)
    (values : List α) (hdepth : ∀ value ∈ values, (codec.encode value).nesting ≤ depth) :
    codec.decodeItems depth (itemTrees (values.map codec.encode)) = .ok values := by
  induction values with
  | nil => rfl
  | cons value rest ih =>
    rw [List.forall_mem_cons] at hdepth
    simp [itemTrees, decodeItems, h value depth hdepth.1, ih hdepth.2, bind, Except.bind, pure,
      Except.pure]

@[simp]
theorem list_faithful {codec : Codec α} (h : codec.Faithful) : codec.list.Faithful := by
  intro values depth hdepth
  simp only [list, nesting] at hdepth
  obtain ⟨depth, rfl⟩ := Nat.exists_eq_succ_of_ne_zero (show depth ≠ 0 by omega)
  have hitems := decodeItems_itemTrees h depth values
    (by simpa [itemsNesting_le] using Nat.le_of_succ_le_succ hdepth)
  simp [list, tree, hitems, Tree.closing, bind, Except.bind, pure, Except.pure]

@[simp]
theorem list_within {codec : Codec α} {depth : Nat} (h : codec.Within depth) :
    codec.list.Within (depth + 1) := by
  intro values
  have hitems : ∀ item ∈ values.map codec.encode,
      item.allWhole = true ∧ item.nesting ≤ depth := by
    simpa using fun value _ => h value
  exact ⟨allWholeItems_iff.2 fun item hitem => (hitems item hitem).1,
    Nat.succ_le_succ (itemsNesting_le.2 fun item hitem => (hitems item hitem).2)⟩

@[simp]
theorem list_neverNull (codec : Codec α) : codec.list.NeverNull := nofun

/-- The two forms are told apart by their names. -/
theorem either_faithful {left : String × Codec α} {right : String × Codec β}
    (hleft : left.2.Faithful) (hright : right.2.Faithful) (hnames : left.1 ≠ right.1) :
    (either left right).Faithful := by
  intro value depth hdepth
  cases value with
  | inl value =>
    simp only [either, nesting, membersNesting] at hdepth
    obtain ⟨depth, rfl⟩ := Nat.exists_eq_succ_of_ne_zero (show depth ≠ 0 by omega)
    have hread := hleft value depth (by omega)
    simp [either, tree, memberTrees, hread, Tree.closing, bind, Except.bind, pure, Except.pure,
      Except.map]
  | inr value =>
    simp only [either, nesting, membersNesting] at hdepth
    obtain ⟨depth, rfl⟩ := Nat.exists_eq_succ_of_ne_zero (show depth ≠ 0 by omega)
    have hread := hright value depth (by omega)
    simp [either, tree, memberTrees, hread, hnames.symm, Tree.closing, bind, Except.bind, pure,
      Except.pure, Except.map]

theorem either_within {left : String × Codec α} {right : String × Codec β} {depth : Nat}
    (hleft : left.2.Within depth) (hright : right.2.Within depth) :
    (either left right).Within (depth + 1) := by
  rintro (value | value)
  · have := hleft value
    simpa [either, allWhole, allWholeMembers, nesting, membersNesting] using this
  · have := hright value
    simpa [either, allWhole, allWholeMembers, nesting, membersNesting] using this

/-- What goes over to the other type and back is unharmed. -/
theorem iso_faithful {codec : Codec α} {forth : α → β} {back : β → α} (h : codec.Faithful)
    (hback : ∀ value, forth (back value) = value) : (codec.iso forth back).Faithful := by
  intro value depth hdepth
  simp only [iso, h (back value) depth hdepth, Except.map, hback]

theorem iso_within {codec : Codec α} {forth : α → β} {back : β → α} {depth : Nat}
    (h : codec.Within depth) : (codec.iso forth back).Within depth :=
  fun value => h (back value)

/-! ## Free values and maps of texts -/

theorem decode_free {depth : Nat} {found : Tree} {value : Json} (h : found.json depth = .ok value) :
    free.decode depth found = .ok ⟨value, found.ordered_of_json depth value h⟩ := by
  simp only [free]
  split
  case h_1 other hother =>
    rw [h, Except.ok.injEq] at hother
    subst hother
    rfl
  case h_2 fault hfault =>
    rw [h] at hfault
    contradiction

@[simp]
theorem free_faithful : free.Faithful := by
  intro content depth hdepth
  obtain ⟨found, hfound, hsame⟩ := json_tree content.value depth hdepth
  rw [hsame content.isOrdered] at hfound
  exact decode_free hfound

/-- A map of texts is read back as long as its names ascend. -/
theorem decodeTexts_memberTrees (entries : List (String × String)) (map : TextMap)
    (h : namesAscend (map.entries ++ entries) = true) :
    decodeTexts (memberTrees (entries.map fun entry => (entry.1, .text entry.2))) map =
      .ok ⟨map.entries ++ entries, h⟩ := by
  induction entries generalizing map with
  | nil => simp [memberTrees, decodeTexts]
  | cons entry rest ih =>
    have hinsert : (map.insert entry.1 entry.2).entries = map.entries ++ [entry] :=
      insertMember_of_names_lt entry.2 (names_lt_of_namesAscend h)
    have hrest : namesAscend ((map.insert entry.1 entry.2).entries ++ rest) = true := by
      rw [hinsert, List.append_assoc]
      exact h
    simp only [List.map_cons, memberTrees, decodeTexts, bind, Except.bind, tree, string,
      ih (map.insert entry.1 entry.2) hrest, hinsert, List.append_assoc, List.singleton_append]

@[simp]
theorem textMap_faithful : textMap.Faithful := by
  intro map depth hdepth
  simp only [textMap, nesting] at hdepth
  obtain ⟨depth, rfl⟩ := Nat.exists_eq_succ_of_ne_zero (show depth ≠ 0 by omega)
  simp only [textMap, tree, decodeTexts_memberTrees map.entries default map.ascend, Tree.closing,
    bind, Except.bind, pure, Except.pure]
  rfl

@[simp]
theorem textMap_within (depth : Nat) : textMap.Within (depth + 1) := by
  intro map
  have hmembers : ∀ member ∈ map.entries.map (fun entry => (entry.1, Json.text entry.2)),
      member.2.allWhole = true ∧ member.2.nesting ≤ depth :=
    List.forall_mem_map.2 fun entry _ => ⟨rfl, Nat.zero_le depth⟩
  exact ⟨allWholeMembers_iff.2 fun member hmember => (hmembers member hmember).1,
    Nat.succ_le_succ (membersNesting_le.2 fun member hmember => (hmembers member hmember).2)⟩

end Codec

/-! ## Fields of a record -/

namespace Fields

def names : {types : List Type} → Fields types → List String
  | _, .nil => []
  | _, .cons field rest => field.name :: rest.names

/-- Every field reads back what it writes, a value that it leaves out is the one for a missing
member, and no two fields have one name. -/
def Faithful : {types : List Type} → Fields types → Prop
  | _, .nil => True
  | _, .cons field rest =>
    field.codec.Faithful ∧ (∀ value, field.isHidden value = true → field.ifMissing = some value) ∧
      field.name ∉ rest.names ∧ rest.Faithful

def Within : {types : List Type} → Fields types → Nat → Prop
  | _, .nil, _ => True
  | _, .cons field rest, depth => field.codec.Within depth ∧ rest.Within depth

/-- The slots once every written member has been read. -/
def filled : {types : List Type} → Fields types → Row types → Slots types
  | _, .nil, () => ()
  | _, .cons field rest, (value, values) =>
    (if field.isHidden value then none else some value, rest.filled values)

variable {types : List Type}

theorem mem_names_of_mem_write {fields : Fields types} {row : Row types} {member : String × Json}
    (h : member ∈ fields.write row) : member.1 ∈ fields.names := by
  induction fields with
  | nil => cases h
  | cons field rest ih =>
    obtain ⟨value, values⟩ := row
    rw [write] at h
    by_cases hhidden : field.isHidden value = true
    · rw [if_pos hhidden] at h
      exact List.mem_cons_of_mem _ (ih h)
    · rw [if_neg hhidden] at h
      rcases List.mem_cons.1 h with rfl | h
      · exact List.mem_cons_self
      · exact List.mem_cons_of_mem _ (ih h)

/-- A name that no field has is accepted by none. -/
theorem accept_of_not_mem {fields : Fields types} {name : String} (h : name ∉ fields.names)
    (depth : Nat) (tree : Tree) (slots : Slots types) :
    fields.accept depth name tree slots = none := by
  induction fields with
  | nil => rfl
  | cons field rest ih =>
    obtain ⟨slot, slots⟩ := slots
    simp only [names, List.mem_cons, not_or] at h
    simp only [accept, if_neg (Ne.symm h.1), ih h.2, Option.map_none]

/-- A name that some field has is accepted by one. -/
theorem exists_accept_of_mem {fields : Fields types} {name : String} (h : name ∈ fields.names)
    (depth : Nat) (tree : Tree) (slots : Slots types) :
    ∃ result, fields.accept depth name tree slots = some result := by
  induction fields with
  | nil => simp [names] at h
  | cons field rest ih =>
    obtain ⟨slot, slots⟩ := slots
    rw [accept]
    by_cases hname : field.name = name
    · rw [if_pos hname]
      exact ⟨_, rfl⟩
    · obtain ⟨result, hresult⟩ :=
        ih ((List.mem_cons.1 h).resolve_left (Ne.symm hname)) slots
      exact ⟨_, by rw [if_neg hname, hresult, Option.map_some]⟩

/-- Members that are none of a field's leave its slot as it is. -/
theorem members_cons {α : Type} (field : Field α) (rest : Fields types) (depth : Nat)
    (written : List (String × Json)) (slot : Option α) (slots : Slots types)
    (h : ∀ member ∈ written, member.1 ≠ field.name) :
    (Fields.cons field rest).members depth (memberTrees written) (slot, slots) =
      (rest.members depth (memberTrees written) slots).map fun slots => (slot, slots) := by
  induction written generalizing slots with
  | nil => rfl
  | cons member written ih =>
    rw [List.forall_mem_cons] at h
    simp only [memberTrees, members, bind, Except.bind, accept, if_neg (Ne.symm h.1)]
    cases hname : rest.accept depth member.1 member.2.tree slots with
    | none =>
      simp only [Option.map_none]
      cases member.2.tree.pass with
      | error fault => rfl
      | ok _ => exact ih slots h.2
    | some result =>
      cases result with
      | error fault => rfl
      | ok slots => exact ih slots h.2

/-- The members that a faithful writer gives fill the slots of the values written. -/
theorem members_write {fields : Fields types} (hfaithful : fields.Faithful) {row : Row types}
    {depth : Nat} (hdepth : membersNesting (fields.write row) ≤ depth) :
    fields.members depth (memberTrees (fields.write row)) fields.unread =
      .ok (fields.filled row) := by
  induction fields with
  | nil => rfl
  | cons field rest ih =>
    obtain ⟨value, values⟩ := row
    obtain ⟨hfield, -, hname, hrest⟩ := hfaithful
    have hother : ∀ member ∈ rest.write values, member.1 ≠ field.name := by
      intro member hmember heq
      exact hname (heq ▸ mem_names_of_mem_write hmember)
    simp only [write, filled, unread] at hdepth ⊢
    by_cases hhidden : field.isHidden value = true
    · rw [if_pos hhidden] at hdepth
      rw [if_pos hhidden, if_pos hhidden, members_cons field rest depth _ _ _ hother, ih hrest hdepth]
      rfl
    · rw [if_neg hhidden, membersNesting, Nat.max_le] at hdepth
      rw [if_neg hhidden, if_neg hhidden]
      simp only [memberTrees, members, bind, Except.bind, accept, if_true,
        hfield value depth hdepth.1, Except.map, Option.isSome_none, Bool.false_eq_true, if_false,
        members_cons field rest depth _ _ _ hother, ih hrest hdepth.2]
      rfl

/-- Members that are missing are those whose value is the default. -/
theorem complete_filled {fields : Fields types} (hfaithful : fields.Faithful) (row : Row types) :
    fields.complete (fields.filled row) = .ok row := by
  induction fields with
  | nil => rfl
  | cons field rest ih =>
    obtain ⟨value, values⟩ := row
    obtain ⟨-, hhidden, -, hrest⟩ := hfaithful
    have hvalue : (if field.isHidden value then none else some value).or field.ifMissing =
        some value := by
      by_cases hhide : field.isHidden value = true
      · rw [if_pos hhide, Option.none_or, hhidden value hhide]
      · rw [if_neg hhide, Option.some_or]
    simp only [complete, filled, hvalue, ih hrest, Except.map]

/-- No member goes deeper than its field does. -/
theorem write_within {fields : Fields types} {depth : Nat} (h : fields.Within depth)
    (row : Row types) : ∀ member ∈ fields.write row,
      member.2.allWhole = true ∧ member.2.nesting ≤ depth := by
  induction fields with
  | nil => exact List.forall_mem_nil _
  | cons field rest ih =>
    obtain ⟨value, values⟩ := row
    rw [write]
    by_cases hhidden : field.isHidden value = true
    · rw [if_pos hhidden]
      exact ih h.2 values
    · rw [if_neg hhidden]
      exact List.forall_mem_cons.2 ⟨h.1 value, ih h.2 values⟩

/-! ## Sifting -/

/-- Members of other names are kept, in front of whatever else is kept. -/
theorem sift_append {fields : Fields types} {depth : Nat} {foreign : List (String × Json)}
    (hforeign : ∀ member ∈ foreign, member.1 ∉ fields.names)
    (hdepth : membersNesting foreign ≤ depth) (more : List (Name × Tree)) (slots : Slots types) :
    fields.sift depth (memberTrees foreign ++ more) slots =
      (fields.sift depth more slots).map fun (slots, kept) =>
        (slots, memberTrees foreign ++ kept) := by
  induction foreign with
  | nil => cases hmore : fields.sift depth more slots <;> simp [memberTrees, hmore, Except.map]
  | cons member foreign ih =>
    rw [List.forall_mem_cons] at hforeign
    rw [membersNesting, Nat.max_le] at hdepth
    obtain ⟨found, hfound, -⟩ := json_tree member.2 depth hdepth.1
    simp only [memberTrees, List.cons_append, sift, bind, Except.bind,
      accept_of_not_mem hforeign.1, hfound, ih hforeign.2 hdepth.2]
    cases fields.sift depth more slots <;> rfl

/-- Among own members only, sifting is reading. -/
theorem sift_of_own {fields : Fields types} {depth : Nat} {own : List (String × Json)}
    (hown : ∀ member ∈ own, member.1 ∈ fields.names) (slots : Slots types) :
    fields.sift depth (memberTrees own) slots =
      (fields.members depth (memberTrees own) slots).map fun slots => (slots, []) := by
  induction own generalizing slots with
  | nil => rfl
  | cons member own ih =>
    rw [List.forall_mem_cons] at hown
    obtain ⟨result, hresult⟩ := exists_accept_of_mem hown.1 depth member.2.tree slots
    simp only [memberTrees, sift, members, bind, Except.bind, hresult]
    cases result with
    | error fault => rfl
    | ok slots => exact ih hown.2 slots

end Fields

namespace Codec

variable {α : Type} {types : List Type}

/-- A record is read back if each of its fields is. -/
theorem record_faithful {fields : Fields types} {view : α → Row types} {build : Row types → α}
    (h : fields.Faithful) (hview : ∀ value, build (view value) = value) :
    (record fields view build).Faithful := by
  intro value depth hdepth
  simp only [record, nesting] at hdepth
  obtain ⟨depth, rfl⟩ := Nat.exists_eq_succ_of_ne_zero (show depth ≠ 0 by omega)
  simp only [record, tree, Fields.read, bind, Except.bind,
    Fields.members_write h (Nat.le_of_succ_le_succ hdepth), Tree.closing,
    Fields.complete_filled h, Except.map, hview]

theorem record_within {fields : Fields types} {view : α → Row types} {build : Row types → α}
    {depth : Nat} (h : fields.Within depth) : (record fields view build).Within (depth + 1) := by
  intro value
  have hmembers := fields.write_within h (view value)
  exact ⟨allWholeMembers_iff.2 fun member hmember => (hmembers member hmember).1,
    Nat.succ_le_succ (membersNesting_le.2 fun member hmember => (hmembers member hmember).2)⟩

theorem record_neverNull (fields : Fields types) (view : α → Row types) (build : Row types → α) :
    (record fields view build).NeverNull := nofun

variable {inner own : List Type}

/-- A record that spreads out another one reads both back if they share no name. -/
theorem spread_faithful {innerFields : Fields inner} {ownFields : Fields own}
    {view : α → Row inner × Row own} {build : Row inner → Row own → α}
    (hinner : innerFields.Faithful) (hown : ownFields.Faithful)
    (hnames : ∀ name ∈ innerFields.names, name ∉ ownFields.names)
    (hview : ∀ value, build (view value).1 (view value).2 = value) :
    (spread innerFields ownFields view build).Faithful := by
  intro value depth hdepth
  simp only [spread, nesting] at hdepth
  obtain ⟨depth, rfl⟩ := Nat.exists_eq_succ_of_ne_zero (show depth ≠ 0 by omega)
  have hmembers := membersNesting_le.1 (Nat.le_of_succ_le_succ hdepth)
  rw [List.forall_mem_append, ← membersNesting_le, ← membersNesting_le] at hmembers
  have hsift : ownFields.sift depth
      (memberTrees (innerFields.write (view value).1 ++ ownFields.write (view value).2))
        ownFields.unread =
      .ok (ownFields.filled (view value).2, memberTrees (innerFields.write (view value).1)) := by
    rw [memberTrees_append, Fields.sift_append
        (fun member hmember => hnames _ (Fields.mem_names_of_mem_write hmember)) hmembers.1,
      Fields.sift_of_own (fun member hmember => Fields.mem_names_of_mem_write hmember),
      Fields.members_write hown hmembers.2]
    simp [Except.map]
  simp only [spread, tree, bind, Except.bind, pure, Except.pure, hsift, Tree.closing, asMismatch,
    Fields.complete_filled hown, Fields.members_write hinner hmembers.1,
    Fields.complete_filled hinner, hview]

theorem spread_within {innerFields : Fields inner} {ownFields : Fields own}
    {view : α → Row inner × Row own} {build : Row inner → Row own → α} {depth : Nat}
    (hinner : innerFields.Within depth) (hown : ownFields.Within depth) :
    (spread innerFields ownFields view build).Within (depth + 1) := by
  intro value
  have hmembers := List.forall_mem_append.2
    ⟨innerFields.write_within hinner (view value).1, ownFields.write_within hown (view value).2⟩
  exact ⟨allWholeMembers_iff.2 fun member hmember => (hmembers member hmember).1,
    Nat.succ_le_succ (membersNesting_le.2 fun member hmember => (hmembers member hmember).2)⟩

/-! ## Whole texts -/

/-- A faithful codec reads back from the text of a value what was written, if the written form has
no fractions and nests no deeper than a reader goes. -/
theorem Faithful.read_write {codec : Codec α} (h : codec.Faithful) {value : α}
    (hwhole : (codec.encode value).allWhole = true)
    (hdepth : (codec.encode value).nesting ≤ maxDepth) :
    codec.read (codec.write value) = .ok value := by
  simp only [read, write, Document.read_render hwhole, h value maxDepth hdepth, bind, Except.bind,
    pure, Except.pure, Bool.false_eq_true, if_false]

theorem Faithful.read_write_of_within {codec : Codec α} {depth : Nat} (h : codec.Faithful)
    (hwithin : codec.Within depth) (hdepth : depth ≤ maxDepth) (value : α) :
    codec.read (codec.write value) = .ok value :=
  h.read_write (hwithin value).1 (Nat.le_trans (hwithin value).2 hdepth)

end Codec

end RegistrySession.Json
