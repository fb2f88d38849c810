import RegistrySession.Agent.Codec
import RegistrySession.Mcp.Codec
import RegistrySession.Proofs.Json.Faithful

/-!
# Reading back what crosses the wire

Every type that is written as JSON is read back from its own text.  Most written forms are flat: no
more than a few levels, whatever the value.  Only the input schemas of tools are free to nest, and
to have numbers that are no whole ones.
-/

namespace RegistrySession

open Json

/-! ## Agents -/

namespace Agent

theorem Interface.codec_faithful : Interface.codec.Faithful :=
  Codec.record_faithful
    (by simp [Fields.Faithful, Fields.names, Field.required]) fun _ => rfl

theorem Interface.codec_within (depth : Nat) : Interface.codec.Within (depth + 1) :=
  Codec.record_within (by simp [Fields.Within, Field.required])

theorem Provider.codec_faithful : Provider.codec.Faithful :=
  Codec.record_faithful
    (by simp [Fields.Faithful, Fields.names, Field.required]) fun _ => rfl

theorem Provider.codec_within (depth : Nat) : Provider.codec.Within (depth + 1) :=
  Codec.record_within (by simp [Fields.Within, Field.required])

theorem Capabilities.codec_faithful : Capabilities.codec.Faithful :=
  Codec.record_faithful
    (by simp [Fields.Faithful, Fields.names, Field.defaulting]) fun _ => rfl

theorem Capabilities.codec_within (depth : Nat) : Capabilities.codec.Within (depth + 1) :=
  Codec.record_within (by simp [Fields.Within, Field.defaulting])

theorem Skill.codec_faithful : Skill.codec.Faithful :=
  Codec.record_faithful
    (by simp [Fields.Faithful, Fields.names, Field.defaulting]) fun _ => rfl

theorem Skill.codec_within (depth : Nat) : Skill.codec.Within (depth + 2) :=
  Codec.record_within (by simp [Fields.Within, Field.defaulting])

theorem Card.fields_faithful : Card.fields.Faithful := by
  have hinterfaces : (Codec.option (.list Interface.codec)).Faithful :=
    Codec.option_faithful (Codec.list_faithful Interface.codec_faithful) (Codec.list_neverNull _)
  have hprovider : (Codec.option Provider.codec).Faithful :=
    Codec.option_faithful Provider.codec_faithful (Codec.record_neverNull _ _ _)
  have hcapabilities : (Codec.option Capabilities.codec).Faithful :=
    Codec.option_faithful Capabilities.codec_faithful (Codec.record_neverNull _ _ _)
  simp [Card.fields, Fields.Faithful, Fields.names, Field.defaulting, hinterfaces, hprovider,
    hcapabilities, Skill.codec_faithful]

theorem Card.fields_within : Card.fields.Within 3 := by
  simp [Card.fields, Fields.Within, Field.defaulting, Interface.codec_within,
    Provider.codec_within, Capabilities.codec_within, Skill.codec_within]

/-- A card is read back, whatever fields it leaves out. -/
theorem Card.codec_faithful : Card.codec.Faithful :=
  Codec.record_faithful Card.fields_faithful fun _ => rfl

theorem Card.codec_within : Card.codec.Within 4 :=
  Codec.record_within Card.fields_within

/-- No member of a stored card has the name of one of the card itself. -/
theorem Record.codec_faithful : Record.codec.Faithful :=
  Codec.spread_faithful Card.fields_faithful
    (by simp [Fields.Faithful, Fields.names, Field.defaulting])
    (by simp [Card.fields, Fields.names, Field.defaulting]) fun _ => rfl

theorem Record.codec_within : Record.codec.Within 4 :=
  Codec.spread_within Card.fields_within (by simp [Fields.Within, Field.defaulting])

theorem Endpoint.codec_faithful : Endpoint.codec.Faithful :=
  Codec.record_faithful
    (by simp [Fields.Faithful, Fields.names, Field.required, Field.defaulting]) fun _ => rfl

theorem Endpoint.codec_within (depth : Nat) : Endpoint.codec.Within (depth + 1) :=
  Codec.record_within (by simp [Fields.Within, Field.required, Field.defaulting])

/-- Both forms of a registration are read back. -/
theorem Registration.codec_faithful : Registration.codec.Faithful :=
  Codec.iso_faithful
    (Codec.either_faithful Endpoint.codec_faithful
      (Codec.list_faithful Endpoint.codec_faithful) (by decide))
    fun value => by cases value <;> rfl

theorem Registration.codec_within : Registration.codec.Within 3 :=
  Codec.iso_within
    (Codec.either_within (Endpoint.codec_within 1) (Codec.list_within (Endpoint.codec_within 0)))

end Agent

/-! ## MCP servers -/

namespace Mcp

theorem Front.codec_faithful : Front.codec.Faithful :=
  Codec.record_faithful
    (by simp [Fields.Faithful, Fields.names, Field.required, Field.defaulting]) fun _ => rfl

theorem Front.codec_within (depth : Nat) : Front.codec.Within (depth + 1) :=
  Codec.record_within (by simp [Fields.Within, Field.required, Field.defaulting])

theorem Tool.codec_faithful : Tool.codec.Faithful :=
  Codec.record_faithful
    (by simp [Fields.Faithful, Fields.names, Field.required, Field.defaulting]) fun _ => rfl

theorem ToolSpec.codec_faithful : ToolSpec.codec.Faithful :=
  Codec.record_faithful
    (by simp [Fields.Faithful, Fields.names, Field.defaulting, Tool.codec_faithful]) fun _ => rfl

theorem Summary.codec_faithful : Summary.codec.Faithful :=
  Codec.record_faithful
    (by simp [Fields.Faithful, Fields.names, Field.defaulting]) fun _ => rfl

theorem Summary.codec_within : Summary.codec.Within 1 :=
  Codec.record_within (by simp [Fields.Within, Field.defaulting])

theorem Route.codec_faithful : Route.codec.Faithful :=
  Codec.record_faithful
    (by simp [Fields.Faithful, Fields.names, Field.defaulting]) fun _ => rfl

theorem Route.codec_within : Route.codec.Within 2 :=
  Codec.record_within (by simp [Fields.Within, Field.defaulting])

theorem Record.codec_faithful : Record.codec.Faithful := by
  have hfronts : (Codec.option (.list Front.codec)).Faithful :=
    Codec.option_faithful (Codec.list_faithful Front.codec_faithful) (Codec.list_neverNull _)
  have htools : (Codec.option ToolSpec.codec).Faithful :=
    Codec.option_faithful ToolSpec.codec_faithful (Codec.record_neverNull _ _ _)
  exact Codec.record_faithful
    (by simp [Fields.Faithful, Fields.names, Field.defaulting, hfronts, htools]) fun _ => rfl

theorem Endpoint.codec_faithful : Endpoint.codec.Faithful :=
  Codec.record_faithful
    (by simp [Fields.Faithful, Fields.names, Field.required, Field.optional]) fun _ => rfl

theorem Endpoint.codec_within : Endpoint.codec.Within 1 :=
  Codec.record_within (by simp [Fields.Within, Field.required, Field.optional])

/-- The numbers in the schemas of all tools are whole ones. -/
def ToolSpec.IsWhole (spec : ToolSpec) : Prop :=
  ∀ tool ∈ spec.tools, tool.inputSchema.value.allWhole = true

/-- Where the numbers in the schemas are whole ones, all numbers written are. -/
theorem ToolSpec.IsWhole.allWhole_encode {spec : ToolSpec} (h : spec.IsWhole) :
    (ToolSpec.codec.encode spec).allWhole = true := by
  have htools : ∀ tool ∈ spec.tools, (Tool.codec.encode tool).allWhole = true := by
    intro tool htool
    simpa [Tool.codec, Codec.record, Fields.write, Field.required, Field.defaulting, Codec.string,
      Codec.free, allWhole, allWholeMembers] using h tool htool
  simpa [ToolSpec.codec, Codec.record, Fields.write, Field.defaulting, Codec.list, allWhole,
    allWholeMembers, allWholeItems_iff] using htools

/-- Of a stored server only the tools can have numbers that are not whole. -/
theorem Record.allWhole_encode {record : Record} (h : ∀ spec ∈ record.toolSpec, spec.IsWhole) :
    (Record.codec.encode record).allWhole = true := by
  have hfronts :
      ((Codec.option (.list Front.codec)).encode record.frontEndpoints).allWhole = true :=
    (Codec.option_within (Codec.list_within (Front.codec_within 0)) record.frontEndpoints).1
  have hlatest : ((Codec.option .boolean).encode record.latestVersion).allWhole = true :=
    (Codec.option_within (Codec.boolean_within 0) record.latestVersion).1
  have htools : ((Codec.option ToolSpec.codec).encode record.toolSpec).allWhole = true := by
    cases hspec : record.toolSpec with
    | none => rfl
    | some spec => exact (h spec hspec).allWhole_encode
  simp [Record.codec, Codec.record, Fields.write, Field.defaulting, Codec.string, allWhole,
    allWholeMembers, hfronts, hlatest, htools]

end Mcp

theorem Key.codec_faithful : Key.codec.Faithful :=
  Codec.record_faithful
    (by simp [Fields.Faithful, Fields.names, Field.required, Field.optional]) fun _ => rfl

theorem Key.codec_within : Key.codec.Within 1 :=
  Codec.record_within (by simp [Fields.Within, Field.required, Field.optional])

/-! ## All of them -/

/-- Every value that crosses the wire is read back from its own text as it was: cards, stored cards
with the members of the card spread out among their own, endpoints and registrations of agents,
summaries, routes, endpoints and tools of servers, stored servers, and keys.  Input schemas need to
be free of fractions, and the whole must not nest deeper than a reader goes. -/
theorem wire_values_read_back :
    (∀ card, Agent.Card.codec.read (Agent.Card.codec.write card) = .ok card) ∧
    (∀ record, Agent.Record.codec.read (Agent.Record.codec.write record) = .ok record) ∧
    (∀ endpoint, Agent.Endpoint.codec.read (Agent.Endpoint.codec.write endpoint) = .ok endpoint) ∧
    (∀ registration, Agent.Registration.codec.read (Agent.Registration.codec.write registration) =
      .ok registration) ∧
    (∀ summary, Mcp.Summary.codec.read (Mcp.Summary.codec.write summary) = .ok summary) ∧
    (∀ route, Mcp.Route.codec.read (Mcp.Route.codec.write route) = .ok route) ∧
    (∀ endpoint, Mcp.Endpoint.codec.read (Mcp.Endpoint.codec.write endpoint) = .ok endpoint) ∧
    (∀ spec : Mcp.ToolSpec, spec.IsWhole → (Mcp.ToolSpec.codec.encode spec).nesting ≤ 127 →
      Mcp.ToolSpec.codec.read (Mcp.ToolSpec.codec.write spec) = .ok spec) ∧
    (∀ record : Mcp.Record, (∀ spec ∈ record.toolSpec, spec.IsWhole) →
      (Mcp.Record.codec.encode record).nesting ≤ 127 →
      Mcp.Record.codec.read (Mcp.Record.codec.write record) = .ok record) ∧
    (∀ key, Key.codec.read (Key.codec.write key) = .ok key) := by
  refine ⟨?_, ?_, ?_, ?_, ?_, ?_, ?_, ?_, ?_, ?_⟩
  · exact Agent.Card.codec_faithful.read_write_of_within Agent.Card.codec_within (by decide)
  · exact Agent.Record.codec_faithful.read_write_of_within Agent.Record.codec_within (by decide)
  · exact Agent.Endpoint.codec_faithful.read_write_of_within (Agent.Endpoint.codec_within 0)
      (by decide)
  · exact Agent.Registration.codec_faithful.read_write_of_within Agent.Registration.codec_within
      (by decide)
  · exact Mcp.Summary.codec_faithful.read_write_of_within Mcp.Summary.codec_within (by decide)
  · exact Mcp.Route.codec_faithful.read_write_of_within Mcp.Route.codec_within (by decide)
  · exact Mcp.Endpoint.codec_faithful.read_write_of_within Mcp.Endpoint.codec_within (by decide)
  · exact fun spec hwhole hdepth =>
      Mcp.ToolSpec.codec_faithful.read_write hwhole.allWhole_encode hdepth
  · exact fun record hwhole hdepth =>
      Mcp.Record.codec_faithful.read_write (Mcp.Record.allWhole_encode hwhole) hdepth
  · exact Key.codec_faithful.read_write_of_within Key.codec_within (by decide)

/-- A tool whose schema nests an array in an object, with a text to escape and the largest and the
smallest whole number. -/
def Mcp.ToolSpec.bounded : Mcp.ToolSpec where
  tools :=
    [{ name := "count"
       inputSchema :=
        { value := .object
            [("range", .array
              [.number (.whole (-9223372036854775808) (by decide)),
               .number (.whole 18446744073709551615 (by decide)), .null]),
             ("title", .text "\"limits\"\n\x01")]
          isOrdered := by decide } }]

theorem wire_values_read_back_bounded :
    Mcp.ToolSpec.bounded.IsWhole ∧ (Mcp.ToolSpec.codec.encode .bounded).nesting = 5 ∧
      Mcp.ToolSpec.codec.read (Mcp.ToolSpec.codec.write .bounded) = .ok .bounded ∧
      Mcp.Record.codec.read (Mcp.Record.codec.write { toolSpec := some .bounded }) =
        .ok { toolSpec := some .bounded } := by
  have hwhole : Mcp.ToolSpec.bounded.IsWhole := by
    simp [Mcp.ToolSpec.IsWhole, Mcp.ToolSpec.bounded, allWhole, allWholeItems, allWholeMembers]
  have hdepth : (Mcp.ToolSpec.codec.encode .bounded).nesting = 5 := by decide
  have hrecord : (Mcp.Record.codec.encode { toolSpec := some .bounded }).nesting ≤ 127 := by decide
  obtain ⟨-, -, -, -, -, -, -, hspecs, hrecords, -⟩ := wire_values_read_back
  exact ⟨hwhole, hdepth, hspecs .bounded hwhole (by omega),
    hrecords { toolSpec := some .bounded } (by simpa using hwhole) hrecord⟩

end RegistrySession
