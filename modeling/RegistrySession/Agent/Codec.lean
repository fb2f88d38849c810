import RegistrySession.Agent.Basic

/-!
# Written forms of agents

The codecs of everything about agents that crosses the wire or is stored.
-/

namespace RegistrySession.Agent

open Json

def Interface.codec : Codec Interface :=
  .record
    (.cons (.required "url" .string) <|
     .cons (.required "transport" .string) .nil)
    (fun value => (value.url, value.transport, ()))
    (fun (url, transport, ()) => { url, transport })

def Provider.codec : Codec Provider :=
  .record
    (.cons (.required "organization" .string) <|
     .cons (.required "url" .string) .nil)
    (fun value => (value.organization, value.url, ()))
    (fun (organization, url, ()) => { organization, url })

def Capabilities.codec : Codec Capabilities :=
  .record
    (.cons (.defaulting "streaming" (.option .boolean) none) <|
     .cons (.defaulting "pushNotifications" (.option .boolean) none) <|
     .cons (.defaulting "stateTransitionHistory" (.option .boolean) none) .nil)
    (fun value => (value.streaming, value.pushNotifications, value.stateTransitionHistory, ()))
    (fun (streaming, pushNotifications, stateTransitionHistory, ()) =>
      { streaming, pushNotifications, stateTransitionHistory })

def Skill.codec : Codec Skill :=
  .record
    (.cons (.defaulting "id" .string "") <|
     .cons (.defaulting "name" .string "") <|
     .cons (.defaulting "description" .string "") <|
     .cons (.defaulting "tags" (.list .string) []) <|
     .cons (.defaulting "examples" (.list .string) []) .nil)
    (fun value =>
      (value.id, value.name, value.description, value.tags, value.examples, ()))
    (fun (id, name, description, tags, examples, ()) =>
      { id, name, description, tags, examples })

abbrev Card.Types : List Type :=
  [String, String, String, String, Option String, String, Option String,
   Option (List Interface), Option Provider, Option String, Option Capabilities, List Skill,
   List String, List String]

def Card.fields : Fields Card.Types :=
  .cons (.defaulting "protocolVersion" .string "") <|
  .cons (.defaulting "name" .string "") <|
  .cons (.defaulting "description" .string "") <|
  .cons (.defaulting "version" .string "") <|
  .cons (.defaulting "iconUrl" (.option .string) none) <|
  .cons (.defaulting "url" .string "") <|
  .cons (.defaulting "preferredTransport" (.option .string) none) <|
  .cons (.defaulting "additionalInterfaces" (.option (.list Interface.codec)) none) <|
  .cons (.defaulting "provider" (.option Provider.codec) none) <|
  .cons (.defaulting "documentationUrl" (.option .string) none) <|
  .cons (.defaulting "capabilities" (.option Capabilities.codec) none) <|
  .cons (.defaulting "skills" (.list Skill.codec) []) <|
  .cons (.defaulting "defaultInputModes" (.list .string) []) <|
  .cons (.defaulting "defaultOutputModes" (.list .string) []) .nil

def Card.row (card : Card) : Row Card.Types :=
  (card.protocolVersion, card.name, card.description, card.version, card.iconUrl, card.url,
   card.preferredTransport, card.additionalInterfaces, card.provider, card.documentationUrl,
   card.capabilities, card.skills, card.defaultInputModes, card.defaultOutputModes, ())

def Card.ofRow : Row Card.Types → Card :=
  fun (protocolVersion, name, description, version, iconUrl, url, preferredTransport,
      additionalInterfaces, provider, documentationUrl, capabilities, skills,
      defaultInputModes, defaultOutputModes, ()) =>
    { protocolVersion, name, description, version, iconUrl, url, preferredTransport,
      additionalInterfaces, provider, documentationUrl, capabilities, skills,
      defaultInputModes, defaultOutputModes }

def Card.codec : Codec Card := .record Card.fields Card.row Card.ofRow

/-- A stored card spreads the members of the card itself. -/
def Record.codec : Codec Record :=
  .spread Card.fields
    (.cons (.defaulting "registrationType" (.option .string) none) <|
     .cons (.defaulting "latestVersion" (.option .boolean) none) .nil)
    (fun value => (value.card.row, value.registrationType, value.latestVersion, ()))
    (fun cardRow (registrationType, latestVersion, ()) =>
      { card := Card.ofRow cardRow, registrationType, latestVersion })

def Endpoint.codec : Codec Endpoint :=
  .record
    (.cons (.defaulting "transport" .string defaultTransport) <|
     .cons (.required "address" .string) <|
     .cons (.required "port" .uint16) <|
     .cons (.defaulting "path" .string "") <|
     .cons (.defaulting "supportTls" .boolean false) <|
     .cons (.required "version" .string) .nil)
    (fun value =>
      (value.transport, value.address, value.port, value.path, value.supportTls, value.version,
       ()))
    (fun (transport, address, port, path, supportTls, version, ()) =>
      { transport, address, port, path, supportTls, version })

def Registration.codec : Codec Registration :=
  (Codec.either ("Single", Endpoint.codec) ("Batch", .list Endpoint.codec)).iso
    (fun
      | .inl endpoint => .single endpoint
      | .inr endpoints => .batch endpoints)
    (fun
      | .single endpoint => .inl endpoint
      | .batch endpoints => .inr endpoints)

end RegistrySession.Agent
