import RegistrySession.Json.Record
import RegistrySession.Mcp.Basic

/-!
# Written forms of MCP servers

The codecs of everything about MCP servers that crosses the wire or is stored.
-/

namespace RegistrySession.Mcp

open Json

def Front.codec : Codec Front :=
  .record
    (.cons (.required "address" .string) <|
     .cons (.required "port" .uint16) <|
     .cons (.defaulting "path" .string "") .nil)
    (fun value => (value.address, value.port, value.path, ()))
    (fun (address, port, path, ()) => { address, port, path })

def Tool.codec : Codec Tool :=
  .record
    (.cons (.required "name" .string) <|
     .cons (.defaulting "description" .string "") <|
     .cons (.defaulting "inputSchema" .free default) .nil)
    (fun value => (value.name, value.description, value.inputSchema, ()))
    (fun (name, description, inputSchema, ()) => { name, description, inputSchema })

def ToolSpec.codec : Codec ToolSpec :=
  .record
    (.cons (.defaulting "tools" (.list Tool.codec) []) .nil)
    (fun value => (value.tools, ()))
    (fun (tools, ()) => { tools })

def Summary.codec : Codec Summary :=
  .record
    (.cons (.defaulting "name" .string "") <|
     .cons (.defaulting "description" .string "") <|
     .cons (.defaulting "protocol" .string "") <|
     .cons (.defaulting "version" .string "") .nil)
    (fun value => (value.name, value.description, value.protocol, value.version, ()))
    (fun (name, description, protocol, version, ()) =>
      { name, description, protocol, version })

def Route.codec : Codec Route :=
  .record
    (.cons (.defaulting "type" .string "") <|
     .cons (.defaulting "data" .textMap default) .nil)
    (fun value => (value.type, value.data, ()))
    (fun (type, data, ()) => { type, data })

def Record.codec : Codec Record :=
  .record
    (.cons (.defaulting "id" .string "") <|
     .cons (.defaulting "name" .string "") <|
     .cons (.defaulting "description" .string "") <|
     .cons (.defaulting "protocol" .string "") <|
     .cons (.defaulting "version" .string "") <|
     .cons (.defaulting "frontEndpoints" (.option (.list Front.codec)) none) <|
     .cons (.defaulting "toolSpec" (.option ToolSpec.codec) none) <|
     .cons (.defaulting "latestVersion" (.option .boolean) none) .nil)
    (fun value =>
      (value.id, value.name, value.description, value.protocol, value.version,
       value.frontEndpoints, value.toolSpec, value.latestVersion, ()))
    (fun (id, name, description, protocol, version, frontEndpoints, toolSpec, latestVersion, ()) =>
      { id, name, description, protocol, version, frontEndpoints, toolSpec, latestVersion })

def Endpoint.codec : Codec Endpoint :=
  .record
    (.cons (.required "address" .string) <|
     .cons (.required "port" .uint16) <|
     .cons (.optional "version" .string) .nil)
    (fun value => (value.address, value.port, value.version, ()))
    (fun (address, port, version, ()) => { address, port, version })

end RegistrySession.Mcp
