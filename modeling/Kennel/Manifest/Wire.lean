import Kennel.Json.Decoder
import Kennel.Manifest.Basic

/-!
# The JSON shape of manifests

Each part of a manifest is an object of its fields, all of them written. Read, the fields with a
default may be missing.
-/

namespace Kennel

open Json

namespace Manifest

def Protocol.names : List (String × Protocol) := [("http", .http), ("tcp", .tcp)]

def Protocol.name : Protocol → String
  | http => "http"
  | tcp => "tcp"

/-- The JSON shape of an exposed port. -/
def Expose.toJson (e : Expose) : Value := .object
  [("name", .string e.name), ("type", .string e.protocol.name), ("port", .nat e.port.toNat),
    ("webUi", .bool e.webUi), ("listenOnHost", .bool e.listenOnHost)]

/-- The fields of an exposed port. -/
def Expose.fields : Fields Expose :=
  Expose.mk <$> .required "name" .text <*> .required "type" (.variant Protocol.names)
    <*> .required "port" .port <*> .optional "webUi" .flag false
    <*> .optional "listenOnHost" .flag false

def Identity.toJson (i : Identity) : Value := .object
  [("name", .string i.name), ("version", .string i.version),
    ("description", .string i.description)]

def Identity.fields : Fields Identity :=
  Identity.mk <$> .required "name" .text <*> .required "version" .text
    <*> .optional "description" .text ""

def Service.toJson (s : Service) : Value := .object
  [("name", .string s.name), ("command", .string s.command)]

def Service.fields : Fields Service :=
  Service.mk <$> .required "name" .text <*> .required "command" .text

def Container.toJson (c : Container) : Value := .object
  [("services", .list Service.toJson c.services), ("exposes", .list Expose.toJson c.exposes)]

def Container.fields : Fields Container :=
  Container.mk <$> .optional "services" (.list Service.fields.decoder) []
    <*> .optional "exposes" (.list Expose.fields.decoder) []

def Interface.toJson (i : Interface) : Value := .object
  [("name", .string i.name), ("version", .string i.version),
    ("permissionGroups", .list .string i.permissionGroups)]

def Interface.fields : Fields Interface :=
  Interface.mk <$> .required "name" .text <*> .required "version" .text
    <*> .optional "permissionGroups" (.list .text) []

def DefaultSource.toJson (d : DefaultSource) : Value := .object
  [("sourceLocation", .string d.location), ("pupName", .string d.name),
    ("pupVersion", .string d.version)]

def DefaultSource.fields : Fields DefaultSource :=
  DefaultSource.mk <$> .required "sourceLocation" .text <*> .required "pupName" .text
    <*> .required "pupVersion" .text

def Dependency.toJson (d : Dependency) : Value := .object
  [("interfaceName", .string d.interface), ("interfaceVersion", .string d.range),
    ("optional", .bool d.isOptional),
    ("defaultSource", .option DefaultSource.toJson d.defaultSource)]

def Dependency.fields : Fields Dependency :=
  Dependency.mk <$> .required "interfaceName" .text <*> .required "interfaceVersion" .text
    <*> .optional "optional" .flag false
    <*> .optional "defaultSource" (.option DefaultSource.fields.decoder) none

def ConfigField.toJson (f : ConfigField) : Value := .object
  [("name", .string f.name), ("label", .string f.label), ("type", .string f.kind),
    ("required", .bool f.required)]

def ConfigField.fields : Fields ConfigField :=
  ConfigField.mk <$> .required "name" .text <*> .optional "label" .text ""
    <*> .optional "type" .text "text" <*> .optional "required" .flag false

def Metric.toJson (m : Metric) : Value := .object
  [("name", .string m.name), ("label", .string m.label), ("type", .string m.kind)]

def Metric.fields : Fields Metric :=
  Metric.mk <$> .required "name" .text <*> .optional "label" .text ""
    <*> .optional "type" .text "float"

def toJson (m : Manifest) : Value := .object
  [("meta", m.identity.toJson), ("container", m.container.toJson),
    ("interfaces", .list Interface.toJson m.interfaces),
    ("dependencies", .list Dependency.toJson m.dependencies),
    ("config", .list ConfigField.toJson m.config), ("metrics", .list Metric.toJson m.metrics)]

def fields : Fields Manifest :=
  Manifest.mk <$> .required "meta" Identity.fields.decoder
    <*> .optional "container" Container.fields.decoder {}
    <*> .optional "interfaces" (.list Interface.fields.decoder) []
    <*> .optional "dependencies" (.list Dependency.fields.decoder) []
    <*> .optional "config" (.list ConfigField.fields.decoder) []
    <*> .optional "metrics" (.list Metric.fields.decoder) []

def decoder : Decoder Manifest := fields.decoder

end Manifest

end Kennel
