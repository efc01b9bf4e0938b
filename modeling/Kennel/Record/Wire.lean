import Kennel.Manifest.Wire
import Kennel.Record.Basic

/-!
# The JSON shape of records

A record is an object of its fields, all of them written, in a fixed order; dictionaries are
objects in the order of their keys.
-/

namespace Kennel

open Json

def Phase.names : List (String × Phase) :=
  [("installing", .installing), ("ready", .ready), ("unready", .unready),
    ("uninstalling", .uninstalling), ("uninstalled", .uninstalled), ("broken", .broken)]

def Phase.name : Phase → String
  | installing => "installing"
  | ready => "ready"
  | unready => "unready"
  | uninstalling => "uninstalling"
  | uninstalled => "uninstalled"
  | broken => "broken"

def Source.toJson (s : Source) : Value := .object
  [("sourceId", .string s.id), ("location", .string s.location)]

def Source.fields : Fields Source :=
  Source.mk <$> .required "sourceId" .text <*> .required "location" .text

def WebUi.toJson (w : WebUi) : Value := .object
  [("name", .string w.name), ("internalPort", .nat w.internalPort.toNat),
    ("hostPort", .nat w.hostPort.toNat)]

def WebUi.fields : Fields WebUi :=
  WebUi.mk <$> .required "name" .text <*> .required "internalPort" .port
    <*> .required "hostPort" .port

/-- The JSON shape of a dictionary. -/
def Dict.toJson {α : Type} (encode : α → Value) (d : Dict α) : Value :=
  .object (d.entries.map fun e => (e.1, encode e.2))

namespace Record

def toJson (r : Record) : Value := .object
  [("id", .string r.id), ("installation", .string r.phase.name), ("enabled", .bool r.enabled),
    ("config", r.config.toJson .string), ("ip", .string r.address.toText),
    ("webUis", .list WebUi.toJson r.webUis), ("providers", r.providers.toJson .string),
    ("manifest", r.manifest.toJson), ("source", r.source.toJson),
    ("needsConf", .bool r.needsConf), ("needsDeps", .bool r.needsDeps)]

def fields : Fields Record :=
  Record.mk <$> .required "id" .text <*> .required "installation" (.variant Phase.names)
    <*> .required "enabled" .flag <*> .optional "config" (.dict .text) ∅
    <*> .required "ip" .address <*> .optional "webUis" (.list WebUi.fields.decoder) []
    <*> .optional "providers" (.dict .text) ∅ <*> .required "manifest" Manifest.decoder
    <*> .required "source" Source.fields.decoder <*> .optional "needsConf" .flag false
    <*> .optional "needsDeps" .flag false

def decoder : Decoder Record := fields.decoder

def storedText (r : Record) : String := r.toJson.pretty

end Record

end Kennel
