import Kennel.Proofs.Json.Taken
import Kennel.Proofs.Net.Address
import Kennel.Record.Wire

/-!
# Stored records read back

**The text under which a record is stored decodes to the record**, whatever texts and ports it holds,
and so does every text that gives the entries of its dictionaries in another order
(`Record.read_back_from_text`). For each structure that a record is made of, its fields take it from
its JSON shape; the fields are named once, in the order in which the shape writes them.
-/

namespace Kennel

open Json

/-- An address is taken from its dotted form. -/
theorem Address.takes (a : Address) : Decoder.address.Takes (.string a.toText) a := by
  refine ⟨_, .string a.toText, ?_⟩
  simp [Decoder.address, Decoder.text, bind, Except.bind, read?_toText]

namespace Manifest

theorem Identity.takes (i : Identity) : Identity.fields.decoder.Takes i.toJson i :=
  Fields.Takes.pure Identity.mk
    |>.field (.text i.name) (by simp)
    |>.field (.text i.version) (by simp)
    |>.field (.text i.description) (by simp)
    |>.decoder

theorem Service.takes (s : Service) : Service.fields.decoder.Takes s.toJson s :=
  Fields.Takes.pure Service.mk
    |>.field (.text s.name) (by simp)
    |>.field (.text s.command) (by simp)
    |>.decoder

theorem Expose.takes (e : Expose) : Expose.fields.decoder.Takes e.toJson e := by
  have protocol : Protocol.names.lookup e.protocol.name = some e.protocol := by
    cases e.protocol <;> rfl
  exact Fields.Takes.pure Expose.mk
    |>.field (.text e.name) (by simp)
    |>.field (.variant protocol) (by simp)
    |>.field (.port e.port) (by simp)
    |>.field (.flag e.webUi) (by simp)
    |>.field (.flag e.listenOnHost) (by simp)
    |>.decoder

theorem Container.takes (c : Container) : Container.fields.decoder.Takes c.toJson c :=
  Fields.Takes.pure Container.mk
    |>.field (.list Service.takes c.services) (by simp)
    |>.field (.list Expose.takes c.exposes) (by simp)
    |>.decoder

theorem Interface.takes (i : Interface) : Interface.fields.decoder.Takes i.toJson i :=
  Fields.Takes.pure Interface.mk
    |>.field (.text i.name) (by simp)
    |>.field (.text i.version) (by simp)
    |>.field (.list .text i.permissionGroups) (by simp)
    |>.decoder

theorem DefaultSource.takes (d : DefaultSource) : DefaultSource.fields.decoder.Takes d.toJson d :=
  Fields.Takes.pure DefaultSource.mk
    |>.field (.text d.location) (by simp)
    |>.field (.text d.name) (by simp)
    |>.field (.text d.version) (by simp)
    |>.decoder

theorem Dependency.takes (d : Dependency) : Dependency.fields.decoder.Takes d.toJson d := by
  have strict : ∀ a, DefaultSource.fields.decoder .null ≠ .ok a := fun a h => by cases h
  exact Fields.Takes.pure Dependency.mk
    |>.field (.text d.interface) (by simp)
    |>.field (.text d.range) (by simp)
    |>.field (.flag d.isOptional) (by simp)
    |>.field (.option DefaultSource.takes strict d.defaultSource) (by simp)
    |>.decoder

theorem ConfigField.takes (f : ConfigField) : ConfigField.fields.decoder.Takes f.toJson f :=
  Fields.Takes.pure ConfigField.mk
    |>.field (.text f.name) (by simp)
    |>.field (.text f.label) (by simp)
    |>.field (.text f.kind) (by simp)
    |>.field (.flag f.required) (by simp)
    |>.decoder

theorem Metric.takes (m : Metric) : Metric.fields.decoder.Takes m.toJson m :=
  Fields.Takes.pure Metric.mk
    |>.field (.text m.name) (by simp)
    |>.field (.text m.label) (by simp)
    |>.field (.text m.kind) (by simp)
    |>.decoder

/-- A manifest is taken from its JSON shape. -/
theorem takes (m : Manifest) : Manifest.decoder.Takes m.toJson m :=
  Fields.Takes.pure Manifest.mk
    |>.field m.identity.takes (by simp)
    |>.field m.container.takes (by simp)
    |>.field (.list Interface.takes m.interfaces) (by simp)
    |>.field (.list Dependency.takes m.dependencies) (by simp)
    |>.field (.list ConfigField.takes m.config) (by simp)
    |>.field (.list Metric.takes m.metrics) (by simp)
    |>.decoder

end Manifest

theorem Source.takes (s : Source) : Source.fields.decoder.Takes s.toJson s :=
  Fields.Takes.pure Source.mk
    |>.field (.text s.id) (by simp)
    |>.field (.text s.location) (by simp)
    |>.decoder

theorem WebUi.takes (w : WebUi) : WebUi.fields.decoder.Takes w.toJson w :=
  Fields.Takes.pure WebUi.mk
    |>.field (.text w.name) (by simp)
    |>.field (.port w.internalPort) (by simp)
    |>.field (.port w.hostPort) (by simp)
    |>.decoder

/-! ## Records

A dictionary has no order of its own, so the object of its entries can be written in any order. The
fields of a record are written in one order.
-/

/-- The value is a shape of the dictionary: the object of its entries, in whatever order. -/
def Dict.Shapes {α : Type} (encode : α → Value) (d : Dict α) (v : Value) : Prop :=
  ∃ entries : List (String × α), entries.Perm d.entries ∧
    v = .object (entries.map fun e => (e.1, encode e.2))

namespace Record

/-- The value is a shape of the record: the object of its fields, with shapes of its dictionaries. -/
inductive Shapes (r : Record) : Value → Prop
  | fields {config providers : Value} (hc : r.config.Shapes .string config)
      (hp : r.providers.Shapes .string providers) :
      Shapes r (.object
        [("id", .string r.id), ("installation", .string r.phase.name), ("enabled", .bool r.enabled),
          ("config", config), ("ip", .string r.address.toText),
          ("webUis", .list WebUi.toJson r.webUis), ("providers", providers),
          ("manifest", r.manifest.toJson), ("source", r.source.toJson),
          ("needsConf", .bool r.needsConf), ("needsDeps", .bool r.needsDeps)])

/-- The shape under which a record is stored is one of its shapes. -/
theorem shapes_toJson (r : Record) : r.Shapes r.toJson :=
  .fields ⟨_, .refl _, rfl⟩ ⟨_, .refl _, rfl⟩

/-- A record is taken from each of its shapes. -/
theorem Shapes.takes {r : Record} {v : Value} (h : r.Shapes v) : Record.decoder.Takes v r := by
  obtain @⟨config, providers, ⟨cs, orderC, rfl⟩, ⟨ps, orderP, rfl⟩⟩ := h
  have phase : Phase.names.lookup r.phase.name = some r.phase := by
    cases r.phase <;> rfl
  exact Fields.Takes.pure Record.mk
    |>.field (.text r.id) (by simp)
    |>.field (.variant phase) (by simp)
    |>.field (.flag r.enabled) (by simp)
    |>.field (.dict .text orderC) (by simp)
    |>.field r.address.takes (by simp)
    |>.field (.list WebUi.takes r.webUis) (by simp)
    |>.field (.dict .text orderP) (by simp)
    |>.field r.manifest.takes (by simp)
    |>.field r.source.takes (by simp)
    |>.field (.flag r.needsConf) (by simp)
    |>.field (.flag r.needsDeps) (by simp)
    |>.decoder

/-- The text under which a record is stored decodes to the record. -/
theorem decode_storedText (r : Record) :
    Json.decodeBytes Record.decoder r.storedText.toUTF8 = .ok r := r.shapes_toJson.takes.decodeBytes

/-- **A record is read back from the text under which it is stored**, and from every text that differs
from it in the order of the entries of its dictionaries. -/
theorem read_back_from_text (r : Record) :
    (∃ v, r.Shapes v ∧ r.storedText = v.pretty) ∧
      ∀ v, r.Shapes v → Json.decodeBytes Record.decoder v.pretty.toUTF8 = .ok r :=
  ⟨⟨r.toJson, r.shapes_toJson, rfl⟩, fun _ shape => shape.takes.decodeBytes⟩

/-- A record of a pup whose texts hold quotes, backslashes, controls and characters beyond the first
plane. -/
def awkward : Record where
  id := "\"\\/\x00\x1f🐾"
  phase := .unready
  enabled := true
  config := ⟨[("\t", "line\nbreak"), ("\\u0041", "\x7f\x08")], by decide⟩
  address := .ofOctets 255 0 10 1
  webUis := [⟨"ü\r", 0, 65535⟩]
  providers := ⟨[("", "𝒳"), ("rpc", "\"")], by decide⟩
  manifest :=
    { identity := ⟨"null", "\\", "\x0c"⟩
      container := ⟨[⟨"", "run \"all\""⟩], [⟨"ui", .http, 8080, true, false⟩]⟩
      interfaces := [⟨"rpc", "1.0.0", ["read", "\x01"]⟩]
      dependencies := [⟨"rpc", "^1", true, some ⟨"/srv", "node", "1.0.0"⟩⟩, ⟨"p2p", "*", false, none⟩]
      config := [⟨"key", "", "text", true⟩]
      metrics := [⟨"blocks", "Blöcke", "float"⟩] }
  source := ⟨"main", "/srv/🐾"⟩
  needsConf := false
  needsDeps := true

/-- A shape of the awkward record in which the dictionaries are written backwards. -/
def awkwardShape : Json.Value :=
  .object
    [("id", .string awkward.id), ("installation", .string "unready"), ("enabled", .bool true),
      ("config", .object [("\\u0041", .string "\x7f\x08"), ("\t", .string "line\nbreak")]),
      ("ip", .string awkward.address.toText), ("webUis", .list WebUi.toJson awkward.webUis),
      ("providers", .object [("rpc", .string "\""), ("", .string "𝒳")]),
      ("manifest", awkward.manifest.toJson), ("source", awkward.source.toJson),
      ("needsConf", .bool false), ("needsDeps", .bool true)]

/-- The awkward record is read back from that shape. -/
theorem read_back_from_text_awkward :
    awkward.Shapes awkwardShape ∧
      Json.decodeBytes Record.decoder awkwardShape.pretty.toUTF8 = .ok awkward := by
  have config : awkward.config.Shapes .string
      (.object [("\\u0041", .string "\x7f\x08"), ("\t", .string "line\nbreak")]) :=
    ⟨_, .swap _ _ _, rfl⟩
  have providers : awkward.providers.Shapes .string
      (.object [("rpc", .string "\""), ("", .string "𝒳")]) := ⟨_, .swap _ _ _, rfl⟩
  have shape : awkward.Shapes awkwardShape := .fields config providers
  exact ⟨shape, (read_back_from_text awkward).2 awkwardShape shape⟩

end Record

end Kennel
