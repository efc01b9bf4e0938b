import Kennel.Record.Wire

/-!
# Notices of changes

Subscribers are told of each change of an installed pup by a notice: which pup, what kind of
change, and the record after it. A purged pup has no record left.
-/

namespace Kennel

open Json

/-- What happened to a pup. -/
inductive NoticeKind where
  | adopted
  | installationChanged
  | configChanged
  | enabledChanged
  | providersChanged
  | purged
  deriving DecidableEq, Inhabited

namespace NoticeKind

def names : List (String × NoticeKind) :=
  [("adopted", .adopted), ("installation_changed", .installationChanged),
    ("config_changed", .configChanged), ("enabled_changed", .enabledChanged),
    ("providers_changed", .providersChanged), ("purged", .purged)]

def name : NoticeKind → String
  | adopted => "adopted"
  | installationChanged => "installation_changed"
  | configChanged => "config_changed"
  | enabledChanged => "enabled_changed"
  | providersChanged => "providers_changed"
  | purged => "purged"

end NoticeKind

/-- One change of one pup. -/
structure Notice where
  id : String
  kind : NoticeKind
  record : Option Record
  deriving DecidableEq, Inhabited

namespace Notice

/-- The notice of a change after which the pup has this record. -/
def ofRecord (kind : NoticeKind) (r : Record) : Notice := ⟨r.id, kind, some r⟩

def purged (id : String) : Notice := ⟨id, .purged, none⟩

/-- The phase after the change. -/
def phase? (n : Notice) : Option Phase := n.record.map (·.phase)

def toJson (n : Notice) : Value := .object
  [("id", .string n.id), ("kind", .string n.kind.name), ("state", .option Record.toJson n.record)]

def fields : Fields Notice :=
  Notice.mk <$> .required "id" .text <*> .required "kind" (.variant NoticeKind.names)
    <*> .nullable "state" Record.decoder

def decoder : Decoder Notice := fields.decoder

end Notice

end Kennel
