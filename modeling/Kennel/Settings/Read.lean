import Kennel.Settings.Basic
import Kennel.Toml.Document

/-!
# Reading settings

Settings are a TOML document with a table for each group. The allocation and the catalogs may be
left out, and so may single settings that have a default. What the document says beyond that is
passed over.
-/

namespace Kennel

open Toml

namespace Settings

/-- Why a text gives no settings. -/
inductive ReadError where
  /-- The text is no TOML, or no settings in it. -/
  | shape
  | invalid (problem : Problem)
  deriving DecidableEq

def portDecoder : Decoder Port := fun v => (Decoder.natural 65536 v).map (·.toUInt16)

/-- An address in dotted form. -/
def addressDecoder : Decoder Address := fun v => (Decoder.text v).bind Address.read?

def Server.fields : Fields Server :=
  Server.mk <$> .required "port" portDecoder <*> .required "host" .text

def Storage.fields : Fields Storage :=
  Storage.mk <$> .required "pups_dir" .text <*> .required "config_dir" .text
    <*> .required "snapshot_dir" .text <*> .optional "data_dir" (fun v => (Decoder.text v).map some) none

def allocationFields : Fields AllocationRange :=
  let d : AllocationRange := {}
  AllocationRange.mk <$> .optional "ip_base" addressDecoder d.base
    <*> .optional "ip_ceiling" addressDecoder d.ceiling <*> .optional "port_start" portDecoder d.portStart

def Monitoring.fields : Fields Monitoring :=
  Monitoring.mk <$> .required "slow_interval_ms" (.natural (Nat.pow 2 64))
    <*> .required "fast_interval_ms" (.natural (Nat.pow 2 64))
    <*> .optional "fast_poll_count" (.natural (Nat.pow 2 32)) 10
    <*> .required "metric_buffer_size" (.natural (Nat.pow 2 64))
    <*> .optional "stats_log_interval_secs" (.natural (Nat.pow 2 64)) 300

def CatalogDir.fields : Fields CatalogDir :=
  CatalogDir.mk <$> .required "id" .text <*> .required "path" .text

def fields : Fields Settings :=
  Settings.mk <$> .required "server" Server.fields.decoder
    <*> .required "storage" Storage.fields.decoder
    <*> .optional "allocation" allocationFields.decoder {}
    <*> .required "monitoring" Monitoring.fields.decoder
    <*> .required "publishing" (Fields.required "subscriber_capacity" (.natural (Nat.pow 2 64))).decoder
    <*> .required "rebuild" (Fields.required "command" (.list .text)).decoder
    <*> .optional "sources" (.list CatalogDir.fields.decoder) []

def read (text : String) : Except ReadError Settings :=
  match (Toml.read? text).bind fields.decoder with
  | none => .error .shape
  | some s =>
    match s.problem? with
    | some p => .error (.invalid p)
    | none => .ok s

end Settings

end Kennel
