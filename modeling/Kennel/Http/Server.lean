import Kennel.About
import Kennel.Http.Response
import Kennel.Http.Route
import Kennel.Manager.Basic
import Kennel.Patch.Run

/-!
# The server

The server answers requests from what the manager knows. One request changes something: it renders
the configuration of a pup together with the firewall and the list of containers, and applies them
as one patch.

A socket is opened only by a request to switch protocols; a plain request for one is refused.
-/

namespace Kennel.Http

open Json

/-- The manager that is served, and where the configuration of the host is; nowhere if it is not
changed from here. -/
structure Server where
  manager : Manager
  site : Option PatchSite
  deriving Inhabited

/-- What a request led to. -/
structure Outcome where
  response : Response
  manager : Manager
  disk : Disk
  /-- The patch that was applied. -/
  run? : Option Run := none
  deriving Inhabited

namespace Server

/-- Applies the configuration of a pup: what is answered of the patch. -/
def applyConfig (s : Server) (id snapshotName : String) (rebuild : Rebuild) (d : Disk)
    (hazards : Hazards := {}) : Except ManagerError Value × Disk × Option Run :=
  match s.site, s.manager.registry.get id with
  | none, _ => (.error .patchingDisabled, d, none)
  | some _, .error e => (.error e, d, none)
  | some site, .ok _ =>
    let patch : Patch := { action := "apply-config-" ++ id }
    let ops := PatchOp.forPup s.manager.registry.list id
    match patch.stageAll ops >>= (Patch.apply · site snapshotName rebuild d hazards) with
    | .error e => (.error (.patch e), d, none)
    | .ok (run, d) =>
      match run.error? with
      | some e => (.error (.patch e), d, some run)
      | none =>
        (.ok (.object [("state", .string run.patch.state.name),
          ("snapshot", .option .string run.patch.snapshotPath)]), d, some run)

/-- What is answered on whether a pup may start. -/
def verdictJson (h : Health) : Value := .object
  [("canStart", .bool h.canStart), ("health", h.toJson)]

def servePup (s : Server) (pup : String) (page : PupPage) (snapshotName : String)
    (rebuild : Rebuild) (d : Disk) (hazards : Hazards := {}) : Outcome :=
  let m := s.manager
  match page with
  | .record => ⟨.ofExcept Record.toJson (m.registry.get pup), m, d, none⟩
  | .dependencies =>
    let (reports, m) := m.dependencyReports pup d
    ⟨.ofExcept (.list DependencyReport.toJson) reports, m, d, none⟩
  | .canStart => ⟨.ofExcept verdictJson (m.health pup), m, d, none⟩
  | .applyConfig =>
    let (result, d, run?) := s.applyConfig pup snapshotName rebuild d hazards
    ⟨.ofExcept id result, m, d, run?⟩

def serve (s : Server) (route : Route) (method : Method) (snapshotName : String)
    (rebuild : Rebuild) (d : Disk) (hazards : Hazards := {}) : Outcome :=
  let m := s.manager
  match route with
  | .greeting => ⟨.text 200 (daemonName ++ " is running"), m, d, none⟩
  | .version =>
    let about := [("name", Value.string daemonName), ("version", .string daemonVersion)]
    ⟨.json 200 (.object about), m, d, none⟩
  | .pups => ⟨.json 200 (.list Record.toJson m.registry.list), m, d, none⟩
  | .stats => ⟨.json 200 (.list Stats.toJson m.registry.statsList), m, d, none⟩
  | .noticeSocket | .statsSocket =>
    let refusal :=
      if method == .get then .text 400 "Connection header did not include 'upgrade'"
      else .text 405 "Request method must be `GET`"
    ⟨refusal, m, d, none⟩
  | .pup segment page =>
    match segmentText? segment with
    | none => ⟨.text 400 "Invalid URL: Invalid UTF-8 in `id`", m, d, none⟩
    | some id => s.servePup id page snapshotName rebuild d hazards

/-- Answers a request. A question after the options of a target is always granted. -/
def answer (s : Server) (method : Method) (target snapshotName : String) (rebuild : Rebuild)
    (d : Disk) (hazards : Hazards := {}) : Outcome :=
  let route? := Route.ofTarget? target
  let refused (status : Nat) : Outcome :=
    ⟨{ status, allow := route?.map Route.allow }, s.manager, d, none⟩
  if method = .options then refused 200
  else
    match route? with
    | none => refused 404
    | some route =>
      if !route.serves method then refused 405
      else
        let outcome := s.serve route method snapshotName rebuild d hazards
        if method = .head then { outcome with response := outcome.response.withoutBody }
        else outcome

end Server

end Kennel.Http
