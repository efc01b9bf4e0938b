import Kennel.Record.Notice

/-!
# Updates of records

An update changes one field of a record. It queues the kind of change that subscribers are told
of, unless that kind is queued already: a new phase or a new wish to run only if it differs from
the old one, configuration and providers always, and the two health flags never.
-/

namespace Kennel

/-- A change of one field of a record. -/
inductive Update where
  | setPhase (phase : Phase)
  /-- Puts these values over those that are configured. -/
  | mergeConfig (values : Dict String)
  | setEnabled (enabled : Bool)
  | setNeedsConf (needed : Bool)
  | setNeedsDeps (needed : Bool)
  | setProvider (interface provider : String)
  /-- Replaces all selected providers. -/
  | setProviders (providers : Dict String)
  deriving DecidableEq

namespace Update

def providers : Update → List String
  | setProvider _ provider => [provider]
  | setProviders providers => providers.values
  | _ => []

def applyTo (u : Update) (r : Record) : Record :=
  match u with
  | setPhase phase => { r with phase }
  | mergeConfig values => { r with config := r.config.overlay values }
  | setEnabled enabled => { r with enabled }
  | setNeedsConf needed => { r with needsConf := needed }
  | setNeedsDeps needed => { r with needsDeps := needed }
  | setProvider interface provider =>
    { r with providers := r.providers.insert interface provider }
  | setProviders providers => { r with providers }

/-- The kind of change that an update of this record makes, if it is one to tell of. -/
def kind? (u : Update) (r : Record) : Option NoticeKind :=
  match u with
  | setPhase phase => if r.phase = phase then none else some .installationChanged
  | mergeConfig _ => some .configChanged
  | setEnabled enabled => if r.enabled = enabled then none else some .enabledChanged
  | setNeedsConf _ => none
  | setNeedsDeps _ => none
  | setProvider _ _ => some .providersChanged
  | setProviders _ => some .providersChanged

/-- Adds a kind to the end of a queue, if there is one and it is not in the queue. -/
def enqueue (queue : List NoticeKind) : Option NoticeKind → List NoticeKind
  | none => queue
  | some k => if queue.contains k then queue else queue ++ [k]

def apply (u : Update) (state : Record × List NoticeKind) : Record × List NoticeKind :=
  (u.applyTo state.1, enqueue state.2 (u.kind? state.1))

/-- Applies updates one after another. -/
def applyAll (updates : List Update) (r : Record) : Record × List NoticeKind :=
  updates.foldl (fun state u => u.apply state) (r, [])

end Update

end Kennel
