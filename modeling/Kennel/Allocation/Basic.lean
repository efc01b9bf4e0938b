import Kennel.Net.PortSet
import Kennel.Record.Basic

/-!
# Allocation of addresses and ports

Addresses are handed out upwards from a mark, the highest address handed out so far, up to a
ceiling; none is handed out twice. Ports of the host for web interfaces are the lowest free ones
from a start on; a port is free if no record binds it and the manifest at hand does not bind it
itself.
-/

namespace Kennel

/-- The range of addresses and ports to allocate from. -/
structure AllocationRange where
  /-- Reserved for the host; the first pup gets the next address. -/
  base : Address := .ofOctets 10 69 0 1
  /-- The highest address that may be handed out. -/
  ceiling : Address := .ofOctets 10 69 255 254
  portStart : Port := 10000
  deriving DecidableEq, Inhabited

/-- Why nothing could be allocated. -/
inductive AllocationError where
  /-- There is no address left above the mark. -/
  | addressesExhausted (mark ceiling : Address)
  /-- There are not that many free ports from the start on. -/
  | portsExhausted (start : Port) (count : Nat)
  /-- The manifest binds a port of the host twice. -/
  | portRepeated (port : Port)
  /-- The manifest binds a port of the host that a pup holds. -/
  | portHeld (port : Port) (pup : String)
  deriving DecidableEq, Inhabited

def AllocationError.message : AllocationError → String
  | addressesExhausted mark ceiling =>
    "no pup IPs left after " ++ mark.toText ++ " (ceiling " ++ ceiling.toText ++ ")"
  | portsExhausted start count =>
    "no free host ports above " ++ toString start.toNat ++ " for " ++ toString count ++ " web UIs"
  | portRepeated port => "host port " ++ toString port.toNat ++ " is declared more than once"
  | portHeld port pup =>
    "host port " ++ toString port.toNat ++ " is already bound by pup " ++ pup

/-- Whether the error is that there is nothing left to hand out. -/
def AllocationError.isExhaustion : AllocationError → Bool
  | addressesExhausted _ _ => true
  | portsExhausted _ _ => true
  | portRepeated _ => false
  | portHeld _ _ => false

/-- The range, and the highest address handed out so far. -/
structure Allocator where
  range : AllocationRange
  mark : Address
  deriving DecidableEq, Inhabited

namespace Allocator

/-- The allocator over existing records: its mark is the highest of their addresses and the
base. -/
def ofRecords (range : AllocationRange) (records : List Record) : Allocator :=
  ⟨range, records.foldl (fun mark r => mark.max r.address) range.base⟩

/-- The address that the next adoption gets. It is not reserved. -/
def nextAddress (a : Allocator) : Except AllocationError Address :=
  match a.mark.next? with
  | some next =>
    if next ≤ a.range.ceiling then .ok next
    else .error (.addressesExhausted a.mark a.range.ceiling)
  | none => .error (.addressesExhausted a.mark a.range.ceiling)

/-- The allocator after an address was handed out; the mark never falls. -/
def commit (a : Allocator) (handed : Address) : Allocator :=
  { a with mark := a.mark.max handed }

/-- Hands out up to `n` addresses after those that were taken, the latest of which come first. -/
def handOutOnto (a : Allocator) (taken : List Address) :
    Nat → Allocator × List Address × Option AllocationError
  | 0 => (a, taken.reverse, none)
  | n + 1 =>
    match a.nextAddress with
    | .error e => (a, taken.reverse, some e)
    | .ok next => (a.commit next).handOutOnto (next :: taken) n

/-- Hands out up to `n` addresses, one after another: the allocator after it, the addresses, and
why there are no more of them. -/
def handOut (a : Allocator) (n : Nat) : Allocator × List Address × Option AllocationError :=
  a.handOutOnto [] n

end Allocator

/-- The first entry that stands in the list again later on, in the order of the second places. -/
def firstRepeated (seen : List Port) : List Port → Option Port
  | [] => none
  | p :: rest => if seen.contains p then some p else firstRepeated (p :: seen) rest

def checkHostPorts (manifest : Manifest) (records : List Record) : Except AllocationError Unit :=
  match firstRepeated [] manifest.hostPorts with
  | some p => .error (.portRepeated p)
  | none =>
    let clash := records.findSome? fun r =>
      (r.boundHostPorts.find? (manifest.hostPorts.contains ·)).map (·, r.id)
    match clash with
    | some (p, id) => .error (.portHeld p id)
    | none => .ok ()

def takenPorts (manifest : Manifest) (records : List Record) : List Port :=
  records.flatMap Record.boundHostPorts ++ manifest.hostPorts

/-- How many ports a scan has before it. -/
def portsAhead : Option Port → Nat
  | none => 0
  | some p => 65536 - p.toNat

theorem portsAhead_next? (p : Port) : portsAhead p.next? < portsAhead (some p) := by
  have h := p.toNat_lt
  unfold Port.next?
  split
  · simp only [portsAhead]
    omega
  · next inside =>
    have : p.toNat ≠ 65535 := fun e => inside (UInt16.toNat_inj.1 e)
    simp only [portsAhead, UInt16.toNat_add, UInt16.reduceToNat]
    omega

/-- Looks at one port after another, from a candidate upwards, until `count` of them are found. What
is not taken is found, and it is taken from then on. The answer has the ports in the order in which
they were found, after those in `found`, the latest of which come first; there is none if the ports
end before. -/
def scanPorts (count : Nat) (taken : PortSet) (found : List Port) (candidate : Option Port) :
    Option (List Port) :=
  match count, candidate with
  | 0, _ => some found.reverse
  | _ + 1, none => none
  | count + 1, some port =>
    if taken.contains port then scanPorts (count + 1) taken found port.next?
    else scanPorts count (taken.insert port) (port :: found) port.next?
termination_by portsAhead candidate
decreasing_by all_goals exact portsAhead_next? port

/-- The lowest free ports, `count` of them, in ascending order. -/
def allocatePorts (range : AllocationRange) (count : Nat) (manifest : Manifest)
    (records : List Record) : Except AllocationError (List Port) :=
  match scanPorts count (.ofList (takenPorts manifest records)) [] (some range.portStart) with
  | some ports => .ok ports
  | none => .error (.portsExhausted range.portStart count)

end Kennel
