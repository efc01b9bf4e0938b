import Kennel.Monitoring.Sample
import Kennel.Nix.Literal
import Kennel.Record.Basic

/-!
# Configuration fragments

The files of the host's configuration, made from the records of the installed pups: the container
of one pup, the open ports of the firewall, the list of all container files, and the network.

Everything that could come in any order is sorted: forwarded ports by the port of the host,
environments by name, open ports and container files in ascending order.
-/

namespace Kennel.Nix

/-- How the host is connected. -/
inductive Network where
  | ethernet (interface : String)
  | wifi (interface ssid password : String)
  deriving DecidableEq

/-- Lines, each with its end. -/
def lines (l : List String) : String := String.join (l.map (· ++ "\n"))

def pupFileName (id : String) : String := "pup_" ++ id ++ ".nix"

/-- The name of the variable that holds the address of the provider of an interface: letters are
capitals, and what is neither an ASCII letter nor a digit is an underscore. -/
def interfaceVariable (interface : String) : String :=
  "DBX_IFACE_" ++
    String.ofList (interface.toList.map fun c => if c.isAlphanum then c.toUpper else '_') ++ "_HOST"

/-- The ports of the host that lead to a pup, each with the port it leads to, ascending. -/
def forwards (r : Record) : List (Port × Port) :=
  (r.webUis.map (fun w => (w.hostPort, w.internalPort)) ++ r.manifest.hostPorts.map fun p => (p, p)).mergeSort
    fun a b => a.1 < b.1 || (a.1 == b.1 && a.2 ≤ b.2)

/-- The environment of a pup's services: its configuration, and the address of each selected
provider that is known, by name. -/
def environment (r : Record) (peers : Dict Record) : List (String × String) :=
  let wired := r.providers.entries.filterMap fun e =>
    (peers.get? e.2).map fun peer => (interfaceVariable e.1, peer.address.toText)
  (r.config.entries ++ wired).mergeSort
    fun a b => decide (a.1 < b.1) || (a.1 == b.1 && decide (a.2 ≤ b.2))

/-- The lines of the forwarded ports; none if there are no ports. -/
def forwardLines (ports : List (Port × Port)) : List String :=
  if ports = [] then []
  else
    ["    forwardPorts = ["]
    ++ ports.map (fun p => "      \x7b hostPort = " ++ toString p.1.toNat ++ "; containerPort = "
      ++ toString p.2.toNat ++ "; protocol = \"tcp\"; \x7d")
    ++ ["    ];"]

/-- The lines of an environment; none if it is empty. -/
def environmentLines (env : List (String × String)) : List String :=
  if env = [] then []
  else
    ["        environment = \x7b"]
    ++ env.map (fun e => "          " ++ quote e.1 ++ " = " ++ quote e.2 ++ ";")
    ++ ["        \x7d;"]

def serviceLines (env : List (String × String)) (s : Manifest.Service) : List String :=
  ["      systemd.services." ++ quote s.name ++ " = \x7b",
    "        wantedBy = [ \"multi-user.target\" ];",
    "        script = " ++ quote s.command ++ ";"]
  ++ environmentLines env
  ++ ["      \x7d;"]

/-- The file of a pup's container. The peers are the records that providers are looked up in. -/
def pupConfig (r : Record) (peers : Dict Record) : String := lines <|
  ["\x7b ... \x7d:", "\x7b",
    "  containers." ++ quote (MonitoredService.container r.id).containerName ++ " = \x7b",
    "    autoStart = " ++ (if r.enabled then "true" else "false") ++ ";",
    "    privateNetwork = true;",
    "    localAddress = " ++ quote r.address.toText ++ ";"]
  ++ forwardLines (forwards r)
  ++ ["    config = \x7b ... \x7d: \x7b"]
  ++ r.manifest.container.services.flatMap (serviceLines (environment r peers))
  ++ ["    \x7d;", "  \x7d;", "\x7d"]

/-- Drops each entry that equals the one before it. -/
def dropRepeats : List Port → List Port
  | [] => []
  | [p] => [p]
  | p :: q :: rest => if p = q then dropRepeats (q :: rest) else p :: dropRepeats (q :: rest)

/-- The ports of the host that enabled pups hold, ascending and each once. -/
def openPorts (records : List Record) : List Port :=
  dropRepeats (((records.filter (·.enabled)).flatMap Record.boundHostPorts).mergeSort
    fun a b => decide (a ≤ b))

def firewallRules (records : List Record) : String := lines
  ["\x7b ... \x7d:", "\x7b",
    "  networking.firewall.allowedTCPPorts = [ "
      ++ " ".intercalate ((openPorts records).map fun p => toString p.toNat) ++ " ];",
    "\x7d"]

/-- The IDs of all pups, ascending. -/
def sortedIds (records : List Record) : List String :=
  (records.map (·.id)).mergeSort fun a b => decide (a ≤ b)

/-- The file that imports the file of every pup. -/
def systemContainers (records : List Record) : String := lines <|
  ["\x7b ... \x7d:", "\x7b", "  imports = ["]
  ++ (sortedIds records).map (fun id => "    ./" ++ pupFileName id)
  ++ ["  ];", "\x7d"]

def networkConfig : Network → String
  | .ethernet interface => lines
    ["\x7b ... \x7d:", "\x7b",
      "  networking.interfaces." ++ quote interface ++ ".useDHCP = true;",
      "  networking.wireless.enable = false;", "\x7d"]
  | .wifi interface ssid password => lines
    ["\x7b ... \x7d:", "\x7b",
      "  networking.interfaces." ++ quote interface ++ ".useDHCP = true;",
      "  networking.wireless.enable = true;",
      "  networking.wireless.interfaces = [ " ++ quote interface ++ " ];",
      "  networking.wireless.networks." ++ quote ssid ++ ".psk = " ++ quote password ++ ";",
      "\x7d"]

/-- Records by their IDs; of two with one ID the later stays. -/
def peerIndex (records : List Record) : Dict Record :=
  Dict.ofList (records.map fun r => (r.id, r))

end Kennel.Nix
