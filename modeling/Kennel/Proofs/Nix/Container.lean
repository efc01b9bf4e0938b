import Mathlib.Data.List.Nodup
import Kennel.Proofs.Data.Dict
import Kennel.Proofs.Nix.Imports
import Kennel.Proofs.Nix.Literal

/-!
# What a container file defines and forwards

The file of a container is read line by line. A line that opens an environment is followed by the
definitions of that environment, each with its name in a literal (`environmentNames`); a line that
forwards a port begins with the port of the host (`forwardedPorts`). Literals are never broken into
lines (`newline_notMem_quote`), so no configured text looks like a line of its own.

**Each environment defines the keys of the configuration and a variable for every interface whose
provider is known** (`environment_names_distinct_iff`).

## Names that are defined twice

The variable of an interface has capitals and underscores in place of what else an interface is made
of. So two interfaces can have one variable, and a key of the configuration can be the variable of an
interface; then the environment defines the name twice (`environment_defines_twice`), and the file
cannot be evaluated. The names are distinct exactly if neither is the case.
-/

namespace Kennel.Nix

/-! ## How the lines begin -/

/-- A line begins with one of the fronts, and it is not broken into several ones. -/
def Begins (fronts : List String) (line : String) : Prop :=
  '\n' ∉ line.toList ∧ ∃ front ∈ fronts, front.toList <+: line.toList

instance (fronts : List String) (line : String) : Decidable (Begins fronts line) :=
  inferInstanceAs (Decidable (_ ∧ _))

namespace Begins

variable {fronts fronts' : List String} {a b : String}

theorem mono (h : Begins fronts a) (among : fronts ⊆ fronts') : Begins fronts' a :=
  ⟨h.1, h.2.imp fun _ => .imp_left (among ·)⟩

theorem append (h : Begins fronts a) (unbroken : '\n' ∉ b.toList) : Begins fronts (a ++ b) := by
  obtain ⟨whole, front, member, begins⟩ := h
  rw [Begins, String.toList_append]
  exact ⟨by simp [whole, unbroken], front, member, begins.trans (List.prefix_append _ _)⟩

theorem literal (h : Begins fronts a) (s : String) : Begins fronts (a ++ quote s) :=
  h.append (newline_notMem_quote s)

theorem number (h : Begins fronts a) (n : Nat) : Begins fronts (a ++ toString n) :=
  h.append (notMem_toString rfl n)

/-- A line that begins otherwise does not begin with a mark. -/
theorem unmarked (h : Begins fronts a) {mark : List Char}
    (otherwise : ∀ front ∈ fronts, ¬ mark <+: front.toList ∧ ¬ front.toList <+: mark) :
    ¬ mark <+: a.toList := by
  obtain ⟨-, front, member, begins⟩ := h
  intro marked
  have nested := List.prefix_or_prefix_of_prefix marked begins
  exact nested.elim (otherwise front member).1 (otherwise front member).2

end Begins

theorem begins_containerHead (r : Record) : ∀ line ∈ containerHead r, Begins ["\x7b", "  containers.",
    "    autoStart = ", "    privateNetwork = true;", "    localAddress = "] line := by
  have started : '\n' ∉ (if r.enabled then "true" else "false").toList := by cases r.enabled <;> decide
  refine List.forall_mem_cons.2 ⟨by decide, List.forall_mem_cons.2 ⟨by decide, ?_⟩⟩
  refine List.forall_mem_cons.2 ⟨(Begins.literal (by decide) _).append (by decide), ?_⟩
  refine List.forall_mem_cons.2 ⟨(Begins.append (by decide) started).append (by decide), ?_⟩
  refine List.forall_mem_cons.2 ⟨by decide, List.forall_mem_singleton.2 ?_⟩
  exact (Begins.literal (by decide) _).append (by decide)

theorem begins_forwardLines (ports : List (Port × Port)) : ∀ line ∈ forwardLines ports,
    Begins ["    forwardPorts = [", "      \x7b hostPort = ", "    ];"] line := by
  by_cases none : ports = []
  · subst none
    simp [forwardLines]
  · rw [forwardLines_eq none]
    refine List.forall_mem_append.2 ⟨List.forall_mem_append.2 ⟨by decide, ?_⟩, by decide⟩
    exact List.forall_mem_map.2 fun p _ =>
      (((Begins.number (by decide) _).append (by decide)).number _).append (by decide)

theorem begins_definitions (env : List (String × String)) :
    ∀ line ∈ env.map definition, Begins ["          "] line :=
  List.forall_mem_map.2 fun e _ =>
    (((Begins.literal (by decide) e.1).append (by decide)).literal e.2).append (by decide)

theorem begins_serviceHead (s : Manifest.Service) : ∀ line ∈ serviceHead s,
    Begins ["      systemd.services.", "        wantedBy = ", "        script = "] line := by
  refine List.forall_mem_cons.2 ⟨(Begins.literal (by decide) s.name).append (by decide), ?_⟩
  refine List.forall_mem_cons.2 ⟨by decide, List.forall_mem_singleton.2 ?_⟩
  exact (Begins.literal (by decide) s.command).append (by decide)

theorem begins_serviceLines (env : List (String × String)) (s : Manifest.Service) :
    ∀ line ∈ serviceLines env s, Begins ["      systemd.services.", "        wantedBy = ",
      "        script = ", "        environment = \x7b", "          ", "        \x7d;",
      "      \x7d;"] line := by
  rw [serviceLines_eq]
  refine List.forall_mem_append.2 ⟨List.forall_mem_append.2 ⟨fun line member => ?_, ?_⟩, by decide⟩
  · exact (begins_serviceHead s line member).mono (by simp)
  · by_cases none : env = []
    · subst none
      simp [environmentLines]
    · rw [environmentLines_eq none]
      refine List.forall_mem_append.2 ⟨List.forall_mem_append.2 ⟨by decide, fun line member => ?_⟩,
        by decide⟩
      exact (begins_definitions env line member).mono (by simp)

/-- The file is cut into its lines. -/
theorem splitOn_pupConfig (r : Record) (peers : Dict Record) :
    (pupConfig r peers).toList.splitOn '\n' =
      (containerHead r).map String.toList ++ ((forwardLines (forwards r)).map String.toList
        ++ (["    config = \x7b ... \x7d: \x7b"].map String.toList
        ++ ((r.manifest.container.services.flatMap (serviceLines (environment r peers))).map
          String.toList ++ (["    \x7d;", "  \x7d;", "\x7d"].map String.toList ++ [[]])))) := by
  rw [pupConfig_eq, splitOn_lines]
  · simp only [List.map_append, List.append_assoc]
  · refine List.forall_mem_append.2 ⟨List.forall_mem_append.2 ⟨List.forall_mem_append.2
      ⟨List.forall_mem_append.2 ⟨fun line member => ?_, fun line member => ?_⟩, by decide⟩,
      fun line member => ?_⟩, by decide⟩
    · exact (begins_containerHead r line member).1
    · exact (begins_forwardLines _ line member).1
    · obtain ⟨s, -, member⟩ := List.mem_flatMap.1 member
      exact (begins_serviceLines _ s line member).1

/-! ## Environments -/

/-- The name that a line defines, if it defines one. -/
def definedName? (line : List Char) : Option String :=
  match scan (line.dropWhile (· = ' ')) with
  | .closed name (' ' :: '=' :: _) => some (String.ofList name)
  | _ => none

def environmentStart : List Char := "        environment = \x7b".toList

def environmentEnd : List Char := "        \x7d;".toList

/-- The names that each environment among some lines defines. -/
def environmentsOf : List (List Char) → List (List String)
  | [] => []
  | line :: rest =>
    if line = environmentStart then
      (rest.takeWhile (· ≠ environmentEnd)).filterMap definedName? :: environmentsOf rest
    else environmentsOf rest

/-- The names that each environment of a configuration defines, from the first environment on. -/
def environmentNames (text : String) : List (List String) := environmentsOf (text.toList.splitOn '\n')

/-- Lines that open no environment are passed over. -/
theorem environmentsOf_append {a : List String}
    (other : ∀ line ∈ a, ¬ environmentStart <+: line.toList) (b : List (List Char)) :
    environmentsOf (a.map String.toList ++ b) = environmentsOf b := by
  induction a with
  | nil => rfl
  | cons line a ih =>
    rw [List.forall_mem_cons] at other
    have closed : line.toList ≠ environmentStart := fun same => other.1 (same ▸ List.prefix_refl _)
    rw [List.map_cons, List.cons_append, environmentsOf, if_neg closed, ih other.2]

/-- A definition defines the name that it was made for. -/
theorem definedName?_definition (e : String × String) :
    definedName? (definition e).toList = some e.1 := by
  have indented : (definition e).toList.dropWhile (· = ' ') =
      literal e.1.toList ++ ' ' :: '=' :: ' ' :: (quote e.2 ++ ";").toList := by
    have text : (definition e).toList =
        "          ".toList ++ (literal e.1.toList ++ ' ' :: '=' :: ' ' :: (quote e.2 ++ ";").toList) := by
      simp [definition, toList_quote, String.toList_append]
    rw [text, literal]
    rfl
  rw [definedName?, indented, scan_literal]
  simp

/-- The environment among the lines of a service. -/
theorem environmentsOf_environmentLines (env : List (String × String)) (rest : List (List Char)) :
    environmentsOf ((environmentLines env).map String.toList ++ rest) =
      (if env = [] then [] else [env.map (·.1)]) ++ environmentsOf rest := by
  by_cases none : env = []
  · subst none
    rfl
  · have text : (environmentLines env).map String.toList ++ rest =
        environmentStart :: ((env.map definition).map String.toList ++ environmentEnd :: rest) := by
      rw [environmentLines_eq none, List.map_append, List.map_append, List.append_assoc,
        List.append_assoc]
      rfl
    -- The definitions are the lines up to the end, since none of them looks like the end.
    have inside : ((env.map definition).map String.toList ++ environmentEnd :: rest).takeWhile
        (· ≠ environmentEnd) = (env.map definition).map String.toList := by
      rw [List.takeWhile_append_of_pos, List.takeWhile_cons_of_neg (by simp), List.append_nil]
      refine List.forall_mem_map.2 fun line member => decide_eq_true fun same => ?_
      have other : ¬ environmentEnd <+: line.toList :=
        (begins_definitions env line member).unmarked (by decide)
      exact other (same ▸ List.prefix_refl _)
    have defined : ((env.map definition).map String.toList).filterMap definedName? = env.map (·.1) := by
      simp only [List.filterMap_map, Function.comp_def, definedName?_definition, List.filterMap_eq_map']
    have ended : environmentsOf (environmentEnd :: rest) = environmentsOf rest :=
      environmentsOf_append (a := ["        \x7d;"]) (by decide) rest
    rw [text, environmentsOf, if_pos rfl, inside, defined, if_neg none,
      environmentsOf_append fun line member => (begins_definitions env line member).unmarked (by decide),
      ended]
    rfl

theorem environmentsOf_services (env : List (String × String)) (services : List Manifest.Service)
    (rest : List (List Char)) :
    environmentsOf ((services.flatMap (serviceLines env)).map String.toList ++ rest) =
      (if env = [] then [] else services.map fun _ => env.map (·.1)) ++ environmentsOf rest := by
  induction services with
  | nil => simp
  | cons s services ih =>
    rw [List.flatMap_cons, serviceLines_eq, List.map_append, List.map_append, List.map_append,
      List.append_assoc, List.append_assoc, List.append_assoc,
      environmentsOf_append fun line member => (begins_serviceHead s line member).unmarked (by decide),
      environmentsOf_environmentLines, environmentsOf_append (by decide), ih]
    split_ifs <;> rfl

/-- **Each service has an environment with the names of the pup's environment**, unless that is
empty. -/
theorem environmentNames_pupConfig (r : Record) (peers : Dict Record) :
    environmentNames (pupConfig r peers) =
      if environment r peers = [] then []
      else r.manifest.container.services.map fun _ => (environment r peers).map (·.1) := by
  have ended : environmentsOf (["    \x7d;", "  \x7d;", "\x7d"].map String.toList ++ [[]]) = [] := by
    decide
  rw [environmentNames, splitOn_pupConfig,
    environmentsOf_append fun line member => (begins_containerHead r line member).unmarked (by decide),
    environmentsOf_append fun line member => (begins_forwardLines _ line member).unmarked (by decide),
    environmentsOf_append (by decide), environmentsOf_services, ended, List.append_nil]

/-! ## Names -/

/-- The interfaces whose provider is known, each once. -/
def wiredInterfaces (r : Record) (peers : Dict Record) : List String :=
  (r.providers.entries.filter fun e => (peers.get? e.2).isSome).map (·.1)

theorem nodup_wiredInterfaces (r : Record) (peers : Dict Record) : (wiredInterfaces r peers).Nodup :=
  r.providers.nodup_keys.sublist (List.filter_sublist.map _)

/-- The names of an environment are the keys of the configuration and the variables of the interfaces
whose provider is known. -/
theorem perm_environment_names (r : Record) (peers : Dict Record) :
    ((environment r peers).map (·.1)).Perm
      (r.config.keys ++ (wiredInterfaces r peers).map interfaceVariable) := by
  have wired : ∀ l : List (String × String), (l.filterMap fun e => (peers.get? e.2).map fun peer =>
      (interfaceVariable e.1, peer.address.toText)).map (·.1) =
        ((l.filter fun e => (peers.get? e.2).isSome).map (·.1)).map interfaceVariable := by
    intro l
    induction l with
    | nil => rfl
    | cons e l ih => cases known : peers.get? e.2 <;> simp [known, ih]
  refine ((List.mergeSort_perm _ _).map _).trans (List.Perm.of_eq ?_)
  rw [List.map_append, wired]
  rfl

/-- **The names in the environments of a container file.** Unless there is nothing to define, every
service has an environment, and in each of them stand the keys of the pup's configuration and the
variables of the interfaces whose provider is known. A name is never defined twice exactly if there is
no service, or else no variable of such an interface is a key of the configuration and no two such
interfaces have one variable. -/
theorem environment_names_distinct_iff (r : Record) (peers : Dict Record) :
    ((environmentNames (pupConfig r peers)).length =
        if environment r peers = [] then 0 else r.manifest.container.services.length) ∧
      (∀ names ∈ environmentNames (pupConfig r peers),
        names.Perm (r.config.keys ++ (wiredInterfaces r peers).map interfaceVariable)) ∧
      ((∀ names ∈ environmentNames (pupConfig r peers), names.Nodup) ↔
        r.manifest.container.services = [] ∨
          (∀ i ∈ wiredInterfaces r peers, interfaceVariable i ∉ r.config.keys) ∧
          ∀ i ∈ wiredInterfaces r peers, ∀ j ∈ wiredInterfaces r peers,
            interfaceVariable i = interfaceVariable j → i = j) := by
  have perm := perm_environment_names r peers
  have distinct : ((environment r peers).map (·.1)).Nodup ↔
      (∀ i ∈ wiredInterfaces r peers, interfaceVariable i ∉ r.config.keys) ∧
        ∀ i ∈ wiredInterfaces r peers, ∀ j ∈ wiredInterfaces r peers,
          interfaceVariable i = interfaceVariable j → i = j := by
    rw [perm.nodup_iff, List.nodup_append', List.nodup_map_iff_inj_on (nodup_wiredInterfaces r peers)]
    constructor
    · rintro ⟨-, single, apart⟩
      exact ⟨fun i wired key => apart key (List.mem_map_of_mem wired), single⟩
    · rintro ⟨apart, single⟩
      refine ⟨r.config.nodup_keys, single, fun name key named => ?_⟩
      obtain ⟨i, wired, rfl⟩ := List.mem_map.1 named
      exact apart i wired key
  rw [environmentNames_pupConfig]
  by_cases none : environment r peers = []
  · rw [if_pos none, if_pos none]
    rw [none] at distinct
    exact ⟨rfl, by simp, iff_of_true (by simp) (.inr (distinct.1 List.nodup_nil))⟩
  · rw [if_neg none, if_neg none]
    refine ⟨List.length_map _, List.forall_mem_map.2 fun _ _ => perm, ?_⟩
    rw [List.forall_mem_map, ← distinct]
    cases r.manifest.container.services with
    | nil => simp
    | cons s services => simpa using fun distinct _ _ => distinct

/-- A pup that provides interfaces to another one. -/
def rpcProvider : Record where
  id := "core"
  phase := .ready
  enabled := true
  config := ∅
  address := .ofOctets 10 69 0 2
  webUis := []
  providers := ∅
  manifest :=
    { identity := ⟨"core", "1.0.0", ""⟩, container := { services := [⟨"main", "run"⟩] } }
  source := ⟨"local", "/catalogs/local"⟩
  needsConf := false
  needsDeps := false

/-- A pup with two interfaces that differ in a hyphen and a dot, both with this provider. -/
def twiceWired : Record :=
  { rpcProvider with
    id := "wallet"
    address := .ofOctets 10 69 0 3
    providers := Dict.ofList [("core-rpc", "core"), ("core.rpc", "core")] }

/-- **The environment of this pup defines one name twice.** -/
theorem environment_defines_twice :
    environmentNames (pupConfig twiceWired (peerIndex [rpcProvider])) =
        [["DBX_IFACE_CORE_RPC_HOST", "DBX_IFACE_CORE_RPC_HOST"]] ∧
      ¬ ∀ names ∈ environmentNames (pupConfig twiceWired (peerIndex [rpcProvider])), names.Nodup := by
  have sorted : environment twiceWired (peerIndex [rpcProvider]) =
      [("DBX_IFACE_CORE_RPC_HOST", "10.69.0.2"), ("DBX_IFACE_CORE_RPC_HOST", "10.69.0.2")] :=
    (List.mergeSort_of_pairwise (by decide +kernel)).trans (by decide +kernel)
  have names : environmentNames (pupConfig twiceWired (peerIndex [rpcProvider])) =
      [["DBX_IFACE_CORE_RPC_HOST", "DBX_IFACE_CORE_RPC_HOST"]] := by
    rw [environmentNames_pupConfig, sorted]
    rfl
  refine ⟨names, ?_⟩
  rw [names]
  decide

/-! ## Forwarded ports -/

/-- The number that decimal digits say. -/
def numeral? (word : List Char) : Option Nat :=
  if word ≠ [] ∧ word.all Char.isDigit then some (Nat.ofDigitChars 10 word 0) else none

theorem numeral?_toString (n : Nat) : numeral? (toString n).toList = some n := by
  have digits : (toString n).toList = Nat.toDigits 10 n := by
    rw [Nat.toString_eq_ofList_toDigits, String.toList_ofList]
  rw [numeral?, if_pos ⟨by rw [digits]; exact Nat.toDigits_ne_nil,
    List.all_eq_true.2 (isDigit_toString n)⟩, digits, Nat.ofDigitChars_toDigits (by decide) (by decide)]

/-- What the line of a forwarded port begins with, before the port of the host. -/
def forwardMark : List Char := "      \x7b hostPort = ".toList

/-- The port of the host that a line forwards, if it forwards one. -/
def forwardedPort? (line : List Char) : Option Nat :=
  if forwardMark <+: line then numeral? ((line.drop forwardMark.length).takeWhile Char.isDigit)
  else none

/-- The ports of the host that a container file forwards, one for each entry. -/
def forwardedPorts (text : String) : List Nat :=
  (text.toList.splitOn '\n').filterMap forwardedPort?

/-- Lines that begin otherwise forward nothing. -/
theorem filterMap_forwardedPort? {l : List String}
    (other : ∀ line ∈ l, ¬ forwardMark <+: line.toList) :
    (l.map String.toList).filterMap forwardedPort? = [] :=
  List.filterMap_eq_nil_iff.2 (List.forall_mem_map.2 fun line member => if_neg (other line member))

theorem toList_forwardEntry (p : Port × Port) : ∃ rest,
    (forwardEntry p).toList = forwardMark ++ ((toString p.1.toNat).toList ++ ';' :: rest) := by
  have stop : "; containerPort = ".toList = ';' :: " containerPort = ".toList := by decide
  unfold forwardEntry
  generalize toString p.1.toNat = host, toString p.2.toNat = container
  simp only [String.toList_append, List.append_assoc, stop, List.cons_append]
  exact ⟨_, rfl⟩

theorem forwardedPort?_forwardEntry (p : Port × Port) :
    forwardedPort? (forwardEntry p).toList = some p.1.toNat := by
  obtain ⟨rest, text⟩ := toList_forwardEntry p
  rw [text, forwardedPort?, if_pos (List.prefix_append _ _), List.drop_left,
    List.takeWhile_append_of_pos (isDigit_toString _), List.takeWhile_cons_of_neg (by decide),
    List.append_nil, numeral?_toString]

theorem filterMap_forwardLines (ports : List (Port × Port)) :
    ((forwardLines ports).map String.toList).filterMap forwardedPort? = ports.map (·.1.toNat) := by
  by_cases none : ports = []
  · subst none
    rfl
  · have entries : ((ports.map forwardEntry).map String.toList).filterMap forwardedPort? =
        ports.map (·.1.toNat) := by
      simp only [List.filterMap_map, Function.comp_def, forwardedPort?_forwardEntry,
        List.filterMap_eq_map']
    rw [forwardLines_eq none, List.map_append, List.map_append, List.filterMap_append,
      List.filterMap_append, filterMap_forwardedPort? (by decide), entries,
      filterMap_forwardedPort? (by decide), List.nil_append, List.append_nil]

/-- **A container file forwards the ports of the host that lead to the pup**, each in one entry. -/
theorem forwardedPorts_pupConfig (r : Record) (peers : Dict Record) :
    forwardedPorts (pupConfig r peers) = (forwards r).map (·.1.toNat) := by
  have services : ∀ line ∈ r.manifest.container.services.flatMap (serviceLines (environment r peers)),
      ¬ forwardMark <+: line.toList := by
    intro line member
    obtain ⟨s, -, member⟩ := List.mem_flatMap.1 member
    exact (begins_serviceLines _ s line member).unmarked (by decide)
  have ended : (["    \x7d;", "  \x7d;", "\x7d"].map String.toList ++ [[]]).filterMap
      forwardedPort? = [] := by decide
  rw [forwardedPorts, splitOn_pupConfig, List.filterMap_append, List.filterMap_append,
    List.filterMap_append, List.filterMap_append, ended, filterMap_forwardedPort? services,
    filterMap_forwardedPort? fun line member => (begins_containerHead r line member).unmarked (by decide),
    filterMap_forwardLines, filterMap_forwardedPort? (by decide), List.nil_append, List.nil_append,
    List.nil_append, List.append_nil]

end Kennel.Nix
