import Kennel.Proofs.Manager.Reload
import Kennel.Proofs.Manager.Unique
import Kennel.Proofs.Nix.Container

/-!
# The firewall opens what the containers forward

The ports that the firewall opens are made from the records, and so are the ports that the containers
forward, each by its own rule: the firewall collects the ports that the enabled pups hold, sorts them
and drops repeats, and the file of a container lists one entry for each port that leads to its pup.
Both are read from the files here (`allowedPorts`, `forwardedPorts`).

**The firewall opens exactly the ports that enabled pups forward, and each of them is forwarded by
one entry of one pup** (`firewall_agrees_with_containers`). That no other pup, enabled or not, forwards
it rests on what the manager keeps of the ports over every sequence of calls (`Registry.Separate`). What
is made from all records does not depend on their order, since it is sorted.
-/

namespace Kennel.Nix

/-! ## The open ports -/

/-- A sorted list says only what it is made from. -/
theorem mergeSort_eq_of_perm {α : Type} {le : α → α → Bool}
    (trans : ∀ a b c, le a b = true → le b c = true → le a c = true)
    (total : ∀ a b, (le a b || le b a) = true)
    (antisymm : ∀ a b, le a b = true → le b a = true → a = b) {l l' : List α} (h : l.Perm l') :
    l.mergeSort le = l'.mergeSort le := by
  have same := (List.mergeSort_perm l le).trans (h.trans (List.mergeSort_perm l' le).symm)
  exact same.eq_of_pairwise (fun a b _ _ => antisymm a b) (List.pairwise_mergeSort trans total l)
    (List.pairwise_mergeSort trans total l')

theorem mem_dropRepeats {p : Port} {l : List Port} : p ∈ dropRepeats l ↔ p ∈ l := by
  fun_induction dropRepeats l with
  | case1 => rfl
  | case2 => rfl
  | case3 q rest ih => simp [ih]
  | case4 q next rest _ ih => simp [ih]

/-- A list that ascends ascends strictly without its repeats. -/
theorem pairwise_dropRepeats {l : List Port} (h : l.Pairwise (· ≤ ·)) :
    (dropRepeats l).Pairwise (· < ·) := by
  fun_induction dropRepeats l with
  | case1 => exact .nil
  | case2 => exact List.pairwise_singleton _ _
  | case3 q rest ih => exact ih (List.pairwise_cons.1 h).2
  | case4 q next rest other ih =>
    obtain ⟨least, rest⟩ := List.pairwise_cons.1 h
    refine List.pairwise_cons.2 ⟨fun p member => ?_, ih rest⟩
    have above : next ≤ p := by
      rcases List.mem_cons.1 (mem_dropRepeats.1 member) with rfl | member
      · exact UInt16.le_refl _
      · exact (List.pairwise_cons.1 rest).1 p member
    exact Std.lt_of_lt_of_le (Std.lt_of_le_of_ne (least next List.mem_cons_self) other) above

theorem port_le_trans (a b c : Port) :
    decide (a ≤ b) = true → decide (b ≤ c) = true → decide (a ≤ c) = true := by
  simpa using UInt16.le_trans

theorem port_le_total (a b : Port) : (decide (a ≤ b) || decide (b ≤ a)) = true := by
  simpa using UInt16.le_total a b

theorem pairwise_openPorts (records : List Record) : (openPorts records).Pairwise (· < ·) := by
  refine pairwise_dropRepeats ?_
  simpa using List.pairwise_mergeSort port_le_trans port_le_total _

theorem mem_openPorts {records : List Record} {p : Port} :
    p ∈ openPorts records ↔ ∃ r ∈ records, r.enabled = true ∧ p ∈ r.boundHostPorts := by
  rw [openPorts, mem_dropRepeats, List.mem_mergeSort, List.mem_flatMap]
  simp only [List.mem_filter, and_assoc]

theorem openPorts_of_perm {records records' : List Record} (h : records.Perm records') :
    openPorts records = openPorts records' :=
  congrArg dropRepeats <| mergeSort_eq_of_perm port_le_trans port_le_total
    (fun a b hab hba => UInt16.le_antisymm (by simpa using hab) (by simpa using hba))
    ((h.filter _).flatMap_right _)

theorem sortedIds_of_perm {records records' : List Record} (h : records.Perm records') :
    sortedIds records = sortedIds records' :=
  mergeSort_eq_of_perm (fun a b c => by simpa using String.le_trans)
    (fun a b => by simpa using String.le_total a b)
    (fun a b hab hba => String.le_antisymm (by simpa using hab) (by simpa using hba)) (h.map _)

/-! ## The file of the firewall -/

/-- What the line of the open ports begins with. -/
def allowedMark : List Char := "  networking.firewall.allowedTCPPorts = [ ".toList

/-- The ports that a line opens. -/
def allowedOn (line : List Char) : List Nat :=
  if allowedMark <+: line then ((line.drop allowedMark.length).splitOn ' ').filterMap numeral? else []

/-- The ports that the configuration of the firewall opens, in their order. -/
def allowedPorts (text : String) : List Nat := (text.toList.splitOn '\n').flatMap allowedOn

/-- Words are found again between blanks, and so is what comes after them. -/
theorem splitOn_words {words : List (List Char)} (h : ∀ w ∈ words, ' ' ∉ w) {last : List Char}
    (single : ' ' ∉ last) :
    ([' '].intercalate words ++ ' ' :: last).splitOn ' ' =
      if words = [] then [[], last] else words ++ [last] := by
  have text : [' '].intercalate words ++ ' ' :: last =
      [' '].intercalate (if words = [] then [[], last] else words ++ [last]) := by
    split_ifs with none
    · subst none
      simp
    · induction words with
      | nil => exact absurd rfl none
      | cons w words ih =>
        rw [List.forall_mem_cons] at h
        cases words with
        | nil => simp
        | cons w' words => simpa using ih h.2 (List.cons_ne_nil _ _)
  rw [text]
  refine List.splitOn_intercalate ' ' ?_ (by split_ifs <;> simp)
  split_ifs
  · simpa using single
  · exact List.forall_mem_append.2 ⟨h, List.forall_mem_singleton.2 single⟩

/-- The numbers of the open ports, with blanks between them, on the line that opens them. -/
theorem allowedOn_line (ports : List Nat) :
    allowedOn ("  networking.firewall.allowedTCPPorts = [ "
      ++ " ".intercalate (ports.map toString) ++ " ];").toList = ports := by
  have text : ("  networking.firewall.allowedTCPPorts = [ "
      ++ " ".intercalate (ports.map toString) ++ " ];").toList =
        allowedMark ++ ([' '].intercalate (ports.map fun n => (toString n).toList)
          ++ ' ' :: "];".toList) := by
    have last : " ];".toList = ' ' :: "];".toList := by decide
    have blank : " ".toList = [' '] := by decide
    rw [String.toList_append, String.toList_append, String.toList_intercalate, List.map_map, last,
      blank, List.append_assoc]
    rfl
  have words : ∀ w ∈ ports.map fun n => (toString n).toList, ' ' ∉ w :=
    List.forall_mem_map.2 fun n _ => notMem_toString rfl n
  have numbers : (ports.map fun n => (toString n).toList).filterMap numeral? = ports := by
    simp only [List.filterMap_map, Function.comp_def, numeral?_toString, List.filterMap_some]
  rw [text, allowedOn, if_pos (List.prefix_append _ _), List.drop_left,
    splitOn_words words (by decide)]
  split_ifs with none
  · rw [List.map_eq_nil_iff] at none
    subst none
    decide
  · rw [List.filterMap_append, numbers]
    simp [numeral?]

theorem notMem_intercalate {c : Char} {blank : List Char} (h : c ∉ blank) {words : List (List Char)}
    (each : ∀ w ∈ words, c ∉ w) : c ∉ blank.intercalate words := by
  induction words with
  | nil => simp
  | cons w words ih =>
    rw [List.forall_mem_cons] at each
    cases words with
    | nil => simpa using each.1
    | cons w' words => simp [each.1, h, ih each.2]

/-- **The configuration of the firewall opens the ports that enabled pups hold.** -/
theorem allowedPorts_firewallRules (records : List Record) :
    allowedPorts (firewallRules records) = (openPorts records).map (·.toNat) := by
  have text : firewallRules records = lines ["\x7b ... \x7d:", "\x7b",
      "  networking.firewall.allowedTCPPorts = [ "
        ++ " ".intercalate (((openPorts records).map (·.toNat)).map toString) ++ " ];", "\x7d"] := by
    rw [List.map_map]
    rfl
  rw [allowedPorts, text, splitOn_lines]
  · simp only [List.map_cons, List.map_nil, List.cons_append, List.nil_append, List.flatMap_cons,
      List.flatMap_nil, allowedOn_line]
    have around : allowedOn "\x7b ... \x7d:".toList = [] ∧ allowedOn "\x7b".toList = [] ∧
        allowedOn "\x7d".toList = [] ∧ allowedOn [] = [] := by decide
    rw [around.1, around.2.1, around.2.2.1, around.2.2.2]
    simp
  · have numbers : '\n' ∉ (" ".intercalate (((openPorts records).map (·.toNat)).map toString)).toList := by
      rw [String.toList_intercalate, List.map_map]
      exact notMem_intercalate (by decide) (List.forall_mem_map.2 fun n _ => notMem_toString rfl n)
    refine List.forall_mem_cons.2 ⟨by decide, List.forall_mem_cons.2 ⟨by decide, ?_⟩⟩
    refine List.forall_mem_cons.2 ⟨?_, List.forall_mem_singleton.2 (by decide)⟩
    rw [String.toList_append, String.toList_append, List.mem_append, List.mem_append, not_or, not_or]
    exact ⟨⟨by decide, numbers⟩, by decide⟩

/-! ## Firewall and containers -/

/-- **A container forwards the ports that its pup holds**, each in one entry. -/
theorem perm_forwardedPorts (r : Record) (peers : Dict Record) :
    (forwardedPorts (pupConfig r peers)).Perm (r.boundHostPorts.map (·.toNat)) := by
  have held : ((forwards r).map (·.1)).Perm r.boundHostPorts := by
    refine ((List.mergeSort_perm _ _).map _).trans (.of_eq ?_)
    simp [Record.boundHostPorts, Function.comp_def]
  rw [forwardedPorts_pupConfig]
  simpa [Function.comp_def] using held.map (·.toNat)

theorem mem_forwardedPorts {r : Record} {peers : Dict Record} {p : Nat} :
    p ∈ forwardedPorts (pupConfig r peers) ↔ p ∈ r.boundHostPorts.map (·.toNat) :=
  (perm_forwardedPorts r peers).mem_iff

theorem mem_allowedPorts {pups : List Record} {p : Nat} :
    p ∈ allowedPorts (firewallRules pups) ↔
      ∃ r ∈ pups, r.enabled = true ∧ p ∈ r.boundHostPorts.map (·.toNat) := by
  rw [allowedPorts_firewallRules, List.mem_map]
  constructor
  · rintro ⟨q, opened, rfl⟩
    obtain ⟨r, member, enabled, bound⟩ := mem_openPorts.1 opened
    exact ⟨r, member, enabled, List.mem_map_of_mem bound⟩
  · rintro ⟨r, member, enabled, held⟩
    obtain ⟨q, bound, rfl⟩ := List.mem_map.1 held
    exact ⟨q, mem_openPorts.2 ⟨r, member, enabled, bound⟩, rfl⟩

/-- The firewall made from some records opens what their containers forward. -/
structure Agreement (pups : List Record) (peers : Dict Record) : Prop where
  ascending : (allowedPorts (firewallRules pups)).Pairwise (· < ·)
  /-- The open ports are those that enabled pups forward. -/
  forwarded : ∀ p, p ∈ allowedPorts (firewallRules pups) ↔
    ∃ r ∈ pups, r.enabled = true ∧ p ∈ forwardedPorts (pupConfig r peers)
  /-- An open port is forwarded by one entry of one enabled pup, and no other pup has part in it. -/
  owned : ∀ p ∈ allowedPorts (firewallRules pups), ∃ r ∈ pups, r.enabled = true ∧
    (forwardedPorts (pupConfig r peers)).count p = 1 ∧
    ∀ s ∈ pups, p ∈ forwardedPorts (pupConfig s peers) ∨ p ∈ s.boundHostPorts.map (·.toNat) → s = r

/-- Records that share nothing agree with the firewall. -/
theorem agreement_of_distinct {pups : List Record} (distinct : Record.Distinct pups)
    (peers : Dict Record) : Agreement pups peers := by
  refine ⟨?_, fun p => by simp only [mem_allowedPorts, mem_forwardedPorts], fun p allowed => ?_⟩
  · rw [allowedPorts_firewallRules, List.pairwise_map]
    exact (pairwise_openPorts pups).imp UInt16.lt_iff_toNat_lt.1
  · obtain ⟨r, member, enabled, held⟩ := mem_allowedPorts.1 allowed
    have single : (r.boundHostPorts.map (·.toNat)).Nodup :=
      ((List.nodup_flatMap.1 distinct.ports).1 r member).map fun _ _ => UInt16.toNat_inj.1
    refine ⟨r, member, enabled, ?_, fun s other part => ?_⟩
    · rw [(perm_forwardedPorts r peers).count_eq]
      exact List.count_eq_one_of_mem single held
    · rw [mem_forwardedPorts, or_self] at part
      obtain ⟨q, bound, rfl⟩ := List.mem_map.1 held
      have bound' : q ∈ s.boundHostPorts :=
        (List.mem_map_of_injective fun _ _ => UInt16.toNat_inj.1).1 part
      by_contra hne
      exact (distinct.apart other member hne).ports bound' bound

/-- **Firewall and containers agree.** A store whose records are distinct, as those of an empty store
are, is loaded, and anything is called afterwards, on any disk. Then the firewall opens exactly the
ports that the containers of enabled pups forward, in strictly ascending order; each of them is forwarded
by one entry of one enabled pup, and a disabled pup holds none of them. And neither the file of the
firewall nor the list of containers depends on the order of the records. -/
theorem firewall_agrees_with_containers (settings : ManagerSettings) (store : Store)
    (catalogs : CatalogSource) (monitor : Option Monitor) (d : Disk) (records : List Record)
    (loaded : (Disk.run store.loadAll d).1 = .ok records) (distinct : Record.Distinct records) :
    (∃ m, Manager.load settings store catalogs monitor d = .ok m ∧
      ∀ (calls : List (Call × Disk)) (peers : Dict Record),
        Agreement (m.after calls).registry.list peers) ∧
      ∀ pups pups' : List Record, pups.Perm pups' →
        firewallRules pups = firewallRules pups' ∧ systemContainers pups = systemContainers pups' := by
  refine ⟨⟨_, by rw [Manager.load, loaded], fun calls peers => ?_⟩, fun pups pups' order => ?_⟩
  · refine agreement_of_distinct (Record.Distinct.of_perm ?_ (List.mergeSort_perm _ _).symm) peers
    refine (Manager.registry_after (fun _ _ => Registry.Separate.step) _ ?_ calls).unique.distinct
    exact Registry.separate_ofRecords distinct settings.range settings.bufferSize
  · rw [firewallRules, firewallRules, openPorts_of_perm order, systemContainers, systemContainers,
      sortedIds_of_perm order]
    exact ⟨rfl, rfl⟩

/-- Two pups with a web interface each, of which the first one also binds a port itself; only that one
is enabled. -/
def halfEnabled : List (Call × Disk) :=
  let ui : Manifest.Expose := { name := "ui", protocol := .http, port := 80, webUi := true }
  let rpc : Manifest.Expose := { name := "rpc", protocol := .tcp, port := 9000, listenOnHost := true }
  [(.adopt (.numbersFrom 0) { identity := ⟨"node", "1.0.0", ""⟩, container := { exposes := [ui, rpc] } }
      ⟨"main", "/srv"⟩ none, bareDisk),
    (.adopt (.numbersFrom 0) { identity := ⟨"wallet", "1.0.0", ""⟩, container := { exposes := [ui] } }
      ⟨"main", "/srv"⟩ none, bareDisk),
    (.update "0" [.setEnabled true] none, bareDisk)]

/-- From an empty store on, the ports of the enabled pup are open, and that of the other one is not. -/
theorem firewall_agrees_with_containers_halfEnabled :
    (Disk.run bareManager.store.loadAll bareDisk).1 = .ok [] ∧ Record.Distinct [] ∧
      Manager.load bareManager.settings bareManager.store default bareManager.monitor bareDisk =
        .ok bareManager.rewatch ∧
      10000 ∈ allowedPorts (firewallRules (bareManager.rewatch.after halfEnabled).registry.list) ∧
      9000 ∈ allowedPorts (firewallRules (bareManager.rewatch.after halfEnabled).registry.list) ∧
      10001 ∉ allowedPorts (firewallRules (bareManager.rewatch.after halfEnabled).registry.list) := by
  have empty : (Disk.run bareManager.store.loadAll bareDisk).1 = .ok [] := by decide +kernel
  have distinct : Record.Distinct [] := ⟨.nil, .nil, .nil, .nil⟩
  obtain ⟨⟨m, loaded, agrees⟩, -⟩ := firewall_agrees_with_containers bareManager.settings
    bareManager.store default bareManager.monitor bareDisk [] empty distinct
  obtain rfl : bareManager.rewatch = m := Except.ok.inj (load_bareDisk.symm.trans loaded)
  have agreement := agrees halfEnabled ∅
  have installed : ∀ {id : String} {enabled : Bool} {ports : List Port},
      ((bareManager.rewatch.after halfEnabled).registry.records.get? id).map
        (fun r => (r.enabled, r.boundHostPorts)) = some (enabled, ports) →
      ∃ r ∈ (bareManager.rewatch.after halfEnabled).registry.list,
        r.enabled = enabled ∧ r.boundHostPorts = ports := by
    intro id enabled ports there
    obtain ⟨r, found, same⟩ := Option.map_eq_some_iff.1 there
    exact ⟨r, List.mem_mergeSort.2 (Dict.mem_values_iff.2 ⟨id, found⟩), Prod.mk.inj same⟩
  obtain ⟨node, listed, enabled, ports⟩ := installed (show
    ((bareManager.rewatch.after halfEnabled).registry.records.get? "0").map
      (fun r => (r.enabled, r.boundHostPorts)) = some (true, [10000, 9000]) by decide +kernel)
  obtain ⟨wallet, listed', disabled, ports'⟩ := installed (show
    ((bareManager.rewatch.after halfEnabled).registry.records.get? "1").map
      (fun r => (r.enabled, r.boundHostPorts)) = some (false, [10001]) by decide +kernel)
  have opened : ∀ p ∈ [10000, 9000],
      p ∈ allowedPorts (firewallRules (bareManager.rewatch.after halfEnabled).registry.list) := by
    intro p member
    refine (agreement.forwarded p).2 ⟨node, listed, enabled, mem_forwardedPorts.2 ?_⟩
    rw [ports]
    exact member
  refine ⟨empty, distinct, loaded, opened _ (by decide), opened _ (by decide), fun allowed => ?_⟩
  obtain ⟨r, -, enabled', -, only⟩ := agreement.owned 10001 allowed
  rw [← only wallet listed' (.inr (by rw [ports']; decide)), disabled] at enabled'
  cases enabled'

end Kennel.Nix
