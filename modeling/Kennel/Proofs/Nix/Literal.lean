import Mathlib.Tactic.SplitIfs
import Kennel.Nix.Fragment

/-!
# Texts stay in their literals

A text is put into a configuration as a literal (`quote`), and the reader of the configuration gets
the text back: **a literal ends exactly where it was closed, opens no interpolation and says the text**,
whatever stands after it (`scan_literal`). What is written for a character begins with a backslash
or is neither a quote nor a dollar sign, so the reader is done with it before it looks at the next one
(`scanInside_escape`); that is all the induction needs.

A whole file is code with literals in it. Its literals are read one after another (`literalsIn`), and
a file is put together from pieces that say what their literals say (`Says`). So **every text that
goes into the file of a container or of the network is found there, undivided and in its place**
(`texts_stay_in_literals`), and nothing of it is left for the code around it.
-/

namespace Kennel.Nix

/-! ## One literal -/

/-- What is written for a character is read as that character. -/
theorem scanInside_escape (c : Char) (content rest : List Char) :
    scanInside content (escape c ++ rest) = scanInside (c :: content) rest := by
  unfold escape
  split_ifs with isQuote isBackslash isNewline isReturn isTab isDollar
  · subst isQuote; rfl
  · subst isBackslash; rfl
  · subst isNewline; rfl
  · subst isReturn; rfl
  · subst isTab; rfl
  · subst isDollar; rfl
  · simp [scanInside, isQuote, isBackslash, isDollar]

theorem scanInside_flatMap_escape (s content rest : List Char) :
    scanInside content (s.flatMap escape ++ '"' :: rest) = .closed (content.reverse ++ s) rest := by
  induction s generalizing content with
  | nil => simp [scanInside]
  | cons c s ih =>
    rw [List.flatMap_cons, List.append_assoc, scanInside_escape, ih, List.reverse_cons,
      List.append_assoc]
    rfl

/-- **A literal is read as the text that it was made from**, up to its end and not beyond. -/
theorem scan_literal (s rest : List Char) : scan (literal s ++ rest) = .closed s rest := by
  have opened : literal s ++ rest = '"' :: (s.flatMap escape ++ '"' :: rest) := by simp [literal]
  rw [opened, scan, scanInside_flatMap_escape]
  rfl

theorem toList_quote (s : String) : (quote s).toList = literal s.toList := String.toList_ofList

/-- A literal is never broken into lines. -/
theorem newline_notMem_quote (s : String) : '\n' ∉ (quote s).toList := by
  have escaped : ∀ c, '\n' ∉ escape c := by
    intro c
    unfold escape
    split_ifs with isQuote isBackslash isNewline <;> simp_all [eq_comm]
  rw [toList_quote]
  simp [literal, escaped]

/-! ## All literals of a text -/

/-- A literal takes up some of the text. -/
theorem length_of_scanInside {content l s rest : List Char}
    (h : scanInside content l = .closed s rest) : rest.length < l.length := by
  fun_induction scanInside content l with
  | case1 => cases h
  | case2 content c l ih => exact Nat.lt_add_right 1 (Nat.lt_add_right 1 (ih h))
  | case3 => cases h
  | case4 =>
    obtain ⟨-, rfl⟩ := Scan.closed.inj h
    simp
  | case5 content c l _ _ other ih => exact Nat.lt_add_right 1 (ih h)

/-- The literals of a text that begins outside of one. There is no answer if one of them opens an
interpolation or is not closed. -/
def literalsIn : List Char → Option (List String)
  | [] => some []
  | c :: rest =>
    if c = '"' then
      match _ : scanInside [] rest with
      | .closed content after => (literalsIn after).map (String.ofList content :: ·)
      | .interpolation => none
      | .unclosed => none
    else literalsIn rest
termination_by l => l.length
decreasing_by
  · exact Nat.lt_add_right 1 (length_of_scanInside ‹_›)
  · exact Nat.lt_add_one _

/-- Code without a quote is passed over. -/
theorem literalsIn_append_of_notMem {code : List Char} (h : '"' ∉ code) (rest : List Char) :
    literalsIn (code ++ rest) = literalsIn rest := by
  induction code with
  | nil => rfl
  | cons c code ih =>
    rw [List.mem_cons, not_or] at h
    rw [List.cons_append, literalsIn, if_neg (Ne.symm h.1), ih h.2]

theorem literalsIn_literal (s rest : List Char) :
    literalsIn (literal s ++ rest) = (literalsIn rest).map (String.ofList s :: ·) := by
  have opened : literal s ++ rest = '"' :: (s.flatMap escape ++ '"' :: rest) := by simp [literal]
  rw [opened, literalsIn, if_pos rfl]
  split
  · next content after ended =>
    rw [scanInside_flatMap_escape] at ended
    obtain ⟨rfl, rfl⟩ := Scan.closed.inj ended
    rfl
  · next ended =>
    rw [scanInside_flatMap_escape] at ended
    cases ended
  · next ended =>
    rw [scanInside_flatMap_escape] at ended
    cases ended

/-! ## Pieces of a file -/

/-- The literals of a piece of a file say these texts, and it ends outside of a literal. -/
def Says (piece : String) (texts : List String) : Prop :=
  ∀ rest, literalsIn (piece.toList ++ rest) = (literalsIn rest).map (texts ++ ·)

namespace Says

variable {a b : String} {ta tb : List String}

theorem append (ha : Says a ta) (hb : Says b tb) : Says (a ++ b) (ta ++ tb) := by
  intro rest
  rw [String.toList_append, List.append_assoc, ha, hb, Option.map_map]
  exact congrArg (Option.map · _) (funext fun texts => (List.append_assoc ta tb texts).symm)

/-- A literal says its text. -/
theorem quote (s : String) : Says (quote s) [s] := by
  intro rest
  rw [toList_quote, literalsIn_literal, String.ofList_toList]
  rfl

/-- Code without a quote says nothing. -/
theorem code (h : '"' ∉ a.toList) : Says a [] := by
  intro rest
  rw [literalsIn_append_of_notMem h]
  exact Option.map_id'.symm

/-- A literal in code. -/
theorem quoted (ha : '"' ∉ a.toList) (hb : '"' ∉ b.toList) (s : String) :
    Says (a ++ Nix.quote s ++ b) [s] :=
  ((code ha).append (quote s)).append (code hb)

/-! ### Lines -/

theorem nil : Says (lines []) [] := code (by decide)

/-- A line, and the lines after it. -/
theorem cons {l : List String} (ha : Says a ta) (hl : Says (lines l) tb) :
    Says (lines (a :: l)) (ta ++ tb) := by
  have text : lines (a :: l) = a ++ "\n" ++ lines l := by
    rw [lines, List.map_cons, String.join_cons, lines]
  rw [text]
  have ended : Says (a ++ "\n") ta := by
    simpa using ha.append (code (a := "\n") (by decide))
  exact ended.append hl

theorem append_lines {l l' : List String} (hl : Says (lines l) ta) (hl' : Says (lines l') tb) :
    Says (lines (l ++ l')) (ta ++ tb) := by
  have text : lines (l ++ l') = lines l ++ lines l' := by
    rw [lines, List.map_append, String.join_append, lines, lines]
  rw [text]
  exact hl.append hl'

/-- Lines of code say nothing. -/
theorem code_lines {l : List String} (h : ∀ line ∈ l, '"' ∉ line.toList) : Says (lines l) [] := by
  induction l with
  | nil => exact nil
  | cons line l ih =>
    rw [List.forall_mem_cons] at h
    exact (code h.1).cons (ih h.2)

theorem map_lines {α : Type} {f : α → String} {texts : α → List String}
    (each : ∀ x, Says (f x) (texts x)) (l : List α) :
    Says (lines (l.map f)) (l.flatMap texts) := by
  induction l with
  | nil => exact nil
  | cons x l ih => exact (each x).cons ih

theorem flatMap_lines {α : Type} {f : α → List String} {texts : α → List String}
    (each : ∀ x, Says (lines (f x)) (texts x)) (l : List α) :
    Says (lines (l.flatMap f)) (l.flatMap texts) := by
  induction l with
  | nil => exact nil
  | cons x l ih => exact (each x).append_lines ih

/-- A whole file says its texts. -/
theorem literalsIn {text : String} {texts : List String} (h : Says text texts) :
    literalsIn text.toList = some texts := by
  have whole := h []
  rwa [List.append_nil, Nix.literalsIn, Option.map_some, List.append_nil] at whole

end Says

/-! ## The lines of a container file -/

/-- The line of a forwarded port. -/
def forwardEntry (p : Port × Port) : String :=
  "      \x7b hostPort = " ++ toString p.1.toNat ++ "; containerPort = " ++ toString p.2.toNat
    ++ "; protocol = \"tcp\"; \x7d"

theorem forwardLines_eq {ports : List (Port × Port)} (some : ports ≠ []) :
    forwardLines ports = ["    forwardPorts = ["] ++ ports.map forwardEntry ++ ["    ];"] := if_neg some

/-- The line of a definition. -/
def definition (e : String × String) : String := "          " ++ quote e.1 ++ " = " ++ quote e.2 ++ ";"

theorem environmentLines_eq {env : List (String × String)} (some : env ≠ []) :
    environmentLines env =
      ["        environment = \x7b"] ++ env.map definition ++ ["        \x7d;"] := if_neg some

/-- The lines of a service before its environment. -/
def serviceHead (s : Manifest.Service) : List String :=
  ["      systemd.services." ++ quote s.name ++ " = \x7b",
    "        wantedBy = [ \"multi-user.target\" ];",
    "        script = " ++ quote s.command ++ ";"]

theorem serviceLines_eq (env : List (String × String)) (s : Manifest.Service) :
    serviceLines env s = serviceHead s ++ environmentLines env ++ ["      \x7d;"] := rfl

/-- The lines of the file before the forwarded ports. -/
def containerHead (r : Record) : List String :=
  ["\x7b ... \x7d:", "\x7b",
    "  containers." ++ quote (MonitoredService.container r.id).containerName ++ " = \x7b",
    "    autoStart = " ++ (if r.enabled then "true" else "false") ++ ";",
    "    privateNetwork = true;",
    "    localAddress = " ++ quote r.address.toText ++ ";"]

theorem pupConfig_eq (r : Record) (peers : Dict Record) :
    pupConfig r peers = lines (containerHead r ++ forwardLines (forwards r)
      ++ ["    config = \x7b ... \x7d: \x7b"]
      ++ r.manifest.container.services.flatMap (serviceLines (environment r peers))
      ++ ["    \x7d;", "  \x7d;", "\x7d"]) := rfl

/-! ## The files -/

/-- What the file of a container says in literals: its name and its address, the protocol of each
forwarded port, and for each service its name, the target that wants it, its command, and the names and
values of its environment. -/
def containerTexts (r : Record) (peers : Dict Record) : List String :=
  [(MonitoredService.container r.id).containerName, r.address.toText]
  ++ (forwards r).flatMap (fun _ => ["tcp"])
  ++ r.manifest.container.services.flatMap fun s =>
    [s.name, "multi-user.target", s.command] ++ (environment r peers).flatMap fun e => [e.1, e.2]

/-- What the file of the network says in literals. -/
def networkTexts : Network → List String
  | .ethernet interface => [interface]
  | .wifi interface ssid password => [interface, interface, ssid, password]

theorem isDigit_toString (n : Nat) : ∀ c ∈ (toString n).toList, c.isDigit = true := by
  intro c member
  rw [Nat.toString_eq_ofList_toDigits, String.toList_ofList] at member
  exact Nat.isDigit_of_mem_toDigits (by decide) (by decide) member

/-- What is no digit is not among the digits of a number. -/
theorem notMem_toString {c : Char} (h : c.isDigit = false) (n : Nat) : c ∉ (toString n).toList := by
  intro member
  have digit := isDigit_toString n c member
  rw [h] at digit
  cases digit

theorem says_forwardEntry (p : Port × Port) : Says (forwardEntry p) ["tcp"] := by
  have protocol : Says "; protocol = \"tcp\"; \x7d" ["tcp"] := by
    have text : "; protocol = \"tcp\"; \x7d" = "; protocol = " ++ quote "tcp" ++ "; \x7d" := by decide
    rw [text]
    exact .quoted (by decide) (by decide) _
  exact ((((Says.code (by decide)).append (.code (notMem_toString rfl _))).append
    (.code (by decide))).append (.code (notMem_toString rfl _))).append protocol

theorem says_forwardLines (ports : List (Port × Port)) :
    Says (lines (forwardLines ports)) (ports.flatMap fun _ => ["tcp"]) := by
  by_cases none : ports = []
  · subst none
    exact .nil
  · have closed : Says (lines ["    ];"]) [] := .code_lines (by decide)
    rw [forwardLines_eq none]
    simpa using ((Says.code_lines (l := ["    forwardPorts = ["]) (by decide)).append_lines
      (.map_lines says_forwardEntry ports)).append_lines closed

theorem says_definition (e : String × String) : Says (definition e) [e.1, e.2] :=
  ((Says.quoted (by decide) (by decide) e.1).append (.quote e.2)).append (.code (by decide))

theorem says_environmentLines (env : List (String × String)) :
    Says (lines (environmentLines env)) (env.flatMap fun e => [e.1, e.2]) := by
  by_cases none : env = []
  · subst none
    exact .nil
  · have closed : Says (lines ["        \x7d;"]) [] := .code_lines (by decide)
    rw [environmentLines_eq none]
    simpa using ((Says.code_lines (l := ["        environment = \x7b"]) (by decide)).append_lines
      (.map_lines says_definition env)).append_lines closed

theorem says_serviceHead (s : Manifest.Service) :
    Says (lines (serviceHead s)) [s.name, "multi-user.target", s.command] := by
  have wanted : Says "        wantedBy = [ \"multi-user.target\" ];" ["multi-user.target"] := by
    have text : "        wantedBy = [ \"multi-user.target\" ];" =
        "        wantedBy = [ " ++ quote "multi-user.target" ++ " ];" := by decide
    rw [text]
    exact .quoted (by decide) (by decide) _
  exact (Says.quoted (by decide) (by decide) s.name).cons
    (wanted.cons ((Says.quoted (by decide) (by decide) s.command).cons .nil))

theorem says_serviceLines (env : List (String × String)) (s : Manifest.Service) :
    Says (lines (serviceLines env s))
      ([s.name, "multi-user.target", s.command] ++ env.flatMap fun e => [e.1, e.2]) := by
  have closed : Says (lines ["      \x7d;"]) [] := .code_lines (by decide)
  rw [serviceLines_eq]
  simpa using ((says_serviceHead s).append_lines (says_environmentLines env)).append_lines closed

theorem says_containerHead (r : Record) : Says (lines (containerHead r))
    [(MonitoredService.container r.id).containerName, r.address.toText] := by
  have started : '"' ∉ ("    autoStart = " ++ (if r.enabled then "true" else "false") ++ ";").toList := by
    cases r.enabled <;> decide
  exact (Says.code (by decide)).cons <| (Says.code (by decide)).cons <|
    (Says.quoted (by decide) (by decide) _).cons <| (Says.code started).cons <|
    (Says.code (by decide)).cons <| (Says.quoted (by decide) (by decide) _).cons .nil

theorem says_pupConfig (r : Record) (peers : Dict Record) :
    Says (pupConfig r peers) (containerTexts r peers) := by
  have inner : Says (lines ["    config = \x7b ... \x7d: \x7b"]) [] := .code_lines (by decide)
  have closed : Says (lines ["    \x7d;", "  \x7d;", "\x7d"]) [] := .code_lines (by decide)
  have services := Says.flatMap_lines (says_serviceLines (environment r peers))
    r.manifest.container.services
  rw [pupConfig_eq]
  simpa [containerTexts] using
    ((((says_containerHead r).append_lines (says_forwardLines (forwards r))).append_lines
      inner).append_lines services).append_lines closed

theorem says_networkConfig (n : Network) : Says (networkConfig n) (networkTexts n) := by
  have opened : ∀ line ∈ ["\x7b ... \x7d:", "\x7b"], '"' ∉ line.toList := by decide
  have closed : Says (lines ["\x7d"]) [] := .code_lines (by decide)
  cases n with
  | ethernet interface =>
    exact (Says.code_lines opened).append_lines <|
      (Says.quoted (by decide) (by decide) interface).cons <| (Says.code (by decide)).cons closed
  | wifi interface ssid password =>
    have key : Says ("  networking.wireless.networks." ++ quote ssid ++ ".psk = " ++ quote password
        ++ ";") [ssid, password] :=
      ((Says.quoted (by decide) (by decide) ssid).append (.quote password)).append (.code (by decide))
    exact (Says.code_lines opened).append_lines <|
      (Says.quoted (by decide) (by decide) interface).cons <| (Says.code (by decide)).cons <|
      (Says.quoted (by decide) (by decide) interface).cons <| key.cons closed

/-- **Texts stay in their literals.** Whatever a text is and whatever follows its literal, the reader
closes the literal where it was closed, meets no interpolation, and gets the text; so different texts
have different literals. In the file of a container, and in that of the network, the literals are those
of the texts that were put into it, all of them and in their order. -/
theorem texts_stay_in_literals :
    (∀ (s : String) (rest : List Char), scan ((quote s).toList ++ rest) = .closed s.toList rest) ∧
      (∀ s s' : String, quote s = quote s' ↔ s = s') ∧
      (∀ (r : Record) (peers : Dict Record),
        literalsIn (pupConfig r peers).toList = some (containerTexts r peers)) ∧
      ∀ n : Network, literalsIn (networkConfig n).toList = some (networkTexts n) := by
  have single : ∀ (s : String) (rest : List Char),
      scan ((quote s).toList ++ rest) = .closed s.toList rest := fun s rest => by
    rw [toList_quote, scan_literal]
  refine ⟨single, fun s s' => ⟨fun same => ?_, congrArg quote⟩,
    fun r peers => (says_pupConfig r peers).literalsIn, fun n => (says_networkConfig n).literalsIn⟩
  have read := single s []
  rw [same, single s'] at read
  exact (String.toList_inj.1 (Scan.closed.inj read).1).symm

end Kennel.Nix
