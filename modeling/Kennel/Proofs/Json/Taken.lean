import Kennel.Proofs.Data.Dict
import Kennel.Proofs.Json.Printed

/-!
# Values taken back from their text

`Decoder.Takes d v a` says that the decoder takes `a` from what the text of the value is read as.
There is one lemma for each kind of decoder, so that the shape of a structure and its fields are tied
together by naming, field by field, what is taken: **fields with distinct names take a structure
from the object of its members in the same order** (`Fields.Takes.decoder`). What is taken from the
text of a value is what the text decodes to (`Decoder.Takes.decodeBytes`).
-/

namespace Kennel.Json

open List (Forall₂)

variable {α β : Type}

/-- The decoder takes `a` from what the text of the value is read as. -/
def Decoder.Takes (d : Decoder α) (v : Value) (a : α) : Prop := ∃ r, v.ReadAs r ∧ d r = .ok a

namespace Decoder.Takes

theorem text (s : String) : Decoder.text.Takes (.string s) s := ⟨_, .string s, rfl⟩

theorem flag (b : Bool) : Decoder.flag.Takes (.bool b) b := ⟨_, .bool b, rfl⟩

theorem port (p : Port) : Decoder.port.Takes (.nat p.toNat) p := by
  have bound := p.toNat_lt
  refine ⟨_, .nat (Nat.lt_trans bound (by decide)), ?_⟩
  show ((if p.toNat < 65536 then Except.ok p.toNat else .error .mismatch).map (·.toUInt16) :
    Except Fault Port) = .ok p
  rw [if_pos bound]
  exact congrArg Except.ok (UInt16.ofNat_toNat)

/-- A natural number is taken if it is below the limit and fits in 64 bits. -/
theorem natural {n limit : Nat} (h : n < Nat.pow 2 64) (below : n < limit) :
    (Decoder.natural limit).Takes (.nat n) n :=
  ⟨_, .nat h, if_pos below⟩

/-- A natural number that fits in 64 bits is taken as the float next to it. -/
theorem real (n : UInt64) : Decoder.real.Takes (.nat n.toNat) n.toFloat := by
  refine ⟨_, .nat n.toNat_lt, congrArg Except.ok ?_⟩
  have positive : ¬ (n.toNat : Int) < 0 := by omega
  simp [Number.toFloat, positive]

/-- A variant is taken from its name. -/
theorem variant {variants : List (String × α)} {name : String} {a : α}
    (h : variants.lookup name = some a) : (Decoder.variant variants).Takes (.string name) a := by
  refine ⟨_, .string name, ?_⟩
  simp [Decoder.variant, bind, Except.bind, h]

theorem none (d : Decoder α) : d.option.Takes .null Option.none := ⟨_, .null, rfl⟩

/-- A value is taken as an option if the decoder takes nothing from `null`. -/
theorem some {d : Decoder α} {v : Value} {a : α} (h : d.Takes v a)
    (strict : ∀ a, d .null ≠ .ok a) : d.option.Takes v (Option.some a) := by
  obtain ⟨r, read, taken⟩ := h
  refine ⟨r, read, ?_⟩
  cases r with
  | null => exact absurd taken (strict a)
  | _ => simp [Decoder.option, taken, Except.map]

/-- An option is taken from its shape. -/
theorem option {d : Decoder α} {encode : α → Value} (h : ∀ a, d.Takes (encode a) a)
    (strict : ∀ a, d .null ≠ .ok a) (o : Option α) : d.option.Takes (.option encode o) o := by
  cases o with
  | none => exact none d
  | some a => exact some (h a) strict

/-- A list is taken item by item. -/
theorem list_map {d : Decoder α} {encode : β → Value} {f : β → α}
    (h : ∀ b, d.Takes (encode b) (f b)) (l : List β) :
    d.list.Takes (.list encode l) (l.map f) := by
  have items : ∃ rs, Forall₂ Value.ReadAs (l.map encode) rs ∧ rs.mapM d = .ok (l.map f) := by
    induction l with
    | nil => exact ⟨[], .nil, rfl⟩
    | cons b l ih =>
      obtain ⟨r, read, taken⟩ := h b
      obtain ⟨rs, reads, takens⟩ := ih
      refine ⟨r :: rs, .cons read reads, ?_⟩
      rw [List.mapM_cons, taken, takens]
      rfl
  obtain ⟨rs, reads, takens⟩ := items
  refine ⟨_, .array reads, ?_⟩
  simp [Decoder.list, takens, bind, Except.bind]

/-- A list is taken back. -/
theorem list {d : Decoder α} {encode : α → Value} (h : ∀ a, d.Takes (encode a) a) (l : List α) :
    d.list.Takes (.list encode l) l := by
  simpa using list_map (f := id) h l

/-- A dictionary is taken from its entries, in whatever order they are written. -/
theorem dict {d : Decoder α} {encode : α → Value} (h : ∀ a, d.Takes (encode a) a) {e : Dict α}
    {entries : List (String × α)} (order : entries.Perm e.entries) :
    d.dict.Takes (.object (entries.map fun x => (x.1, encode x.2))) e := by
  have members : ∀ l : List (String × α), ∃ rs,
      MembersReadAs (l.map fun x => (x.1, encode x.2)) rs ∧
        (rs.map textMember).mapM (fun m => do
          let k ← Decoder.key m.1
          let v ← d m.2
          pure (k, v)) = Except.ok l := by
    intro l
    induction l with
    | nil => exact ⟨[], .nil, rfl⟩
    | cons x l ih =>
      obtain ⟨r, read, taken⟩ := h x.2
      obtain ⟨rs, reads, takens⟩ := ih
      refine ⟨(x.1, r) :: rs, .cons ⟨rfl, read⟩ reads, ?_⟩
      rw [List.map_cons, List.mapM_cons, takens]
      simp [textMember, Decoder.key, taken, bind, Except.bind, pure, Except.pure]
  obtain ⟨rs, reads, takens⟩ := members entries
  refine ⟨_, .object reads, ?_⟩
  simp only [Decoder.dict]
  rw [takens]
  exact congrArg Except.ok (Dict.ofList_of_perm order)

/-- **What is taken from the text of a value is what the text decodes to.** -/
theorem decodeGlyphs {d : Decoder α} {v : Value} {a : α} (h : d.Takes v a) (layout : Layout) :
    (Document.ofGlyphs (glyphs (v.print layout 0))).take d = .ok a := by
  obtain ⟨r, read, taken⟩ := h
  have whole := read.read layout 0 (2 * (glyphs (v.print layout 0)).length + 2) [] ends_nil
    (by rw [length_glyphs]; omega)
  rw [List.append_nil] at whole
  unfold Document.ofGlyphs Document.take
  rw [whole]
  simp [taken, skipBlanks, bind, Except.bind]

/-- The bytes of the pretty text of a value decode to what is taken from it. -/
theorem decodeBytes {d : Decoder α} {v : Value} {a : α} (h : d.Takes v a) :
    Json.decodeBytes d v.pretty.toUTF8 = .ok a := by
  rw [Json.decodeBytes, Glyph.ofBytes_toUTF8, Glyph.ofText, Value.pretty, String.toList_ofList]
  exact h.decodeGlyphs .pretty

end Decoder.Takes

/-! ## Structures -/

namespace Fields

/-- The members go into their slots one after another. -/
inductive Puts (f : Fields α) : f.Slots → List (String × Reading) → f.Slots → Prop where
  | nil (s : f.Slots) : Puts f s [] s
  | cons {s s' s'' : f.Slots} {k : String} {r : Reading} {rs : List (String × Reading)}
      (put : f.put k r s = some (.ok s')) (rest : Puts f s' rs s'') : Puts f s ((k, r) :: rs) s''

namespace Puts

variable {f : Fields α} {s s' s'' : f.Slots} {rs : List (String × Reading)}

theorem putAll (h : f.Puts s rs s') : f.putAll s (rs.map textMember) = .ok s' := by
  induction h with
  | nil s => rfl
  | cons put _ ih =>
    simp only [List.map_cons, textMember, Fields.putAll, Decoder.key, put, bind, Except.bind]
    exact ih

theorem concat (h : f.Puts s rs s') {k : String} {r : Reading} (put : f.put k r s' = some (.ok s'')) :
    f.Puts s (rs ++ [(k, r)]) s'' := by
  induction h with
  | nil s => exact .cons put (.nil _)
  | cons first _ ih => exact .cons first (ih put)

/-- What goes into the slots of a function's fields does so beside a further field. -/
theorem beside {g : Fields (α → β)} {s s' : g.Slots} (h : g.Puts s rs s') (x : Fields α)
    (slot : x.Slots) : (Fields.seq g x).Puts (s, slot) rs (s', slot) := by
  induction h with
  | nil s => exact .nil _
  | cons put _ ih =>
    refine .cons ?_ ih
    simp only [Fields.seq, put]
    rfl

end Puts

/-- The fields take `a` from these members and from no others. -/
structure Takes (f : Fields α) (ms : List (String × Value)) (a : α) : Prop where
  taken : ∃ rs s, MembersReadAs ms rs ∧ f.Puts f.empty rs s ∧ f.finish s = .ok a
  foreign : ∀ k ∉ ms.map (·.1), ∀ r s, f.put k r s = none

namespace Takes

/-- Without fields there are no members. -/
theorem pure (a : α) : (Pure.pure a : Fields α).Takes [] a :=
  ⟨⟨[], (), .nil, .nil _, rfl⟩, fun _ _ _ _ => rfl⟩

/-- **One more field takes one more member**, if the name is new. -/
theorem field {f : Fields (α → β)} {ms : List (String × Value)} {g : α → β} (h : f.Takes ms g)
    {name : String} {d : Decoder α} {v : Value} {a : α} (hv : d.Takes v a) {absent : Option α}
    (new : name ∉ ms.map (·.1)) :
    (f <*> Fields.field name d absent).Takes (ms ++ [(name, v)]) (g a) := by
  obtain ⟨⟨rs, s, reads, puts, finish⟩, foreign⟩ := h
  obtain ⟨r, read, taken⟩ := hv
  refine ⟨⟨rs ++ [(name, r)], (s, some a), ?_, ?_, ?_⟩, fun k hk r s => ?_⟩
  · exact List.rel_append reads (.cons ⟨rfl, read⟩ .nil)
  · refine (puts.beside (Fields.field name d absent) none).concat ?_
    have own : f.put name r s = none := foreign name new r s
    simp [Fields.seq, own, Fields.field, taken, Except.map]
  · simp [Seq.seq, Fields.seq, finish, Fields.field, bind, Except.bind]
  · rw [List.map_append, List.mem_append, not_or] at hk
    have own : f.put k r s.1 = none := foreign k hk.1 r s.1
    have other : k ≠ name := by simpa using hk.2
    simp [Seq.seq, Fields.seq, own, Fields.field, other]

/-- **A structure is taken from the object of its members.** -/
theorem decoder {f : Fields α} {ms : List (String × Value)} {a : α} (h : f.Takes ms a) :
    f.decoder.Takes (.object ms) a := by
  obtain ⟨⟨rs, s, reads, puts, finish⟩, -⟩ := h
  refine ⟨_, .object reads, ?_⟩
  simp [Fields.decoder, puts.putAll, finish, bind, Except.bind]

end Takes

end Fields

end Kennel.Json
