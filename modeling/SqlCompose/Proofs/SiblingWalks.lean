import SqlCompose.Proofs.OrderGrammar
import SqlCompose.Proofs.WrittenKeys

/-!
# Filter objects and sort specifications of one object

An object whose members are one or minus one can be read as a filter object and as a sort
specification. Where no key holds the delimiter, both readings name the same paths in the same
order, and the operands tell the directions.
-/

namespace SqlCompose

namespace Json.Member

/-- The member is one or minus one, and the keys on the way to it hold no delimiter. -/
structure IsSign (m : Member) : Prop where
  keys : ∀ k ∈ m.keys, Text.contains Key.delimiter k = false
  value : m.value = .integer 1 ∨ m.value = .integer (-1)

def comparison (m : Member) : Comparison :=
  Lookup.Entry.comparison none none ⟨m.around, m.key, Value.ofJson m.value⟩

lemma comparison_of_keys {m : Member} (h : ∀ k ∈ m.keys, Text.contains Key.delimiter k = false) :
    m.comparison = ⟨".".intercalate m.keys, .eq, Value.ofJson m.value⟩ := by
  have hresolve : ∀ k ∈ m.keys, Key.resolve k = (k, .eq) := fun k hk =>
    (Key.resolve_eq_self_iff k).2 (h k hk)
  have hbase : ∀ k ∈ m.keys, Key.base k = k := fun k hk => congrArg Prod.fst (hresolve k hk)
  have hcolumns : m.keys.map Key.base = m.keys := by
    rw [List.map_congr_left hbase, List.map_id']
  have hoperator : Key.operator m.key = .eq :=
    congrArg Prod.snd (hresolve m.key (by simp [keys]))
  have hpath : Lookup.Entry.path none ⟨m.around, m.key, Value.ofJson m.value⟩ =
      ".".intercalate m.keys :=
    congrArg (".".intercalate) hcolumns
  rw [comparison, Lookup.Entry.comparison, hpath, Option.getD_none, hoperator]
  rfl

lemma eq_asc_iff_of_denotes {m : Member} (h : m.value = .integer 1 ∨ m.value = .integer (-1))
    {d : Direction} (hd : m.value.Denotes d) : d = .asc ↔ Value.ofJson m.value = .int 1 := by
  have hne : Value.ofJson (.integer (-1)) ≠ .int 1 := by
    intro heq
    exact absurd (Value.int.inj heq) (by decide)
  obtain h | h := h <;> rw [h] at hd ⊢ <;> rw [Json.denotes_integer_iff] at hd
  · cases d with
    | asc => exact iff_of_true rfl rfl
    | desc => contradiction
  · cases d with
    | asc => contradiction
    | desc => exact iff_of_false (by decide) hne

end Json.Member

lemma Lookup.flatten_ofMembers (ms : List (String × Json)) :
    (ofMembers ms).flatten none none = (Json.leaves ms).map Json.Member.comparison := by
  rw [flatten_eq_map_entries, entries_ofMembers, List.map_map]
  rfl

/-- Both readings succeed, give equally many conditions and fields, and agree in every place on the
path; the direction is ascending exactly where the operand is one. -/
theorem Json.sibling_walks {ms : List (String × Json)} (h : ∀ m ∈ leaves ms, m.IsSign) :
    ∃ l s, Lookup.ofJson (.object ms) = .ok l ∧ RowOrder.ofJson (.object ms) = .ok s ∧
      (l.flatten none none).length = (s.flatten none).length ∧
      ∀ (i : Nat) (hl : i < (l.flatten none none).length) (hs : i < (s.flatten none).length),
        (l.flatten none none)[i].path = (s.flatten none)[i].1 ∧
          ((s.flatten none)[i].2 = .asc ↔ (l.flatten none none)[i].value = .int 1) := by
  have hdenotes : ∀ m ∈ leaves ms, ∃ d, m.value.Denotes d := by
    intro m hm
    rcases (h m hm).value with hvalue | hvalue
    · exact ⟨.asc, hvalue ▸ .number .asc⟩
    · exact ⟨.desc, hvalue ▸ .number .desc⟩
  obtain ⟨s, hs⟩ := RowOrder.ofMembers_isOk_iff.2 hdenotes
  have horders := RowOrder.ofMembers_eq_ok_iff.1 ⟨s, hs, rfl⟩
  have hwalks : List.Forall₂ (fun c p => c.path = p.1 ∧ (p.2 = .asc ↔ c.value = .int 1))
      ((Lookup.ofMembers ms).flatten none none) (s.flatten none) := by
    rw [Lookup.flatten_ofMembers, List.forall₂_map_left_iff]
    refine ((List.forall₂_and_left _ _).2 ⟨h, horders⟩).imp fun m p hp => ?_
    obtain ⟨hsign, hpath, hdirection⟩ := hp
    rw [Member.comparison_of_keys hsign.keys]
    exact ⟨hpath.symm, Member.eq_asc_iff_of_denotes hsign.value hdirection⟩
  obtain ⟨hlength, hplaces⟩ := List.forall₂_iff_get.1 hwalks
  exact ⟨Lookup.ofMembers ms, s, by rw [Lookup.ofJson, Lookup.ofObject?],
    (RowOrder.ofJson_object ms).trans hs, hlength, hplaces⟩

theorem Json.sibling_walks_nested :
    let ms := [("customer", object [("age", .integer 1), ("_id", .integer (-1))]),
      ("total", .integer (-1))]
    (∀ m ∈ leaves ms, m.IsSign) ∧
      ∃ l s, Lookup.ofJson (.object ms) = .ok l ∧ RowOrder.ofJson (.object ms) = .ok s ∧
        (l.flatten none none).length = (s.flatten none).length ∧
        ∀ (i : Nat) (hl : i < (l.flatten none none).length) (hs : i < (s.flatten none).length),
          (l.flatten none none)[i].path = (s.flatten none)[i].1 ∧
            ((s.flatten none)[i].2 = .asc ↔ (l.flatten none none)[i].value = .int 1) := by
  intro ms
  have hleaves : leaves ms = [⟨["customer"], "age", .integer 1⟩,
    ⟨["customer"], "_id", .integer (-1)⟩, ⟨[], "total", .integer (-1)⟩] := rfl
  have hsigns : ∀ m ∈ leaves ms, m.IsSign := by
    rw [hleaves]
    simp only [List.forall_mem_cons, List.not_mem_nil, false_implies, implies_true, and_true]
    exact ⟨⟨by decide, .inl rfl⟩, ⟨by decide, .inr rfl⟩, ⟨by decide, .inr rfl⟩⟩
  exact ⟨hsigns, sibling_walks hsigns⟩

end SqlCompose
