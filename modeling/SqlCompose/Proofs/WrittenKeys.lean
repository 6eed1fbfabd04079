import SqlCompose.Proofs.Entries

/-!
# Keys written and read back

A key is written as a column with the suffix of an operator behind it. It is cut at the first
delimiter, so that it gives the column back unless a delimiter begins inside the column: where the
column holds one, or ends in the character that delimiters are made of.
-/

namespace SqlCompose

lemma Operator.ofSuffix?_suffix {op : Operator} {suffix : String} (h : op.suffix? = some suffix) :
    ofSuffix? suffix = some op := by
  cases op with
  | eq => contradiction
  | _ =>
    obtain rfl := Option.some.inj h
    decide

lemma Operator.suffix?_eq_none_iff (op : Operator) : op.suffix? = none ↔ op = .eq := by
  cases op <;> simp [suffix?]

namespace Key

/-- The key of a column under an operator; equality needs no suffix. -/
def write (column : String) (op : Operator) : String :=
  match op.suffix? with
  | some suffix => column ++ delimiter ++ suffix
  | none => column

/-- No delimiter begins inside the column, whether the column stands alone or in front of a
suffix. -/
def Writable (column : String) (op : Operator) : Prop :=
  Text.contains delimiter column = false ∧ (op = .eq ∨ column.toList.getLast? ≠ some '_')

instance (column : String) (op : Operator) : Decidable (Writable column op) :=
  inferInstanceAs (Decidable (_ ∧ _))

lemma toList_delimiter : delimiter.toList = ['_', '_'] := by
  decide

lemma cut?_delimiter_cons {c d : Char} (h : ¬ (c = '_' ∧ d = '_')) (t : List Char) :
    Text.cut? delimiter.toList (c :: d :: t) =
      (Text.cut? delimiter.toList (d :: t)).map fun halves => (c :: halves.1, halves.2) := by
  have hafter : Text.after? delimiter.toList (c :: d :: t) = none := by
    rw [toList_delimiter]
    simp only [Text.after?, eq_comm (a := '_')]
    grind
  rw [Text.cut?, hafter]

/-- A text in front of a delimiter is cut off there, unless a delimiter begins in it. -/
lemma cut?_delimiter_iff (cs rest : List Char) :
    Text.cut? delimiter.toList (cs ++ (delimiter.toList ++ rest)) = some (cs, rest) ↔
      Text.cut? delimiter.toList cs = none ∧ cs.getLast? ≠ some '_' := by
  induction cs with
  | nil => simp [toList_delimiter, Text.cut?, Text.after?]
  | cons c cs ih =>
    cases cs with
    | nil =>
      -- In front of the delimiter one more of its characters begins an earlier one.
      by_cases hc : c = '_' <;> simp [toList_delimiter, Text.cut?, Text.after?, hc, eq_comm]
    | cons d cs =>
      by_cases hcut : c = '_' ∧ d = '_'
      · obtain ⟨rfl, rfl⟩ := hcut
        simp [toList_delimiter, Text.cut?, Text.after?]
      · rw [List.cons_append] at ih ⊢
        rw [List.cons_append, cut?_delimiter_cons hcut, cut?_delimiter_cons hcut,
          Option.map_eq_none_iff, List.getLast?_cons_cons, ← ih]
        simp [Option.map_eq_some_iff]

lemma contains_delimiter_eq_false_iff (column : String) :
    Text.contains delimiter column = false ↔
      Text.cut? delimiter.toList column.toList = none := by
  rw [Text.contains, Option.isSome_eq_false_iff, Option.isNone_iff_eq_none]

lemma resolve_eq_self_iff (column : String) :
    resolve column = (column, .eq) ↔ Text.contains delimiter column = false := by
  rw [contains_delimiter_eq_false_iff, resolve]
  constructor
  · intro hresolve
    split at hresolve
    · rename_i before rest hcut
      -- What stands in front of the first delimiter is shorter than the whole key.
      have hbefore := congrArg String.toList (Prod.mk.inj hresolve).1
      rw [String.toList_ofList] at hbefore
      have hlength := congrArg List.length (Text.append_of_cut? hcut)
      simp [hbefore, toList_delimiter] at hlength
    · assumption
  · intro hcut
    rw [hcut]

lemma resolve_suffixed_iff {column suffix : String} {op : Operator} (h : op.suffix? = some suffix) :
    resolve (column ++ delimiter ++ suffix) = (column, op) ↔
      Text.cut? delimiter.toList (column.toList ++ (delimiter.toList ++ suffix.toList)) =
        some (column.toList, suffix.toList) := by
  have htext : (column ++ delimiter ++ suffix).toList =
      column.toList ++ (delimiter.toList ++ suffix.toList) := by
    simp [String.toList_append]
  rw [resolve, htext]
  constructor
  · intro hresolve
    split at hresolve
    · rename_i before rest hcut
      have hbefore := congrArg String.toList (Prod.mk.inj hresolve).1
      rw [String.toList_ofList] at hbefore
      subst hbefore
      have happend := Text.append_of_cut? hcut
      rw [List.append_assoc] at happend
      rw [hcut, List.append_cancel_left (List.append_cancel_left happend)]
    · obtain rfl := (Prod.mk.inj hresolve).2
      contradiction
  · intro hcut
    rw [hcut]
    simp [Operator.ofSuffix?_suffix h]

/-- A written key is read back exactly when no delimiter begins inside its column. -/
theorem resolve_write_iff (column : String) (op : Operator) :
    resolve (write column op) = (column, op) ↔ Writable column op := by
  rw [write, Writable]
  cases hsuffix : op.suffix? with
  | none =>
    obtain rfl := op.suffix?_eq_none_iff.1 hsuffix
    simp [resolve_eq_self_iff]
  | some suffix =>
    have hne : op ≠ .eq := by
      rintro rfl
      contradiction
    rw [resolve_suffixed_iff hsuffix, cut?_delimiter_iff, contains_delimiter_eq_false_iff]
    simp [hne]

lemma base_write {column : String} {op : Operator} (h : Writable column op) :
    base (write column op) = column :=
  congrArg Prod.fst ((resolve_write_iff column op).2 h)

lemma operator_write {column : String} {op : Operator} (h : Writable column op) :
    operator (write column op) = op :=
  congrArg Prod.snd ((resolve_write_iff column op).2 h)

/-- A column that ends in the character of the delimiter loses it together with its suffix. -/
theorem resolve_write_trailing_underscore :
    "a_" ≠ "" ∧ Text.contains delimiter "a_" = false ∧ write "a_" .gt = "a___gt" ∧
      resolve (write "a_" .gt) = ("a", .eq) ∧ resolve (write "a_" .gt) ≠ ("a_", .gt) := by
  decide

end Key

namespace Lookup

/-- A key written for a column and an operator is read back as these two unless a delimiter begins
inside the column. An operand under such keys, at any depth of an object, is therefore compared with
the very column that they name, by the very operator. -/
theorem flatten_of_written :
    (∀ column op, Key.resolve (Key.write column op) = (column, op) ↔ Key.Writable column op) ∧
      ∀ (l : Lookup) (parent : Option String) (i : Nat) (e : Entry)
        (around : List (String × Operator)) (column : String) (op : Operator),
        l.entries[i]? = some e →
        e.keys = (around ++ [(column, op)]).map (fun k => Key.write k.1 k.2) →
        (∀ k ∈ around ++ [(column, op)], Key.Writable k.1 k.2) →
        (l.flatten none parent)[i]? = some
          (.prepared (".".intercalate (parent.toList ++ around.map Prod.fst ++ [column])) op
            e.operand) := by
  refine ⟨Key.resolve_write_iff, fun l parent i e around column op hentry hkeys hwritable => ?_⟩
  have hcolumns : e.keys.map Key.base = around.map Prod.fst ++ [column] := by
    rw [hkeys, List.map_map]
    calc (around ++ [(column, op)]).map (Key.base ∘ fun k => Key.write k.1 k.2)
        = (around ++ [(column, op)]).map Prod.fst :=
          List.map_congr_left fun k hk => Key.base_write (hwritable k hk)
      _ = around.map Prod.fst ++ [column] := by simp
  have hkey : e.key = Key.write column op := by
    have hlast := congrArg List.getLast? hkeys
    simpa [Entry.keys] using hlast
  have hoperator : Key.operator e.key = op := by
    rw [hkey, Key.operator_write (hwritable (column, op) (by simp))]
  rw [flatten_eq_map_entries, List.getElem?_map, hentry, Option.map_some, Entry.comparison,
    Entry.path, hcolumns, hoperator, List.append_assoc]
  rfl

/-- The end of a column matters in front of a suffix only: `customer_` is a key of its own. -/
theorem flatten_of_written_inside_object :
    let l : Lookup := .value "price__gt" (.int 5)
      (.nested "customer_" (.value "zip_code__has_any" (.text "7") .empty) .empty)
    let e : Entry := ⟨["customer_"], "zip_code__has_any", .text "7"⟩
    let written : List (String × Operator) := [("customer_", .eq), ("zip_code", .hasAny)]
    l.entries[1]? = some e ∧ e.keys = written.map (fun k => Key.write k.1 k.2) ∧
      (∀ k ∈ written, Key.Writable k.1 k.2) ∧
      (l.flatten none (some "sale"))[1]? =
        some (.prepared "sale.customer_.zip_code" .hasAny (.text "7")) := by
  refine ⟨rfl, by decide, by decide, ?_⟩
  exact flatten_of_written.2 _ (some "sale") 1 ⟨["customer_"], "zip_code__has_any", .text "7"⟩
    [("customer_", .eq)] "zip_code" .hasAny rfl (by decide) (by decide)

end Lookup

end SqlCompose
