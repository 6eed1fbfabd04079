import Mathlib.Data.List.Induction
import Mathlib.Data.Nat.Digits.Defs
import Mathlib.Tactic.Lemma
import SqlCompose.Query

/-!
# Reading a count

A count is read from one value of a row: that of the column `count`, wherever it stands, or else that
of the first column. Integers and numerals within 64 bits are read exactly, and every other value is
refused, whatever stands in the other columns.
-/

namespace SqlCompose

namespace Text

def digitValue (c : Char) : Nat :=
  c.toNat - '0'.toNat

/-- Decimal digits of the value `n`, at least one, with a plus sign or nothing in front. -/
def IsNumeral (s : String) (n : Nat) : Prop :=
  ∃ sign digits, s.toList = sign ++ digits ∧ (sign = [] ∨ sign = ['+']) ∧ digits ≠ [] ∧
    (∀ c ∈ digits, c.isDigit = true) ∧ Nat.ofDigits 10 (digits.reverse.map digitValue) = n

/-- Reading digits from the left adds up what each is worth at its place. -/
lemma ofDigitChars_eq_ofDigits (cs : List Char) :
    Nat.ofDigitChars 10 cs 0 = Nat.ofDigits 10 (cs.reverse.map digitValue) := by
  induction cs using List.reverseRecOn with
  | nil => rfl
  | append_singleton cs c ih =>
    rw [Nat.ofDigitChars_append, ih, List.reverse_append, List.reverse_singleton,
      List.singleton_append, List.map_cons, Nat.ofDigits_cons]
    simp [Nat.ofDigitChars, digitValue]
    omega

lemma natural?_eq_some_iff {cs : List Char} {n : Nat} :
    natural? cs = some n ↔ cs ≠ [] ∧ (∀ c ∈ cs, c.isDigit = true) ∧
      Nat.ofDigits 10 (cs.reverse.map digitValue) = n := by
  rw [natural?, ofDigitChars_eq_ofDigits]
  simp [and_assoc]

end Text

open Text

/-- The values that stand for a count: an integer, and a text that is a numeral. -/
inductive Json.Counts : Json → UInt64 → Prop where
  | integer (n : UInt64) : Counts (.integer n.toNat) n
  | text {s : String} {n : UInt64} (h : IsNumeral s n.toNat) : Counts (.string s) n

/-- The value of a row from which a count is read. -/
inductive Row.CountValue : Row → Json → Prop where
  | named {before after : Row} {value : Json} (h : ∀ column ∈ before, column.1 ≠ "count") :
    CountValue (before ++ ("count", value) :: after) value
  | first {name : String} {value : Json} {rest : Row}
    (h : ∀ column ∈ (name, value) :: rest, column.1 ≠ "count") :
    CountValue ((name, value) :: rest) value

namespace Json

lemma member?_eq_none_iff {name : String} {row : Row} :
    member? name row = none ↔ ∀ column ∈ row, column.1 ≠ name := by
  induction row with
  | nil => simp [member?]
  | cons column row ih =>
    rw [member?, List.forall_mem_cons, ← ih]
    split <;> simp_all

lemma member?_eq_some_iff {name : String} {row : Row} {value : Json} :
    member? name row = some value ↔
      ∃ before after, row = before ++ (name, value) :: after ∧
        ∀ column ∈ before, column.1 ≠ name := by
  constructor
  · intro h
    induction row with
    | nil => contradiction
    | cons column row ih =>
      rw [member?] at h
      split at h
      · rename_i hname
        obtain rfl := Option.some.inj h
        exact ⟨[], row, by rw [← hname]; rfl, by simp⟩
      · rename_i hname
        obtain ⟨before, after, rfl, hbefore⟩ := ih h
        exact ⟨column :: before, after, rfl, List.forall_mem_cons.2 ⟨hname, hbefore⟩⟩
  · rintro ⟨before, after, rfl, hbefore⟩
    induction before with
    | nil => simp [member?]
    | cons column before ih =>
      rw [List.forall_mem_cons] at hbefore
      rw [List.cons_append, member?, if_neg hbefore.1, ih hbefore.2]

end Json

lemma ofNat_eq_some_iff {m : Nat} {n : UInt64} :
    (if m < UInt64.size then some (UInt64.ofNat m) else none) = some n ↔ m = n.toNat := by
  constructor
  · intro h
    split at h
    · rename_i hm
      obtain rfl := Option.some.inj h
      exact (UInt64.toNat_ofNat_of_lt hm).symm
    · contradiction
  · rintro rfl
    rw [if_pos n.toNat_lt, UInt64.ofNat_toNat]

/-- Digits hold no sign, so that the sign of a numeral is its first character or missing. -/
lemma countOfText?_eq_some_iff {s : String} {n : UInt64} :
    countOfText? s = some n ↔ IsNumeral s n.toNat := by
  have hread : ∀ cs, ((natural? cs).bind fun m =>
      if m < UInt64.size then some (UInt64.ofNat m) else none) = some n ↔
        natural? cs = some n.toNat := by
    intro cs
    simp only [Option.bind_eq_some_iff, ofNat_eq_some_iff, exists_eq_right]
  rw [countOfText?]
  split
  · rename_i rest hplus
    refine (hread rest).trans (natural?_eq_some_iff.trans ?_)
    constructor
    · rintro ⟨hne, hdigits, hvalue⟩
      exact ⟨['+'], rest, hplus, .inr rfl, hne, hdigits, hvalue⟩
    · rintro ⟨sign, digits, hsplit, rfl | rfl, hne, hdigits, hvalue⟩
      · rw [hplus, List.nil_append] at hsplit
        subst hsplit
        exact absurd (hdigits '+' (by simp)) (by decide)
      · obtain rfl : rest = digits := List.cons.inj (hplus.symm.trans hsplit) |>.2
        exact ⟨hne, hdigits, hvalue⟩
  · rename_i cs hplus
    refine (hread s.toList).trans (natural?_eq_some_iff.trans ?_)
    constructor
    · rintro ⟨hne, hdigits, hvalue⟩
      exact ⟨[], s.toList, rfl, .inl rfl, hne, hdigits, hvalue⟩
    · rintro ⟨sign, digits, hsplit, rfl | rfl, hne, hdigits, hvalue⟩
      · rw [hsplit]
        exact ⟨hne, hdigits, hvalue⟩
      · exact absurd hsplit (hplus digits)

lemma countOfJson?_eq_some_iff {j : Json} {n : UInt64} :
    countOfJson? j = some n ↔ j.Counts n := by
  constructor
  · intro h
    cases j with
    | integer i =>
      rw [countOfJson?] at h
      split at h
      · rename_i hi
        simp only [Json.isUnsigned64, Bool.and_eq_true, decide_eq_true_eq] at hi
        obtain rfl := Option.some.inj h
        have hsize : i.toNat < UInt64.size := by omega
        have hvalue : ((UInt64.ofNat i.toNat).toNat : Int) = i := by
          rw [UInt64.toNat_ofNat_of_lt' hsize]
          omega
        have hcounts := Json.Counts.integer (UInt64.ofNat i.toNat)
        rwa [hvalue] at hcounts
      · contradiction
    | string s => exact .text (countOfText?_eq_some_iff.1 h)
    | _ => contradiction
  · rintro (_ | h)
    · have hrange : Json.isUnsigned64 n.toNat = true := by
        have := n.toNat_lt
        simp [Json.isUnsigned64, UInt64.size]
        omega
      rw [countOfJson?, if_pos hrange, Int.toNat_natCast, UInt64.ofNat_toNat]
    · exact countOfText?_eq_some_iff.2 h

lemma Row.countValue_iff {row : Row} {value : Json} :
    (Json.member? "count" row).or (row.head?.map (·.2)) = some value ↔ row.CountValue value := by
  constructor
  · intro h
    cases hcount : Json.member? "count" row with
    | some named =>
      rw [hcount] at h
      obtain rfl : named = value := Option.some.inj h
      obtain ⟨before, after, rfl, hbefore⟩ := Json.member?_eq_some_iff.1 hcount
      exact .named hbefore
    | none =>
      rw [hcount] at h
      rw [Json.member?_eq_none_iff] at hcount
      cases row with
      | nil => contradiction
      | cons column rest =>
        obtain rfl : column.2 = value := Option.some.inj h
        exact .first hcount
  · rintro (@⟨before, after, _, hbefore⟩ | @⟨name, _, rest, hnone⟩)
    · rw [Json.member?_eq_some_iff.2 ⟨before, after, rfl, hbefore⟩]
      rfl
    · rw [Json.member?_eq_none_iff.2 hnone]
      rfl

/-- A count is read exactly where the value for it stands for a count, and every other row is refused
with that value, or for want of one. -/
theorem readCount_exact (row : Row) :
    (∀ n, readCount row = .ok n ↔ ∃ value, row.CountValue value ∧ value.Counts n) ∧
      ∀ e, readCount row = .error e ↔
        (row = [] ∧ e = .unexpectedResult .noColumns) ∨
          ∃ value, row.CountValue value ∧ (∀ n, ¬ value.Counts n) ∧
            e = .unexpectedResult (.notCount value) := by
  rcases hchosen : (Json.member? "count" row).or (row.head?.map (·.2)) with _ | value
  · obtain rfl : row = [] := by
      rw [Option.or_eq_none_iff, Option.map_eq_none_iff, List.head?_eq_none_iff] at hchosen
      exact hchosen.2
    have hnone : ∀ value, ¬ Row.CountValue [] value := by
      intro value hvalue
      rw [← Row.countValue_iff, hchosen] at hvalue
      contradiction
    have hread : readCount [] = .error (.unexpectedResult .noColumns) := rfl
    simp [hread, hnone, eq_comm]
  · have hvalue : ∀ v, row.CountValue v ↔ v = value := by
      intro v
      rw [← Row.countValue_iff, hchosen, Option.some.injEq, eq_comm]
    have hne : row ≠ [] := by
      rintro rfl
      contradiction
    have hcounts : ∀ n, value.Counts n ↔ countOfJson? value = some n := fun n =>
      countOfJson?_eq_some_iff.symm
    simp only [hvalue, exists_eq_left, hcounts, hne, false_and, false_or]
    have hread : readCount row = (countOfJson? value).elim
        (.error (.unexpectedResult (.notCount value))) .ok := by
      simp only [readCount, hchosen]
      cases countOfJson? value <;> rfl
    rw [hread]
    cases countOfJson? value <;> simp [eq_comm]

/-- A column `count` without a number is refused, although the first column holds one. -/
example : readCount [("total", .integer 3), ("count", .null)] =
    .error (.unexpectedResult (.notCount .null)) :=
  rfl

end SqlCompose
