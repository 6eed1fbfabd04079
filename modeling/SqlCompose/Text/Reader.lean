/-!
# Readers of text

A reader takes a value off the front of a text and never hands back more than it was given; a
token takes at least one character. A token can therefore be read again and again until it
refuses, and this is the only loop that a grammar needs.
-/

namespace SqlCompose.Text

/-- A reader refuses a text or takes a value off its front. -/
structure Reader (α : Type) where
  run : List Char → Option (α × List Char)
  le_of_run : ∀ {s a r}, run s = some (a, r) → r.length ≤ s.length

/-- A token is a reader that takes at least one character. -/
structure Token (α : Type) where
  run : List Char → Option (α × List Char)
  lt_of_run : ∀ {s a r}, run s = some (a, r) → r.length < s.length

namespace Reader

def give {α : Type} (a : α) : Reader α where
  run s := some (a, s)
  le_of_run h := by simp at h; simp [h.2]

def refuse {α : Type} : Reader α where
  run _ := none
  le_of_run h := by simp at h

/-- Reads with `p`, then with what its value asks for. -/
def andThen {α β : Type} (p : Reader α) (f : α → Reader β) : Reader β where
  run s := (p.run s).bind fun found => (f found.1).run found.2
  le_of_run h := by
    obtain ⟨⟨a, t⟩, hp, hf⟩ := Option.bind_eq_some_iff.1 h
    exact Nat.le_trans ((f a).le_of_run hf) (p.le_of_run hp)

instance : Monad Reader where
  pure := give
  bind := andThen

/-- Reads with `p`, or with `q` where `p` refuses. -/
def orElse {α : Type} (p q : Reader α) : Reader α where
  run s := (p.run s).or (q.run s)
  le_of_run {s a r} h := by
    cases hp : p.run s with
    | none => rw [hp] at h; exact q.le_of_run h
    | some found => rw [hp] at h; cases h; exact p.le_of_run hp

/-- Refuses where the value read does not pass `test`. -/
def ofOption {α : Type} : Option α → Reader α
  | some a => give a
  | none => refuse

/-- Takes nothing, and refuses a text that starts with `word`. -/
def notAhead (word : List Char) : Reader Unit where
  run s := if word.isPrefixOf s then none else some ((), s)
  le_of_run h := by split at h <;> simp at h; simp [h]

def atEnd : Reader Unit where
  run s := if s.isEmpty then some ((), s) else none
  le_of_run h := by split at h <;> simp at h; simp [h]

/-- Takes the longest front whose characters pass `test`. -/
def takeWhile (test : Char → Bool) : Reader (List Char) where
  run s := some (s.takeWhile test, s.dropWhile test)
  le_of_run {s a r} h := by
    simp only [Option.some.injEq, Prod.mk.injEq] at h
    obtain ⟨-, rfl⟩ := h
    exact (List.dropWhile_sublist test).length_le

/-- The value of `p` on the whole of a text. -/
def runAll? {α : Type} (p : Reader α) (s : String) : Option α :=
  match p.run s.toList with
  | some (a, []) => some a
  | _ => none

end Reader

namespace Token

/-- A token read as a reader. -/
def reader {α : Type} (p : Token α) : Reader α where
  run := p.run
  le_of_run h := Nat.le_of_lt (p.lt_of_run h)

/-- One character that passes `test`. -/
def charWhere (test : Char → Bool) : Token Char where
  run
    | [] => none
    | c :: r => if test c then some (c, r) else none
  lt_of_run {s a r} h := by
    cases s with
    | nil => simp at h
    | cons c t =>
      simp only at h
      split at h
      · simp only [Option.some.injEq, Prod.mk.injEq] at h
        simp [h.2]
      · simp at h

def char (c : Char) : Token Char :=
  charWhere (· == c)

/-- A token that starts with `p` and goes on with what its value asks for. -/
def andThen {α β : Type} (p : Token α) (f : α → Reader β) : Token β where
  run s := (p.run s).bind fun found => (f found.1).run found.2
  lt_of_run h := by
    obtain ⟨⟨a, t⟩, hp, hf⟩ := Option.bind_eq_some_iff.1 h
    exact Nat.lt_of_le_of_lt ((f a).le_of_run hf) (p.lt_of_run hp)

/-- A token read after `before`, whose value is dropped. -/
def precededBy {α β : Type} (before : Reader α) (p : Token β) : Token β where
  run s := (before.run s).bind fun found => p.run found.2
  lt_of_run h := by
    obtain ⟨⟨a, t⟩, hp, hf⟩ := Option.bind_eq_some_iff.1 h
    exact Nat.lt_of_lt_of_le (p.lt_of_run hf) (before.le_of_run hp)

/-- Reads with `p`, or with `q` where `p` refuses. -/
def orElse {α : Type} (p q : Token α) : Token α where
  run s := (p.run s).or (q.run s)
  lt_of_run {s a r} h := by
    cases hp : p.run s with
    | none => rw [hp] at h; exact q.lt_of_run h
    | some found => rw [hp] at h; cases h; exact p.lt_of_run hp

def refuse {α : Type} : Token α where
  run _ := none
  lt_of_run h := by simp at h

def map {α β : Type} (f : α → β) (p : Token α) : Token β :=
  p.andThen fun a => Reader.give (f a)

/-- The first of several tokens that does not refuse. -/
def oneOf {α : Type} (choices : List (Token α)) : Token α :=
  choices.foldr orElse refuse

/-- The word `w` after its first character `c`, and then the value `a`. -/
def word {α : Type} (c : Char) (w : List Char) (a : α) : Token α :=
  (char c).andThen fun _ =>
    w.foldr (fun d p => Reader.andThen (char d).reader fun _ => p) (Reader.give a)

/-- The values of `p` read until it refuses, and what is left. -/
def readMany {α : Type} (p : Token α) (s : List Char) : List α × List Char :=
  match _h : p.run s with
  | none => ([], s)
  | some (a, r) =>
    let others := readMany p r
    (a :: others.1, others.2)
termination_by s.length
decreasing_by exact p.lt_of_run _h

theorem length_readMany_le {α : Type} (p : Token α) (s : List Char) :
    (readMany p s).2.length ≤ s.length := by
  fun_induction readMany p s with
  | case1 => exact Nat.le_refl _
  | case2 s a r h _ ih => exact Nat.le_trans ih (Nat.le_of_lt (p.lt_of_run h))

def many {α : Type} (p : Token α) : Reader (List α) where
  run s := some (readMany p s)
  le_of_run {s a r} h := by
    have := length_readMany_le p s
    simp only [Option.some.injEq] at h
    rw [h] at this
    exact this

def optional {α : Type} (p : Token α) : Reader (Option α) :=
  Reader.orElse (p.map some).reader (Reader.give none)

end Token

end SqlCompose.Text
