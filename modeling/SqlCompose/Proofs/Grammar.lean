import Mathlib.Tactic.Lemma

/-!
# The grammar of conditions

Atoms are joined by negation, conjunction and disjunction, of which each binds tighter than the
next, and parentheses. A list of symbols has at most one reading: an evaluation on a stack, one
frame for each open parenthesis, finds the formula of every derivation.
-/

namespace SqlCompose.Boolean

inductive Symbol where
  | opening
  | closing
  | and
  | or
  | not
  | atom (text : String)

inductive Formula where
  | atom (text : String)
  | not (f : Formula)
  | and (f g : Formula)
  | or (f g : Formula)

/-- The truth of a formula; the comparisons of constants are true and false whatever `ρ` says. -/
def Formula.eval (ρ : String → Bool) : Formula → Bool
  | atom text => if text = "1 = 1" then true else if text = "1 = 0" then false else ρ text
  | not f => !f.eval ρ
  | and f g => f.eval ρ && g.eval ρ
  | or f g => f.eval ρ || g.eval ρ

inductive Rank where
  | factor
  | conjunction
  | disjunction

/-- The readings of a list of symbols at a rank. -/
inductive Reads : Rank → List Symbol → Formula → Prop where
  | atom (text : String) : Reads .factor [.atom text] (.atom text)
  | parens {ss : List Symbol} {f : Formula} (h : Reads .disjunction ss f) :
      Reads .factor (.opening :: (ss ++ [.closing])) f
  | not {ss : List Symbol} {f : Formula} (h : Reads .factor ss f) :
      Reads .factor (.not :: ss) (.not f)
  | factor {ss : List Symbol} {f : Formula} (h : Reads .factor ss f) : Reads .conjunction ss f
  | and {ss rs : List Symbol} {f g : Formula} (hf : Reads .conjunction ss f)
      (hg : Reads .factor rs g) : Reads .conjunction (ss ++ .and :: rs) (.and f g)
  | conjunction {ss : List Symbol} {f : Formula} (h : Reads .conjunction ss f) :
      Reads .disjunction ss f
  | or {ss rs : List Symbol} {f g : Formula} (hf : Reads .disjunction ss f)
      (hg : Reads .conjunction rs g) : Reads .disjunction (ss ++ .or :: rs) (.or f g)

/-- What was read since a parenthesis was opened: a disjunction, a conjunction behind it, and the
number of negations that wait for their operand. -/
structure Frame where
  ors : Option Formula := none
  ands : Option Formula := none
  nots : Nat := 0

def negated : Nat → Formula → Formula
  | 0, f => f
  | n + 1, f => negated n (.not f)

namespace Frame

def operand (fr : Frame) (f : Formula) : Frame :=
  match fr.ands with
  | none => { fr with ands := some (negated fr.nots f), nots := 0 }
  | some g => { fr with ands := some (.and g (negated fr.nots f)), nots := 0 }

def total (fr : Frame) : Option Formula :=
  match fr.ors, fr.ands with
  | none, ands => ands
  | ors, none => ors
  | some f, some g => some (.or f g)

end Frame

/-- The stack behind a symbol. A symbol that has no place leaves it as it is. -/
def after : List Frame → Symbol → List Frame
  | fr :: frs, .atom text => fr.operand (.atom text) :: frs
  | fr :: frs, .not => { fr with nots := fr.nots + 1 } :: frs
  | fr :: frs, .or => { ors := fr.total } :: frs
  | frs, .opening => {} :: frs
  | inner :: outer :: frs, .closing =>
    match inner.total with
    | some f => outer.operand f :: frs
    | none => outer :: frs
  | frs, _ => frs

def run (frs : List Frame) (ss : List Symbol) : List Frame :=
  ss.foldl after frs

lemma run_append (frs : List Frame) (ss rs : List Symbol) :
    run frs (ss ++ rs) = run (run frs ss) rs :=
  List.foldl_append

lemma run_cons (frs : List Frame) (s : Symbol) (ss : List Symbol) :
    run frs (s :: ss) = run (after frs s) ss :=
  rfl

/-- What a run does to its frame when it reads a formula at a rank. -/
def Rank.Reaches (ss : List Symbol) (f : Formula) : Rank → Prop
  | .factor => ∀ fr frs, run (fr :: frs) ss = fr.operand f :: frs
  | .conjunction => ∀ ors frs, run ({ ors } :: frs) ss = { ors, ands := some f } :: frs
  | .disjunction => ∀ frs, ∃ fr : Frame, run ({} :: frs) ss = fr :: frs ∧ fr.total = some f

/-- A run finds the formula of every derivation. -/
theorem Reads.reaches {rank : Rank} {ss : List Symbol} {f : Formula} (h : Reads rank ss f) :
    rank.Reaches ss f := by
  -- A factor may stand in any frame, a conjunction only in one that holds no conjunction yet.
  induction h with
  | atom text =>
    intro fr frs
    rfl
  | parens h ih =>
    intro fr frs
    obtain ⟨inner, hrun, htotal⟩ := ih (fr :: frs)
    rw [run_cons, run_append, after, hrun, run_cons, after, htotal]
    rfl
  | not h ih =>
    intro fr frs
    rw [run_cons, after, ih]
    cases hands : fr.ands <;> simp [Frame.operand, hands, negated]
  | factor h ih =>
    intro ors frs
    rw [ih]
    rfl
  | and hf hg ihf ihg =>
    intro ors frs
    rw [run_append, ihf, run_cons, after, ihg]
    · rfl
    all_goals simp
  | conjunction h ih =>
    intro frs
    exact ⟨_, ih none frs, rfl⟩
  | or hf hg ihf ihg =>
    intro frs
    obtain ⟨fr, hrun, htotal⟩ := ihf frs
    rw [run_append, hrun, run_cons, after, htotal, ihg]
    exact ⟨_, rfl, rfl⟩

/-- The grammar is unambiguous. -/
theorem Reads.unique {ss : List Symbol} {f g : Formula} (hf : Reads .disjunction ss f)
    (hg : Reads .disjunction ss g) : f = g := by
  obtain ⟨fr, hrunf, htotalf⟩ := hf.reaches []
  obtain ⟨fr', hrung, htotalg⟩ := hg.reaches []
  rw [hrunf] at hrung
  obtain rfl := (List.cons.inj hrung).1
  rw [htotalf] at htotalg
  exact Option.some.inj htotalg

end SqlCompose.Boolean
