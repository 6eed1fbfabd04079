import SqlCompose.Condition.Clause
import SqlCompose.Filter

/-!
# Criteria

Conditions built by a chain of calls, each of which joins further filters to what was built before.
-/

namespace SqlCompose

/-- A condition under construction; without a root it is empty. -/
structure Criteria where
  root : Option Condition := none

namespace Criteria

def ofLookup (l : Lookup) : Criteria :=
  ⟨l.condition? none⟩

def ofCondition (c : Condition) : Criteria :=
  ⟨some c⟩

def isEmpty (q : Criteria) : Bool :=
  q.root.isNone

/-- Criteria as a filter; empty ones are a list without filters. -/
def toFilter (q : Criteria) : Filter :=
  match q.root with
  | some c => .condition c
  | none => .many []

/-- The condition that one call stands for, if it holds any. One condition needs no group unless it
is negated. -/
def call? (joiner : Joiner) : List Condition → Option Condition
  | [] => none
  | [only] => some (if joiner = .not then .negate [only] else only)
  | many => some (.joined joiner many)

/-- The joiner between what was built before and a call. -/
def chainJoiner : Joiner → Joiner
  | .or => .or
  | _ => .and

/-- Joins a call to the criteria. A call without conditions changes nothing. -/
def combine (q : Criteria) (joiner : Joiner) (input : Filter) : Criteria :=
  match call? joiner input.conditions with
  | none => q
  | some call =>
    match q.root with
    | none => ⟨some call⟩
    | some before => ⟨some (.joined (chainJoiner joiner) [before, call])⟩

/-- The conjunction of the filters, and-ed onto the criteria. -/
def and (q : Criteria) (input : Filter) : Criteria :=
  q.combine .and input

/-- The disjunction of the filters, or-ed onto the criteria. -/
def or (q : Criteria) (input : Filter) : Criteria :=
  q.combine .or input

/-- The negated conjunction of the filters, and-ed onto the criteria. -/
def not (q : Criteria) (input : Filter) : Criteria :=
  q.combine .not input

def sql (escaping : Bool) (q : Criteria) : String :=
  match q.root with
  | some c => c.sql escaping
  | none => ""

end Criteria

end SqlCompose
