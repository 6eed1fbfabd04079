import SqlCompose.Proofs.ConditionWords
import SqlCompose.Proofs.CriteriaMeaning

/-!
# The shape of criteria

Criteria made from filter objects alone, by calls and by nesting one in another, keep every
comparison once and in order. Their groups have members and joiners, so that no word of their text
stands for a missing one.
-/

namespace SqlCompose

/-- A group with members, and so are the groups in it: they are joined by `and` or `or`, a negated one
by `and`, and comparisons stand in conjunctions that are not negated. -/
inductive Condition.Tidy : Condition → Prop where
  | group {joiner : Joiner} {negated : Bool} {members : List Condition} (hne : members ≠ [])
      (hjoiner : joiner = .and ∨ joiner = .or) (hnegated : negated = true → joiner = .and)
      (hleaf : ∀ m ∈ members, m.isGroup = false → joiner = .and ∧ negated = false)
      (h : ∀ m ∈ members, m.isGroup = true → Tidy m) : Tidy (.group joiner negated members)

namespace Condition

lemma Tidy.isGroup {c : Condition} (h : c.Tidy) : c.isGroup = true := by
  cases h
  rfl

lemma tidy_joined (joiner : Joiner) {members : List Condition} (hne : members ≠ [])
    (h : ∀ m ∈ members, m.Tidy) : (joined joiner members).Tidy := by
  -- Tidy members are groups, so there are no comparisons beside them.
  have hgroup : ∀ m ∈ members, m.isGroup ≠ false := by
    intro m hm hleaf
    rw [(h m hm).isGroup] at hleaf
    contradiction
  have htidy : ∀ m ∈ members, m.isGroup = true → m.Tidy := fun m hm _ => h m hm
  have hleaf : ∀ (j : Joiner) (negated : Bool), ∀ m ∈ members, m.isGroup = false →
      j = .and ∧ negated = false := fun j negated m hm hm' => absurd hm' (hgroup m hm)
  cases joiner with
  | and => exact .group hne (.inl rfl) (fun _ => rfl) (hleaf .and false) htidy
  | or => exact .group hne (.inr rfl) (fun h => absurd h (by decide)) (hleaf .or false) htidy
  | not => exact .group hne (.inl rfl) (fun _ => rfl) (hleaf .and true) htidy

lemma leaves_joined (joiner : Joiner) (members : List Condition) :
    (joined joiner members).leaves = members.flatMap leaves := by
  cases joiner <;> exact leaves_group _ _ members

/-- No word of a tidy condition stands for missing members or joins by a negation. -/
lemma Tidy.of_mem_words {c : Condition} (h : c.Tidy) {w : Word} (hw : w ∈ c.words) :
    w ≠ .always ∧ w ≠ .never ∧ w ≠ .joiner .not := by
  induction h with
  | @group joiner negated members hne hjoiner hnegated hleaf h ih =>
    have hbody : w ∈ bodyWords joiner members (members.map words) →
        w ≠ .always ∧ w ≠ .never ∧ w ≠ .joiner .not := by
      intro hw
      obtain rfl | rfl | rfl | ⟨m, hm, hw⟩ := of_mem_bodyWords hne hw
      · simp
      · simp
      · obtain rfl | rfl := hjoiner <;> simp
      · cases m with
        | leaf c =>
          rw [words, List.mem_singleton] at hw
          subst hw
          simp
        | group j n ms => exact ih _ hm rfl hw
    rw [words_group] at hw
    cases negated with
    | false => exact hbody hw
    | true =>
      simp only [if_true, List.mem_cons, List.mem_append, List.not_mem_nil, or_false] at hw
      obtain rfl | rfl | hw | rfl := hw
      · simp
      · simp
      · exact hbody hw
      · simp

end Condition

lemma Lookup.tidy_of_condition? {l : Lookup} {c : Condition} (h : l.condition? none = some c) :
    c.Tidy := by
  obtain ⟨hne, rfl⟩ := eq_all_of_condition? h
  have hleaf : ∀ m ∈ (l.flatten none none).map Condition.leaf, m.isGroup = false := by
    intro m hm
    obtain ⟨c, -, rfl⟩ := List.mem_map.1 hm
    rfl
  refine .group (List.map_eq_nil_iff.not.2 hne) (.inl rfl) (fun _ => rfl) (fun _ _ _ => ⟨rfl, rfl⟩) ?_
  intro m hm hgroup
  rw [hleaf m hm] at hgroup
  contradiction

namespace Criteria

mutual

/-- Criteria as they are made: empty, from a filter object, or by a call on other ones. -/
inductive Chain where
  | empty
  | ofLookup (l : Lookup)
  | call (before : Chain) (joiner : Joiner) (input : Input)

/-- What a call is given: a filter object, criteria, or a list to any depth. -/
inductive Input where
  | lookup (l : Lookup)
  | criteria (chain : Chain)
  | many (inputs : List Input)

end

mutual

def Chain.criteria : Chain → Criteria
  | .empty => {}
  | .ofLookup l => .ofLookup l
  | .call before joiner input => before.criteria.apply (joiner, input.filter)

def Input.filter : Input → Filter
  | .lookup l => .lookup l
  | .criteria chain => chain.criteria.toFilter
  | .many inputs => .many (Input.filters inputs)

def Input.filters : List Input → List Filter
  | [] => []
  | input :: rest => input.filter :: Input.filters rest

end

mutual

/-- The filter objects that were given, in the order of the calls and of their elements. -/
def Chain.lookups : Chain → List Lookup
  | .empty => []
  | .ofLookup l => [l]
  | .call before _ input => before.lookups ++ input.lookups

def Input.lookups : Input → List Lookup
  | .lookup l => [l]
  | .criteria chain => chain.lookups
  | .many inputs => Input.lookupsOfList inputs

def Input.lookupsOfList : List Input → List Lookup
  | [] => []
  | input :: rest => input.lookups ++ Input.lookupsOfList rest

end

/-- Tidy conditions with the comparisons of the filter objects, each once and in order. -/
structure Keeps (cs : List Condition) (ls : List Lookup) : Prop where
  tidy : ∀ c ∈ cs, c.Tidy
  leaves : cs.flatMap Condition.leaves = ls.flatMap fun l => l.flatten none none

namespace Keeps

variable {cs ds : List Condition} {ls ms : List Lookup}

lemma nil : Keeps [] [] :=
  ⟨fun _ hc => absurd hc List.not_mem_nil, rfl⟩

lemma append (h : Keeps cs ls) (h' : Keeps ds ms) : Keeps (cs ++ ds) (ls ++ ms) where
  tidy := by
    intro c hc
    obtain hc | hc := List.mem_append.1 hc
    · exact h.tidy c hc
    · exact h'.tidy c hc
  leaves := by rw [List.flatMap_append, List.flatMap_append, h.leaves, h'.leaves]

lemma lookup (l : Lookup) : Keeps (l.condition? none).toList [l] where
  tidy := fun c hc => l.tidy_of_condition? (Option.mem_toList.1 hc)
  leaves := by rw [Lookup.leaves_condition?, List.flatMap_singleton]

lemma joined (joiner : Joiner) (hne : cs ≠ []) (h : Keeps cs ls) :
    Keeps [Condition.joined joiner cs] ls where
  tidy := by
    intro c hc
    obtain rfl := List.mem_singleton.1 hc
    exact Condition.tidy_joined joiner hne h.tidy
  leaves := by rw [List.flatMap_singleton, Condition.leaves_joined, h.leaves]

lemma call? (joiner : Joiner) (h : Keeps cs ls) : Keeps (call? joiner cs).toList ls := by
  match cs, h with
  | [], h => exact h
  | [only], h =>
    -- One condition stands for itself, unless it is negated.
    cases joiner with
    | and => exact h
    | or => exact h
    | not => exact h.joined .not (List.cons_ne_nil only [])
  | first :: second :: rest, h => exact h.joined joiner (List.cons_ne_nil first _)

lemma apply {q : Criteria} {input : Filter} (joiner : Joiner) (hq : Keeps q.root.toList ls)
    (hinput : Keeps input.conditions ms) :
    Keeps (q.apply (joiner, input)).root.toList (ls ++ ms) := by
  have hcall := hinput.call? joiner
  rw [apply_eq, combine]
  rcases hsome : Criteria.call? joiner input.conditions with _ | call <;> rw [hsome] at hcall
  · simpa using hq.append hcall
  · rcases q with ⟨_ | before⟩
    · simpa using hq.append hcall
    · exact (hq.append hcall).joined (chainJoiner joiner) (List.cons_ne_nil before _)

end Keeps

-- Criteria and inputs are made from each other, so both are followed at once.
mutual

lemma Chain.keeps (chain : Chain) : Keeps chain.criteria.root.toList chain.lookups := by
  cases chain with
  | empty => exact .nil
  | ofLookup l => exact .lookup l
  | call before joiner input => exact .apply joiner before.keeps input.keeps

lemma Input.keeps (input : Input) : Keeps input.filter.conditions input.lookups := by
  cases input with
  | lookup l => exact .lookup l
  | criteria chain =>
    have hchain := chain.keeps
    have hconditions : chain.criteria.toFilter.conditions = chain.criteria.root.toList := by
      rw [toFilter]
      cases chain.criteria.root <;> rfl
    rwa [Input.filter, Input.lookups, hconditions]
  | many inputs => exact Input.keepsOfList inputs

lemma Input.keepsOfList (inputs : List Input) :
    Keeps (Filter.conditionsOfList (Input.filters inputs)) (Input.lookupsOfList inputs) := by
  cases inputs with
  | nil => exact .nil
  | cons input rest => exact input.keeps.append (Input.keepsOfList rest)

end

/-- Criteria made from filter objects are empty and no object held an operand, or they have a tidy
root with the comparisons of all objects, each once and in order. The words of their text hold these
comparisons and none that stands for missing members or joins by a negation. -/
theorem Chain.tidy_criteria (chain : Chain) :
    (chain.criteria.root = none ∧ (∀ l ∈ chain.lookups, l.hasOperand = false) ∧
        ∀ escaping, chain.criteria.sql escaping = "") ∨
      ∃ c, chain.criteria.root = some c ∧ c.Tidy ∧
        c.leaves = (chain.lookups.flatMap fun l => l.flatten none none) ∧
        (∀ escaping, chain.criteria.sql escaping = Condition.written escaping c.words) ∧
        c.words.filterMap Word.leaf? = c.leaves ∧
        .always ∉ c.words ∧ .never ∉ c.words ∧ .joiner .not ∉ c.words := by
  have hkeeps := chain.keeps
  rcases hroot : chain.criteria.root with _ | c <;> rw [hroot] at hkeeps
  · have hnone := hkeeps.leaves.symm
    refine .inl ⟨rfl, fun l hl => ?_, fun escaping => by rw [sql, hroot]⟩
    exact (l.flatten_eq_nil_iff none none).1 (List.flatMap_eq_nil_iff.1 hnone l hl)
  · have htidy : c.Tidy := hkeeps.tidy c (by simp)
    have hleaves := hkeeps.leaves
    rw [Option.toList_some, List.flatMap_singleton] at hleaves
    refine .inr ⟨c, rfl, htidy, hleaves, fun escaping => ?_, c.filterMap_leaf?_words, ?_, ?_, ?_⟩
    · rw [sql, hroot]
      exact c.sql_eq_written escaping
    · exact fun hw => (htidy.of_mem_words hw).1 rfl
    · exact fun hw => (htidy.of_mem_words hw).2.1 rfl
    · exact fun hw => (htidy.of_mem_words hw).2.2 rfl

end Criteria

end SqlCompose
