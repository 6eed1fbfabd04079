import Mathlib.Data.List.Basic
import SqlCompose.Proofs.ConditionTree

/-!
# The words of a condition

The text of a condition is a list of words: parentheses, negations, joiners and the comparisons at
its leaves. A comparison of constants stands for a group without members, and a negation between two
members for a group whose joiner is no joiner.
-/

namespace SqlCompose

inductive Word where
  | opening
  | closing
  | negation
  | leaf (c : Comparison)
  | joiner (j : Joiner)
  | always
  | never

namespace Word

def text (escaping : Bool) : Word → String
  | opening => "("
  | closing => ")"
  | negation => "NOT "
  | leaf c => c.sql escaping
  | joiner j => " " ++ j.token ++ " "
  | always => "1 = 1"
  | never => "1 = 0"

def leaf? : Word → Option Comparison
  | leaf c => some c
  | _ => none

end Word

namespace Condition

/-- The words of a group without its negation, where `written` are those of its members. -/
def bodyWords (joiner : Joiner) (members : List Condition) (written : List (List Word)) :
    List Word :=
  match members with
  | [] => [if joiner = .or then .never else .always]
  | [.group _ _ _] => written.flatten
  | _ => .opening :: ([.joiner joiner].intercalate written ++ [.closing])

mutual

def words : Condition → List Word
  | leaf c => [.leaf c]
  | group joiner negated members =>
    if negated then
      .opening :: .negation :: (bodyWords joiner members (wordsOfList members) ++ [.closing])
    else bodyWords joiner members (wordsOfList members)

def wordsOfList : List Condition → List (List Word)
  | [] => []
  | c :: rest => words c :: wordsOfList rest

end

lemma wordsOfList_eq_map (cs : List Condition) : wordsOfList cs = cs.map words := by
  induction cs with
  | nil => rfl
  | cons c rest ih => simp [wordsOfList, ih]

lemma words_group (joiner : Joiner) (negated : Bool) (members : List Condition) :
    (group joiner negated members).words =
      if negated then
        .opening :: .negation :: (bodyWords joiner members (members.map words) ++ [.closing])
      else bodyWords joiner members (members.map words) := by
  rw [words, wordsOfList_eq_map]

lemma bodyWords_group (joiner : Joiner) {only : Condition} (h : only.isGroup = true)
    (ws : List Word) : bodyWords joiner [only] [ws] = ws := by
  cases only with
  | leaf c => contradiction
  | group j negated ms => exact List.append_nil ws

lemma bodyWords_leaf (joiner : Joiner) (c : Comparison) :
    bodyWords joiner [leaf c] [(leaf c).words] = [.opening, .leaf c, .closing] :=
  rfl

lemma bodyWords_of_two_le (joiner : Joiner) {members : List Condition} (h : 2 ≤ members.length)
    (lists : List (List Word)) :
    bodyWords joiner members lists =
      .opening :: ([.joiner joiner].intercalate lists ++ [.closing]) := by
  match members, h with
  | first :: second :: rest, _ => cases first <;> rfl

section text

variable (escaping : Bool)

def written (ws : List Word) : String :=
  String.join (ws.map (Word.text escaping))

lemma written_append (ws vs : List Word) :
    written escaping (ws ++ vs) = written escaping ws ++ written escaping vs := by
  rw [written, List.map_append, String.join_append]
  rfl

lemma written_cons (w : Word) (ws : List Word) :
    written escaping (w :: ws) = w.text escaping ++ written escaping ws := by
  rw [written, List.map_cons, String.join_cons]
  rfl

lemma written_intercalate (w : Word) (lists : List (List Word)) :
    written escaping ([w].intercalate lists) =
      (w.text escaping).intercalate (lists.map (written escaping)) := by
  induction lists with
  | nil => rfl
  | cons ws lists ih =>
    cases lists with
    | nil => simp
    | cons vs lists =>
      rw [List.intercalate_cons_cons, written_append, written_append, ih, List.map_cons,
        List.map_cons, List.map_cons, String.intercalate_cons_cons]
      simp [written]

lemma body_eq_written (joiner : Joiner) {members : List Condition}
    (h : ∀ m ∈ members, m.sql escaping = written escaping m.words) :
    body escaping joiner members =
      written escaping (bodyWords joiner members (members.map words)) := by
  match members with
  | [] => cases joiner <;> rfl
  | [.group j negated ms] =>
    rw [body_singleton, List.map_singleton, bodyWords_group joiner rfl]
    exact h _ (List.mem_singleton_self _)
  | [.leaf c] =>
    rw [body_singleton, List.map_singleton, bodyWords_leaf]
    simp [statementSql, written, Word.text, String.append_assoc]
  | first :: second :: rest =>
    have hmembers : (first :: second :: rest).map (sql escaping) =
        ((first :: second :: rest).map words).map (written escaping) := by
      rw [List.map_map]
      exact List.map_congr_left h
    have hlength : 2 ≤ (first :: second :: rest).length := by simp
    rw [body_of_two_le escaping joiner hlength, hmembers, bodyWords_of_two_le joiner hlength,
      written_cons, written_append, written_intercalate]
    simp [written, Word.text, String.append_assoc]

/-- The text of a condition is that of its words. -/
theorem sql_eq_written (c : Condition) : c.sql escaping = written escaping c.words := by
  induction c using induct with
  | leaf c => simp [words, written, Word.text]
  | group joiner negated members ih =>
    rw [sql_group, words_group, body_eq_written escaping joiner ih]
    cases negated with
    | false => rfl
    | true =>
      have hopen : "(NOT " = "(" ++ "NOT " := by decide
      simp only [if_true, written_cons, written_append, hopen, Word.text, String.append_assoc]
      simp [written]

end text

lemma filterMap_leaf?_intercalate (joiner : Joiner) (lists : List (List Word)) :
    ([.joiner joiner].intercalate lists).filterMap Word.leaf? =
      lists.flatMap (List.filterMap Word.leaf?) := by
  induction lists with
  | nil => rfl
  | cons ws lists ih =>
    cases lists with
    | nil => simp
    | cons vs lists =>
      rw [List.intercalate_cons_cons, List.filterMap_append, List.filterMap_append, ih]
      simp [List.filterMap_cons, Word.leaf?]

/-- The comparisons among the words are those at the leaves, in order. -/
theorem filterMap_leaf?_words (c : Condition) : c.words.filterMap Word.leaf? = c.leaves := by
  induction c using induct with
  | leaf c => simp [words, Word.leaf?]
  | group joiner negated members ih =>
    have hbody : (bodyWords joiner members (members.map words)).filterMap Word.leaf? =
        members.flatMap leaves := by
      match members with
      | [] => cases joiner <;> rfl
      | [.group j negated ms] =>
        rw [List.map_singleton, bodyWords_group joiner rfl, ih _ (List.mem_singleton_self _),
          List.flatMap_singleton]
      | [.leaf c] =>
        rw [List.map_singleton, bodyWords_leaf]
        simp [List.filterMap_cons, Word.leaf?]
      | first :: second :: rest =>
        have hmembers : ((first :: second :: rest).map words).flatMap (List.filterMap Word.leaf?) =
            (first :: second :: rest).flatMap leaves := by
          rw [List.flatMap_map]
          exact List.flatMap_congr ih
        rw [bodyWords_of_two_le joiner (by simp), List.filterMap_cons_none rfl,
          List.filterMap_append, filterMap_leaf?_intercalate, hmembers]
        simp [List.filterMap_cons, Word.leaf?]
    rw [words_group, leaves_group, ← hbody]
    cases negated with
    | false => rfl
    | true => simp [List.filterMap_cons, Word.leaf?]

lemma mem_of_mem_intercalate {w v : Word} {lists : List (List Word)}
    (h : w ∈ [v].intercalate lists) : w = v ∨ ∃ ws ∈ lists, w ∈ ws := by
  induction lists with
  | nil => contradiction
  | cons ws lists ih =>
    cases lists with
    | nil => exact .inr ⟨ws, by simp, by simpa using h⟩
    | cons vs lists =>
      rw [List.intercalate_cons_cons, List.append_assoc, List.mem_append, List.mem_append,
        List.mem_singleton] at h
      obtain h | h | h := h
      · exact .inr ⟨ws, by simp, h⟩
      · exact .inl h
      · obtain h | ⟨us, hus, h⟩ := ih h
        · exact .inl h
        · exact .inr ⟨us, List.mem_cons_of_mem ws hus, h⟩

/-- The words of a group with members are its parentheses, its joiner and the words of members. -/
lemma of_mem_bodyWords {w : Word} {joiner : Joiner} {members : List Condition} (hne : members ≠ [])
    (h : w ∈ bodyWords joiner members (members.map words)) :
    w = .opening ∨ w = .closing ∨ w = .joiner joiner ∨ ∃ m ∈ members, w ∈ m.words := by
  match members with
  | [] => contradiction
  | [.group j negated ms] =>
    rw [List.map_singleton, bodyWords_group joiner rfl] at h
    exact .inr (.inr (.inr ⟨_, List.mem_singleton_self _, h⟩))
  | [.leaf c] =>
    rw [List.map_singleton, bodyWords_leaf] at h
    have hleaf : (leaf c).words = [.leaf c] := by rw [words]
    simp only [List.mem_cons, List.not_mem_nil, or_false] at h
    obtain h | h | h := h
    · exact .inl h
    · exact .inr (.inr (.inr ⟨leaf c, List.mem_singleton_self _, by simp [hleaf, h]⟩))
    · exact .inr (.inl h)
  | first :: second :: rest =>
    rw [bodyWords_of_two_le joiner (by simp), List.mem_cons, List.mem_append,
      List.mem_singleton] at h
    obtain h | h | h := h
    · exact .inl h
    · obtain h | ⟨ws, hws, h⟩ := mem_of_mem_intercalate h
      · exact .inr (.inr (.inl h))
      · obtain ⟨m, hm, rfl⟩ := List.mem_map.1 hws
        exact .inr (.inr (.inr ⟨m, hm, h⟩))
    · exact .inr (.inl h)

end Condition

end SqlCompose
