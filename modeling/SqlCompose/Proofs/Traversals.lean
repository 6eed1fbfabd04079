import Mathlib.Data.List.Forall2
import Mathlib.Tactic.Lemma

/-!
# Traversals that may stop

Items are taken one after the other, and each of them gives a result or an error. The traversal gives
all results in order, or the error of the first item that has one.
-/

namespace SqlCompose

variable {α β ε : Type} {f : α → Except ε β} {x : α} {xs : List α}

lemma mapM_cons_of_ok {y : β} (h : f x = .ok y) :
    (x :: xs).mapM f = (xs.mapM f).map (y :: ·) := by
  rw [List.mapM_cons, h]
  cases xs.mapM f <;> rfl

lemma mapM_cons_of_error {e : ε} (h : f x = .error e) : (x :: xs).mapM f = .error e := by
  rw [List.mapM_cons, h]
  rfl

lemma map_eq_ok_iff {γ : Type} {g : β → γ} {r : Except ε β} {c : γ} :
    r.map g = .ok c ↔ ∃ b, r = .ok b ∧ g b = c := by
  cases r <;> simp [Except.map]

lemma map_eq_error_iff {γ : Type} {g : β → γ} {r : Except ε β} {e : ε} :
    r.map g = .error e ↔ r = .error e := by
  cases r <;> simp [Except.map]

lemma mapM_eq_ok_iff {ys : List β} :
    xs.mapM f = .ok ys ↔ List.Forall₂ (fun x y => f x = .ok y) xs ys := by
  induction xs generalizing ys with
  | nil => cases ys <;> simp [pure, Except.pure]
  | cons x xs ih =>
    cases hx : f x with
    | error e => simp [mapM_cons_of_error hx, List.forall₂_cons_left_iff, hx]
    | ok y =>
      simp only [mapM_cons_of_ok hx, map_eq_ok_iff, List.forall₂_cons_left_iff, hx, ih,
        Except.ok.injEq]
      constructor
      · rintro ⟨others, hothers, rfl⟩
        exact ⟨y, others, rfl, hothers, rfl⟩
      · rintro ⟨y, others, rfl, hothers, rfl⟩
        exact ⟨others, hothers, rfl⟩

/-- A traversal stops at the first item that is refused. -/
lemma mapM_eq_error_iff {e : ε} :
    xs.mapM f = .error e ↔
      ∃ before x after, xs = before ++ x :: after ∧ (∀ b ∈ before, ∃ y, f b = .ok y) ∧
        f x = .error e := by
  induction xs with
  | nil => simp [pure, Except.pure]
  | cons x xs ih =>
    constructor
    · intro h
      cases hx : f x with
      | error e' =>
        rw [mapM_cons_of_error hx] at h
        exact ⟨[], x, xs, rfl, by simp, hx.trans (congrArg _ (Except.error.inj h))⟩
      | ok y =>
        rw [mapM_cons_of_ok hx, map_eq_error_iff] at h
        obtain ⟨before, z, after, rfl, hbefore, hz⟩ := ih.1 h
        exact ⟨x :: before, z, after, rfl, List.forall_mem_cons.2 ⟨⟨y, hx⟩, hbefore⟩, hz⟩
    · rintro ⟨before, z, after, hsplit, hbefore, hz⟩
      cases before with
      | nil =>
        obtain ⟨rfl, -⟩ := List.cons.inj hsplit
        exact mapM_cons_of_error hz
      | cons b before =>
        obtain ⟨rfl, rfl⟩ := List.cons.inj hsplit
        obtain ⟨⟨y, hy⟩, hbefore⟩ := List.forall_mem_cons.1 hbefore
        rw [mapM_cons_of_ok hy, map_eq_error_iff]
        exact ih.2 ⟨before, z, after, rfl, hbefore, hz⟩

section forM

variable {check : α → Except ε Unit}

lemma forM_cons_of_ok (h : check x = .ok ()) : (x :: xs).forM check = xs.forM check := by
  change (check x >>= fun _ => xs.forM check) = _
  rw [h]
  rfl

lemma forM_cons_of_error {e : ε} (h : check x = .error e) :
    (x :: xs).forM check = .error e := by
  change (check x >>= fun _ => xs.forM check) = _
  rw [h]
  rfl

/-- A check of all items is a traversal whose results do not matter. -/
lemma forM_eq_map_mapM : xs.forM check = (xs.mapM check).map fun _ => () := by
  induction xs with
  | nil => rfl
  | cons x xs ih =>
    cases hx : check x with
    | error e =>
      rw [forM_cons_of_error hx, mapM_cons_of_error hx]
      rfl
    | ok =>
      rw [forM_cons_of_ok hx, mapM_cons_of_ok hx, ih]
      cases xs.mapM check <;> rfl

lemma forM_eq_ok_iff : xs.forM check = .ok () ↔ ∀ x ∈ xs, check x = .ok () := by
  induction xs with
  | nil => simp [pure, Except.pure]
  | cons x xs ih =>
    cases hx : check x with
    | error e => simp [forM_cons_of_error hx, hx]
    | ok => rw [forM_cons_of_ok hx, ih, List.forall_mem_cons, and_iff_right hx]

lemma forM_eq_error_iff {e : ε} :
    xs.forM check = .error e ↔
      ∃ before x after, xs = before ++ x :: after ∧ (∀ b ∈ before, check b = .ok ()) ∧
        check x = .error e := by
  have hunit : ∀ r : Except ε Unit, (∃ y, r = .ok y) ↔ r = .ok () := fun r =>
    ⟨fun ⟨(), h⟩ => h, fun h => ⟨(), h⟩⟩
  simp only [forM_eq_map_mapM, map_eq_error_iff, mapM_eq_error_iff, hunit]

end forM

end SqlCompose
