import SqlCompose.Proofs.Programs

/-!
# Refused operations

An operation is refused where its query has no source, and a deletion also without conditions. Which
operations are refused can be told from the query alone, and a refused one neither logs nor sends.
-/

namespace SqlCompose

/-- The operation was refused: nothing was asked of a source. -/
def QueryError.isRefusal : QueryError → Bool
  | noSource _ => true
  | unfilteredDelete _ => true
  | _ => false

namespace Statement

lemma deletion?_eq {s : Statement} (h : s.conditions ≠ []) :
    s.deletion? = some ("ALTER TABLE " ++ s.table.name ++ " DELETE " ++ s.whereClause) := by
  have hsome : Condition.conjunction? s.settings.escapeStrings s.conditions ≠ none := by
    rwa [ne_eq, Condition.conjunction?_eq_none_iff]
  obtain ⟨body, hbody⟩ := Option.ne_none_iff_exists'.1 hsome
  have hword : " DELETE WHERE " = " DELETE " ++ ("WHERE" ++ " ") := by decide
  rw [deletion?, whereClause, Condition.clause, hbody]
  simp only [Option.map_some, hword, String.append_assoc]

end Statement

namespace Query

variable {α : Type} (q : Query)

/-- The complaint of a query that has no source. -/
def missingSource? : Option QueryError :=
  if q.isBound then none else some (.noSource q.statement.table.name)

/-- Why an operation is refused before anything is sent: a deletion without conditions comes before
a missing source, and an open stream needs no source. -/
def denial? : Operation → Option QueryError
  | .next => if q.isIterating then none else q.missingSource?
  | .delete =>
    if q.statement.conditions.isEmpty then some (.unfilteredDelete q.statement.table.name)
    else q.missingSource?
  | _ => q.missingSource?

variable {q}

lemma delete_run_of_unbound (hq : q.link = none) (h : q.statement.conditions ≠ []) (σ : Session) :
    q.delete.run.run σ = (.error (.noSource q.statement.table.name), σ) := by
  unfold delete boundLink
  rw [Statement.deletion?_eq h, hq]
  rfl

lemma missingSource?_eq_some {e : QueryError} (h : q.missingSource? = some e) :
    q.link = none ∧ .noSource q.statement.table.name = e := by
  unfold missingSource? isBound at h
  cases hlink : q.link <;> simp_all

lemma missingSource?_eq_none (h : q.missingSource? = none) : ∃ link, q.link = some link := by
  unfold missingSource? isBound at h
  cases hlink : q.link <;> simp_all

lemma missingSource?_of_unbound (h : q.link = none) :
    q.missingSource? = some (.noSource q.statement.table.name) := by
  rw [missingSource?, isBound, h]
  rfl

lemma denial?_delete_of_conditions (h : q.statement.conditions ≠ []) :
    q.denial? .delete = q.missingSource? :=
  if_neg (by simpa using h)

lemma denial?_next_of_none (h : q.cursor = none) : q.denial? .next = q.missingSource? := by
  rw [denial?, isIterating, h]
  rfl

lemma isRefusal_of_denied {op : Operation} {e : QueryError} (h : q.denial? op = some e) :
    e.isRefusal = true := by
  have hmissing : ∀ e, q.missingSource? = some e → e.isRefusal = true := by
    intro e h
    obtain ⟨-, rfl⟩ := missingSource?_eq_some h
    rfl
  cases op with
  | next =>
    rw [denial?] at h
    split at h
    · contradiction
    · exact hmissing e h
  | delete =>
    rw [denial?] at h
    split at h
    · obtain rfl := Option.some.inj h
      rfl
    · exact hmissing e h
  | _ => exact hmissing e h

/-- An operation that is denied answers that error and leaves the session as it was. -/
theorem perform_of_denied {op : Operation} {e : QueryError} (h : q.denial? op = some e)
    (decode : Row → Option α) (σ : Session) :
    (q.perform decode op).run σ = ((.error e, q), σ) := by
  cases op with
  | all =>
    obtain ⟨hlink, rfl⟩ := missingSource?_eq_some h
    rw [perform_all, all_run_of_unbound hlink]
    rfl
  | first =>
    obtain ⟨hlink, rfl⟩ := missingSource?_eq_some h
    rw [perform_first, first_run_of_unbound hlink]
    rfl
  | count =>
    obtain ⟨hlink, rfl⟩ := missingSource?_eq_some h
    rw [perform_count, count_run_of_unbound hlink]
    rfl
  | next =>
    have hcursor : q.cursor = none := by
      cases hcursor : q.cursor with
      | none => rfl
      | some stream => simp [denial?, isIterating, hcursor] at h
    rw [denial?_next_of_none hcursor] at h
    obtain ⟨hlink, rfl⟩ := missingSource?_eq_some h
    rw [perform_next, next_eq, openCursor_run_of_none hcursor, start_run_of_unbound hlink]
    rfl
  | delete =>
    by_cases hnil : q.statement.conditions = []
    · obtain rfl : .unfilteredDelete q.statement.table.name = e := by
        simpa [denial?, hnil] using h
      rw [perform_delete, delete_run_of_nil hnil]
      rfl
    · rw [denial?_delete_of_conditions hnil] at h
      obtain ⟨hlink, rfl⟩ := missingSource?_eq_some h
      rw [perform_delete, delete_run_of_unbound hlink hnil]
      rfl

lemma perform_session_of_unbound (hq : q.link = none) (decode : Row → Option α) (op : Operation)
    (σ : Session) : ((q.perform decode op).run σ).2 = σ := by
  rcases hdenied : q.denial? op with _ | e
  · -- Without a source only a stream that is open already can be read.
    have hmissing := missingSource?_of_unbound hq
    cases op with
    | next =>
      rcases hcursor : q.cursor with _ | stream
      · simp [denial?_next_of_none hcursor, hmissing] at hdenied
      · rw [perform_next, next_eq, openCursor_run_of_some hcursor]
    | delete =>
      rw [denial?] at hdenied
      split at hdenied <;> simp [hmissing] at hdenied
    | _ => simp [denial?, hmissing] at hdenied
  · rw [perform_of_denied hdenied]

/-- The operation was not refused, though it may have failed. -/
def Admitted {β : Type} (answer : Except QueryError β) : Prop :=
  ∀ e, answer = .error e → e.isRefusal = false

namespace Admitted

variable {β γ : Type} {answer : Except QueryError β}

lemma ok (b : β) : Admitted (.ok b) := by
  intro e h
  contradiction

lemma error {e : QueryError} (h : e.isRefusal = false) : Admitted (.error e : Except _ β) := by
  rintro e' ⟨⟩
  exact h

lemma map (h : Admitted answer) (f : β → γ) : Admitted (answer.map f) := by
  rcases answer with e | b
  · exact error (h e rfl)
  · exact ok (f b)

lemma bind (h : Admitted answer) {f : β → Except QueryError γ} (hf : ∀ b, Admitted (f b)) :
    Admitted (answer.bind f) := by
  rcases answer with e | b
  · exact error (h e rfl)
  · exact hf b

lemma mapM {f : β → Except QueryError γ} (hf : ∀ b, Admitted (f b)) (items : List β) :
    Admitted (items.mapM f) := by
  induction items with
  | nil => exact ok []
  | cons b items ih =>
    rw [List.mapM_cons]
    exact (hf b).bind fun c => ih.bind fun cs => ok (c :: cs)

lemma source (answer : Except String β) : Admitted (answer.mapError .source) := by
  rcases answer with reason | b
  · exact error rfl
  · exact ok b

lemma rows (stream : RowStream) : Admitted stream.rows :=
  mapM (fun item => by cases item; exacts [error rfl, ok _]) stream

lemma decodeRow (q : Query) (decode : Row → Option α) (row : Row) :
    Admitted (q.decodeRow decode row) := by
  unfold Query.decodeRow
  cases decode row
  exacts [error rfl, ok _]

lemma decodeItem (q : Query) (decode : Row → Option α) (item : Except String Row) :
    Admitted (q.decodeItem decode item) := by
  cases item with
  | ok row => exact decodeRow q decode row
  | error reason => exact error rfl

lemma readCount (row : Row) : Admitted (SqlCompose.readCount row) := by
  unfold SqlCompose.readCount
  split
  · exact error rfl
  · split
    · exact ok _
    · exact error rfl

end Admitted

/-- An operation that is not denied may fail, but it is not refused. -/
lemma admitted_perform {op : Operation} (h : q.denial? op = none) (decode : Row → Option α)
    (σ : Session) : Admitted ((q.perform decode op).run σ).1.1 := by
  cases op with
  | all =>
    obtain ⟨link, hlink⟩ := missingSource?_eq_none h
    have hfetched := (Admitted.source (link.source.query q.statement.sql)).bind Admitted.rows
    rw [perform_all, all_run hlink]
    split
    · rename_i e he
      exact .error (hfetched e he)
    · exact (Admitted.mapM (Admitted.decodeRow q decode) _).map _
  | first =>
    obtain ⟨link, hlink⟩ := missingSource?_eq_none h
    rw [perform_first, first_run hlink]
    refine ((Admitted.source _).bind fun stream => ?_).map _
    cases stream.head? with
    | none => exact .ok none
    | some item => exact (Admitted.decodeItem q decode item).map _
  | count =>
    obtain ⟨link, hlink⟩ := missingSource?_eq_none h
    rw [perform_count, count_run hlink]
    refine ((Admitted.source _).bind fun stream => ?_).map _
    cases stream.head? with
    | none => exact .error rfl
    | some item => exact (Admitted.decodeItem q some item).bind Admitted.readCount
  | next =>
    have hopened : Admitted (q.openCursor.run.run σ).1 := by
      rcases hcursor : q.cursor with _ | stream
      · rw [denial?_next_of_none hcursor] at h
        obtain ⟨link, hlink⟩ := missingSource?_eq_none h
        rw [openCursor_run_of_none hcursor, start_run hlink]
        exact .source _
      · rw [openCursor_run_of_some hcursor]
        exact .ok stream
    rw [perform_next, next_eq]
    rcases hstream : (q.openCursor.run.run σ).1 with e | stream
    · exact .error (hopened e hstream)
    · simp only []
      refine .map ?_ _
      cases stream.head? with
      | none => exact .ok none
      | some item => exact (Admitted.decodeItem q decode item).map _
  | delete =>
    by_cases hnil : q.statement.conditions = []
    · simp [denial?, hnil] at h
    · rw [denial?_delete_of_conditions hnil] at h
      obtain ⟨link, hlink⟩ := missingSource?_eq_none h
      rw [perform_delete, delete_run_of_some hlink (Statement.deletion?_eq hnil)]
      exact (Admitted.source _).map _

/-- The refusals are exactly the denials, and they leave the session as it was. -/
theorem perform_refused_iff {op : Operation} {e : QueryError} (decode : Row → Option α)
    (σ : Session) :
    ((q.perform decode op).run σ).1.1 = .error e ∧ e.isRefusal = true ↔
      q.denial? op = some e := by
  constructor
  · rintro ⟨hanswer, hrefusal⟩
    rcases hdenied : q.denial? op with _ | e'
    · have := admitted_perform hdenied decode σ e hanswer
      simp_all
    · rw [perform_of_denied hdenied] at hanswer
      obtain rfl : e' = e := by simpa using hanswer
      rfl
  · intro h
    rw [perform_of_denied h]
    exact ⟨rfl, isRefusal_of_denied h⟩

end Query

end SqlCompose
