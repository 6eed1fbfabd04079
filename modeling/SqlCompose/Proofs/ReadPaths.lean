import SqlCompose.Proofs.Cursors
import SqlCompose.Proofs.Traversals

/-!
# The ways of reading rows agree

Reading all rows, reading row by row and reading the first row are three ways through the answer of
one source. Over a source that holds its rows in memory the calls for the next row give exactly the
rows that are read at once, up to the first one that does not decode, and the first row is what the
first of these calls gives under a limit of one.
-/

namespace SqlCompose.Query

variable {α : Type}

/-- The calls for the next row up to the first one that gives no row: the rows that were given
before it, and its error if it failed. -/
inductive Drains (decode : Row → Option α) :
    Query → Session → List α → Option QueryError → Prop where
  | finished {q : Query} {σ : Session} (h : ((q.next decode).run σ).1.1 = .ok none) :
    Drains decode q σ [] none
  | failed {q : Query} {σ : Session} {e : QueryError}
    (h : ((q.next decode).run σ).1.1 = .error e) : Drains decode q σ [] (some e)
  | row {q : Query} {σ : Session} {a : α} {as : List α} {ending : Option QueryError}
    (h : ((q.next decode).run σ).1.1 = .ok (some a))
    (rest : Drains decode ((q.next decode).run σ).1.2 ((q.next decode).run σ).2 as ending) :
    Drains decode q σ (a :: as) ending

/-- The source of the query, if it has one, holds its answers in memory. -/
def ReadsMemory (q : Query) : Prop :=
  ∀ link, q.link = some link → ∃ m : MemorySource, link.source = m.toSource

variable {decode : Row → Option α} {q : Query} {σ : Session}

namespace Drains

variable {as bs : List α} {ending other : Option QueryError}

lemma unique (h : Drains decode q σ as ending) (h' : Drains decode q σ bs other) :
    bs = as ∧ other = ending := by
  induction h generalizing bs other with
  | finished h =>
    cases h' with
    | finished => exact ⟨rfl, rfl⟩
    | failed h' => simp [h] at h'
    | row h' => simp [h] at h'
  | failed h =>
    cases h' with
    | finished h' => simp [h] at h'
    | failed h' => exact ⟨rfl, congrArg some (Except.error.inj (h'.symm.trans h))⟩
    | row h' => simp [h] at h'
  | row h rest ih =>
    cases h' with
    | finished h' => simp [h] at h'
    | failed h' => simp [h] at h'
    | row h' rest' =>
      obtain rfl := Option.some.inj (Except.ok.inj (h.symm.trans h'))
      obtain ⟨rfl, rfl⟩ := ih rest'
      exact ⟨rfl, rfl⟩

lemma eq_iff (h : Drains decode q σ as ending) :
    Drains decode q σ bs other ↔ bs = as ∧ other = ending := by
  refine ⟨h.unique, ?_⟩
  rintro ⟨rfl, rfl⟩
  exact h

end Drains

/-- The query behind `k` calls for the next row. -/
def after (q : Query) (k : Nat) : Query :=
  { q with cursor := q.cursorAfter k }

lemma after_zero (hq : q.cursor = none) : q.after 0 = q := by
  have hnone : q.cursorAfter 0 = none := by
    rw [cursorAfter]
    cases q.rowStream <;> rfl
  rw [after, hnone]
  exact (reset_of_none hq).symm

lemma next_after (decode : Row → Option α) (σ : Session) (k : Nat) :
    (((q.after k).next decode).run σ).1 = (q.rowAt decode k, q.after (k + 1)) :=
  (next_run (q := q.after k) rfl decode σ).1

lemma next_of_none (hq : q.cursor = none) (decode : Row → Option α) (σ : Session) :
    ((q.next decode).run σ).1.1 = q.rowAt decode 0 ∧
      ((q.next decode).run σ).2.sent = σ.sent ++ q.opening := by
  have hnone : q.cursor = q.cursorAfter 0 := congrArg cursor (after_zero hq).symm
  obtain ⟨hresult, hsent⟩ := next_run hnone decode σ
  refine ⟨congrArg Prod.fst hresult, ?_⟩
  rw [hsent, openingAt]
  cases q.rowStream <;> rfl

lemma rowAt_eq {stream : RowStream} (h : q.rowStream = .ok stream) (k : Nat) :
    q.rowAt decode k = (stream.drop k).head?.elim (.ok none) fun item =>
      (q.decodeItem decode item).map some := by
  simp only [rowAt, h, List.head?_drop]
  cases stream[k]? <;> rfl

/-- From any position on, the calls give the items that decode, up to the end of the stream or the
item that stops them. -/
lemma drains_after {stream front rest : RowStream} {as : List α} {ending : Option QueryError}
    {k : Nat} (hstream : q.rowStream = .ok stream) (hdrop : stream.drop k = front ++ rest)
    (hfront : List.Forall₂ (fun item a => q.decodeItem decode item = .ok a) front as)
    (hend : rest.head?.elim (.ok none) (fun item => (q.decodeItem decode item).map some) =
      ending.elim (.ok none) .error) :
    Drains decode (q.after k) σ as ending := by
  induction hfront generalizing σ k with
  | nil =>
    have hnext := congrArg Prod.fst (q.next_after decode σ k)
    rw [rowAt_eq hstream, hdrop, List.nil_append, hend] at hnext
    cases ending with
    | none => exact .finished hnext
    | some e => exact .failed hnext
  | @cons item a front as hitem _ ih =>
    have hnext := q.next_after decode σ k
    rw [rowAt_eq hstream, hdrop, List.cons_append, List.head?_cons, Option.elim_some, hitem] at hnext
    refine .row (congrArg Prod.fst hnext) ?_
    rw [hnext]
    refine ih ?_
    rw [← List.tail_drop, hdrop, List.cons_append, List.tail_cons]

lemma rows_map_ok (rows : List Row) : RowStream.rows (rows.map .ok) = .ok rows := by
  rw [RowStream.rows, List.mapM_map]
  exact mapM_eq_ok_iff.2 (List.forall₂_same.2 fun _ _ => rfl)

lemma all_eq (decode : Row → Option α) (σ : Session) :
    ((q.all decode).run.run σ).1 =
      (q.rowStream.bind RowStream.rows).bind fun rows => rows.mapM (q.decodeRow decode) := by
  rcases hlink : q.link with _ | link
  · simp only [all_run_of_unbound hlink, rowStream, hlink]
    rfl
  · have hstream : (link.source.query q.statement.sql).mapError .source = q.rowStream := by
      rw [rowStream, hlink]
    rw [all_run hlink, hstream]
    rcases q.rowStream.bind RowStream.rows with e | rows <;> rfl

lemma rowStream_of_memory (h : q.ReadsMemory) :
    (∃ rows : List Row, q.rowStream = .ok (rows.map .ok)) ∨
      ∃ e, q.rowStream = .error e ∧ ∀ table, e ≠ .undecodable table := by
  rcases hlink : q.link with _ | ⟨n, source⟩
  · exact .inr ⟨_, by rw [rowStream, hlink], by simp⟩
  · obtain ⟨m, rfl⟩ := h _ hlink
    rcases hfailure : m.failure with _ | reason
    · exact .inl ⟨_, rowStream_of_answering hlink hfailure⟩
    · exact .inr ⟨_, rowStream_of_failing hlink hfailure, by simp⟩

lemma decodeRow_eq_ok_iff {row : Row} {a : α} :
    q.decodeRow decode row = .ok a ↔ decode row = some a := by
  rw [decodeRow]
  cases decode row <;> simp

lemma decodeRow_eq_error_iff {row : Row} {e : QueryError} :
    q.decodeRow decode row = .error e ↔
      decode row = none ∧ .undecodable q.statement.table.name = e := by
  rw [decodeRow]
  cases decode row <;> simp

lemma all_of_rows {rows : List Row} (hstream : q.rowStream = .ok (rows.map .ok))
    (decode : Row → Option α) (σ : Session) :
    ((q.all decode).run.run σ).1 = rows.mapM (q.decodeRow decode) := by
  have hrows : q.rowStream.bind RowStream.rows = .ok rows := by
    rw [hstream]
    exact rows_map_ok rows
  rw [all_eq, hrows]
  rfl

lemma all_of_error {e : QueryError} (hstream : q.rowStream = .error e) (decode : Row → Option α)
    (σ : Session) : ((q.all decode).run.run σ).1 = .error e := by
  rw [all_eq, hstream]
  rfl

/-- The rows in front of any place of the answer are given one by one, if they decode. -/
lemma drains_rows {front rest : List Row} {as : List α} {ending : Option QueryError}
    (hcursor : q.cursor = none) (hstream : q.rowStream = .ok ((front ++ rest).map .ok))
    (hfront : List.Forall₂ (fun row a => q.decodeRow decode row = .ok a) front as)
    (hend : rest.head?.elim (.ok none) (fun row => (q.decodeRow decode row).map some) =
      ending.elim (.ok none) .error) :
    Drains decode q σ as ending := by
  rw [← after_zero hcursor]
  refine drains_after hstream (List.map_append ..) (List.forall₂_map_left_iff.2 hfront) ?_
  rw [← hend]
  cases rest <;> rfl

lemma drains_of_all_ok {rows : List Row} {as : List α} (hcursor : q.cursor = none)
    (hstream : q.rowStream = .ok (rows.map .ok)) (hall : rows.mapM (q.decodeRow decode) = .ok as) :
    Drains decode q σ as none := by
  rw [← List.append_nil rows] at hstream
  exact drains_rows hcursor hstream (mapM_eq_ok_iff.1 hall) rfl

lemma drains_of_all_error {rows : List Row} {e : QueryError} (hcursor : q.cursor = none)
    (hstream : q.rowStream = .ok (rows.map .ok))
    (hall : rows.mapM (q.decodeRow decode) = .error e) :
    ∃ front row rest as, q.rowStream = .ok ((front ++ row :: rest).map .ok) ∧
      List.Forall₂ (fun r a => decode r = some a) front as ∧ decode row = none ∧
      Drains decode q σ as (some e) := by
  obtain ⟨front, row, rest, rfl, hfront, hrow⟩ := mapM_eq_error_iff.1 hall
  obtain ⟨as, has⟩ : ∃ as, front.mapM (q.decodeRow decode) = .ok as := by
    cases hmap : front.mapM (q.decodeRow decode) with
    | ok as => exact ⟨as, rfl⟩
    | error e' =>
      obtain ⟨before, r, after, rfl, -, hr⟩ := mapM_eq_error_iff.1 hmap
      obtain ⟨a, ha⟩ := hfront r (by simp)
      rw [ha] at hr
      contradiction
  refine ⟨front, row, rest, as, hstream, ?_, (decodeRow_eq_error_iff.1 hrow).1, ?_⟩
  · simpa only [decodeRow_eq_ok_iff] using mapM_eq_ok_iff.1 has
  · refine drains_rows hcursor hstream (mapM_eq_ok_iff.1 has) ?_
    rw [List.head?_cons, Option.elim_some, hrow]
    rfl

lemma first_eq (q : Query) (decode : Row → Option α) (σ : Session) :
    ((q.first decode).run.run σ).1 = (q.derive (·.limit 1)).rowAt decode 0 ∧
      ((q.first decode).run.run σ).2.sent = σ.sent ++ (q.derive (·.limit 1)).opening := by
  have hitem : (q.derive (·.limit 1)).decodeItem decode = q.decodeItem decode := by
    funext item
    cases item <;> rfl
  have hstatement : (q.derive (·.limit 1)).statement = q.statement.limit 1 := rfl
  rcases hlink : q.link with _ | link
  · have hunbound : (q.derive (·.limit 1)).link = none := hlink
    rw [first_run_of_unbound hlink]
    simp only [rowAt, rowStream, opening, hunbound, Option.toList_none, List.map_nil,
      List.append_nil, and_true]
    rfl
  · have hbound : (q.derive (·.limit 1)).link = some link := hlink
    rw [first_run hlink]
    simp only [rowAt, rowStream, opening, hbound, hitem, hstatement]
    refine ⟨?_, rfl⟩
    rcases link.source.query (q.statement.limit 1).sql with reason | _ | ⟨item, rest⟩ <;> rfl

/-- Where all rows are read at once, the calls for the next row give the same rows and then none.
Where a row does not decode, they give the rows in front of it and then the same error, and where the
source does not answer, the first call fails the same way. The first row is what one call gives under
a limit of one, which replaces any other limit and keeps the offset. -/
theorem read_paths_agree (hcursor : q.cursor = none) (hmemory : q.ReadsMemory)
    (decode : Row → Option α) (σ τ : Session) :
    (∀ as, ((q.all decode).run.run σ).1 = .ok as →
      ∀ bs ending, Drains decode q τ bs ending ↔ bs = as ∧ ending = none) ∧
    (∀ table, ((q.all decode).run.run σ).1 = .error (.undecodable table) →
      ∃ front row rest as, q.rowStream = .ok ((front ++ row :: rest).map .ok) ∧
        List.Forall₂ (fun r a => decode r = some a) front as ∧ decode row = none ∧
        ∀ bs ending, Drains decode q τ bs ending ↔
          bs = as ∧ ending = some (.undecodable table)) ∧
    (∀ e, ((q.all decode).run.run σ).1 = .error e → (∀ table, e ≠ .undecodable table) →
      ((q.next decode).run τ).1.1 = .error e) ∧
    let limited := q.derive (·.limit 1)
    limited.statement =
        { q.statement with page := { limit := some 1, offset := q.statement.page.offset } } ∧
      ((q.first decode).run.run σ).1 = ((limited.next decode).run τ).1.1 ∧
      ((q.first decode).run.run σ).2.sent = σ.sent ++ limited.opening ∧
      ((limited.next decode).run τ).2.sent = τ.sent ++ limited.opening := by
  refine ⟨fun as hall bs ending => ?_, fun table hall => ?_, fun e hall he => ?_, rfl, ?_⟩
  · obtain ⟨rows, hstream⟩ | ⟨e, hstream, -⟩ := rowStream_of_memory hmemory
    · rw [all_of_rows hstream] at hall
      exact (drains_of_all_ok hcursor hstream hall).eq_iff
    · rw [all_of_error hstream] at hall
      contradiction
  · obtain ⟨rows, hstream⟩ | ⟨e, hstream, he⟩ := rowStream_of_memory hmemory
    · rw [all_of_rows hstream] at hall
      obtain ⟨front, row, rest, as, hsplit, hfront, hrow, hdrains⟩ :=
        drains_of_all_error hcursor hstream hall
      exact ⟨front, row, rest, as, hsplit, hfront, hrow, fun bs ending => hdrains.eq_iff⟩
    · rw [all_of_error hstream] at hall
      exact absurd (Except.error.inj hall) (he table)
  · obtain ⟨rows, hstream⟩ | ⟨e', hstream, -⟩ := rowStream_of_memory hmemory
    · rw [all_of_rows hstream] at hall
      obtain ⟨-, row, -, -, -, hrow⟩ := mapM_eq_error_iff.1 hall
      exact absurd (decodeRow_eq_error_iff.1 hrow).2.symm (he _)
    · rw [all_of_error hstream] at hall
      obtain rfl := Except.error.inj hall
      simp only [(next_of_none hcursor decode τ).1, rowAt, hstream]
  · obtain ⟨hfirst, hsent⟩ := q.first_eq decode σ
    have hlimited : (q.derive (·.limit 1)).cursor = none := rfl
    obtain ⟨hnext, hsent'⟩ := next_of_none hlimited decode τ
    exact ⟨hfirst.trans hnext.symm, hsent, hsent'⟩

/-- Three rows, of which the second one has no number. -/
def numberedRows : MemorySource where
  defaultRows := [[("id", .integer 7)], [("id", .string "x")], [("id", .integer 9)]]

def numbered : Query where
  statement := { table := ⟨"sales", .mergeTree⟩, page := { limit := some 5, offset := some 2 } }
  link := some ⟨0, numberedRows.toSource⟩

theorem read_paths_agree_undecodable :
    numbered.cursor = none ∧ numbered.ReadsMemory ∧
      ((numbered.all World.identifier).run.run {}).1 = .error (.undecodable "sales") ∧
      (∀ bs ending, Drains World.identifier numbered {} bs ending ↔
        bs = [7] ∧ ending = some (.undecodable "sales")) ∧
      ((numbered.first World.identifier).run.run {}).1 = .ok (some 7) ∧
      ((numbered.first World.identifier).run.run {}).2.sent =
        [(0, "SELECT * FROM sales LIMIT 1 OFFSET 2")] := by
  have hmemory : numbered.ReadsMemory := by
    rintro link ⟨⟩
    exact ⟨numberedRows, rfl⟩
  have hdrains : Drains World.identifier numbered {} [7] (some (.undecodable "sales")) :=
    .row rfl (.failed rfl)
  obtain ⟨-, herror, -, -, hfirst, hsent, -⟩ :=
    read_paths_agree (q := numbered) rfl hmemory World.identifier {} {}
  obtain ⟨-, -, -, as, -, -, -, hiff⟩ := herror "sales" rfl
  obtain ⟨rfl, -⟩ := (hiff _ _).1 hdrains
  exact ⟨rfl, hmemory, rfl, hiff, hfirst, hsent⟩

end SqlCompose.Query
