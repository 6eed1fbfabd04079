import SqlCompose.Proofs.Programs

/-!
# Reading row by row in a program

The calls for the next row on a variable are counted from where its query was last made, stored or
reset. The count alone tells what the next call answers, whatever the steps in between did to other
variables: the rows come in order, each once, and one statement opens them.
-/

namespace SqlCompose

section pulls

variable {ν α : Type} [DecidableEq ν]

/-- The variable that a step may change. -/
def Step.target : Step ν α → ν
  | make x _ _ _ => x
  | clone _ y => y
  | call _ _ y => y
  | reset x => x
  | run _ x _ => x

def Step.isRun : Step ν α → Bool
  | run _ _ _ => true
  | _ => false

/-- A call for the next row, its answer, and the statements that it sent. -/
structure Pull (α : Type) where
  decode : Row → Option α
  answer : Except QueryError (Output α)
  sent : List (Nat × String)

def pullsAfter (x : ν) (ps : List (Pull α)) (e : Entry ν α) : List (Pull α) :=
  if e.step.target = x then
    match e.step with
    | .run .next _ decode => ps ++ [⟨decode, e.answer, e.sent⟩]
    | .run _ _ _ => ps
    | _ => if e.answer.isOk then [] else ps
  else ps

/-- The calls for the next row on a variable since its query was last made, stored or reset. -/
def pulls (x : ν) (es : List (Entry ν α)) : List (Pull α) :=
  es.foldl (pullsAfter x) []

end pulls

namespace Query

variable {α : Type} (q : Query)

/-- What the source answers to the statement of the query. -/
def rowStream : Except QueryError RowStream :=
  match q.link with
  | none => .error (.noSource q.statement.table.name)
  | some link => (link.source.query q.statement.sql).mapError .source

/-- The answer to the call for the next row that has `k` calls before it. -/
def rowAt (decode : Row → Option α) (k : Nat) : Except QueryError (Option α) :=
  match q.rowStream with
  | .error e => .error e
  | .ok stream =>
    match stream[k]? with
    | none => .ok none
    | some item => (q.decodeItem decode item).map some

/-- The statement that opens the stream. -/
def opening : List (Nat × String) :=
  q.link.toList.map fun link => (link.number, q.statement.sql)

/-- The statements that this call sends. A stream that could not be opened is asked for again. -/
def openingAt (k : Nat) : List (Nat × String) :=
  match q.rowStream with
  | .error _ => q.opening
  | .ok _ => if k = 0 then q.opening else []

/-- The open stream behind `k` calls. -/
def cursorAfter (k : Nat) : Option RowStream :=
  match q.rowStream with
  | .error _ => none
  | .ok stream => if k = 0 then none else some (stream.drop k)

variable {q}

lemma reset_of_none (hq : q.cursor = none) : q = q.reset := by
  obtain ⟨statement, link, cursor⟩ := q
  obtain rfl : cursor = none := hq
  rfl

lemma openCursor_run_eq (hq : q.cursor = none) (σ : Session) :
    (q.openCursor.run.run σ).1 = q.rowStream ∧
      (q.openCursor.run.run σ).2.sent = σ.sent ++ q.opening := by
  rw [openCursor_run_of_none hq, rowStream, opening]
  rcases hlink : q.link with _ | link
  · simp [start_run_of_unbound hlink]
  · rw [start_run hlink]
    simp [Session.send, Session.logAll]

/-- A call for the next row goes on where the calls before it ended. -/
lemma next_run {k : Nat} (hq : q.cursor = q.cursorAfter k) (decode : Row → Option α)
    (σ : Session) :
    ((q.next decode).run σ).1 = (q.rowAt decode k, { q with cursor := q.cursorAfter (k + 1) }) ∧
      ((q.next decode).run σ).2.sent = σ.sent ++ q.openingAt k := by
  rw [next_eq, rowAt, openingAt]
  rw [cursorAfter] at hq ⊢
  rcases hstream : q.rowStream with e | stream <;> rw [hstream] at hq
  · obtain ⟨hopened, hsent⟩ := openCursor_run_eq hq σ
    rw [hopened, hstream]
    refine ⟨congrArg (Except.error e, ·) ?_, hsent⟩
    exact reset_of_none hq
  · by_cases hk : k = 0
    · subst hk
      obtain ⟨hopened, hsent⟩ := openCursor_run_eq hq σ
      rw [hopened, hstream]
      refine ⟨?_, hsent⟩
      cases stream <;> rfl
    · have hcursor : q.cursor = some (stream.drop k) := by rw [hq]; exact if_neg hk
      rw [openCursor_run_of_some hcursor]
      simp only [hk, if_false, List.append_nil, and_true]
      rw [List.head?_drop, List.tail_drop, if_neg (by omega)]
      cases stream[k]? <;> rfl

/-- The calls were answered with the rows in order, and the stream stands behind them. -/
structure Pulled (q : Query) (ps : List (Pull α)) : Prop where
  calls : ∀ k p, ps[k]? = some p →
    p.answer = (q.rowAt p.decode k).map .row ∧ p.sent = q.openingAt k
  cursor : q.cursor = q.cursorAfter ps.length

namespace Pulled

lemma nil (hq : q.cursor = none) : Pulled q ([] : List (Pull α)) where
  calls := by simp
  cursor := by
    rw [hq, cursorAfter]
    cases q.rowStream <;> rfl

lemma next {ps : List (Pull α)} (h : Pulled q ps) (decode : Row → Option α) (σ : Session) :
    Pulled ((q.next decode).run σ).1.2
      (ps ++ [⟨decode, ((q.next decode).run σ).1.1.map .row,
        ((q.next decode).run σ).2.sent.drop σ.sent.length⟩]) := by
  obtain ⟨hresult, hsent⟩ := next_run h.cursor decode σ
  rw [hresult, hsent, List.drop_left]
  constructor
  · intro k p hp
    rw [List.getElem?_append] at hp
    split at hp
    · exact h.calls k p hp
    · rename_i hlength
      obtain ⟨hlt, hp⟩ := List.getElem?_eq_some_iff.1 hp
      obtain rfl : k = ps.length := by simp at hlt; omega
      simp at hp
      subst hp
      exact ⟨rfl, rfl⟩
  · rw [List.length_append]
    rfl

lemma of_error {ps : List (Pull α)} {e : QueryError} (h : Pulled q ps)
    (hstream : q.rowStream = .error e) :
    (∀ p ∈ ps, p.answer = .error e ∧ p.sent = q.opening) ∧ q.cursor = none := by
  constructor
  · intro p hp
    obtain ⟨k, hk⟩ := List.mem_iff_getElem?.1 hp
    have hcall := h.calls k p hk
    rw [rowAt, openingAt, hstream] at hcall
    exact hcall
  · rw [h.cursor, cursorAfter, hstream]

lemma answer_of_ok {ps : List (Pull α)} {rows : List Row} (h : Pulled q ps)
    (hstream : q.rowStream = .ok (rows.map .ok)) {k : Nat} {p : Pull α} (hp : ps[k]? = some p) :
    p.answer = match rows[k]? with
      | some row => (q.decodeRow p.decode row).map fun a => .row (some a)
      | none => .ok (.row none) := by
  rw [(h.calls k p hp).1, rowAt, hstream]
  simp only [List.getElem?_map]
  cases rows[k]? with
  | none => rfl
  | some row =>
    simp only [Option.map_some, decodeItem]
    cases q.decodeRow p.decode row <;> rfl

lemma sent_of_ok {ps : List (Pull α)} {stream : RowStream} (h : Pulled q ps)
    (hstream : q.rowStream = .ok stream) :
    ps.flatMap Pull.sent = if ps = [] then [] else q.opening := by
  -- The first call opens the stream, and the calls behind it send nothing.
  rcases ps with _ | ⟨p, ps⟩
  · rfl
  have hfirst := (h.calls 0 p rfl).2
  rw [openingAt, hstream] at hfirst
  have hrest : ps.flatMap Pull.sent = [] := by
    rw [List.flatMap_eq_nil_iff]
    intro r hr
    obtain ⟨k, hk⟩ := List.mem_iff_getElem?.1 hr
    have hlater := (h.calls (k + 1) r (by simpa using hk)).2
    rwa [openingAt, hstream] at hlater
  rw [List.flatMap_cons, hfirst, hrest]
  simp

end Pulled

section memory

variable {n : Nat} {m : MemorySource} (hlink : q.link = some ⟨n, m.toSource⟩)

include hlink

lemma rowStream_of_answering (hfailure : m.failure = none) :
    q.rowStream = .ok ((m.rowsFor q.statement.sql).map .ok) := by
  simp [rowStream, hlink, MemorySource.toSource, hfailure, Run.mapError_ok]

lemma rowStream_of_failing {reason : String} (hfailure : m.failure = some reason) :
    q.rowStream = .error (.source reason) := by
  simp [rowStream, hlink, MemorySource.toSource, hfailure, Run.mapError_error]

end memory

end Query

section run

variable {ν α : Type} [DecidableEq ν]

namespace World

/-- A step leaves every variable alone but its own. -/
lemma step_query_of_ne (w : World ν) {s : Step ν α} {x : ν} (h : s.target ≠ x) :
    (w.step s).2.query x = w.query x := by
  have hstore : ∀ q σ, (w.store s.target q σ).query x = w.query x := fun q σ =>
    Function.update_of_ne (Ne.symm h) _ _
  cases s with
  | call y c z =>
    rcases hrefused : (w.query y).refusal? c with _ | e
    · rw [step_call_of_accepted hrefused]
      exact hstore _ _
    · rw [step_call_of_refused hrefused]
  | _ => exact hstore _ _

/-- A query that a step stores has no open stream. -/
lemma cursor_step_target (w : World ν) {s : Step ν α} (hrun : s.isRun = false)
    (h : (w.step s).1.isOk = true) : ((w.step s).2.query s.target).cursor = none := by
  have hstore : ∀ q σ, (w.store s.target q σ).query s.target = q := fun q σ =>
    Function.update_self _ _ _
  cases s with
  | call y c z =>
    rcases hrefused : (w.query y).refusal? c with _ | e
    · rw [step_call_of_accepted hrefused]
      exact (congrArg Query.cursor (hstore _ _)).trans (Query.call_cursor hrefused _)
    · rw [step_call_of_refused hrefused] at h
      contradiction
  | run op y decode => contradiction
  | _ => exact congrArg Query.cursor (hstore _ _)

lemma step_of_refused (w : World ν) {s : Step ν α} (hrun : s.isRun = false)
    (h : (w.step s).1.isOk = false) : (w.step s).2 = w := by
  cases s with
  | call y c z =>
    rcases hrefused : (w.query y).refusal? c with _ | e
    · rw [step_call_of_accepted hrefused] at h
      contradiction
    · rw [step_call_of_refused hrefused]
  | _ => contradiction

lemma pullsAfter_run (op : Operation) (x : ν) (decode : Row → Option α) (ps : List (Pull α))
    (answer : Except QueryError (Output α)) (sent : List (Nat × String)) :
    pullsAfter x ps ⟨.run op x decode, answer, sent⟩ =
      if op = .next then ps ++ [⟨decode, answer, sent⟩] else ps := by
  unfold pullsAfter
  cases op <;> simp [Step.target]

lemma pulled_run {w : World ν} {x : ν} {ps : List (Pull α)} (h : (w.query x).Pulled ps)
    (op : Operation) (decode : Row → Option α) :
    ((w.step (.run op x decode)).2.query x).Pulled (pullsAfter x ps
      ⟨.run op x decode, (w.step (.run op x decode)).1,
        (w.step (.run op x decode)).2.session.sent.drop w.session.sent.length⟩) := by
  have hquery : (w.step (.run op x decode)).2.query x =
      (((w.query x).perform decode op).run w.session).1.2 := Function.update_self _ _ _
  rw [hquery, pullsAfter_run]
  by_cases hop : op = .next
  · subst hop
    rw [if_pos rfl]
    exact h.next decode w.session
  · rw [if_neg hop, (w.query x).perform_query decode hop]
    exact h

lemma pullsAfter_of_not_isRun {s : Step ν α} (h : s.isRun = false) (ps : List (Pull α))
    (answer : Except QueryError (Output α)) (sent : List (Nat × String)) :
    pullsAfter s.target ps ⟨s, answer, sent⟩ = if answer.isOk then [] else ps := by
  rw [pullsAfter, if_pos rfl]
  cases s with
  | run op y decode => contradiction
  | _ => rfl

lemma pulled_step {w : World ν} {x : ν} {ps : List (Pull α)} (h : (w.query x).Pulled ps)
    (s : Step ν α) :
    ((w.step s).2.query x).Pulled (pullsAfter x ps
      ⟨s, (w.step s).1, (w.step s).2.session.sent.drop w.session.sent.length⟩) := by
  by_cases htarget : s.target = x
  · by_cases hrun : s.isRun = true
    · cases s with
      | run op y decode =>
        obtain rfl : y = x := htarget
        exact pulled_run h op decode
      | _ => contradiction
    · rw [Bool.not_eq_true] at hrun
      subst htarget
      rw [pullsAfter_of_not_isRun hrun]
      split
      · rename_i hok
        exact .nil (cursor_step_target w hrun hok)
      · rename_i hok
        rw [step_of_refused w hrun (Bool.not_eq_true _ ▸ hok)]
        exact h
  · rw [pullsAfter, if_neg htarget, step_query_of_ne w htarget]
    exact h

lemma pulled_after {w : World ν} {x : ν} {ps : List (Pull α)} (h : (w.query x).Pulled ps)
    (steps : List (Step ν α)) :
    ((w.after steps).query x).Pulled ((w.trace steps).foldl (pullsAfter x) ps) := by
  induction steps generalizing w ps with
  | nil => exact h
  | cons s steps ih => exact ih (pulled_step h s)

/-- The calls for the next row on a variable answer the rows of its source in order, each once, and
then none, and the first of them sends the one statement. Without a source, or with one that fails,
each answers that error and leaves no stream open. No step on another variable changes the query, and
a query that a step stores has no open stream. -/
theorem pulls_in_order {w : World ν} (hw : ∀ y, (w.query y).cursor = none)
    {steps : List (Step ν α)} {x : ν} {q : Query} {ps : List (Pull α)}
    (hq : (w.after steps).query x = q) (hps : pulls x (w.trace steps) = ps) :
    (∀ n (m : MemorySource), q.link = some ⟨n, m.toSource⟩ → m.failure = none →
      (∀ (k : Nat) (p : Pull α), ps[k]? = some p →
        p.answer = match (m.rowsFor q.statement.sql)[k]? with
          | some row => (q.decodeRow p.decode row).map fun a => .row (some a)
          | none => .ok (.row none)) ∧
      ps.flatMap Pull.sent = if ps = [] then [] else [(n, q.statement.sql)]) ∧
    (∀ n (m : MemorySource) reason, q.link = some ⟨n, m.toSource⟩ → m.failure = some reason →
      (∀ p ∈ ps, p.answer = .error (.source reason)) ∧ q.cursor = none) ∧
    (q.link = none →
      (∀ p ∈ ps, p.answer = .error (.noSource q.statement.table.name) ∧ p.sent = []) ∧
        q.cursor = none) ∧
    ∀ s : Step ν α,
      (s.target ≠ x → ((w.after steps).step s).2.query x = q) ∧
      (s.isRun = false → ((w.after steps).step s).1.isOk = true →
        (((w.after steps).step s).2.query s.target).cursor = none) := by
  have hpulled : q.Pulled ps := by
    rw [← hq, ← hps]
    exact pulled_after (.nil (hw x)) steps
  refine ⟨fun n m hlink hfailure => ?_, fun n m reason hlink hfailure => ?_, fun hlink => ?_,
    fun s => ⟨fun htarget => ?_, cursor_step_target _⟩⟩
  · have hstream := Query.rowStream_of_answering hlink hfailure
    refine ⟨fun k p => hpulled.answer_of_ok hstream, ?_⟩
    rw [hpulled.sent_of_ok hstream, Query.opening, hlink]
    rfl
  · obtain ⟨hanswers, hcursor⟩ := hpulled.of_error (Query.rowStream_of_failing hlink hfailure)
    exact ⟨fun p hp => (hanswers p hp).1, hcursor⟩
  · have hstream : q.rowStream = .error (.noSource q.statement.table.name) := by
      rw [Query.rowStream, hlink]
    obtain ⟨hanswers, hcursor⟩ := hpulled.of_error hstream
    have hopening : q.opening = [] := by
      rw [Query.opening, hlink]
      rfl
    rw [hopening] at hanswers
    exact ⟨hanswers, hcursor⟩
  · rw [step_query_of_ne _ htarget, hq]

/-- The identifier in a row, if it is a number. -/
def identifier (row : Row) : Option Nat :=
  match Json.member? "id" row with
  | some (.integer n) => some n.toNat
  | _ => none

/-- Two variables with the same query, bound to a source whose second row has no number. -/
def shared : World Bool where
  query _ := Query.fresh ⟨"sales", .mergeTree⟩ {} (some ⟨0, MemorySource.toSource
    { defaultRows := [[("id", .integer 7)], [("id", .string "x")]] }⟩)
  session := {}

/-- The rows of one variable, with a clone that is read and changed in between. -/
def interleaved : List (Step Bool Nat) :=
  [.run .next false identifier, .clone false true, .run .next true identifier,
    .run .next false identifier, .call false (.limit 1) true, .run .next false identifier]

theorem pulls_interleaved :
    (∀ y, (shared.query y).cursor = none) ∧
      (pulls false (shared.trace interleaved)).map Pull.answer =
        [.ok (.row (some 7)), .error (.undecodable "sales"), .ok (.row none)] ∧
      (pulls false (shared.trace interleaved)).flatMap Pull.sent = [(0, "SELECT * FROM sales")] := by
  have hfresh : ∀ y, (shared.query y).cursor = none := fun _ => rfl
  have hspec := @pulls_in_order Bool Nat _ shared hfresh interleaved false _ _ rfl rfl
  obtain ⟨hrows, hsent⟩ :=
    hspec.1 0 { defaultRows := [[("id", .integer 7)], [("id", .string "x")]] } rfl rfl
  refine ⟨hfresh, ?_, hsent⟩
  have hfirst := hrows 0 _ rfl
  have hsecond := hrows 1 _ rfl
  have hthird := hrows 2 _ rfl
  exact congrArg₂ List.cons hfirst (congrArg₂ List.cons hsecond (congrArg₂ List.cons hthird rfl))

end World

end run

end SqlCompose
