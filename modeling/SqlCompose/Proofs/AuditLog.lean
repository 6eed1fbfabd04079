import SqlCompose.Proofs.Refusals

/-!
# The log of a program

A query that logs its statements as information logs each one right before it is sent. So over a run
of a program the information in the log and the statements at the source are two accounts of one list
of requests, and what is refused appears in neither.
-/

namespace SqlCompose

/-- A statement on its way to a source, with the operation and the table for which it is sent. -/
structure Request where
  operation : Operation
  table : String
  number : Nat
  sql : String

def Request.event (r : Request) : Event where
  level := .info
  message := "[" ++ r.operation.label ++ "] " ++ r.sql
  table := some r.table

def Session.infos (σ : Session) : List Event :=
  σ.events.filter (·.level = .info)

/-- From the first session to the second the requests were logged as information and sent. -/
structure Session.Reports (σ τ : Session) (rs : List Request) : Prop where
  infos : τ.infos = σ.infos ++ rs.map Request.event
  sent : τ.sent = σ.sent ++ rs.map fun r => (r.number, r.sql)

namespace Session.Reports

variable {σ τ υ : Session} {rs rs' : List Request}

lemma refl (σ : Session) : σ.Reports σ [] where
  infos := by simp
  sent := by simp

lemma trans (h : σ.Reports τ rs) (h' : τ.Reports υ rs') : σ.Reports υ (rs ++ rs') where
  infos := by rw [h'.infos, h.infos, List.map_append, List.append_assoc]
  sent := by rw [h'.sent, h.sent, List.map_append, List.append_assoc]

lemma log (h : σ.Reports τ rs) {e : Event} (he : e.level ≠ .info) : σ.Reports (τ.log e) rs where
  infos := by
    rw [← h.infos]
    simp [Session.infos, Session.log, he]
  sent := h.sent

lemma sentTo (h : σ.Reports τ rs) {n : Nat} (hrs : ∀ r ∈ rs, r.number = n) :
    τ.sentTo n = σ.sentTo n ++ rs.map Request.sql := by
  have hsent : (rs.map fun r => (r.number, r.sql)).filter (fun entry => entry.1 = n) =
      rs.map fun r => (r.number, r.sql) := by
    rw [List.filter_eq_self]
    intro entry hentry
    obtain ⟨r, hr, rfl⟩ := List.mem_map.1 hentry
    simpa using hrs r hr
  rw [Session.sentTo, h.sent, List.filter_append, hsent, List.map_append, List.map_map]
  rfl

end Session.Reports

namespace Query

variable {α : Type} (q : Query)

/-- The statement that an operation sends, if there is anything to send. -/
def request? : Operation → Option String
  | .all => some q.statement.sql
  | .first => some (q.statement.limit 1).sql
  | .count => some (countSql q.statement.sql)
  | .next => if q.isIterating then none else some q.statement.sql
  | .delete =>
    if q.statement.conditions.isEmpty then none
    else some ("ALTER TABLE " ++ q.statement.table.name ++ " DELETE " ++ q.statement.whereClause)

/-- Only a query that is bound to a source sends anything. -/
def requests (op : Operation) : List Request :=
  match q.link, q.request? op with
  | some link, some sql => [⟨op, q.statement.table.name, link.number, sql⟩]
  | _, _ => []

variable {q} {link : Link}

lemma reports_dispatched (hlog : q.statement.settings.logQueries = true) (op : Operation)
    (sql : String) (σ : Session) :
    σ.Reports (q.dispatched link op sql σ) [⟨op, q.statement.table.name, link.number, sql⟩] := by
  constructor
  · simp [dispatched, Session.infos, Session.logAll, Session.send, statementEvents, hlog,
      Request.event]
  · simp [dispatched, Session.logAll, Session.send]

lemma requests_of_unbound (hq : q.link = none) (op : Operation) : q.requests op = [] := by
  rw [requests, hq]

lemma requests_of_bound (hq : q.link = some link) (op : Operation) :
    q.requests op = (q.request? op).toList.map fun sql =>
      ⟨op, q.statement.table.name, link.number, sql⟩ := by
  rw [requests, hq]
  cases q.request? op <;> rfl

/-- An operation logs and sends what it requests, whatever the source answers. -/
theorem reports_perform (hlog : q.statement.settings.logQueries = true)
    (decode : Row → Option α) (op : Operation) (σ : Session) :
    σ.Reports ((q.perform decode op).run σ).2 (q.requests op) := by
  rcases hlink : q.link with _ | link
  · rw [requests_of_unbound hlink, perform_session_of_unbound hlink]
    exact .refl σ
  rw [requests_of_bound hlink]
  cases op with
  | all =>
    rw [perform_all, all_run hlink]
    split
    · exact reports_dispatched hlog .all _ σ
    · exact (reports_dispatched hlog .all _ σ).log Level.noConfusion
  | first =>
    rw [perform_first, first_run hlink]
    exact reports_dispatched hlog .first _ σ
  | count =>
    rw [perform_count, count_run hlink]
    exact reports_dispatched hlog .count _ σ
  | next =>
    rw [perform_next, next_eq]
    rcases hcursor : q.cursor with _ | stream
    · rw [openCursor_run_of_none hcursor, start_run hlink, request?, isIterating, hcursor]
      exact reports_dispatched hlog .next _ σ
    · rw [openCursor_run_of_some hcursor, request?, isIterating, hcursor]
      exact .refl σ
  | delete =>
    by_cases hnil : q.statement.conditions = []
    · rw [perform_delete, delete_run_of_nil hnil]
      simpa [request?, hnil] using Session.Reports.refl σ
    · rw [perform_delete, delete_run_of_some hlink (Statement.deletion?_eq hnil), request?,
        if_neg (by simpa using hnil)]
      exact reports_dispatched hlog .delete _ σ

/-- Where the source is down, whatever is requested fails with its reason. -/
lemma perform_of_failing {m : MemorySource} {reason : String} (hq : q.link = some link)
    (hm : link.source = m.toSource) (hfailure : m.failure = some reason) {op : Operation}
    (h : q.requests op ≠ []) (decode : Row → Option α) (σ : Session) :
    ((q.perform decode op).run σ).1.1 = .error (.source reason) := by
  have hquery : ∀ sql, link.source.query sql = .error reason := by
    simp [hm, MemorySource.toSource, hfailure]
  have hexecute : ∀ sql, link.source.execute sql = .error reason := by
    simp [hm, MemorySource.toSource, hfailure]
  rw [requests_of_bound hq] at h
  cases op with
  | all => rw [perform_all, all_run hq, hquery]; rfl
  | first => rw [perform_first, first_run hq, hquery]; rfl
  | count => rw [perform_count, count_run hq, hquery]; rfl
  | next =>
    rcases hcursor : q.cursor with _ | stream
    · rw [perform_next, next_eq, openCursor_run_of_none hcursor, start_run hq, hquery]
      rfl
    · simp [request?, isIterating, hcursor] at h
  | delete =>
    by_cases hnil : q.statement.conditions = []
    · simp [request?, hnil] at h
    · rw [perform_delete, delete_run_of_some hq (Statement.deletion?_eq hnil), hexecute]
      rfl

end Query

/-- The query logs its statements as information and sends them to no other source. -/
structure Query.Audited (link : Link) (q : Query) : Prop where
  logs : q.statement.settings.logQueries = true
  bound : ∀ l ∈ q.link, l = link

/-- The call keeps to the log and to the source. -/
def Call.Audited (link : Link) : Call → Prop
  | .withSettings settings => settings.logQueries = true
  | .bindTo l => l = link
  | _ => True

def Step.Audited {ν α : Type} (link : Link) : Step ν α → Prop
  | make _ _ settings l => settings.logQueries = true ∧ ∀ l' ∈ l, l' = link
  | call _ c _ => c.Audited link
  | _ => True

namespace Query

variable {α : Type} {q : Query} {link : Link}

lemma call_infos (q : Query) (c : Call) (σ : Session) : ((q.call c).run σ).2.infos = σ.infos := by
  cases c with
  | exclude l =>
    show (σ.logAll (l.warnings .ne)).infos = σ.infos
    simp [Session.infos, Session.logAll, Lookup.warnings]
  | final =>
    unfold call
    cases q.statement.final <;> rfl
  | _ => rfl

/-- A call requests nothing, though it may log a warning. -/
lemma reports_call (q : Query) (c : Call) (σ : Session) :
    σ.Reports ((q.call c).run σ).2 [] where
  infos := by rw [call_infos, List.map_nil, List.append_nil]
  sent := by rw [call_sent, List.map_nil, List.append_nil]

lemma call_logQueries (s : Statement) {c : Call} (hc : c.Audited link)
    (h : s.settings.logQueries = true) : (s.call c).settings.logQueries = true := by
  cases c with
  | filter input => rw [Statement.call, Statement.filter_eq]; exact h
  | final => rw [Statement.call_final]; split <;> exact h
  | withSettings settings => exact hc
  | _ => exact h

lemma call_link (q : Query) (c : Call) (σ : Session) :
    ((q.call c).run σ).1.link = match c with
      | .bindTo l => some l
      | _ => q.link := by
  cases c with
  | final =>
    unfold call
    cases q.statement.final <;> rfl
  | _ => rfl

lemma Audited.call (h : q.Audited link) {c : Call} (hc : c.Audited link) (σ : Session) :
    ((q.call c).run σ).1.Audited link where
  logs := by
    rw [call_statement]
    exact call_logQueries q.statement hc h.logs
  bound := by
    rw [call_link]
    cases c with
    | bindTo l => rintro l' ⟨⟩; exact hc
    | _ => exact h.bound

lemma Audited.reset (h : q.Audited link) : q.reset.Audited link :=
  ⟨h.logs, h.bound⟩

lemma Audited.perform (h : q.Audited link) (decode : Row → Option α) (op : Operation)
    (σ : Session) : ((q.perform decode op).run σ).1.2.Audited link := by
  by_cases hop : op = .next
  · subst hop
    rw [perform_next, next_eq]
    cases (q.openCursor.run.run σ).1 <;> exact ⟨h.logs, h.bound⟩
  · rw [q.perform_query decode hop]
    exact h

lemma Audited.number (h : q.Audited link) (op : Operation) :
    ∀ r ∈ q.requests op, r.number = link.number := by
  intro r hr
  rcases hlink : q.link with _ | l
  · simp [requests_of_unbound hlink] at hr
  · obtain rfl := h.bound l hlink
    rw [requests_of_bound hlink] at hr
    obtain ⟨sql, -, rfl⟩ := List.mem_map.1 hr
    rfl

end Query

namespace World

variable {ν α : Type} {link : Link}

/-- What a step requests of the sources. -/
def requests (w : World ν) : Step ν α → List Request
  | .run op x _ => (w.query x).requests op
  | _ => []

def Audited (link : Link) (w : World ν) : Prop :=
  ∀ x, (w.query x).Audited link

lemma number_requests {w : World ν} (h : w.Audited link) (s : Step ν α) :
    ∀ r ∈ w.requests s, r.number = link.number := by
  cases s with
  | run op x decode => exact (h x).number op
  | _ => intro r hr; contradiction

variable [DecidableEq ν]

/-- What the steps of a run request, in order. -/
def requested (w : World ν) : List (Step ν α) → List Request
  | [] => []
  | s :: rest => w.requests s ++ requested (w.step s).2 rest

lemma Audited.store {w : World ν} (h : w.Audited link) {q : Query} (hq : q.Audited link) (x : ν)
    (σ : Session) : (w.store x q σ).Audited link := by
  intro y
  show (Function.update w.query x q y).Audited link
  by_cases hy : y = x
  · subst hy
    rwa [Function.update_self]
  · rw [Function.update_of_ne hy]
    exact h y

/-- A step keeps every query to the log and to the source. -/
lemma Audited.step {w : World ν} (h : w.Audited link) {s : Step ν α} (hs : s.Audited link) :
    (w.step s).2.Audited link := by
  cases s with
  | make x table settings l => exact h.store ⟨hs.1, hs.2⟩ x _
  | clone x y => exact h.store (h x).reset y _
  | call x c y =>
    rcases hrefused : (w.query x).refusal? c with _ | e
    · rw [step_call_of_accepted hrefused]
      exact h.store ((h x).call hs _) y _
    · rw [step_call_of_refused hrefused]
      exact h
  | reset x => exact h.store (h x).reset x _
  | run op x decode => exact h.store ((h x).perform decode op _) x _

/-- A step logs and sends what it requests. -/
lemma reports_step {w : World ν} (h : w.Audited link) (s : Step ν α) :
    w.session.Reports (w.step s).2.session (w.requests s) := by
  cases s with
  | call x c y =>
    rcases hrefused : (w.query x).refusal? c with _ | e
    · rw [step_call_of_accepted hrefused]
      exact (w.query x).reports_call c w.session
    · rw [step_call_of_refused hrefused]
      exact .refl w.session
  | run op x decode => exact Query.reports_perform (h x).logs decode op w.session
  | _ => exact .refl w.session

/-- Over a run the log and the source account for the same requests. -/
lemma reports_run {w : World ν} (h : w.Audited link) {steps : List (Step ν α)}
    (hsteps : ∀ s ∈ steps, s.Audited link) :
    w.session.Reports (w.after steps).session (w.requested steps) ∧
      ∀ r ∈ w.requested steps, r.number = link.number := by
  induction steps generalizing w with
  | nil => exact ⟨.refl w.session, by simp [requested]⟩
  | cons s steps ih =>
    obtain ⟨hs, hsteps⟩ := List.forall_mem_cons.1 hsteps
    obtain ⟨hreports, hnumbers⟩ := ih (h.step hs) hsteps
    refine ⟨(reports_step h s).trans hreports, fun r hr => ?_⟩
    rcases List.mem_append.1 hr with hr | hr
    · exact number_requests h s r hr
    · exact hnumbers r hr

lemma audited_after {w : World ν} (h : w.Audited link) {steps : List (Step ν α)}
    (hsteps : ∀ s ∈ steps, s.Audited link) : (w.after steps).Audited link := by
  induction steps generalizing w with
  | nil => exact h
  | cons s steps ih =>
    obtain ⟨hs, hsteps⟩ := List.forall_mem_cons.1 hsteps
    exact ih (h.step hs) hsteps

/-- Over a run the information in the log is, in order, the statements that the source received, one
for each request. An operation is refused exactly for its denial, and then nothing is logged and
nothing is sent; where the source fails, what was requested was logged and sent all the same. -/
theorem log_agrees_with_sent {w : World ν} (hw : ∀ x, (w.query x).Audited link)
    {steps : List (Step ν α)} (hsteps : ∀ s ∈ steps, s.Audited link) :
    ((w.after steps).session.infos =
        w.session.infos ++ (w.requested steps).map Request.event ∧
      (w.after steps).session.sentTo link.number =
        w.session.sentTo link.number ++ (w.requested steps).map Request.sql) ∧
    ∀ (op : Operation) (x : ν) (decode : Row → Option α) (e : QueryError),
      (((w.after steps).step (.run op x decode)).1 = .error e ∧ e.isRefusal = true ↔
        ((w.after steps).query x).denial? op = some e) ∧
      (((w.after steps).query x).denial? op = some e →
        ((w.after steps).step (.run op x decode)).2.session = (w.after steps).session) ∧
      ∀ (m : MemorySource) (reason : String), link.source = m.toSource →
        m.failure = some reason → (w.after steps).requests (.run op x decode) ≠ [] →
        ((w.after steps).step (.run op x decode)).1 = .error (.source reason) := by
  obtain ⟨hreports, hnumbers⟩ := reports_run hw hsteps
  refine ⟨⟨hreports.infos, hreports.sentTo hnumbers⟩, fun op x decode e =>
    ⟨?refused, fun h => ?silent, fun m reason hm hfailure h => ?failing⟩⟩
  case refused => exact Query.perform_refused_iff decode _
  case silent =>
    rw [step_run, Query.perform_of_denied h]
    rfl
  case failing =>
    rcases hlink : ((w.after steps).query x).link with _ | l
    · exact absurd (Query.requests_of_unbound hlink op) h
    · obtain rfl := (audited_after hw hsteps x).bound l hlink
      exact Query.perform_of_failing hlink hm hfailure h decode _

/-- A source that is down. -/
def outage : Link where
  number := 0
  source := MemorySource.toSource { failure := some "down" }

/-- Two queries without a source. -/
def unbound : World Bool where
  query _ := Query.fresh ⟨"sales", .mergeTree⟩ { logQueries := true } none
  session := {}

/-- Operations before and after one query is bound to the source, and a deletion without
conditions and with one. -/
def attempted : List (Step Bool Nat) :=
  [.run .delete false fun _ => none, .run .all false fun _ => none,
    .call false (.bindTo outage) false, .run .all false fun _ => none,
    .run .delete false fun _ => none, .run .next true fun _ => none,
    .call false (.filter (.condition (.leaf (.prepared "id" .eq (.int 7))))) true,
    .run .next true fun _ => none, .run .delete true fun _ => none]

theorem log_agrees_with_sent_in_outage :
    (unbound.after attempted).session.infos =
        [⟨.info, "[ALL] SELECT * FROM sales", some "sales"⟩,
          ⟨.info, "[NEXT] SELECT * FROM sales WHERE (id = 7)", some "sales"⟩,
          ⟨.info, "[DELETE] ALTER TABLE sales DELETE WHERE (id = 7)", some "sales"⟩] ∧
      (unbound.after attempted).session.sentTo 0 =
        ["SELECT * FROM sales", "SELECT * FROM sales WHERE (id = 7)",
          "ALTER TABLE sales DELETE WHERE (id = 7)"] := by
  have hqueries : ∀ x, (unbound.query x).Audited outage := fun _ => ⟨rfl, by rintro l ⟨⟩⟩
  have hsteps : ∀ s ∈ attempted, s.Audited outage := by
    simp [attempted, Step.Audited, Call.Audited]
  exact (log_agrees_with_sent hqueries hsteps).1

end World

end SqlCompose
