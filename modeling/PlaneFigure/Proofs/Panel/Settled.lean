import PlaneFigure.Proofs.Panel.Interleaving

/-!
# What a panel comes to show

When every request is answered by one client, and a client answers equal requests equally, the
state of a panel that waits for nothing is determined by the calls alone: by the properties
that were given to it one after the other. How the answers were interleaved with the calls and
with each other leaves no trace. Responses and errors of earlier generations, properties that
were given twice in a row, and properties that came back after others all wash out.

Two quantities follow the calls at every moment. The properties of the panel are those of the
last call, and its generation counts the calls whose properties differ from those of the call
before. The status follows only once nothing waits; it is then the outcome of the last call.

From every session nothing waits any more as soon as the waiting updates have been answered,
in whatever order.
-/

namespace PlaneFigure.Panel

/-- The properties that an event gives to the panel. -/
def Event.started? : Event → Option Props
  | .start props => some props
  | .finish .. => none

/-- The properties that were given to the panel, one after the other. -/
def started (events : List Event) : List Props := events.filterMap Event.started?

/-- One client answers all requests. -/
def AnsweredBy (client : Client) (events : List Event) : Prop :=
  ∀ ticket answering, .finish ticket answering ∈ events → answering = client

/-- How many calls have properties other than those of the call before; the first call is
compared with the properties that were there beforehand. -/
def changesAfter (before : Option Props) (calls : List Props) : Nat :=
  ((before :: calls.map some).zip calls).countP fun pair => pair.1 ≠ some pair.2

/-- How many calls have properties other than those of the call before. The first call has none
before it and counts. -/
def changes (calls : List Props) : Nat := changesAfter none calls

/-- The panel that has been given properties one after the other and waits for nothing. -/
def settled (client : Client) (calls : List Props) : Panel :=
  match calls.getLast? with
  | none => fresh
  | some last => ⟨.ofOutcome (last.outcome client), changes calls, some last⟩

/-- A call compares its properties with those before it. -/
theorem changesAfter_cons (before : Option Props) (props : Props) (calls : List Props) :
    changesAfter before (props :: calls) =
      changesAfter (some props) calls + if before = some props then 0 else 1 := by
  by_cases same : before = some props <;> simp [changesAfter, same]

/-- The last call compares its properties with those of the call before it, or with those that
were there beforehand. -/
theorem changesAfter_snoc (before : Option Props) (calls : List Props) (props : Props) :
    changesAfter before (calls ++ [props]) =
      changesAfter before calls + if calls.getLast?.or before = some props then 0 else 1 := by
  induction calls generalizing before with
  | nil =>
    have latest : ([] : List Props).getLast?.or before = before := rfl
    rw [List.nil_append, changesAfter_cons, latest]
    simp [changesAfter]
  | cons first rest inductionHypothesis =>
    have latest : (first :: rest).getLast?.or before = rest.getLast?.or (some first) := by
      rw [List.getLast?_cons]
      cases rest.getLast? <;> rfl
    rw [List.cons_append, changesAfter_cons, changesAfter_cons, inductionHypothesis, latest]
    omega

/-- A call with the properties of the call before it changes nothing. -/
theorem changes_snoc (calls : List Props) (props : Props) :
    changes (calls ++ [props]) =
      changes calls + if calls.getLast? = some props then 0 else 1 := by
  rw [changes, changesAfter_snoc, Option.or_none]
  rfl

/-- A start is one more call. -/
theorem started_snoc_start (events : List Event) (props : Props) :
    started (events ++ [.start props]) = started events ++ [props] := by
  simp [started, Event.started?]

/-- A finish is no call. -/
theorem started_snoc_finish (events : List Event) (ticket : Ticket) (client : Client) :
    started (events ++ [.finish ticket client]) = started events := by
  simp [started, Event.started?]

/-- Properties and generation of the panel follow the calls. -/
def FollowsCalls (events : List Event) (panel : Panel) : Prop :=
  panel.props = (started events).getLast? ∧ panel.generation = changes (started events)

/-- A start takes in the properties of the call, and begins a generation exactly if they are
other properties than those of the call before. -/
theorem FollowsCalls.start (events : List Event) (session : Session) (props : Props)
    (follows : FollowsCalls events session.panel) :
    FollowsCalls (events ++ [.start props]) (session.start props).1.panel := by
  obtain ⟨latest, counted⟩ := follows
  unfold FollowsCalls
  rw [started_snoc_start, List.getLast?_concat, changes_snoc, ← latest, ← counted]
  by_cases same : session.panel.props = some props
  · rw [start_of_same session props same, if_pos same]
    exact ⟨same, rfl⟩
  · rw [start_of_different session props same, if_neg same]
    exact ⟨rfl, rfl⟩

/-- A finish changes neither properties nor generation. -/
theorem FollowsCalls.finish (events : List Event) (session : Session) (ticket : Ticket)
    (client : Client) (follows : FollowsCalls events session.panel) :
    FollowsCalls (events ++ [.finish ticket client]) (session.finish ticket client).1.panel := by
  unfold FollowsCalls
  rw [started_snoc_finish]
  by_cases latest : ticket.generation = session.panel.generation
  · rw [finish_of_latest session ticket client latest]
    exact follows
  · rw [finish_of_stale session ticket client latest]
    exact follows

/-- In every session that a run leads to, properties and generation follow the calls. -/
theorem Run.followsCalls (events : List Event) (session : Session) (run : Run events session) :
    FollowsCalls events session.panel := by
  induction run with
  | fresh => exact ⟨rfl, rfl⟩
  | snoc events session event next run step inductionHypothesis =>
    cases step with
    | start props => exact inductionHypothesis.start events session props
    | finish ticket client waits =>
      exact inductionHypothesis.finish events session ticket client

/-- A panel is determined by its status, its generation and its properties. -/
theorem eq_of_parts (panel other : Panel) (status : panel.status = other.status)
    (generation : panel.generation = other.generation) (props : panel.props = other.props) :
    panel = other := by
  cases panel
  cases other
  simp only at status generation props
  rw [status, generation, props]

/-- A panel that waits for nothing shows the outcome of the last call, whichever answers came
before. -/
theorem Run.panel_eq_settled (client : Client) (events : List Event) (session : Session)
    (run : Run events session) (answered : AnsweredBy client events)
    (quiet : session.waiting = []) : session.panel = settled client (started events) := by
  have consistent := run.consistent
  obtain ⟨latest, counted⟩ := run.followsCalls
  cases calls : (started events).getLast? with
  | none =>
    have vacant : session.panel.props = none := latest.trans calls
    have zero := consistent.vacant.mp vacant
    have idle := consistent.idle.mpr zero
    rw [settled, calls]
    exact eq_of_parts _ _ idle zero vacant
  | some last =>
    have present : session.panel.props = some last := latest.trans calls
    have begun : session.panel.generation ≠ 0 := by
      intro zero
      rw [consistent.vacant.mpr zero] at present
      cases present
    -- The last generation has a ticket, which does not wait any more and so has finished.
    rcases consistent.pending_or_settled begun with
      ⟨_, ticket, waits, _⟩ | ⟨ticket, answering, done, newest, shown⟩
    · rw [quiet] at waits
      cases waits
    · obtain rfl : answering = client :=
        answered ticket answering ((mem_finished events ticket answering).mp done)
      have known : ticket ∈ session.waiting ++ (finished events).map Prod.fst :=
        List.mem_append_right _ (List.mem_map_of_mem done)
      have carried := consistent.latest ticket known newest
      obtain rfl : ticket.props = last := Option.some.inj (carried.symm.trans present)
      rw [settled, calls]
      exact eq_of_parts _ _ shown counted present

/-- A fresh panel that is given properties once shows their outcome. -/
theorem update_fresh (client : Client) (props : Props) :
    Panel.fresh.update client props = ⟨.ofOutcome (props.outcome client), 1, some props⟩ := rfl

/-- A finish with the client keeps all requests answered by it. -/
theorem AnsweredBy.snoc_finish (client : Client) (events : List Event) (ticket : Ticket)
    (answered : AnsweredBy client events) :
    AnsweredBy client (events ++ [.finish ticket client]) := by
  intro other answering member
  rcases List.mem_append.mp member with before | last
  · exact answered other answering before
  · exact (Event.finish.inj (List.mem_singleton.mp last)).2

/-- The waiting updates of a session can be answered in any order. Nothing waits then, and the
panel is the one that the calls determine. -/
theorem Run.settles (client : Client) (order : List Ticket) (events : List Event)
    (session : Session) (run : Run events session) (answered : AnsweredBy client events)
    (all : order.Perm session.waiting) :
    ∃ ended, Run (events ++ order.map (.finish · client)) ended ∧ ended.waiting = [] ∧
      ended.panel = settled client (started events) := by
  induction order generalizing events session with
  | nil =>
    have quiet : session.waiting = [] := all.nil_eq.symm
    exact ⟨session, by simpa using run, quiet,
      run.panel_eq_settled client events session answered quiet⟩
  | cons ticket rest inductionHypothesis =>
    have waits : ticket ∈ session.waiting := all.subset List.mem_cons_self
    have next := Run.snoc events session _ _ run (.finish session ticket client waits)
    have remaining : rest.Perm (session.finish ticket client).1.waiting :=
      (all.trans (List.perm_cons_erase waits)).cons_inv
    obtain ⟨ended, ends, quiet, determined⟩ :=
      inductionHypothesis _ _ next (answered.snoc_finish client events ticket) remaining
    rw [started_snoc_finish] at determined
    exact ⟨ended, by simpa using ends, quiet, determined⟩

/-- Let the requests of a panel all be answered by one client, and let there be a last call. As
soon as the panel waits for nothing, it has the status and the view of a fresh panel that was
only given the properties of the last call, its generation counts the calls whose properties
differ from those of the call before, and every other run with the same calls leads to the same
panel. The updates that still wait may be answered in any order to get there. -/
theorem settles_as_fresh (client : Client) (events : List Event) (session : Session)
    (run : Run events session) (answered : AnsweredBy client events) (last : Props)
    (latest : (started events).getLast? = some last) :
    (session.waiting = [] →
      session.panel.status = (Panel.fresh.update client last).status ∧
      session.panel.status.view = (Panel.fresh.update client last).status.view ∧
      session.panel.generation = changes (started events) ∧
      ∀ others other, Run others other → AnsweredBy client others → other.waiting = [] →
        started others = started events → other.panel = session.panel) ∧
    ∀ order : List Ticket, order.Perm session.waiting →
      ∃ ended, Run (events ++ order.map (.finish · client)) ended ∧ ended.waiting = [] ∧
        ended.panel.status = (Panel.fresh.update client last).status := by
  have shown : settled client (started events) =
      ⟨.ofOutcome (last.outcome client), changes (started events), some last⟩ := by
    rw [settled, latest]
  rw [update_fresh]
  constructor
  · intro quiet
    have determined := run.panel_eq_settled client events session answered quiet
    rw [determined, shown]
    refine ⟨rfl, rfl, rfl, ?_⟩
    intro others other alsoRun alsoAnswered alsoQuiet same
    rw [alsoRun.panel_eq_settled client others other alsoAnswered alsoQuiet, same, shown]
  · intro order all
    obtain ⟨ended, ends, quiet, determined⟩ := run.settles client order events session answered all
    rw [shown] at determined
    exact ⟨ended, ends, quiet, by rw [determined]⟩

/-- The client that shows the name of the goal it is asked for. -/
def naming : Client := fun request => .ok ⟨some (.text request.goal.text)⟩

/-- The cursor leaves a goal and returns to it, the last properties are given twice, and the
answers come with the latest one first. -/
def overlapping : List Event :=
  [.start onGoal, .start offGoal, .start onGoal, .start onGoal, .finish ⟨3, onGoal⟩ naming,
    .finish ⟨1, onGoal⟩ naming, .finish ⟨2, offGoal⟩ naming]

/-- Four calls make three generations, and the error of the second one leaves no trace. -/
theorem settles_as_fresh_overlapping :
    ∃ session, Run overlapping session ∧ session.waiting = [] ∧
      session.panel.status = (Panel.fresh.update naming onGoal).status ∧
      session.panel.status.view = .text "g" ∧ session.panel.generation = 3 := by
  have run : Run overlapping ⟨⟨.resolved ⟨some (.text "g")⟩, 3, some onGoal⟩, []⟩ :=
    .snoc _ _ _ _ (.snoc _ _ _ _ (.snoc _ _ _ _ (.snoc _ _ _ _ (.snoc _ _ _ _ (.snoc _ _ _ _
      (.snoc _ _ _ _ .fresh (.start _ _)) (.start _ _)) (.start _ _)) (.start _ _))
      (.finish _ _ _ (by decide))) (.finish _ _ _ (by decide))) (.finish _ _ _ (by decide))
  have answered : AnsweredBy naming overlapping := by
    intro ticket answering member
    simp only [overlapping, List.mem_cons, List.not_mem_nil, or_false, reduceCtorEq, false_or,
      Event.finish.injEq] at member
    rcases member with ⟨_, same⟩ | ⟨_, same⟩ | ⟨_, same⟩ <;> exact same
  obtain ⟨settles, _⟩ := settles_as_fresh naming overlapping _ run answered onGoal rfl
  obtain ⟨status, view, generation, _⟩ := settles rfl
  exact ⟨_, run, rfl, status, view, generation.trans (by decide)⟩

end PlaneFigure.Panel
