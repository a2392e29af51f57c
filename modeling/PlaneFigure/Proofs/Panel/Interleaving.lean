import Mathlib.Data.List.Nodup
import PlaneFigure.Panel

/-!
# Overlapping updates of a panel

An update takes two steps. Starting takes in properties and, unless they are the ones already
there, leaves a ticket that waits for an answer; finishing takes in the answer and drops the
ticket. Any number of tickets may wait, and they may finish in any order, each with whatever a
client answers then. A run is a sequence of such steps from a panel that was given nothing.

One invariant describes every state of a run. The generations of the tickets that wait and of
those that have finished are together exactly the generations that have begun, each once. The
ticket of the latest generation carries the properties of the panel; while it waits the panel
is pending, and once it has finished the panel shows its outcome. Nothing is assumed about the
order of steps, about properties that come back after others, or about clients. Generations
are natural numbers here, and a run has no more of them than it has starts.
-/

namespace PlaneFigure.Panel

/-- A step of some update. -/
inductive Event where
  | start (props : Props)
  /-- The update with this ticket finishes, and this client answers its request. -/
  | finish (ticket : Ticket) (client : Client)

/-- A panel with the tickets of the updates that wait for an answer. -/
structure Session where
  panel : Panel
  waiting : List Ticket

namespace Session

/-- The session before any update. -/
def fresh : Session := ⟨.fresh, []⟩

/-- Start an update. One that need not wait ends here and returns the status. -/
def start (session : Session) (props : Props) : Session × Option Status :=
  match session.panel.start props with
  | (panel, none) => (⟨panel, session.waiting⟩, some panel.status)
  | (panel, some ticket) => (⟨panel, session.waiting ++ [ticket]⟩, none)

/-- Finish an update, which then returns the status. -/
def finish (session : Session) (ticket : Ticket) (client : Client) : Session × Status :=
  let panel := session.panel.finish ticket (ticket.props.outcome client)
  (⟨panel, session.waiting.erase ticket⟩, panel.status)

end Session

/-- What one step does. Any properties may come at any time; only an update that waits can
finish. -/
inductive Step : Session → Event → Session → Prop where
  | start (session : Session) (props : Props) :
      Step session (.start props) (session.start props).1
  | finish (session : Session) (ticket : Ticket) (client : Client)
      (waits : ticket ∈ session.waiting) :
      Step session (.finish ticket client) (session.finish ticket client).1

/-- The sessions that a sequence of steps can lead to. -/
inductive Run : List Event → Session → Prop where
  | fresh : Run [] .fresh
  | snoc (events : List Event) (session : Session) (event : Event) (next : Session)
      (run : Run events session) (step : Step session event next) : Run (events ++ [event]) next

/-- The update that an event finishes, with the client that answers it. -/
def Event.finished? : Event → Option (Ticket × Client)
  | .start _ => none
  | .finish ticket client => some (ticket, client)

/-- Whether an event starts an update. -/
def Event.isStart : Event → Bool
  | .start _ => true
  | .finish .. => false

/-- The updates that have finished, in order, with the clients that answered them. -/
def finished (events : List Event) : List (Ticket × Client) := events.filterMap Event.finished?

/-- What holds of every session that a run leads to. -/
structure Consistent (events : List Event) (session : Session) : Prop where
  /-- Every generation that has begun is that of one ticket, which waits or has finished. -/
  generations : ((session.waiting ++ (finished events).map Prod.fst).map Ticket.generation).Perm
    (List.range' 1 session.panel.generation)
  /-- The ticket of the latest generation has the properties of the panel. -/
  latest : ∀ ticket ∈ session.waiting ++ (finished events).map Prod.fst,
    ticket.generation = session.panel.generation → session.panel.props = some ticket.props
  idle : session.panel.status = .idle ↔ session.panel.generation = 0
  vacant : session.panel.props = none ↔ session.panel.generation = 0
  pending : ∀ ticket ∈ session.waiting, ticket.generation = session.panel.generation →
    session.panel.status = .pending
  settled : ∀ update ∈ finished events, update.1.generation = session.panel.generation →
    session.panel.status = .ofOutcome (update.1.props.outcome update.2)
  /-- A start begins one generation at most. -/
  begun : session.panel.generation ≤ events.countP Event.isStart

/-- Properties that are already there change nothing; the update ends with the status. -/
theorem start_of_same (session : Session) (props : Props)
    (same : session.panel.props = some props) :
    session.start props = (session, some session.panel.status) := by
  simp [Session.start, Panel.start, same]

/-- Other properties begin a generation, and its ticket waits. -/
theorem start_of_different (session : Session) (props : Props)
    (different : session.panel.props ≠ some props) :
    session.start props =
      (⟨⟨.pending, session.panel.generation + 1, some props⟩,
        session.waiting ++ [⟨session.panel.generation + 1, props⟩]⟩, none) := by
  simp [Session.start, Panel.start, different]

/-- The outcome of an earlier generation is dropped; the update ends with the status. -/
theorem finish_of_stale (session : Session) (ticket : Ticket) (client : Client)
    (stale : ticket.generation ≠ session.panel.generation) :
    session.finish ticket client =
      (⟨session.panel, session.waiting.erase ticket⟩, session.panel.status) := by
  simp [Session.finish, Panel.finish, stale.symm]

/-- The outcome of the latest generation is shown. -/
theorem finish_of_latest (session : Session) (ticket : Ticket) (client : Client)
    (latest : ticket.generation = session.panel.generation) :
    session.finish ticket client =
      (⟨{ session.panel with status := .ofOutcome (ticket.props.outcome client) },
        session.waiting.erase ticket⟩, .ofOutcome (ticket.props.outcome client)) := by
  simp [Session.finish, Panel.finish, latest]

/-- An outcome is shown as a response or as an error. -/
theorem ofOutcome_ne (outcome : Except ServiceError Response) :
    Status.ofOutcome outcome ≠ .idle ∧ Status.ofOutcome outcome ≠ .pending := by
  cases outcome <;> simp [Status.ofOutcome]

/-- Starts finish nothing. -/
theorem finished_snoc_start (events : List Event) (props : Props) :
    finished (events ++ [.start props]) = finished events := by
  simp [finished, Event.finished?]

/-- A finish is recorded behind the earlier ones. -/
theorem finished_snoc_finish (events : List Event) (ticket : Ticket) (client : Client) :
    finished (events ++ [.finish ticket client]) = finished events ++ [(ticket, client)] := by
  simp [finished, Event.finished?]

/-- Exactly the finishes among the events are recorded. -/
theorem mem_finished (events : List Event) (ticket : Ticket) (client : Client) :
    (ticket, client) ∈ finished events ↔ .finish ticket client ∈ events := by
  unfold finished
  rw [List.mem_filterMap]
  constructor
  · rintro ⟨event, member, found⟩
    cases event with
    | start props => simp [Event.finished?] at found
    | finish other answering =>
      obtain ⟨rfl, rfl⟩ : other = ticket ∧ answering = client := by
        simpa [Event.finished?] using found
      exact member
  · intro member
    exact ⟨_, member, rfl⟩

section Consistent

variable {events : List Event} {session : Session}

/-- The generation of a ticket that waits or has finished is one that has begun. -/
theorem Consistent.bounds (consistent : Consistent events session) (ticket : Ticket)
    (known : ticket ∈ session.waiting ++ (finished events).map Prod.fst) :
    1 ≤ ticket.generation ∧ ticket.generation ≤ session.panel.generation := by
  have begun : ticket.generation ∈ List.range' 1 session.panel.generation :=
    consistent.generations.subset (List.mem_map_of_mem known)
  have between := List.mem_range'_1.mp begun
  omega

/-- No two tickets have the same generation. -/
theorem Consistent.nodup (consistent : Consistent events session) :
    (session.waiting.map Ticket.generation ++
      ((finished events).map Prod.fst).map Ticket.generation).Nodup := by
  have distinct := consistent.generations.nodup_iff.mpr List.nodup_range'
  rwa [List.map_append] at distinct

/-- No ticket has finished in the generation of one that waits. -/
theorem Consistent.not_finished (consistent : Consistent events session) (ticket : Ticket)
    (waits : ticket ∈ session.waiting) (update : Ticket × Client)
    (done : update ∈ finished events) : update.1.generation ≠ ticket.generation := by
  intro same
  have disjoint := (List.nodup_append.mp consistent.nodup).2.2
  exact disjoint ticket.generation (List.mem_map_of_mem waits) update.1.generation
    (List.mem_map_of_mem (List.mem_map_of_mem done)) same.symm

/-- Once a generation has begun, the ticket of the latest one waits or has finished. -/
theorem Consistent.latest_known (consistent : Consistent events session)
    (begun : session.panel.generation ≠ 0) :
    ∃ ticket ∈ session.waiting ++ (finished events).map Prod.fst,
      ticket.generation = session.panel.generation := by
  have last : session.panel.generation ∈ List.range' 1 session.panel.generation := by
    rw [List.mem_range'_1]
    omega
  exact List.mem_map.mp (consistent.generations.symm.subset last)

/-- Starting an update keeps the invariant. With the properties of the panel nothing changes.
With others the new ticket is the only one of the new generation: all others have smaller
ones, so nothing has to be said about their outcomes. -/
theorem Consistent.start (consistent : Consistent events session) (props : Props) :
    Consistent (events ++ [.start props]) (session.start props).1 := by
  have counted : (events ++ [Event.start props]).countP Event.isStart =
      events.countP Event.isStart + 1 := by
    simp [Event.isStart]
  by_cases same : session.panel.props = some props
  · rw [start_of_same session props same]
    have begun : session.panel.generation ≤
        (events ++ [Event.start props]).countP Event.isStart := by
      rw [counted]
      exact Nat.le_succ_of_le consistent.begun
    refine ⟨?_, ?_, consistent.idle, consistent.vacant, consistent.pending, ?_, begun⟩
    · simpa only [finished_snoc_start] using consistent.generations
    · simpa only [finished_snoc_start] using consistent.latest
    · simpa only [finished_snoc_start] using consistent.settled
  · rw [start_of_different session props same]
    have older : ∀ ticket ∈ session.waiting ++ (finished events).map Prod.fst,
        ticket.generation ≠ session.panel.generation + 1 := by
      intro ticket known
      have bounds := consistent.bounds ticket known
      omega
    refine ⟨?_, ?_, by simp, by simp, ?_, ?_, ?_⟩
    · have moved : (session.waiting ++ [Ticket.mk (session.panel.generation + 1) props] ++
          (finished events).map Prod.fst).Perm
          (session.waiting ++ (finished events).map Prod.fst ++
            [Ticket.mk (session.panel.generation + 1) props]) := by
        rw [List.append_assoc, List.append_assoc]
        exact List.perm_append_comm.append_left session.waiting
      have extended := consistent.generations.append_right [session.panel.generation + 1]
      rw [finished_snoc_start, List.range'_1_concat, Nat.add_comm 1]
      refine (moved.map Ticket.generation).trans ?_
      rw [List.map_append]
      exact extended
    · intro ticket known newest
      rw [finished_snoc_start] at known
      simp only [List.mem_append, List.mem_singleton] at known
      rcases known with (waits | rfl) | done
      · exact absurd newest (older ticket (List.mem_append_left _ waits))
      · rfl
      · exact absurd newest (older ticket (List.mem_append_right _ done))
    · intro ticket _ _
      rfl
    · intro update done newest
      rw [finished_snoc_start] at done
      exact absurd newest (older update.1 (List.mem_append_right _ (List.mem_map_of_mem done)))
    · rw [counted]
      exact Nat.succ_le_succ consistent.begun

/-- Finishing an update keeps the invariant. Its ticket moves from those that wait to those
that have finished. If it is of the latest generation, no other ticket is, and the panel shows
its outcome; otherwise the panel stays as it is, and so does what is said about the latest
generation. -/
theorem Consistent.finish (consistent : Consistent events session) (ticket : Ticket)
    (client : Client) (waits : ticket ∈ session.waiting) :
    Consistent (events ++ [.finish ticket client]) (session.finish ticket client).1 := by
  have moved : (session.waiting.erase ticket ++
      (finished (events ++ [.finish ticket client])).map Prod.fst).Perm
      (session.waiting ++ (finished events).map Prod.fst) := by
    rw [finished_snoc_finish, List.map_append, ← List.append_assoc]
    refine List.perm_append_comm.trans ?_
    exact (List.perm_cons_erase waits).symm.append_right _
  have generations := (moved.map Ticket.generation).trans consistent.generations
  have counted : (events ++ [Event.finish ticket client]).countP Event.isStart =
      events.countP Event.isStart := by
    simp [Event.isStart]
  have begun := consistent.begun
  rw [← counted] at begun
  have others : ∀ other ∈ session.waiting.erase ticket,
      other.generation ≠ ticket.generation := by
    intro other remains same
    have distinct := (List.nodup_append.mp consistent.nodup).1
    have split := ((List.perm_cons_erase waits).map Ticket.generation).nodup_iff.mp distinct
    rw [List.map_cons, List.nodup_cons] at split
    exact split.1 (same ▸ List.mem_map_of_mem remains)
  by_cases latest : ticket.generation = session.panel.generation
  · rw [finish_of_latest session ticket client latest]
    have shown := ofOutcome_ne (ticket.props.outcome client)
    refine ⟨generations, ?_, ?_, consistent.vacant, ?_, ?_, begun⟩
    · intro other known newest
      exact consistent.latest other (moved.subset known) newest
    · have positive := (consistent.bounds ticket (List.mem_append_left _ waits)).1
      constructor
      · intro idle
        exact absurd idle shown.1
      · intro vacant
        simp only at vacant
        omega
    · intro other remains newest
      exact absurd (newest.trans latest.symm) (others other remains)
    · intro update done newest
      rw [finished_snoc_finish, List.mem_append, List.mem_singleton] at done
      rcases done with earlier | rfl
      · exact absurd (newest.trans latest.symm)
          (consistent.not_finished ticket waits update earlier)
      · rfl
  · rw [finish_of_stale session ticket client latest]
    refine ⟨generations, ?_, consistent.idle, consistent.vacant, ?_, ?_, begun⟩
    · intro other known newest
      exact consistent.latest other (moved.subset known) newest
    · intro other remains newest
      exact consistent.pending other (List.mem_of_mem_erase remains) newest
    · intro update done newest
      rw [finished_snoc_finish, List.mem_append, List.mem_singleton] at done
      rcases done with earlier | rfl
      · exact consistent.settled update earlier newest
      · exact absurd newest latest

end Consistent

/-- The invariant holds of every session that a run leads to. -/
theorem Run.consistent (events : List Event) (session : Session) (run : Run events session) :
    Consistent events session := by
  induction run with
  | fresh =>
    refine ⟨?_, ?_, ?_, ?_, ?_, ?_, ?_⟩ <;>
      simp [Session.fresh, Panel.fresh, finished]
  | snoc events session event next run step inductionHypothesis =>
    cases step with
    | start props => exact inductionHypothesis.start props
    | finish ticket client waits => exact inductionHypothesis.finish ticket client waits

/-- In a consistent session that has begun a generation, the panel is pending and the latest
ticket waits, or the panel shows the outcome of the latest ticket, which has finished. -/
theorem Consistent.pending_or_settled {events : List Event} {session : Session}
    (consistent : Consistent events session) (begun : session.panel.generation ≠ 0) :
    (session.panel.status = .pending ∧
      ∃ ticket ∈ session.waiting, ticket.generation = session.panel.generation) ∨
    ∃ ticket client, (ticket, client) ∈ finished events ∧
      ticket.generation = session.panel.generation ∧
      session.panel.status = .ofOutcome (ticket.props.outcome client) := by
  obtain ⟨ticket, known, newest⟩ := consistent.latest_known begun
  rcases List.mem_append.mp known with waits | done
  · exact .inl ⟨consistent.pending ticket waits newest, ticket, waits, newest⟩
  · obtain ⟨⟨other, client⟩, recorded, rfl⟩ := List.mem_map.mp done
    exact .inr ⟨other, client, recorded, newest,
      consistent.settled (other, client) recorded newest⟩

/-- Properties with a goal under the cursor. -/
def onGoal : Props := ⟨⟨⟨"ctx"⟩, some ⟨"g"⟩⟩, [⟨"g"⟩], []⟩

/-- Properties without a goal under the cursor; their request fails without a client. -/
def offGoal : Props := ⟨⟨⟨"ctx"⟩, none⟩, [⟨"g"⟩], []⟩

end PlaneFigure.Panel
