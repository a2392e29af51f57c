import PlaneFigure.Service.Basic

/-!
# The panel

The panel shows the diagram of the goal under the cursor. It is given its properties again
and again; when they differ from the ones before, a new generation begins: the panel is
pending, and a ticket is handed out for the answer. An answer counts only while the
generation of its ticket is the latest, so a late answer to an earlier request can never
replace a newer state.

Taking in properties and taking in an answer are the two steps of an update. Between them
other updates may take either step, in any order.
-/

namespace PlaneFigure

/-- The goal under the cursor, if there is one. -/
structure Cursor where
  context : ContextRef
  goal : Option GoalId
deriving DecidableEq

namespace Panel

/-- What the panel is given to show. -/
structure Props where
  cursor : Cursor
  goals : List GoalId
  selected : List GoalLocation
deriving DecidableEq

/-- The identity that an error reports when there is no goal under the cursor. -/
def noGoal : GoalId := ⟨"<none>"⟩

/-- The request for the goal under the cursor, which must be one of the goals on display.
Only locations in this goal are part of it. -/
def Props.request (props : Props) : Except ServiceError Request :=
  match props.cursor.goal with
  | none => .error (.goalNotFound noGoal props.cursor.context)
  | some goal =>
    if props.goals.contains goal then
      .ok ⟨props.cursor.context, goal,
        (props.selected.filter (·.goal = goal)).map (·.location)⟩
    else .error (.goalNotFound goal props.cursor.context)

/-- The outcome of an update whose request is answered by a client. -/
def Props.outcome (props : Props) (client : Client) : Except ServiceError Response :=
  match props.request with
  | .error fault => .error fault
  | .ok request => client request

/-- What the panel is showing. -/
inductive Status where
  | idle
  | pending
  | resolved (response : Response)
  | errored (message : String)

/-- What is shown in place of a diagram without facts. -/
def noDiagram : String := "No Euclidean facts to draw."

/-- The markup of a status. -/
def Status.view : Status → Markup
  | idle => .element "div" [] []
  | pending => .element "span" [] [.text "Loading..."]
  | resolved ⟨some markup⟩ => markup
  | resolved ⟨none⟩ => .element "span" [] [.text noDiagram]
  | errored message => .text message

/-- The status after an outcome. -/
def Status.ofOutcome : Except ServiceError Response → Status
  | .ok response => resolved response
  | .error fault => errored fault.message

end Panel

/-- The state of the panel. -/
structure Panel where
  status : Panel.Status
  /-- How many generations have begun. A counter of 64 bits agrees with this number while fewer
  than 2⁶⁴ updates have been started, since every start begins one generation at most. -/
  generation : Nat
  /-- The properties of the latest generation. -/
  props : Option Panel.Props

namespace Panel

/-- The panel before it is given anything. -/
def fresh : Panel := ⟨.idle, 0, none⟩

/-- An update that waits for its answer. -/
structure Ticket where
  generation : Nat
  props : Props
deriving DecidableEq

/-- Take in properties. Properties that are already there change nothing and need no
answer. -/
def start (panel : Panel) (props : Props) : Panel × Option Ticket :=
  if panel.props = some props then (panel, none)
  else
    let generation := panel.generation + 1
    (⟨.pending, generation, some props⟩, some ⟨generation, props⟩)

/-- Take in the outcome of an update. An outcome of an earlier generation changes nothing. -/
def finish (panel : Panel) (ticket : Ticket) (outcome : Except ServiceError Response) : Panel :=
  if panel.generation = ticket.generation then { panel with status := .ofOutcome outcome }
  else panel

/-- Both steps of an update with nothing in between. -/
def update (panel : Panel) (client : Client) (props : Props) : Panel :=
  match panel.start props with
  | (panel, none) => panel
  | (panel, some ticket) => panel.finish ticket (ticket.props.outcome client)

end Panel

end PlaneFigure
