import BluetoothHost.World

/-!
# `Session` — a run of a host step by step

A session starts from a host that is down and a vendor in a given state, and takes steps: actions
of the application or of the vendor, and the ways events are delivered. The queue is emptied
either by delivering what is in it, or by a loop that waits for more.

## Contents
- `Session.Step` and `Session.Report`: a step, and what is seen of it.
- `Session.step`, `Session.runFrom`, `Session.run`: one step, some, and all of them;
  `runFrom_append`.
- `Session.history`: all that is seen of a run in one list, with `history_cons` and
  `history_append`.
-/

namespace BluetoothHost.Session

/-- A step of a session. -/
inductive Step where
  | act (action : Action Callback)
  /-- Deliver the first event in the queue, if there is one. -/
  | receive
  /-- Deliver what is in the queue, and what is posted meanwhile. -/
  | drain
  /-- Deliver an event that is not from the queue. -/
  | deliver (event : Event)
  /-- Handle an event and make the calls that are due, with the host's lock held. -/
  | dispatch (event : Event)
  /-- Take the calls that are due and make them. -/
  | runPending
  /-- Take the calls that are due, to make them later. -/
  | take
  /-- Make the first of the calls taken. -/
  | callTaken
  /-- Stop receiving from the queue; what is in it is lost. -/
  | stopReceiving
  /-- Run a loop over a queue of its own that holds these events. The queue stays open meanwhile,
      so that the loop waits for more once they are delivered. -/
  | loop (events : List Event)

/-- What is seen of a step. -/
structure Report where
  response : Response
  trace : List Observation

/-- How many events one step delivers from the queue at most. -/
def drainLimit : Nat := 1000000

/-- The answer of a step in which callbacks are called: what it would answer, unless there was a
    panic. -/
def unlessPanicked (d : World.Delivery) (response : Response) : Response :=
  if d.panicked then .panicked else response

/-- Delivers up to `limit` events of the queue, unless nobody receives from it. In a session that
    is `looping`, a loop receives, and the answer is whether that loop has ended. No loop ends
    while its queue is open. -/
def receiveUpTo (limit : Nat) (looping : Bool) (w : World) : World × Report :=
  if w.receiving then
    let (count, d) := World.drain limit w
    (d.world, ⟨unlessPanicked d (if looping then .flag false else .count count), d.trace⟩)
  else (w, ⟨.nothing, []⟩)

/-- Takes a step. -/
def step (looping : Bool) (w : World) : Step → World × Report
  | .act action =>
    let (response, after, trace) := w.act false action
    (after, ⟨response, trace⟩)
  | .receive => receiveUpTo 1 looping w
  | .drain => receiveUpTo drainLimit looping w
  | .deliver event =>
    let d := w.deliver event
    (d.world, ⟨unlessPanicked d .nothing, d.trace⟩)
  | .dispatch event =>
    let d := w.dispatch event
    (d.world, ⟨unlessPanicked d .nothing, d.trace⟩)
  | .runPending =>
    let d := w.runPending false
    (d.world, ⟨unlessPanicked d (.count w.host.pending.length), d.trace⟩)
  | .take => (w.take, ⟨.count w.host.pending.length, []⟩)
  | .callTaken =>
    let d := w.callTaken
    (d.world, ⟨unlessPanicked d .nothing, d.trace⟩)
  | .stopReceiving => ({ w with queue := [], receiving := false }, ⟨.nothing, []⟩)
  | .loop events =>
    let d := World.deliverAll events w
    (d.world, ⟨unlessPanicked d (.flag false), d.trace⟩)

/-- Takes some steps in turn: the world they end in, and their reports. -/
def runFrom (looping : Bool) (w : World) : List Step → World × List Report
  | [] => (w, [])
  | s :: rest =>
    let (next, report) := step looping w s
    let (final, reports) := runFrom looping next rest
    (final, report :: reports)

/-- The world a session starts from: all is new, and the vendor has these settings. -/
def initial (settings : List Vendor.Setting) : World :=
  { vendor := ({} : Vendor).configure settings }

/-- The reports of a session whose vendor starts with these settings. -/
def run (looping : Bool) (settings : List Vendor.Setting) (steps : List Step) : List Report :=
  (runFrom looping (initial settings) steps).2

/-- All that is seen of a step, the answer of an action behind what is seen of it. -/
def Step.observations (s : Step) (r : Report) : List Observation :=
  match s with
  | .act action => r.trace ++ [.acted action r.response]
  | _ => r.trace

/-- All that is seen of some steps taken in turn. -/
def history (looping : Bool) (w : World) (steps : List Step) : List Observation :=
  (List.zipWith Step.observations steps (runFrom looping w steps).2).flatten

@[simp] theorem history_nil (looping : Bool) (w : World) : history looping w [] = [] := rfl

theorem history_cons (looping : Bool) (w : World) (s : Step) (rest : List Step) :
    history looping w (s :: rest) =
      s.observations (step looping w s).2 ++ history looping (step looping w s).1 rest := rfl

/-- Steps in two lists are taken as those of one after those of the other. -/
theorem runFrom_append (looping : Bool) (w : World) (first second : List Step) :
    runFrom looping w (first ++ second) =
      ((runFrom looping (runFrom looping w first).1 second).1,
        (runFrom looping w first).2 ++ (runFrom looping (runFrom looping w first).1 second).2) := by
  induction first generalizing w with
  | nil => rfl
  | cons s rest ih => simp [runFrom, ih]

/-- All that is seen of steps in two lists is what is seen of one after what is seen of the other. -/
theorem history_append (looping : Bool) (w : World) (first second : List Step) :
    history looping w (first ++ second) =
      history looping w first ++ history looping (runFrom looping w first).1 second := by
  induction first generalizing w with
  | nil => rfl
  | cons s rest ih =>
    rw [List.cons_append, history_cons, ih, history_cons, List.append_assoc]
    rfl

end BluetoothHost.Session
