import SecuredApp.Core.Run

/-!
# The controller

`initiate`, `terminate_ike` and `terminate_child` of the controller: a thread registers a listener
and a logger with the bus, has a job executed by another thread, and waits until the listener is
done or the time is up. What an IKE_SA does is given by what its methods return and by the events
it raises. The code for mediation connections (`ME`) is left out.
-/

namespace SecuredApp

open SecuredApp.Core

inductive Command where
  | initiate
  | terminateIke
  | terminateChild
deriving DecidableEq

/-- The values of `status_t` that the controller uses. -/
inductive Status where
  | success
  | failed
  | outOfRes
  | notFound
  | needMore
deriving DecidableEq

/-- The states of an IKE_SA that are told apart. -/
inductive IkeState where
  | deleting
  | destroying
  | other
deriving DecidableEq

/-- The states of a CHILD_SA that are told apart. -/
inductive ChildState where
  | created
  | installed
  | deleting
  | retrying
  | destroying
  | other
deriving DecidableEq

/-- Where the calling thread is: in `wait_for_listener` up to the removal of the logger, or before
or after it. -/
inductive Waiter where
  | executing
  | refGet
  | addLogger
  | addListener
  | queueJob
  | waiting
  | removeListener
  | removeLogger
  | settle
  | read
  | put
  | finished
deriving DecidableEq

/-- How far the job is. -/
inductive JobPhase where
  | idle
  | queued
  | running
  | posting
  | executed
  | destroyed
deriving DecidableEq

/-- An `interface_job_t` with its listener, and the thread that made it. The job is `freed` when
the last reference to it is gone, and it is a `fault` to use it or to drop a reference after. -/
structure Control where
  command : Command
  callback : Bool
  timeout : Bool
  status : Status
  ikeSa : Option ℕ
  done : Option ℕ
  listening : Bool
  logging : Bool
  waiter : Waiter
  timedOut : Bool
  cancelled : Bool
  job : JobPhase
  refcount : ℕ
  freed : Bool
  fault : Bool
  result : Option Status
deriving DecidableEq

/-- `listener_done`. -/
def Control.listenerDone (c : Control) : Control :=
  { c with done := c.done.map (· + 1) }

/-- `listener_log`, with what the callback answers. -/
def Control.listenerLog (c : Control) (ikeSa : Option ℕ) (answer : Bool) : Control :=
  if c.ikeSa = ikeSa ∧ answer = false then { c with status := .needMore }.listenerDone else c

/-- `ike_state_change`, of an IKE_SA that is in the state `current`: the listener, and whether it
stays registered. -/
def Control.ikeStateChange (c : Control) (ikeSa : ℕ) (state current : IkeState) : Control × Bool :=
  if c.ikeSa = some ikeSa then
    match state with
    | .destroying =>
      if current = .deleting then ({ c with status := .success }.listenerDone, false)
      else (c.listenerDone, false)
    | _ => (c, true)
  else (c, true)

/-- `child_state_change`, of a CHILD_SA that is in the state `current`. -/
def Control.childStateChange (c : Control) (ikeSa : ℕ) (state current : ChildState) :
    Control × Bool :=
  if c.ikeSa = some ikeSa then
    match state with
    | .installed => ({ c with status := .success }.listenerDone, false)
    | .destroying =>
      match current with
      | .deleting => ({ c with status := .success }.listenerDone, false)
      -- retrying with a different DH group: survive another initiation round
      | .retrying => ({ c with status := .needMore }, true)
      | .created =>
        if c.status = .needMore then ({ c with status := .failed }, true)
        else (c.listenerDone, false)
      | _ => (c.listenerDone, false)
    | _ => (c, true)
  else (c, true)

/-- The look-up of the IKE_SA at the beginning of the three `execute` methods. -/
def Control.checkout (c : Control) : Option ℕ → Control
  | none =>
    { c with
      status := if c.command = .initiate then .failed else .notFound
      job := .posting }
  | some ikeSa => { c with ikeSa := some ikeSa, job := .running }

/-- The CHILD_SA that `terminate_child_execute` found is only routed. -/
def Control.routed (c : Control) : Control := { c with status := .notFound, job := .posting }

/-- The end of the three `execute` methods. It is `good` if `initiate` returned `SUCCESS`, if
`delete` returned `DESTROY_ME`, or if `delete_child_sa` did not. -/
def Control.finish (c : Control) (good : Bool) : Control :=
  { c with
    status := if good then (if c.callback then c.status else .success) else .failed
    job := .executed }

/-- `destroy_job`. -/
def Control.destroyJob (c : Control) : Control :=
  { c with refcount := c.refcount - 1, freed := c.freed || c.refcount = 1 }

/-- The next statement of the calling thread, other than to wait. -/
def Control.next (c : Control) : Option Control :=
  match c.waiter with
  | .executing => if c.job = .executed then some { c with waiter := .read } else none
  | .refGet => some { c with refcount := c.refcount + 1, done := some 0, waiter := .addLogger }
  | .addLogger => some { c with logging := true, waiter := .addListener }
  | .addListener => some { c with listening := true, waiter := .queueJob }
  | .queueJob => some { c with job := .queued, waiter := .waiting }
  | .waiting => none
  | .removeListener => some { c with listening := false, waiter := .removeLogger }
  | .removeLogger =>
    some { c with logging := false, waiter := if c.cancelled then .put else .settle }
  | .settle => some { c with status := if c.timedOut then .outOfRes else c.status, waiter := .read }
  | .read => some { c with result := some c.status, waiter := .put }
  | .put => some { c.destroyJob with waiter := .finished }
  | .finished => none

/-- The wait of the calling thread ends. -/
def Control.stopWaiting (c : Control) : Option Control :=
  if c.waiter = .waiting then some { c with waiter := .removeListener } else none

/-- What happens to a job: statements of the calling thread and of the thread of the job, events of
the bus, and messages of a thread with an IKE_SA. -/
inductive ControlOp where
  | next
  | wake
  | timeout
  | cancel
  | checkout (ikeSa : Option ℕ)
  | routed
  | finish (good : Bool)
  | post
  | destroyJob
  | ikeEvent (ikeSa : ℕ) (state current : IkeState)
  | childEvent (ikeSa : ℕ) (state current : ChildState)
  | log (ikeSa : Option ℕ) (answer : Bool)
deriving DecidableEq

/-- The listener after an event, off the bus if it says so. -/
def Control.heard (c : Control × Bool) : Control := { c.1 with listening := c.2 }

def Control.act (c : Control) : ControlOp → Option Control
  | .next => c.next
  | .wake => if c.done = some 0 then none else { c with done := c.done.map (· - 1) }.stopWaiting
  | .timeout => if c.timeout then { c with timedOut := true }.stopWaiting else none
  | .cancel => { c with cancelled := true }.stopWaiting
  | .checkout ikeSa => if c.job = .queued then some (c.checkout ikeSa) else none
  | .routed =>
    if c.job = .running ∧ c.command = .terminateChild then some c.routed else none
  | .finish good => if c.job = .running then some (c.finish good) else none
  | .post => if c.job = .posting then some { c.listenerDone with job := .executed } else none
  | .destroyJob =>
    if c.callback ∧ (c.job = .queued ∨ c.job = .executed) then
      some { c.destroyJob with job := .destroyed }
    else none
  | .ikeEvent ikeSa state current =>
    if c.listening then some (.heard (c.ikeStateChange ikeSa state current)) else none
  | .childEvent ikeSa state current =>
    if c.listening then some (.heard (c.childStateChange ikeSa state current)) else none
  | .log ikeSa answer => if c.logging then some (c.listenerLog ikeSa answer) else none

/-- Every one of them uses the job. -/
def Control.step (c : Control) (op : ControlOp) : Option Control :=
  (c.act op).map fun c' => { c' with fault := c.fault || c.freed }

/-- A job that was made. Without a callback, the calling thread executes it itself. -/
def Control.create (command : Command) (callback timeout : Bool) : Control where
  command := command
  callback := callback
  timeout := timeout
  status := .failed
  ikeSa := none
  done := none
  listening := false
  logging := false
  waiter := if callback then .refGet else .executing
  timedOut := false
  cancelled := false
  job := if callback then .idle else .queued
  refcount := 1
  freed := false
  fault := false
  result := none

end SecuredApp
