import SqlMapper.Error
import SqlMapper.Mapper.Loading
import SqlMapper.Text.Path
/-!
# SqlMapper.Mapper.Registry

The statements of one mapping document, which is loaded when they are first asked for, and the waiters
that ask while it is being loaded.

A registry lives through any number of event loops, one after the other. In each, a load is a task of
its own: it is scheduled, takes its first step, and ends when its document can be had, or it is asked to
stop and is then cancelled. A waiter subscribes to one load and is woken when that load ends. All this
happens in single steps (`Action`), whose order is open; a run of a registry is a list of actions
(`Registry.run`). An action that cannot happen in a state changes nothing.

Design points:
* A load that ends writes its result without asking whether it is still the registry's current one.
  That this is safe is a property of all runs: a new load begins only when every earlier one is over.
* A waiter that is woken looks at the registry again (`Registry.answer`), so waiters of a load and later
  callers get their answers in the same way.
* A waiter that is cancelled or whose time is over leaves everything but itself as it is.
* The document may be edited at any time; a load comes to what the document is when it ends.
-/

namespace SqlMapper.Mapper

/-- What has become of the document. -/
inductive Phase
  /-- There is none. -/
  | unavailable
  /-- It has not been loaded. -/
  | uninitialized
  | ready (table : Table)
  | failed (cause : DocumentError)

namespace Phase

/-- The statements that are known. -/
def table : Phase → Table
  | ready t => t
  | _ => []

/-- Why the document cannot be loaded. -/
def cause? : Phase → Option DocumentError
  | failed e => some e
  | _ => none

/-- The name of a phase. -/
def name : Phase → String
  | unavailable => "unavailable"
  | uninitialized => "uninitialized"
  | ready _ => "ready"
  | failed _ => "failed"

/-- Is the document still to be loaded? -/
def isOpen : Phase → Bool
  | uninitialized => true
  | _ => false

/-- What becomes of a document that comes to a result. -/
def ofResult : Except DocumentError Table → Phase
  | .ok t => ready t
  | .error e => failed e

theorem ofResult_ne_uninitialized (result : Except DocumentError Table) :
    ofResult result ≠ .uninitialized := by
  cases result <;> simp [ofResult]

end Phase

/-- How long a waiter waits. -/
structure Limit where
  /-- The time, in seconds, as messages show it. -/
  seconds : String
  /-- Is the time over at once? -/
  immediate : Bool
  deriving Repr, DecidableEq

/-- How far a load has come. -/
inductive Progress
  | pending
  /-- It has been asked to stop. -/
  | stopping
  | ended
  | cancelled
  deriving Repr, DecidableEq

/-- Is a load over? -/
def Progress.isOver : Progress → Bool
  | ended | cancelled => true
  | _ => false

/-- A load. -/
structure Load where
  /-- The event loop that it runs in. -/
  loop : Nat
  /-- Has it taken its first step? -/
  begun : Bool := false
  progress : Progress := .pending
  deriving Repr, DecidableEq

/-- Who waits: the caller itself, or a task of a given name. -/
inductive WaiterId
  | caller
  | task (name : String)
  deriving Repr, DecidableEq

/-- What is asked for. -/
inductive Request
  | table
  | statement (name : String)
  deriving Repr, DecidableEq

/-- How a request ends. -/
inductive Answer
  | table (t : Table)
  | statement (s : Statement)
  | refused (r : Refusal)
  | cancelled

/-- Whether a waiter still waits, and for which load, or which answer it has. -/
inductive Waiting
  | blocked (load : Nat)
  | answered (a : Answer)

/-- A waiter. -/
structure Waiter where
  id : WaiterId
  request : Request
  waiting : Waiting

/-- The load that a waiter waits for. -/
def Waiter.load? (w : Waiter) : Option Nat :=
  match w.waiting with
  | .blocked i => some i
  | .answered _ => none

/-- The answer that a waiter has. -/
def Waiter.answer? (w : Waiter) : Option Answer :=
  match w.waiting with
  | .blocked _ => none
  | .answered a => some a

/-- A registry, and all that goes on around it. -/
structure Registry where
  /-- Where the document is. -/
  path : Option String
  /-- How long waiters wait; without a limit they wait for ever. -/
  limit : Option Limit
  /-- What a load that ends now comes to. -/
  loading : Loading
  /-- Can the document be had? Until then loads do not end. -/
  reachable : Bool
  phase : Phase
  /-- The load that waiters subscribe to. -/
  current : Option Nat := none
  /-- All loads there have been. -/
  loads : List Load := []
  /-- The number of the event loop. -/
  loop : Nat := 0
  waiters : List Waiter := []
  events : List Event := []

/-- What can happen to a registry. -/
inductive Action
  /-- The load is scheduled, if there is need of one. -/
  | start
  /-- Somebody asks. -/
  | ask (id : WaiterId) (request : Request)
  /-- A load takes its first step. -/
  | enter (load : Nat)
  /-- From now on the document can be had. -/
  | reach
  /-- From now on the document is another one. -/
  | edit (loading : Loading)
  /-- A load ends with its result. -/
  | finish (load : Nat)
  /-- The current load is asked to stop. -/
  | cancelLoad
  /-- A load that has been asked to stop is cancelled. -/
  | stop (load : Nat)
  /-- A waiter notices that its load is over. -/
  | wake (id : WaiterId)
  | cancel (id : WaiterId)
  /-- A waiter's time is over. -/
  | elapse (id : WaiterId)
  /-- The event loop ends, with all that is still running in it, and another one begins. -/
  | nextLoop

namespace Registry

/-- A registry for the document of a path, which is known by its normal spelling; an empty path means
that there is none. -/
def new (template : Option String) (limit : Option Limit) (loading : String → Loading)
    (reachable : Bool) : Registry :=
  match template with
  | none | some "" =>
    { path := none, limit, loading := .silent (.ok []), reachable, phase := .unavailable }
  | some t =>
    let path := Path.normal t
    { path := some path, limit, loading := loading path, reachable, phase := .uninitialized }

/-- The path as messages show it. -/
def shownPath (r : Registry) : String := r.path.getD "None"

/-- The load of a given number that is under way in a given manner. -/
def load? (r : Registry) (i : Nat) (p : Progress) : Option Load :=
  r.loads[i]?.filter (·.progress = p)

/-- Replace a load. -/
def setLoad (r : Registry) (i : Nat) (l : Load) : Registry := { r with loads := r.loads.set i l }

/-- Is a load under way in the running loop? -/
def isUnderWay (r : Registry) (i : Nat) : Bool :=
  match r.loads[i]? with
  | some l => l.loop == r.loop && !l.progress.isOver
  | none => false

/-- Schedule a load. -/
def schedule (r : Registry) : Registry :=
  { r with current := some r.loads.length, loads := r.loads ++ [{ loop := r.loop }] }

/-- The load to subscribe to: the current one, or a new one if that is not under way. -/
def subscribe (r : Registry) : Registry × Nat :=
  match r.current with
  | some i => if r.isUnderWay i then (r, i) else (r.schedule, r.loads.length)
  | none => (r.schedule, r.loads.length)

/-- Schedule a load, if there is need of one. -/
def start (r : Registry) : Registry := if r.phase.isOpen then r.subscribe.1 else r

/-- Start outside of any event loop, where no load can be scheduled. -/
def startOutside (r : Registry) : Result Unit :=
  if r.phase.isOpen then .error (.other .runtime "no running event loop") else .ok ()

/-- What a table says to a request. -/
def answerFrom (t : Table) : Request → Answer
  | .table => .table t
  | .statement name =>
    match t.get? (.str name) with
    | some s => .statement s
    | none => .refused (.unknownStatement name)

/-- What a registry says to a request as it stands. -/
def answer (r : Registry) (q : Request) : Answer :=
  match r.phase with
  | .uninitialized => .refused (.notLoaded r.shownPath)
  | .unavailable => .refused .noTemplate
  | .failed e => .refused (.loadFailed r.shownPath e)
  | .ready t => answerFrom t q

/-- The waiter of a given id. -/
def waiter? (r : Registry) (id : WaiterId) : Option Waiter := r.waiters.find? (·.id = id)

/-- Give a blocked waiter its answer. -/
def settleWaiter (r : Registry) (id : WaiterId) (a : Answer) : Registry :=
  { r with waiters := r.waiters.map fun w =>
      if w.id = id ∧ w.load?.isSome then { w with waiting := .answered a } else w }

/-- Add a waiter, in place of one with the same id. -/
def addWaiter (r : Registry) (w : Waiter) : Registry :=
  { r with waiters := r.waiters.filter (·.id ≠ w.id) ++ [w] }

/-- Ask: a registry that knows what has become of the document answers at once; otherwise a load is
started, and the waiter subscribes to it. -/
def ask (r : Registry) (id : WaiterId) (request : Request) : Registry :=
  if r.phase.isOpen then
    let (r, i) := r.subscribe
    r.addWaiter { id, request, waiting := .blocked i }
  else r.addWaiter { id, request, waiting := .answered (r.answer request) }

/-- What is logged when a load ends. -/
def endEvents (r : Registry) : List Event :=
  match r.loading.result with
  | .ok _ => r.loading.events
  | .error _ => r.loading.events ++ [.loadFailed r.shownPath]

/-- A load ends with its result. -/
def finish (r : Registry) (i : Nat) (l : Load) : Registry :=
  { r.setLoad i { l with progress := .ended } with
      phase := .ofResult r.loading.result, events := r.events ++ r.endEvents }

/-- A load is cancelled; the registry forgets it. -/
def drop (r : Registry) (i : Nat) (l : Load) : Registry :=
  { r.setLoad i { l with progress := .cancelled } with
      current := if r.current = some i then none else r.current }

/-- The answer of a waiter whose load is over. -/
def wakeAnswer? (r : Registry) (w : Waiter) : Option Answer :=
  match w.load?.bind (r.loads[·]?) with
  | some l =>
    match l.progress with
    | .ended => some (r.answer w.request)
    | .cancelled => some .cancelled
    | _ => none
  | none => none

/-- The event loop ends: what is still running is cancelled, and its waiters are gone. -/
def nextLoop (r : Registry) : Registry :=
  { r with
      loads := r.loads.map fun l =>
        if l.progress.isOver then l else { l with progress := .cancelled },
      current :=
        match r.current.bind (r.loads[·]?) with
        | some l => if l.progress.isOver then r.current else none
        | none => none,
      waiters := [],
      loop := r.loop + 1 }

/-- One action. -/
def apply (r : Registry) : Action → Registry
  | .start => r.start
  | .ask id q => r.ask id q
  | .enter i =>
    match r.load? i .pending with
    | some l => r.setLoad i { l with begun := true }
    | none => r
  | .reach => { r with reachable := true }
  | .edit loading => { r with loading }
  | .finish i =>
    match (r.load? i .pending).filter (·.begun) with
    | some l => if r.reachable then r.finish i l else r
    | none => r
  | .cancelLoad =>
    match r.current with
    | none => r
    | some i =>
      match r.load? i .pending with
      | some l => r.setLoad i { l with progress := .stopping }
      | none => r
  | .stop i =>
    match r.load? i .stopping with
    | some l => r.drop i l
    | none => r
  | .wake id =>
    match (r.waiter? id).bind r.wakeAnswer? with
    | some a => r.settleWaiter id a
    | none => r
  | .cancel id => r.settleWaiter id .cancelled
  | .elapse id =>
    match r.limit with
    | some l => r.settleWaiter id (.refused (.notReady r.shownPath l.seconds))
    | none => r
  | .nextLoop => r.nextLoop

/-- Actions one after the other. -/
def run (r : Registry) (actions : List Action) : Registry := actions.foldl apply r

/-- The numbers of all loads. -/
def loadNumbers (r : Registry) : List Nat := List.range r.loads.length

/-- The ids of all waiters. -/
def waiterIds (r : Registry) : List WaiterId := r.waiters.map (·.id)

/-- What can happen to the loads without anybody's doing, in an order in which nothing is left. -/
def loadActions (r : Registry) : List Action :=
  r.loadNumbers.map .enter ++ r.loadNumbers.map .stop ++ r.loadNumbers.map .finish

/-- Let happen what can happen without anybody's doing. -/
def settle (r : Registry) : Registry := (r.run r.loadActions).run (r.waiterIds.map .wake)

/-- The number of loads that have taken their first step. -/
def loadsBegun (r : Registry) : Nat := r.loads.countP (·.begun)

/-- The ids of the tasks that still wait, in ascending order. -/
def pendingTasks (r : Registry) : List String :=
  Template.sortNames (r.waiters.filterMap fun w =>
    match w.id, w.waiting with
    | .task name, .blocked _ => some name
    | _, _ => none)

/-- The answer that a waiter has. -/
def answerOf? (r : Registry) (id : WaiterId) : Option Answer := (r.waiter? id).bind (·.answer?)

/-- Ask. If the time for waiting is over at once, a load just has the time for its first step. -/
def request (r : Registry) (id : WaiterId) (q : Request) : Registry :=
  let asked := r.apply (.ask id q)
  match r.limit with
  | some l =>
    if l.immediate then (asked.apply (.elapse id)).run (asked.loadNumbers.map .enter) else asked
  | none => asked

/-- Wait until a waiter has an answer: what can happen by itself happens, and if that gives no answer,
the time passes; then those that have waited longer run out of time before it. -/
def await (r : Registry) (id : WaiterId) : Registry :=
  if (r.answerOf? id).isSome then r
  else
    let r := r.settle
    if (r.answerOf? id).isSome then r
    else
      let earlier := r.waiterIds.takeWhile (· ≠ id)
      (r.run ((earlier ++ [id]).map .elapse)).settle

/-- Ask and wait for the answer. -/
def obtain (r : Registry) (q : Request) : Registry := (r.request .caller q).await .caller

end Registry
end SqlMapper.Mapper
