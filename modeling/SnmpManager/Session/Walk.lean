import SnmpManager.Session.Basic

/-!
# Walks

Finding all bindings under a root, in up to three phases: the root itself, if
its options say so; then, again and again, what follows the last object found;
and the root itself if nothing was found at all.

- `Walk` is a walk in progress.
- `Walk.judge` decides about one binding: found, the end, or an error. The rules
  apply in this order: an exception ends the walk, an object before the last one
  is an error where order is checked, and an object that repeats the last one,
  lies outside the subtree, or is at or past the bound ends it.
- `Walk.next` goes on until there is something to report.
-/

namespace SnmpManager

/-- Where a walk stands. -/
inductive Walk.Phase where
  /-- The root itself comes first. -/
  | seed
  | iterate
  /-- Nothing was found, so the root itself is tried. -/
  | fallback
  | done
  deriving DecidableEq, Repr

/-- A walk in progress. -/
structure Walk where
  root : Oid
  options : WalkOptions
  /-- The last object the iteration found, or the root. -/
  cursor : Oid
  phase : Walk.Phase
  /-- How many bindings were reported. -/
  found : Nat := 0
  /-- Bindings received but not yet judged. -/
  buffer : List VarBind := []
  deriving DecidableEq, Repr

namespace Walk

/-- A walk at its start. -/
def start (root : Oid) (options : WalkOptions) : Walk where
  root := root
  options := options
  cursor := root
  phase := if options.includeStart then .seed else .iterate

/-- The request that a walk in some phase makes next. -/
def request? (walk : Walk) : Option Request :=
  match walk.phase with
  | .done => none
  | .iterate =>
    match walk.options.bulk with
    | some counts => some (.getBulk [walk.cursor] counts.nonRepeaters counts.maxRepetitions)
    | none => some (.getNext [walk.cursor])
  | .seed | .fallback => some (.get [walk.root])

/-- What becomes of one binding. -/
inductive Verdict where
  | found
  | stop
  | fail (error : Error)
  deriving DecidableEq, Repr

/-- Decide about a binding that follows the cursor. -/
def judge (walk : Walk) (binding : VarBind) : Verdict :=
  if binding.value.isException then .stop
  else if walk.options.checkIncrease ∧ binding.oid < walk.cursor then
    .fail (.nonIncreasingOid walk.cursor binding.oid)
  else if binding.oid = walk.cursor then .stop
  else if !walk.root.isBelow binding.oid then .stop
  else match walk.options.bound with
    | some bound => if binding.oid < bound then .found else .stop
    | none => .found

/-- Leave the iteration. -/
def endIteration (walk : Walk) : Walk :=
  { walk with
    buffer := []
    phase := if walk.found = 0 ∧ walk.options.fallbackOnEmpty then .fallback else .done }

/-- What a walk reports. -/
abbrev Item := Except Error VarBind

/-- Report a binding. -/
def emit (walk : Walk) (binding : VarBind) : Option Item × Walk :=
  (some (.ok binding), { walk with found := walk.found + 1 })

/-- Report an error, which is the last report. -/
def abort (walk : Walk) (error : Error) : Option Item × Walk :=
  (some (.error error), { walk with phase := .done, buffer := [] })

/-- Judge the next binding in the buffer, if there is one. -/
def drain (walk : Walk) : Option Item × Walk :=
  match walk.buffer with
  | [] => (none, walk)
  | binding :: rest =>
    let walk := { walk with buffer := rest }
    match walk.judge binding with
    | .found => { walk with cursor := binding.oid }.emit binding
    | .stop => (none, walk.endIteration)
    | .fail error => walk.abort error

/-- Take in the answer to the root itself: its first binding is reported whatever it holds. -/
def absorbRoot (walk : Walk) (response : Response) : Option Item × Walk :=
  let walk := { walk with phase := if walk.phase = .seed then .iterate else .done }
  match response.check with
  | .error error => walk.abort error
  | .ok [] => (none, walk)
  | .ok (binding :: _) => walk.emit binding

/-- Take in an answer of the iteration. An error status is reported against the cursor. -/
def absorbBatch (walk : Walk) (response : Response) : Option Item × Walk :=
  if response.isError then
    walk.abort (.snmp response.source response.status response.index (some walk.cursor))
  else if response.bindings = [] then (none, walk.endIteration)
  else (none, { walk with buffer := response.bindings })

/-- Take in what came of a request. -/
def absorb (walk : Walk) : Except Error Response → Option Item × Walk
  | .error error => walk.abort error
  | .ok response =>
    match walk.phase with
    | .iterate => walk.absorbBatch response
    | _ => walk.absorbRoot response

/-- A bound on the requests made before there is something to report. -/
def Phase.requests : Phase → Nat
  | .seed => 3
  | .iterate => 2
  | .fallback => 1
  | .done => 0

variable {m : Type → Type} [Monad m]

/-- Go on until there is something to report, with at most `fuel` requests; `none` is the end. -/
def nextWithin (session : Session m) : (fuel : Nat) → Walk → m (Option Item × Walk)
  | 0, walk => return walk.drain
  | fuel + 1, walk =>
    match walk.drain with
    | (some item, walk) => return (some item, walk)
    | (none, walk) =>
      match walk.request? with
      | none => return (none, walk)
      | some request => do
        match walk.absorb (← session.execute request) with
        | (some item, walk) => return (some item, walk)
        | (none, walk) => nextWithin session fuel walk

/-- The next report of a walk, or `none` at its end. -/
def next (session : Session m) (walk : Walk) : m (Option Item × Walk) :=
  nextWithin session walk.phase.requests walk

end Walk

end SnmpManager
