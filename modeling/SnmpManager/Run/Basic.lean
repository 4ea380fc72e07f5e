import SnmpManager.Notification
import SnmpManager.Print.Binding
import SnmpManager.Print.Terminal
import SnmpManager.Run.Network
import SnmpManager.Session.Walk

/-!
# Running commands

- `Config.runSession` runs a command over an open session: it asks, checks the
  answer, and only then prints its bindings; a walk prints each binding as it is
  found.
- `Config.run` opens the session first, or prints the table of names if the
  command has no agent.

A walk may go on forever, so a run is given a number of reports after which it
is cut short.
-/

namespace SnmpManager

/-- How far a command came. -/
inductive Completion where
  | finished
  /-- A walk that made as many reports as it was allowed. -/
  | cutShort
  deriving DecidableEq, Repr

/-- What a command needs around it. -/
structure Host (m : Type → Type) where
  network : Network m
  terminal : Terminal m
  /-- Take a request id that was not taken before. -/
  freshId : m Int32
  /-- How long the host has been up, in hundredths of a second. -/
  uptime : m UInt64

namespace Config

variable {m : Type → Type} [Monad m]

/-- Print the lines of some bindings. -/
def printLines (terminal : Terminal m) (options : OutputOptions) :
    List VarBind → ExceptT Error m Unit
  | [] => return ()
  | binding :: rest => do
    ExceptT.mk (terminal.print (binding.line options))
    printLines terminal options rest

/-- The bindings of the answer to a request that the agent did not refuse. -/
def ask (session : Session m) (request : Request) : ExceptT Error m (List VarBind) := do
  let response ← ExceptT.mk (session.execute request)
  ExceptT.mk (pure response.check)

/-- Print what a walk finds, up to its end; `none` if it was cut short. -/
def printWalk (session : Session m) (terminal : Terminal m) (options : OutputOptions) :
    (reports : Nat) → Walk → ExceptT Error m (Option Walk)
  | 0, _ => return none
  | reports + 1, walk => do
    match ← ExceptT.lift (walk.next session) with
    | (none, walk) => return some walk
    | (some (.error error), _) => throw error
    | (some (.ok binding), walk) =>
      ExceptT.mk (terminal.print (binding.line options))
      printWalk session terminal options reports walk

/-- Walk a subtree, then print the summary and the time that were asked for. -/
def runWalk (session : Session m) (terminal : Terminal m) (config : Config) (root : Oid)
    (reports : Nat) : ExceptT Error m Completion := do
  let start ← ExceptT.lift session.channel.now
  match ← printWalk session terminal config.output reports (Walk.start root config.walk) with
  | none => return .cutShort
  | some walk =>
    let finish ← ExceptT.lift session.channel.now
    if config.output.summary then
      ExceptT.mk (terminal.print (summaryLine walk.found))
    if config.output.time then
      ExceptT.mk (terminal.remark (traversalTime (finish.since start) ++ "\n"))
    return .finished

/-- Put a notification together and send it. -/
def runTrap (session : Session m) (hostUptime : m UInt64) (uptime trapOid : String)
    (bindings : List String) : ExceptT Error m Unit := do
  let uptime ← ExceptT.mk (pure (Uptime.parse uptime))
  let typed ← ExceptT.mk (pure (TypedBinding.triples bindings))
  let trap ← ExceptT.mk (pure (Notification.assemble uptime trapOid typed))
  let ticks := trap.uptime.onWire (← ExceptT.lift hostUptime)
  ExceptT.mk (session.notify ticks trap.trapOid trap.bindings)

/-- The request of a command that asks once. -/
def request? (config : Config) : Option Request :=
  match config.target, config.command with
  | .objects oids, .get => some (.get oids)
  | .objects oids, .getNext => some (.getNext oids)
  | .objects oids, .bulkGet =>
    some (.getBulk oids config.bulk.nonRepeaters config.bulk.maxRepetitions)
  | _, _ => none

/-- Run a command over an open session. -/
def runSession (session : Session m) (terminal : Terminal m) (hostUptime : m UInt64)
    (config : Config) (reports : Nat) : ExceptT Error m Completion :=
  match config.request? with
  | some request => do
    printLines terminal config.output (← ask session request)
    return .finished
  | none =>
    match config.target, config.command with
    | .subtree root, .walk | .subtree root, .bulkWalk =>
      runWalk session terminal config root reports
    | .notification uptime trapOid bindings, .trap => do
      runTrap session hostUptime uptime trapOid bindings
      return .finished
    | _, _ => throw (.usage .arguments)

/-- Print the table of names. -/
def printNames (terminal : Terminal m) (options : OutputOptions) :
    List Oid → ExceptT Error m Unit
  | [] => return ()
  | oid :: rest => do
    ExceptT.mk (terminal.print (oidLine options oid))
    printNames terminal options rest

/-- The port a command speaks to unless told otherwise. -/
def defaultPort (command : Command) : UInt16 :=
  if command = .trap then Agent.trapPort else Agent.requestPort

/-- Run a command. -/
def run (host : Host m) (config : Config) (reports : Nat) : ExceptT Error m Completion :=
  match config.agent with
  | none => do
    printNames host.terminal config.output Mib.entries
    return .finished
  | some spec => do
    let agent ← ExceptT.mk (pure (Agent.parse spec (defaultPort config.command)))
    let channel ← agent.connect host.network config.session.timeout
    let session : Session m := { channel, settings := config.session, freshId := host.freshId }
    runSession session host.terminal host.uptime config reports

end Config

end SnmpManager
