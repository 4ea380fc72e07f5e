import SnmpManager.Command.RequestFlags

/-!
# Run configurations

All that a command needs, checked before anything is sent.

- `SessionSettings` are the terms on which an agent is spoken to.
- `Target` is what the command is about.
- `Config.make` puts a configuration together from settings and arguments. What
  the version cannot carry comes first, then the end of the walk, then the
  number of arguments and the objects they name.
-/

namespace SnmpManager

/-- The terms on which an agent is spoken to. -/
structure SessionSettings where
  version : Version := .v2c
  community : Octets := [0x70, 0x75, 0x62, 0x6C, 0x69, 0x63]
  /-- How long one attempt waits. -/
  timeout : Duration := .ofSeconds 1
  /-- How many attempts follow the first, where attempts are repeated. -/
  retries : UInt32 := 5
  deriving DecidableEq, Repr

/-- What a command is about. -/
inductive Target where
  | objects (oids : List Oid)
  | subtree (root : Oid)
  /-- A notification as typed. -/
  | notification (uptime trapOid : String) (bindings : List String)
  /-- Nothing but the table of names. -/
  | names
  deriving DecidableEq, Repr

/-- A checked invocation of a command. -/
structure Config where
  command : Command
  /-- Where the agent is; the table of names needs none. -/
  agent : Option String
  target : Target
  session : SessionSettings
  walk : WalkOptions
  bulk : BulkCounts
  output : OutputOptions
  deriving DecidableEq, Repr

namespace Config

/-- What the version cannot carry. -/
def checkVersion (command : Command) (version : Version) : Except Error Unit :=
  if version.carriesV2 then .ok ()
  else match command with
    | .bulkGet | .bulkWalk => .error (.usage .v2PduOnV1)
    | .trap => .error (.usage .trapOnV1)
    | _ => .ok ()

/-- The end of the walk, if one is set, and the arguments that remain. -/
def takeEnd (endOid : Option EndOid) (args : List String) :
    Except Error (Option Oid × List String) :=
  match endOid, args with
  | none, args => .ok (none, args)
  | some (.inline text), args => (Mib.resolve text).map fun oid => (some oid, args)
  | some .nextArgument, [] => .error (.usage .arguments)
  | some .nextArgument, text :: rest => (Mib.resolve text).map fun oid => (some oid, rest)

/-- Where a walk without a root starts. -/
def defaultRoot : String := "mib_2"

/-- The agent and the target that the arguments of a command name. -/
def readTarget (command : Command) (args : List String) :
    Except Error (Option String × Target) :=
  match command with
  | .mibTree => if args = [] then .ok (none, .names) else .error (.usage .arguments)
  | .get | .getNext | .bulkGet =>
    match args with
    | agent :: first :: more => do
      let oids ← (first :: more).mapM Mib.resolve
      return (some agent, .objects oids)
    | _ => .error (.usage .arguments)
  | .walk | .bulkWalk =>
    match args with
    | [agent] => do return (some agent, .subtree (← Mib.resolve defaultRoot))
    | [agent, root] => do return (some agent, .subtree (← Mib.resolve root))
    | _ => .error (.usage .arguments)
  | .trap =>
    match args with
    | agent :: uptime :: trapOid :: bindings =>
      if bindings.length % 3 = 0 then .ok (some agent, .notification uptime trapOid bindings)
      else .error (.usage .trapArguments)
    | _ => .error (.usage .trapArguments)

/-- Check an invocation. -/
def make (command : Command) (session : SessionSettings) (settings : Settings)
    (args : List String) : Except Error Config := do
  checkVersion command session.version
  let (bound, args) ← takeEnd settings.request.endOid args
  let (agent, target) ← readTarget command args
  let walk := { settings.request.walk with
    bound := bound <|> settings.request.walk.bound
    bulk := if command = .bulkWalk then some settings.request.bulk else settings.request.walk.bulk }
  return ⟨command, agent, target, session, walk, settings.request.bulk, settings.output⟩

end Config

end SnmpManager
