/-!
# Commands

The commands of the tool, how each is used, and which flags each takes.
-/

namespace SnmpManager

/-- A command of the tool. -/
inductive Command where
  | get
  | getNext
  | bulkGet
  | walk
  | bulkWalk
  | trap
  | mibTree
  deriving DecidableEq, Repr

namespace Command

/-- All commands. -/
def all : List Command :=
  [.get, .getNext, .bulkGet, .walk, .bulkWalk, .trap, .mibTree]

/-- The word a command is called by. -/
def name : Command → String
  | .get => "get"
  | .getNext => "getnext"
  | .bulkGet => "bulkget"
  | .walk => "walk"
  | .bulkWalk => "bulkwalk"
  | .trap => "trap"
  | .mibTree => "mibtree"

/-- The command a word calls. -/
def ofName? (word : String) : Option Command :=
  all.find? fun command => command.name == word

@[simp] theorem ofName?_name (command : Command) : ofName? command.name = some command := by
  cases command <;> rfl

/-- The arguments of a command that talks to an agent. -/
def argumentHelp : Command → String
  | .get | .getNext => "agent oid ..."
  | .bulkGet => "[-C n<nonrep>r<maxrep>] agent oid ..."
  | .walk => "[-C cIipt] [-C E endoid] agent [oid]"
  | .bulkWalk => "[-C cipn<nonrep>r<maxrep>] agent [oid]"
  | .trap => "agent uptime oid [oid type value] ..."
  | .mibTree => "[-O fnS]"

/-- The lines shown after a usage error. -/
def usage (command : Command) : String :=
  let options := match command with
    | .mibTree => ""
    | _ => " [-c community] [-r retries] [-t timeout] [-v version]\n            [-O afnqvxSQ]"
  "usage: snmp " ++ command.name ++ options ++ " " ++ command.argumentHelp

/-- Whether a command takes a flag after `-C`. -/
def acceptsRequestFlag (command : Command) (flag : Char) : Bool :=
  match flag with
  | 'c' | 'i' | 'p' => command == .walk || command == .bulkWalk
  | 'n' | 'r' => command == .bulkGet || command == .bulkWalk
  | 't' | 'E' | 'I' => command == .walk
  | _ => false

/-- Whether a command takes a flag after `-O`. -/
def acceptsOutputFlag (command : Command) (flag : Char) : Bool :=
  match command with
  | .mibTree => ['f', 'n', 'S'].contains flag
  | _ => ['a', 'f', 'n', 'q', 'v', 'x', 'S', 'Q'].contains flag

end Command

end SnmpManager
