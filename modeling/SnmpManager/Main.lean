import SnmpManager.Run.Program
import SnmpManager.System.Sockets

/-!
# The program

`main` runs the command line on this host: its sockets, its clocks, standard
output and standard error. The first request id is drawn at random, so that a
restart does not repeat the ids of the run before.
-/

namespace SnmpManager.Program

/-- Standard output and standard error. -/
def console : Terminal IO where
  print := fun text => Sockets.guarded none do
    let output ← IO.getStdout
    output.putStr text
    output.flush
  remark := fun text => Sockets.guarded none do
    (← IO.getStderr).putStr text

/-- A first request id, well below the largest. -/
def startingId (seed : Octets) : Int32 :=
  Int32.ofNat (Octets.toNat seed % 0x40000000 + 1)

/-- This host. -/
def thisHost : IO (Host IO) := do
  let counter ← IO.mkRef (startingId (← IO.getRandomBytes 4).toList)
  return {
    network := Sockets.network
    terminal := console
    freshId := counter.modifyGet fun id => (id, nextRequestId id)
    uptime := Clock.uptime }

/-- More reports than a walk makes before its agent is gone. -/
def reportLimit : Nat := 0x4000000000000000

end SnmpManager.Program

/-- Run a command line. -/
def main (args : List String) : IO UInt32 := do
  let host ← SnmpManager.Program.thisHost
  let status ← SnmpManager.Program.run host args SnmpManager.Program.reportLimit
  return status.code
