import SnmpManager.Run.Basic
import SnmpManager.Session.Scripted

/-!
# Rehearsals

Running a command with a scripted agent and a terminal that remembers, so that
the whole of it is a function of the script.

- `Rehearsal` is the state: the agent and what was printed.
- `Rehearsal.run` runs a configuration.
-/

namespace SnmpManager

/-- A scripted agent and what was printed. -/
structure Rehearsal where
  agent : ScriptedAgent
  transcript : Transcript := {}
  deriving DecidableEq, Repr

namespace Rehearsal

/-- Act on the agent. -/
def onAgent {α : Type} (action : StateM ScriptedAgent α) : StateM Rehearsal α :=
  fun state =>
    let (a, agent) := action state.agent
    (a, { state with agent })

/-- Act on the transcript. -/
def onTranscript {α : Type} (action : StateM Transcript α) : StateM Rehearsal α :=
  fun state =>
    let (a, transcript) := action state.transcript
    (a, { state with transcript })

/-- The session with the scripted agent. -/
def session (peer : SocketAddress) (isStream : Bool) (settings : SessionSettings) :
    Session (StateM Rehearsal) :=
  (ScriptedAgent.session peer isStream settings).lift onAgent

/-- The terminal that remembers. -/
def terminal : Terminal (StateM Rehearsal) :=
  Transcript.terminal.lift onTranscript

/-- Run a command over a session with the agent; the host has just been started. -/
def runSession (config : Config) (state : Rehearsal) : Except Error Completion × Rehearsal :=
  let session := session state.agent.peer state.agent.isStream config.session
  (config.runSession session terminal (pure 0) state.agent.reportBound).run.run state

/-- A host with no network but the scripted agent's state. -/
def host : Host (StateM Rehearsal) where
  network := .unreachable
  terminal := terminal
  freshId := onAgent (modifyGet ScriptedAgent.takeId)
  uptime := pure 0

/-- Run a command on a host without a network. -/
def runAlone (config : Config) (state : Rehearsal) : Except Error Completion × Rehearsal :=
  (config.run host state.agent.reportBound).run.run state

end Rehearsal

end SnmpManager
