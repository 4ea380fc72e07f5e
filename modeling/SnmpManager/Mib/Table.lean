import SnmpManager.Oid.Basic

/-!
# Named objects

A small table of well-known nodes of the object tree: enough to name the usual
system, interface and notification objects. Anything else is written in numbers.

`Mib.nodes` is in the order of the object tree; each node and each name occurs
once, also when the case of letters is ignored.
-/

namespace SnmpManager.Mib

/-- A node of the object tree with a name. -/
structure Node where
  arcs : List UInt32
  name : String
  deriving DecidableEq, Repr

/-- The well-known nodes, in tree order. -/
def nodes : List Node := [
  ⟨[1], "iso"⟩,
  ⟨[1, 3], "org"⟩,
  ⟨[1, 3, 6], "dod"⟩,
  ⟨[1, 3, 6, 1], "internet"⟩,
  ⟨[1, 3, 6, 1, 1], "directory"⟩,
  ⟨[1, 3, 6, 1, 2], "mgmt"⟩,
  ⟨[1, 3, 6, 1, 2, 1], "mib_2"⟩,
  ⟨[1, 3, 6, 1, 2, 1, 1], "system"⟩,
  ⟨[1, 3, 6, 1, 2, 1, 1, 1], "sysDescr"⟩,
  ⟨[1, 3, 6, 1, 2, 1, 1, 2], "sysObjectID"⟩,
  ⟨[1, 3, 6, 1, 2, 1, 1, 3], "sysUpTime"⟩,
  ⟨[1, 3, 6, 1, 2, 1, 1, 4], "sysContact"⟩,
  ⟨[1, 3, 6, 1, 2, 1, 1, 5], "sysName"⟩,
  ⟨[1, 3, 6, 1, 2, 1, 1, 6], "sysLocation"⟩,
  ⟨[1, 3, 6, 1, 2, 1, 1, 7], "sysServices"⟩,
  ⟨[1, 3, 6, 1, 2, 1, 1, 8], "sysORLastChange"⟩,
  ⟨[1, 3, 6, 1, 2, 1, 1, 9], "sysORTable"⟩,
  ⟨[1, 3, 6, 1, 2, 1, 2], "interfaces"⟩,
  ⟨[1, 3, 6, 1, 2, 1, 2, 1], "ifNumber"⟩,
  ⟨[1, 3, 6, 1, 2, 1, 2, 2], "ifTable"⟩,
  ⟨[1, 3, 6, 1, 2, 1, 2, 2, 1], "ifEntry"⟩,
  ⟨[1, 3, 6, 1, 2, 1, 2, 2, 1, 1], "ifIndex"⟩,
  ⟨[1, 3, 6, 1, 2, 1, 2, 2, 1, 2], "ifDescr"⟩,
  ⟨[1, 3, 6, 1, 2, 1, 2, 2, 1, 3], "ifType"⟩,
  ⟨[1, 3, 6, 1, 2, 1, 2, 2, 1, 4], "ifMtu"⟩,
  ⟨[1, 3, 6, 1, 2, 1, 2, 2, 1, 5], "ifSpeed"⟩,
  ⟨[1, 3, 6, 1, 2, 1, 2, 2, 1, 6], "ifPhysAddress"⟩,
  ⟨[1, 3, 6, 1, 2, 1, 2, 2, 1, 7], "ifAdminStatus"⟩,
  ⟨[1, 3, 6, 1, 2, 1, 2, 2, 1, 8], "ifOperStatus"⟩,
  ⟨[1, 3, 6, 1, 2, 1, 2, 2, 1, 9], "ifLastChange"⟩,
  ⟨[1, 3, 6, 1, 2, 1, 2, 2, 1, 10], "ifInOctets"⟩,
  ⟨[1, 3, 6, 1, 2, 1, 2, 2, 1, 11], "ifInUcastPkts"⟩,
  ⟨[1, 3, 6, 1, 2, 1, 2, 2, 1, 12], "ifInNUcastPkts"⟩,
  ⟨[1, 3, 6, 1, 2, 1, 2, 2, 1, 13], "ifInDiscards"⟩,
  ⟨[1, 3, 6, 1, 2, 1, 2, 2, 1, 14], "ifInErrors"⟩,
  ⟨[1, 3, 6, 1, 2, 1, 2, 2, 1, 15], "ifInUnknownProtos"⟩,
  ⟨[1, 3, 6, 1, 2, 1, 2, 2, 1, 16], "ifOutOctets"⟩,
  ⟨[1, 3, 6, 1, 2, 1, 2, 2, 1, 17], "ifOutUcastPkts"⟩,
  ⟨[1, 3, 6, 1, 2, 1, 2, 2, 1, 18], "ifOutNUcastPkts"⟩,
  ⟨[1, 3, 6, 1, 2, 1, 2, 2, 1, 19], "ifOutDiscards"⟩,
  ⟨[1, 3, 6, 1, 2, 1, 2, 2, 1, 20], "ifOutErrors"⟩,
  ⟨[1, 3, 6, 1, 2, 1, 2, 2, 1, 21], "ifOutQLen"⟩,
  ⟨[1, 3, 6, 1, 2, 1, 2, 2, 1, 22], "ifSpecific"⟩,
  ⟨[1, 3, 6, 1, 2, 1, 3], "at"⟩,
  ⟨[1, 3, 6, 1, 2, 1, 4], "ip"⟩,
  ⟨[1, 3, 6, 1, 2, 1, 5], "icmp"⟩,
  ⟨[1, 3, 6, 1, 2, 1, 6], "tcp"⟩,
  ⟨[1, 3, 6, 1, 2, 1, 7], "udp"⟩,
  ⟨[1, 3, 6, 1, 2, 1, 11], "snmp"⟩,
  ⟨[1, 3, 6, 1, 3], "experimental"⟩,
  ⟨[1, 3, 6, 1, 4], "private"⟩,
  ⟨[1, 3, 6, 1, 4, 1], "enterprises"⟩,
  ⟨[1, 3, 6, 1, 5], "security"⟩,
  ⟨[1, 3, 6, 1, 6], "snmpV2"⟩,
  ⟨[1, 3, 6, 1, 6, 3], "snmpModules"⟩,
  ⟨[1, 3, 6, 1, 6, 3, 1], "snmpMIB"⟩,
  ⟨[1, 3, 6, 1, 6, 3, 1, 1], "snmpMIBObjects"⟩,
  ⟨[1, 3, 6, 1, 6, 3, 1, 1, 4], "snmpTrap"⟩,
  ⟨[1, 3, 6, 1, 6, 3, 1, 1, 4, 1], "snmpTrapOID"⟩,
  ⟨[1, 3, 6, 1, 6, 3, 1, 1, 5], "snmpTraps"⟩,
  ⟨[1, 3, 6, 1, 6, 3, 1, 1, 5, 1], "coldStart"⟩,
  ⟨[1, 3, 6, 1, 6, 3, 1, 1, 5, 2], "warmStart"⟩,
  ⟨[1, 3, 6, 1, 6, 3, 1, 1, 5, 3], "linkDown"⟩,
  ⟨[1, 3, 6, 1, 6, 3, 1, 1, 5, 4], "linkUp"⟩,
  ⟨[1, 3, 6, 1, 6, 3, 1, 1, 5, 5], "authenticationFailure"⟩]

/-- The objects of the table, in order. -/
def entries : List Oid :=
  nodes.map fun node => ⟨node.arcs⟩

end SnmpManager.Mib
