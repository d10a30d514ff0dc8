import Segwire.Common.Netlink
import Segwire.Foundation.IpAddr

/-!
# The machine under the daemon

What the daemon's system calls act on. Namespaces are files in `/var/run/netns`
with a namespace mounted on them; a system call fails when the host has a fault
for it; the kernel's answers to interface, address, route and WireGuard requests
are arbitrary. All of this may change between two steps of the daemon.

## Main definitions

* `Host` — the machine
* `NetlinkRequest` — a request to the netlink layer about a namespace's network
* `Host.now`, `Host.createNetns`, `Host.deleteNetns` — system calls
-/

namespace Segwire.Daemon

open Foundation Segwire.Common

/-- The system calls on the namespace directory that may fail. -/
inductive Syscall
  | createNetnsDir
  | readNetnsDir
  | readNetnsEntry (name : String)
  | createFile (name : String)
  | mountNetns (name : String)
  | umount (name : String)
  | removeFile (name : String)
  deriving DecidableEq, Repr

/-- A file in the namespace directory: whether a namespace is mounted on it. -/
structure NetnsFile where
  mounted : Bool
  deriving DecidableEq, Repr

/-- The requests about a namespace's network that the daemon makes of the netlink
layer, one for each method of `NetlinkManager`. -/
inductive NetlinkRequest
  | createVethPair (vethName peerName : String)
  | moveInterface (interfaceName namespaceName : String)
  | moveInterfaceToDefault (namespaceName interfaceName : String)
  | addAddress (namespaceName ifname : String) (addr : IpAddr) (prefixLen : Nat)
  | setLinkUpInNamespace (namespaceName ifname : String)
  | setLinkUp (ifname : String)
  | createWireguardInterface (namespaceName wgName : String)
  | configureWireguard (namespaceName wgName : String) (config : WireguardConfig)
  | createVirtualInterface (namespaceName vifName vifType : String)
  | addRoute (namespaceName : String) (route : RouteConfig)
  | configureDns (namespaceName : String) (config : NetlinkDnsConfig)
  deriving DecidableEq, Repr

/-- The machine. The clock shows nanoseconds since the Unix epoch, one reading for
each time it is asked; a reading before the epoch would make the daemon panic.
`netns` is absent while `/var/run/netns` does not exist, `requests` records the
requests made so far, and `answers` says which of them the kernel refuses. -/
structure Host where
  isRoot : Bool
  netns : Option (HashMap String NetnsFile)
  nsInode : String → Nat
  faults : Syscall → Option String
  clock : Nat → Nat
  ticks : Nat
  answers : Nat → Option SegwireError
  requests : List NetlinkRequest
  files : FileSystem

namespace Host

/-- A machine without namespaces and faults, run as root. Its clock shows `seconds` at
every reading. -/
def quiet (seconds : Nat) (files : FileSystem) : Host where
  isRoot := true
  netns := some ∅
  nsInode _ := 0
  faults _ := none
  clock _ := seconds * 10 ^ 9
  ticks := 0
  answers _ := none
  requests := []
  files

/-- `SystemTime::now()` -/
def now (host : Host) : SystemTime × Host :=
  (host.clock host.ticks, { host with ticks := host.ticks + 1 })

/-- Whether `/var/run/netns/name` exists. -/
def netnsPathExists (host : Host) (name : String) : Bool :=
  (host.netns.bind (·.lookup name)).isSome

/-- Put a file into the namespace directory. -/
def setNetnsFile (host : Host) (name : String) (file : NetnsFile) : Host :=
  { host with netns := host.netns.map (·.insert name file) }

/-- Take a file out of the namespace directory. -/
def eraseNetnsFile (host : Host) (name : String) : Host :=
  { host with netns := host.netns.map (·.erase name) }

/-- `File::create` on a path in the namespace directory. -/
def createFile (host : Host) (name : String) : Except String Unit × Host :=
  match host.faults (.createFile name), host.netns with
  | some e, _ => (.error e, host)
  -- the directory is gone, so the file cannot be made in it
  | none, none => (.error "No such file or directory", host)
  | none, some _ => (.ok (), host.setNetnsFile name ⟨false⟩)

/-- `create_netns`: mount a namespace onto a placeholder file. Only that something is mounted is
kept here, not which namespace it is. -/
def createNetns (host : Host) (name : String) : Except String Unit × Host :=
  match host.faults (.mountNetns name) with
  | some e => (.error e, host)
  | none => (.ok (), host.setNetnsFile name ⟨true⟩)

/-- `fs::remove_file` on a path in the namespace directory. -/
def removeFile (host : Host) (name : String) : Except String Unit × Host :=
  match host.faults (.removeFile name) with
  | some e => (.error e, host)
  | none => (.ok (), host.eraseNetnsFile name)

/-- `umount2(path, MNT_DETACH)`, which fails on a file with nothing mounted. -/
def umount (host : Host) (name : String) : Except String Unit × Host :=
  match host.faults (.umount name) with
  | some e => (.error e, host)
  | none =>
    if (host.netns.bind (·.lookup name)) = some ⟨true⟩ then
      (.ok (), host.setNetnsFile name ⟨false⟩)
    else (.error "Invalid argument", host)

/-- `delete_netns`: unmount the namespace and remove the file. -/
def deleteNetns (host : Host) (name : String) : Except String Unit × Host :=
  match host.umount name with
  | (.error e, host) => (.error ("umount2 failed: " ++ e), host)
  | (.ok (), host) =>
    match host.removeFile name with
    -- the namespace is unmounted by now, and its file stays behind
    | (.error e, host) => (.error ("remove file: " ++ e), host)
    | (.ok (), host) => (.ok (), host)

end Host

end Segwire.Daemon
