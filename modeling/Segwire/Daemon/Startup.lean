import Segwire.Daemon.ConfigRescan
import Segwire.Daemon.EventLoop
import Segwire.Foundation.IpAddrDisplay
import Segwire.Foundation.Lines
import Mathlib.Data.Nat.Bitwise

/-!
# Starting the daemon

The program loads the master configuration, checks its privileges and builds the event loop,
which connects to the bus and scans the configurations. The check of privileges accepts
`CAP_SYS_ADMIN`, which it reads off `/proc/self/status`; the netlink manager behind it asks for
root once more, unless it is simulated. A name on the bus that another process has is waited
for in a queue, and the program goes on meanwhile.

## Main definitions

* `hasCapSysAdmin`, `readEffectiveCapabilities` — what is read off the status file
* `StartEnvironment` — what the program meets, and `checkCapabilities`, `verifyPrivileges`
* `StartEnvironment.main` — the program up to where its threads start
* `KernelStatus` — a status file as the kernel writes it

## Main results

* `hasCapSysAdmin_paddedHex` — the bit is read off the digits
* `StartEnvironment.main_starts_iff` — when the daemon starts
-/

namespace Segwire.Daemon

open Foundation Foundation.Text Segwire.Common

/-! ### The status file -/

/-- The loop of `from_str_radix` over the digits. -/
def radixDigits (radix max : Nat) : Nat → List Char → Option Nat
  | value, [] => some value
  | value, c :: digits =>
    match IpAddr.toDigit radix c with
    | none => none
    | some digit =>
      let value := value * radix + digit
      if max < value then none else radixDigits radix max value digits

/-- `from_str_radix` of an unsigned type whose largest value is `max`. -/
def fromStrRadix (radix max : Nat) : List Char → Option Nat
  | [] | ['+'] | ['-'] => none
  | '+' :: digits => radixDigits radix max 0 digits
  | digits => radixDigits radix max 0 digits

/-- `line.strip_prefix(label)` -/
def stripLabel (label line : List Char) : Option (List Char) :=
  if label.isPrefixOf line then some (line.drop label.length) else none

/-- Read the effective capability bitmask off the status file, as its digits. -/
def readEffectiveCapabilities (status : Except IoError String) : List Char :=
  match status with
  | .error _ => []
  | .ok status =>
    match (lines status.toList).findSome? (stripLabel "CapEff:".toList) with
    | some rest => trim rest
    | none => []

/-- Check whether the digits include CAP_SYS_ADMIN (bit 21). -/
def hasCapSysAdmin (capEffHex : List Char) : Bool :=
  match fromStrRadix 16 (2 ^ 64 - 1) capEffHex with
  | some bits => bits &&& (1 <<< 21) != 0
  | none => false

/-- Check if seccomp may be blocking namespace-related syscalls. -/
def checkSeccompStatus (status : Except IoError String) : Option String :=
  match status with
  | .error _ => none
  | .ok status =>
    let modes := (lines status.toList).filterMap (stripLabel "Seccomp:".toList)
    if modes.any fun rest => (parseU32 (trim rest)).getD 0 = 2 then
      some ("Seccomp filter is active – if namespace syscalls fail, " ++
        "check that unshare(2) and setns(2) are allowed.")
    else none

/-! ### The program -/

/-- What the bus answers to a request for a name. -/
inductive RequestNameReply
  | primaryOwner | inQueue | exists_ | alreadyOwner
  deriving DecidableEq, Repr

/-- What the program meets when it starts. A variable that is not Unicode counts as absent. -/
structure StartEnvironment where
  platform : Platform
  host : Host
  procStatus : Except IoError String
  dockerenv : Bool
  containerenv : Bool
  cgroup : Except IoError String
  container : Option String
  simulation : Bool
  useSessionBus : Bool
  connection : Except String Unit
  requestName : String → Except String RequestNameReply
  authConnection : Except String Unit
  startTime : SystemTime
  spawnWatcher : Except String Unit

/-- Result of a capability check. -/
structure CapabilityCheckResult where
  hasRequiredCapabilities : Bool
  isRoot : Bool
  isContainer : Bool
  containerRuntime : Option String
  missingCapabilities : List String
  warnings : List String
  deriving DecidableEq, Repr

/-- The master configuration file. -/
def masterConfigPath : PathBuf := ⟨["etc", "segwire", "daemon.toml"]⟩

namespace StartEnvironment

variable (env : StartEnvironment)

/-- Detect if we are running inside a container and, if so, which runtime. -/
def detectContainerEnvironment : Bool × Option String :=
  let cgroupNames (name : String) : Bool :=
    (env.cgroup.map (containsStr · name)).toOption.getD false
  if env.dockerenv then (true, some "Docker")
  else if env.containerenv then (true, some "Podman")
  else if cgroupNames "docker" then (true, some "Docker")
  else if cgroupNames "lxc" then (true, some "LXC")
  else if cgroupNames "kubepods" then (true, some "Kubernetes")
  else if env.container = some "systemd-nspawn" then (true, some "systemd-nspawn")
  else if env.container.isSome then (true, some "unknown")
  else (false, none)

/-- Lightweight check that simply returns the result without erroring. -/
def checkCapabilities : CapabilityCheckResult :=
  let isRoot := env.host.isRoot
  let (isContainer, containerRuntime) := env.detectContainerEnvironment
  let hasCaps := isRoot || hasCapSysAdmin (readEffectiveCapabilities env.procStatus)
  { hasRequiredCapabilities := hasCaps
    isRoot
    isContainer
    containerRuntime
    missingCapabilities := if hasCaps then [] else ["CAP_SYS_ADMIN"]
    warnings :=
      (if isContainer then
        ["Running inside a container (" ++ containerRuntime.getD "unknown" ++
          "). Ensure the container has been started with --cap-add=SYS_ADMIN or an " ++
          "equivalent setting."] ++
        (if env.host.netns.isNone then
          ["/var/run/netns does not exist – network namespace persistence may not work " ++
            "inside this container."]
        else [])
      else []) ++
      (checkSeccompStatus env.procStatus).toList }

/-- Perform a full privilege check, returning an error if the daemon cannot manage network
namespaces. -/
def verifyPrivileges : SegwireResult CapabilityCheckResult :=
  let result := env.checkCapabilities
  if result.hasRequiredCapabilities then .ok result
  else .error (.permission
    ("Daemon requires the following capabilities: cap_sys_admin. Missing: " ++
    String.intercalate ", " result.missingCapabilities ++ ". Either run as root or grant " ++
    "capabilities via systemd (AmbientCapabilities=CAP_SYS_ADMIN)."))

/-- The bus part of `DbusService::new`: connect, and request the name. What is answered to the
request is not looked at. -/
def connectBus (serviceName : String) : SegwireResult Unit := do
  env.connection.mapError SegwireError.dbus
  let _ ← (env.requestName serviceName).mapError SegwireError.dbus
  return ()

/-- `start_file_monitoring` -/
def startFileMonitoring : SegwireResult Unit :=
  env.spawnWatcher.mapError fun e =>
    .config (.invalidValue "inotify_thread" ("Failed to spawn watcher thread: " ++ e))

/-- What the event loop is started with. -/
def setup (daemonConfig : DaemonConfig) : Setup where
  simulation := env.simulation
  useSessionBus := env.useSessionBus
  authConnection := env.authConnection
  startTime := env.startTime
  daemonConfig
  configPath := masterConfigPath
  host := env.host

/-- The program, up to where its threads have been started. -/
def main : SegwireResult DaemonEventLoop := do
  let daemonConfig ← DaemonConfig.fromFile env.platform env.host.files masterConfigPath
  let _ ← env.verifyPrivileges
  let configManager := ConfigManager.fromConfig daemonConfig masterConfigPath
  let netlinkManager ← NetlinkManager.newAuto env.simulation env.host
  env.connectBus daemonConfig.dbus.serviceName
  match configManager.scanNamespaceConfigs env.platform env.host.files with
  | (.error e, _) => .error e
  | (.ok _, configManager) => do
    env.startFileMonitoring
    return {
      managers := ⟨configManager, .new netlinkManager⟩
      service := .new env.useSessionBus env.authConnection env.startTime
      configThread := .waiting
      stateThread := .starting
      call := none }

end StartEnvironment

/-! ### Reading the bit -/

/-- The lowest digits of a number, padded with zeros: `{:016x}` for 16 of them. -/
def paddedHex : Nat → Nat → List Char
  | 0, _ => []
  | count + 1, n => paddedHex count (n / 16) ++ [Nat.digitChar (n % 16)]

theorem paddedHex_ne_nil (count n : Nat) : paddedHex (count + 1) n ≠ [] :=
  List.append_ne_nil_of_right_ne_nil _ (List.cons_ne_nil _ _)

theorem toDigit_last (n : Nat) : IpAddr.toDigit 16 (Nat.digitChar (n % 16)) = some (n % 16) :=
  IpAddr.toDigit_digitChar le_rfl (Nat.mod_lt n (by omega))

theorem isDigit_of_mem_paddedHex {count n : Nat} :
    ∀ c ∈ paddedHex count n, IpAddr.IsDigit 16 c := by
  induction count generalizing n with
  | zero => exact List.forall_mem_nil _
  | succ count ih =>
    intro c hc
    rcases List.mem_append.mp hc with hc | hc
    · exact ih c hc
    · rw [List.mem_singleton.mp hc, IpAddr.IsDigit, toDigit_last]
      rfl

/-- The digits denote the number, as far as it has no others. -/
theorem valueFrom_paddedHex (count n : Nat) :
    IpAddr.valueFrom 16 0 (paddedHex count n) = n % 16 ^ count := by
  induction count generalizing n with
  | zero =>
    rw [Nat.pow_zero, Nat.mod_one]
    rfl
  | succ count ih =>
    have hfirst := ih (n / 16)
    rw [IpAddr.valueFrom] at hfirst
    rw [IpAddr.valueFrom, paddedHex, List.foldl_append, hfirst, List.foldl_cons, toDigit_last,
      Nat.pow_succ', Nat.mod_mul]
    dsimp only [List.foldl_nil, Option.getD_some]
    omega

/-- The digits are read if their number fits. -/
theorem radixDigits_eq {radix max : Nat} (hradix : 0 < radix) {digits : List Char}
    (hdigits : ∀ c ∈ digits, IpAddr.IsDigit radix c) (value : Nat)
    (hmax : IpAddr.valueFrom radix value digits ≤ max) :
    radixDigits radix max value digits = some (IpAddr.valueFrom radix value digits) := by
  induction digits generalizing value with
  | nil => rfl
  | cons c digits ih =>
    rw [List.forall_mem_cons] at hdigits
    obtain ⟨digit, hdigit⟩ := Option.isSome_iff_exists.mp hdigits.1
    have hvalue : IpAddr.valueFrom radix value (c :: digits) =
        IpAddr.valueFrom radix (value * radix + digit) digits := by
      rw [IpAddr.valueFrom, List.foldl_cons, hdigit]
      rfl
    rw [hvalue] at hmax ⊢
    -- the number only grows from digit to digit
    have hle := (IpAddr.le_valueFrom hradix _ digits).trans hmax
    rw [radixDigits, hdigit]
    dsimp only
    rw [if_neg (by omega), ih hdigits.2 _ hmax]

theorem fromStrRadix_of_digits {max : Nat} {digits : List Char} (hne : digits ≠ [])
    (hdigits : ∀ c ∈ digits, IpAddr.IsDigit 16 c)
    (hmax : IpAddr.valueFrom 16 0 digits ≤ max) :
    fromStrRadix 16 max digits = some (IpAddr.valueFrom 16 0 digits) := by
  have hsign : ¬ IpAddr.IsDigit 16 '+' ∧ ¬ IpAddr.IsDigit 16 '-' := by decide
  rw [← radixDigits_eq (by omega) hdigits 0 hmax]
  unfold fromStrRadix
  split
  · exact absurd rfl hne
  · exact absurd (hdigits _ List.mem_cons_self) hsign.1
  · exact absurd (hdigits _ List.mem_cons_self) hsign.2
  · exact absurd (hdigits _ List.mem_cons_self) hsign.1
  · rfl

/-- The bit is read off the digits of the mask. -/
theorem hasCapSysAdmin_paddedHex {mask : Nat} (h : mask < 2 ^ 64) :
    hasCapSysAdmin (paddedHex 16 mask) = mask.testBit 21 := by
  have hvalue : IpAddr.valueFrom 16 0 (paddedHex 16 mask) = mask := by
    rw [valueFrom_paddedHex]
    exact Nat.mod_eq_of_lt h
  have hread : fromStrRadix 16 (2 ^ 64 - 1) (paddedHex 16 mask) =
      some (IpAddr.valueFrom 16 0 (paddedHex 16 mask)) :=
    fromStrRadix_of_digits (paddedHex_ne_nil 15 mask) isDigit_of_mem_paddedHex (by omega)
  rw [hasCapSysAdmin, hread, hvalue]
  dsimp only
  rw [Nat.one_shiftLeft, Nat.and_two_pow]
  cases mask.testBit 21 with
  | false => rfl
  | true => rfl

example : hasCapSysAdmin "0000003fffffffff".toList = true ∧ hasCapSysAdmin [] = false ∧
    hasCapSysAdmin "not_hex".toList = false := by decide

/-! ### The file as the kernel writes it -/

/-- A status file with this mask of effective capabilities. -/
def KernelStatus (mask : Nat) (status : String) : Prop :=
  ∃ before after : List Char,
    (∀ line ∈ before.splitOn '\n', ¬ "CapEff:".toList <+: line) ∧
    status.toList =
      before ++ '\n' :: ("CapEff:".toList ++ '\t' :: paddedHex 16 mask ++ '\n' :: after)

theorem stripLabel_eq_none_iff {label line : List Char} :
    stripLabel label line = none ↔ ¬ label <+: line := by
  rw [stripLabel, ← List.isPrefixOf_iff_prefix]
  split_ifs with h
  · simp [h]
  · simp [h]

theorem stripLabel_append (label rest : List Char) :
    stripLabel label (label ++ rest) = some rest := by
  rw [stripLabel, if_pos (List.isPrefixOf_iff_prefix.mpr (List.prefix_append label rest)),
    List.drop_left]

/-- The first line with a label is found among the others. -/
theorem findSome?_stripLabel {label rest before after : List Char} (hlabel : '\n' ∉ label)
    (hrest : '\n' ∉ rest) (hne : rest ≠ []) (hlast : '\r' ∉ rest)
    (hbefore : ∀ line ∈ before.splitOn '\n', ¬ label <+: line) :
    (lines (before ++ '\n' :: (label ++ rest ++ '\n' :: after))).findSome? (stripLabel label) =
      some rest := by
  have hcarriage : stripCarriage (label ++ rest) = label ++ rest := by
    rw [stripCarriage, if_neg]
    intro hcarriage
    rw [List.getLast?_append_of_ne_nil _ hne] at hcarriage
    exact hlast (List.mem_of_getLast? hcarriage)
  have hskipped :
      ((before.splitOn '\n').map stripCarriage).findSome? (stripLabel label) = none := by
    rw [List.findSome?_eq_none_iff]
    rintro _ hmem
    obtain ⟨line, hline, rfl⟩ := List.mem_map.mp hmem
    refine stripLabel_eq_none_iff.mpr fun hstarts => hbefore line hline (hstarts.trans ?_)
    unfold stripCarriage
    split_ifs
    · exact List.dropLast_prefix line
    · exact List.prefix_rfl
  have hsplit : (label ++ rest).splitOn '\n' = [label ++ rest] := by
    have hnewline : '\n' ∉ label ++ rest := by
      rw [List.mem_append, not_or]
      exact ⟨hlabel, hrest⟩
    have hparts := List.splitOn_intercalate '\n' (List.forall_mem_singleton.mpr hnewline)
      (List.cons_ne_nil _ [])
    rwa [List.intercalate_singleton] at hparts
  rw [lines_append_cons, lines_append_cons, hsplit, List.findSome?_append, hskipped,
    List.map_singleton, hcarriage, List.singleton_append, List.findSome?_cons, stripLabel_append]
  rfl

theorem isWhitespace_of_isDigit {c : Char} (h : IpAddr.IsDigit 16 c) : isWhitespace c = false := by
  obtain ⟨digit, -, -, hhex⟩ := IpAddr.exists_toDigit_of_isDigit h
  have hbounds : '0'.toNat = 48 ∧ '9'.toNat = 57 ∧ 'a'.toNat = 97 ∧ 'f'.toNat = 102 ∧
      'A'.toNat = 65 ∧ 'F'.toNat = 70 := by decide
  unfold IpAddr.hexDigit at hhex
  simp only [char_le_iff] at hhex
  split_ifs at hhex <;> exact isWhitespace_of_visible (by omega) (by omega)

/-- The digits of the mask are what is read. -/
theorem readEffectiveCapabilities_of_kernelStatus {mask : Nat} {status : String}
    (h : KernelStatus mask status) :
    readEffectiveCapabilities (.ok status) = paddedHex 16 mask := by
  obtain ⟨before, after, hbefore, hstatus⟩ := h
  generalize hdigits : paddedHex 16 mask = digits at hstatus ⊢
  have hall : ∀ c ∈ digits, IpAddr.IsDigit 16 c := hdigits ▸ isDigit_of_mem_paddedHex
  have hvisible (c : Char) (hc : c ∈ digits) : isWhitespace c = false :=
    isWhitespace_of_isDigit (hall c hc)
  have hrest (c : Char) (htab : c ≠ '\t') (hdigit : ¬ IpAddr.IsDigit 16 c) :
      c ∉ '\t' :: digits := by
    rw [List.mem_cons, not_or]
    exact ⟨htab, fun hc => hdigit (hall c hc)⟩
  have hfound : (lines (before ++ '\n' :: ("CapEff:".toList ++ '\t' :: digits ++
      '\n' :: after))).findSome? (stripLabel "CapEff:".toList) = some ('\t' :: digits) :=
    findSome?_stripLabel (by decide) (hrest '\n' (by decide) (by decide)) (List.cons_ne_nil _ _)
      (hrest '\r' (by decide) (by decide)) hbefore
  rw [readEffectiveCapabilities, hstatus, hfound]
  have htrim : trim (['\t'] ++ digits ++ []) = trim digits :=
    trim_padded (by decide) blank_nil digits
  rw [List.append_nil] at htrim
  refine htrim.trans (trim_eq_self ?_ ?_)
  · exact fun c hc => hvisible c (List.mem_of_head? hc)
  · exact fun c hc => hvisible c (List.mem_of_getLast? hc)

namespace StartEnvironment

/-! ### When the daemon starts -/

variable {env : StartEnvironment} {mask : Nat} {status : String}

/-- The check of privileges asks for root or for the bit, whatever else it warns of. -/
theorem exists_verifyPrivileges_iff (hstatus : env.procStatus = .ok status)
    (hkernel : KernelStatus mask status) (hmask : mask < 2 ^ 64) :
    (∃ result, env.verifyPrivileges = .ok result) ↔
      env.host.isRoot = true ∨ mask.testBit 21 = true := by
  have hcaps : env.checkCapabilities.hasRequiredCapabilities =
      (env.host.isRoot || mask.testBit 21) := by
    rw [checkCapabilities, hstatus, readEffectiveCapabilities_of_kernelStatus hkernel,
      hasCapSysAdmin_paddedHex hmask]
  rw [← Bool.or_eq_true, ← hcaps]
  unfold verifyPrivileges
  dsimp only
  split_ifs with h
  · exact iff_of_true ⟨_, rfl⟩ h
  · exact iff_of_false (by rintro ⟨_, hresult⟩; cases hresult) h

/-- A netlink manager needs root, unless it is simulated. -/
theorem exists_newAuto_iff {simulation : Bool} {host : Host} :
    (∃ manager, NetlinkManager.newAuto simulation host = .ok manager) ↔
      simulation = true ∨ host.isRoot = true ∧
        (host.netns.isSome = true ∨ host.faults .createNetnsDir = none) := by
  unfold NetlinkManager.newAuto NetlinkManager.new
  cases simulation with
  | true => simp
  | false =>
    cases host.isRoot with
    | false => simp
    | true =>
      cases host.netns with
      | some files => simp
      | none => cases host.faults .createNetnsDir <;> simp

theorem exists_paths_of_scanEntries {platform : Platform} {fs : FileSystem}
    {manager : ConfigManager} {entries : List (Except IoError PathBuf)}
    {found scanned : List String × NamespaceConfigs}
    (h : manager.scanEntries platform fs entries found = .ok scanned) :
    ∃ paths : List PathBuf, entries = paths.map .ok := by
  induction entries generalizing found with
  | nil => exact ⟨[], rfl⟩
  | cons entry entries ih =>
    cases entry with
    | error e => cases h
    | ok path =>
      obtain ⟨paths, rfl⟩ := ih h
      exact ⟨path :: paths, rfl⟩

/-- A scan succeeds exactly if the directory and all of its entries can be read. -/
theorem exists_scan_iff {platform : Platform} {fs : FileSystem} {manager : ConfigManager} :
    (∃ names, (manager.scanNamespaceConfigs platform fs).1 = .ok names) ↔
      ∃ paths : List PathBuf, fs.readDir manager.configDirectory = .ok (paths.map .ok) := by
  constructor
  · rintro ⟨names, h⟩
    unfold ConfigManager.scanNamespaceConfigs at h
    split at h
    · cases h
    · rename_i entries hentries
      split at h
      · cases h
      · rename_i hscan
        obtain ⟨paths, rfl⟩ := exists_paths_of_scanEntries hscan
        exact ⟨paths, hentries⟩
  · rintro ⟨paths, h⟩
    rw [ConfigManager.scan_of_readDir platform h]
    exact ⟨_, rfl⟩

/-- The start of a run: a netlink manager and a scan. -/
theorem start_eq_ok_iff {platform : Platform} {setup : Setup} {s : DaemonEventLoop} :
    DaemonEventLoop.start platform setup = .ok s ↔ ∃ netlinkManager names configManager,
      NetlinkManager.newAuto setup.simulation setup.host = .ok netlinkManager ∧
      (ConfigManager.fromConfig setup.daemonConfig setup.configPath).scanNamespaceConfigs platform
        setup.host.files = (.ok names, configManager) ∧
      s = ⟨⟨configManager, .new netlinkManager⟩,
        .new setup.useSessionBus setup.authConnection setup.startTime, .waiting, .starting,
        none⟩ := by
  constructor
  · intro h
    obtain ⟨netlinkManager, hmanager, h⟩ := Except.bind_eq_ok_iff.mp h
    dsimp only at h
    split at h
    · cases h
    · rename_i names configManager hscan
      exact ⟨netlinkManager, names, configManager, hmanager, hscan, (Except.ok.inj h).symm⟩
  · rintro ⟨netlinkManager, names, configManager, hmanager, hscan, rfl⟩
    rw [DaemonEventLoop.start, hmanager, Except.ok_bind]
    dsimp only
    rw [hscan]

/-- The event loop that is built is the one that the daemon's runs start with. -/
theorem main_eq_start_iff {s : DaemonEventLoop} :
    env.main = .ok s ↔ ∃ config,
      DaemonConfig.fromFile env.platform env.host.files masterConfigPath = .ok config ∧
      (∃ result, env.verifyPrivileges = .ok result) ∧ env.connection = .ok () ∧
      (∃ reply, env.requestName config.dbus.serviceName = .ok reply) ∧
      env.spawnWatcher = .ok () ∧
      DaemonEventLoop.start env.platform (env.setup config) = .ok s := by
  simp only [start_eq_ok_iff]
  constructor
  · intro h
    obtain ⟨config, hconfig, h⟩ := Except.bind_eq_ok_iff.mp h
    obtain ⟨result, hresult, h⟩ := Except.bind_eq_ok_iff.mp h
    obtain ⟨netlinkManager, hmanager, h⟩ := Except.bind_eq_ok_iff.mp h
    obtain ⟨hbus, h⟩ := Except.check_bind_eq_ok_iff.mp h
    obtain ⟨hconnection, hbus⟩ := Except.check_bind_eq_ok_iff.mp hbus
    obtain ⟨reply, hreply, -⟩ := Except.bind_eq_ok_iff.mp hbus
    split at h
    · cases h
    · rename_i names configManager hscan
      obtain ⟨hwatcher, h⟩ := Except.check_bind_eq_ok_iff.mp h
      exact ⟨config, hconfig, ⟨result, hresult⟩, Except.mapError_eq_ok_iff.mp hconnection,
        ⟨reply, Except.mapError_eq_ok_iff.mp hreply⟩, Except.mapError_eq_ok_iff.mp hwatcher,
        netlinkManager, names, configManager, hmanager, hscan, (Except.ok.inj h).symm⟩
  · rintro ⟨config, hconfig, ⟨result, hresult⟩, hconnection, ⟨reply, hreply⟩, hwatcher,
      netlinkManager, names, configManager, hmanager, hscan, rfl⟩
    have hmanager : NetlinkManager.newAuto env.simulation env.host = .ok netlinkManager := hmanager
    have hscan : (ConfigManager.fromConfig config masterConfigPath).scanNamespaceConfigs
        env.platform env.host.files = (.ok names, configManager) := hscan
    rw [main, hconfig, Except.ok_bind, hresult, Except.ok_bind, hmanager, Except.ok_bind,
      connectBus, hconnection, hreply]
    dsimp only [Except.mapError, bind, Except.bind, pure, Except.pure]
    rw [hscan]
    dsimp only
    rw [startFileMonitoring, hwatcher]
    rfl

theorem exists_start_iff {platform : Platform} {setup : Setup} :
    (∃ s, DaemonEventLoop.start platform setup = .ok s) ↔
      (setup.simulation = true ∨ setup.host.isRoot = true ∧
        (setup.host.netns.isSome = true ∨ setup.host.faults .createNetnsDir = none)) ∧
      ∃ paths : List PathBuf,
        setup.host.files.readDir setup.daemonConfig.daemon.configDir = .ok (paths.map .ok) := by
  have hscan : (∃ names, ((ConfigManager.fromConfig setup.daemonConfig
      setup.configPath).scanNamespaceConfigs platform setup.host.files).1 = .ok names) ↔
        ∃ paths : List PathBuf,
          setup.host.files.readDir setup.daemonConfig.daemon.configDir = .ok (paths.map .ok) :=
    exists_scan_iff
  rw [← exists_newAuto_iff, ← hscan]
  simp only [start_eq_ok_iff]
  constructor
  · rintro ⟨s, netlinkManager, names, configManager, hmanager, hscan, -⟩
    exact ⟨⟨netlinkManager, hmanager⟩, names, congrArg Prod.fst hscan⟩
  · rintro ⟨⟨netlinkManager, hmanager⟩, names, hnames⟩
    exact ⟨_, netlinkManager, names, _, hmanager, Prod.ext hnames rfl, rfl⟩

/-- With a status file of the kernel, the daemon starts exactly if its configuration and the
directory that it names can be read, the bus answers its request with whatever reply, its
threads can be started, and it is root; the simulation may have `CAP_SYS_ADMIN` instead. A
daemon that has started is where its runs start. -/
theorem main_starts_iff (hstatus : env.procStatus = .ok status)
    (hkernel : KernelStatus mask status) (hmask : mask < 2 ^ 64) :
    ((∃ s, env.main = .ok s) ↔ ∃ config,
      DaemonConfig.fromFile env.platform env.host.files masterConfigPath = .ok config ∧
      (env.host.isRoot = true ∧ (env.simulation = true ∨ env.host.netns.isSome = true ∨
          env.host.faults .createNetnsDir = none) ∨
        env.simulation = true ∧ mask.testBit 21 = true) ∧
      env.connection = .ok () ∧ (∃ reply, env.requestName config.dbus.serviceName = .ok reply) ∧
      (∃ paths : List PathBuf,
        env.host.files.readDir config.daemon.configDir = .ok (paths.map .ok)) ∧
      env.spawnWatcher = .ok ()) ∧
    ∀ s, env.main = .ok s → ∃ config,
      DaemonConfig.fromFile env.platform env.host.files masterConfigPath = .ok config ∧
      DaemonEventLoop.start env.platform (env.setup config) = .ok s := by
  refine ⟨?_, fun s hs => ?_⟩
  · constructor
    · rintro ⟨s, hs⟩
      obtain ⟨config, hconfig, hprivileges, hconnection, hreply, hwatcher, hstart⟩ :=
        main_eq_start_iff.mp hs
      obtain ⟨hmanager, hscan⟩ := exists_start_iff.mp ⟨s, hstart⟩
      have hmanager : env.simulation = true ∨ env.host.isRoot = true ∧
          (env.host.netns.isSome = true ∨ env.host.faults .createNetnsDir = none) := hmanager
      rw [exists_verifyPrivileges_iff hstatus hkernel hmask] at hprivileges
      exact ⟨config, hconfig, by tauto, hconnection, hreply, hscan, hwatcher⟩
    · rintro ⟨config, hconfig, hprivileges, hconnection, hreply, hscan, hwatcher⟩
      have hmanager : (env.setup config).simulation = true ∨
          (env.setup config).host.isRoot = true ∧ ((env.setup config).host.netns.isSome = true ∨
            (env.setup config).host.faults .createNetnsDir = none) := by
        change env.simulation = true ∨ env.host.isRoot = true ∧
          (env.host.netns.isSome = true ∨ env.host.faults .createNetnsDir = none)
        tauto
      obtain ⟨s, hstart⟩ : ∃ s, DaemonEventLoop.start env.platform (env.setup config) = .ok s :=
        exists_start_iff.mpr ⟨hmanager, hscan⟩
      have hverify := (exists_verifyPrivileges_iff hstatus hkernel hmask).mpr (by tauto)
      exact ⟨s, main_eq_start_iff.mpr
        ⟨config, hconfig, hverify, hconnection, hreply, hwatcher, hstart⟩⟩
  · obtain ⟨config, hconfig, -, -, -, -, hstart⟩ := main_eq_start_iff.mp hs
    exact ⟨config, hconfig, hstart⟩

section Fixture

/-- The master configuration, in its place. -/
def installed : FileSystem :=
  Disk.fileSystem ⟨(∅ : HashMap PathBuf DiskFile).insert masterConfigPath ⟨masterText "seg", 0⟩,
    {⟨["etc", "segwire", "namespaces"]⟩}⟩ .sorted

/-- The status file of a process that has `CAP_SYS_ADMIN` and nothing else. -/
def capableStatus : String :=
  "Name:\tsegwire-daemon\nCapPrm:\t0000000000200000\nCapEff:\t0000000000200000\nSeccomp:\t2\n"

/-- A process that is not root but has `CAP_SYS_ADMIN`, while another process has the name on
the bus. -/
def capable (simulation : Bool) : StartEnvironment where
  platform := .ofTables [] [(masterText "seg", .standard "seg")]
  host := { Host.quiet 5 installed with isRoot := false }
  procStatus := .ok capableStatus
  dockerenv := false
  containerenv := false
  cgroup := .error ⟨"Permission denied"⟩
  container := none
  simulation
  useSessionBus := true
  connection := .ok ()
  requestName _ := .ok .inQueue
  authConnection := .ok ()
  startTime := 5
  spawnWatcher := .ok ()

theorem kernelStatus_capable : KernelStatus (2 ^ 21) capableStatus :=
  ⟨"Name:\tsegwire-daemon\nCapPrm:\t0000000000200000".toList, "Seccomp:\t2\n".toList,
    by decide, by decide⟩

end Fixture

/-- The capability lets the simulation start, but not the daemon that needs it. -/
theorem main_starts_capable :
    (∃ s, (capable true).main = .ok s) ∧ ¬ ∃ s, (capable false).main = .ok s := by
  constructor
  · refine (main_starts_iff rfl kernelStatus_capable (by decide)).1.mpr
      ⟨.standard "seg", by decide, .inr ⟨rfl, by decide⟩, rfl, ⟨_, rfl⟩, ⟨[], rfl⟩, rfl⟩
  · rw [(main_starts_iff rfl kernelStatus_capable (by decide)).1]
    rintro ⟨config, -, hprivileges, -⟩
    rcases hprivileges with ⟨hroot, -⟩ | ⟨hsimulation, -⟩
    · cases hroot
    · cases hsimulation

end StartEnvironment

end Segwire.Daemon
