import Segwire.Common.ConfigLoading

/-!
# D-Bus types

The namespace states that the daemon tracks and answers with, the results of its
methods, and the checks on method arguments.

## Main definitions

* `NamespaceState`, `NamespaceStatus` — a tracked namespace
* `OperationResult`, `ValidationResult` — method results
* `InterfaceHelpers.validateNamespaceName`, `InterfaceHelpers.validateConfigPath`
-/

namespace Segwire.Common

open Foundation Foundation.Text

/-- Namespace status enumeration. -/
inductive NamespaceStatus
  | creating | active | failed | deleting
  deriving DecidableEq, Repr

/-- Get a human-readable status string. -/
def NamespaceStatus.asStr : NamespaceStatus → String
  | creating => "creating"
  | active => "active"
  | failed => "failed"
  | deleting => "deleting"

/-- Network interface information. -/
structure InterfaceInfo where
  name : String
  interfaceType : String
  status : String
  addresses : List String
  deriving DecidableEq, Repr

/-- Route information. -/
structure RouteInfo where
  destination : String
  gateway : String
  metric : Nat
  interface : String
  deriving DecidableEq, Repr

/-- DNS configuration information. -/
structure DnsInfo where
  servers : List String
  searchDomains : List String
  deriving DecidableEq, Repr

/-- Namespace state information for D-Bus communication. The two time stamps are
in whole seconds. -/
structure NamespaceState where
  name : String
  fullName : String
  status : NamespaceStatus
  configPath : String
  interfaces : List InterfaceInfo
  routes : List RouteInfo
  dnsConfig : DnsInfo
  createdAt : Nat
  lastUpdated : Nat
  deriving DecidableEq, Repr

namespace NamespaceState

/-- Create a new namespace state at time `now`. The path comes as it is displayed. -/
def new (name fullName configPath : String) (now : SystemTime) : NamespaceState where
  name
  fullName
  status := .creating
  configPath
  interfaces := []
  routes := []
  dnsConfig := ⟨[], []⟩
  createdAt := unixSeconds now
  lastUpdated := unixSeconds now

/-- Update the last modified timestamp. -/
def touch (state : NamespaceState) (now : SystemTime) : NamespaceState :=
  { state with lastUpdated := unixSeconds now }

/-- Set the status with a NamespaceStatus enum. -/
def setStatus (state : NamespaceState) (status : NamespaceStatus) (now : SystemTime) :
    NamespaceState :=
  { state with status }.touch now

/-- Check if the namespace is in an active state. -/
def isActive (state : NamespaceState) : Bool := state.status == .active

/-- Check if the namespace is in a failed state. -/
def isFailed (state : NamespaceState) : Bool := state.status == .failed

@[simp] theorem isActive_iff {state : NamespaceState} :
    state.isActive = true ↔ state.status = .active := by
  simp [isActive]

end NamespaceState

/-- D-Bus method call results. -/
structure OperationResult where
  success : Bool
  message : String
  details : HashMap String String
  deriving DecidableEq

namespace OperationResult

/-- Create a successful operation result. -/
def successful (message : String) : OperationResult := ⟨true, message, ∅⟩

/-- Create a failed operation result. -/
def failure (message : String) : OperationResult := ⟨false, message, ∅⟩

/-- Add detail information to the result. -/
def withDetail (result : OperationResult) (key value : String) : OperationResult :=
  { result with details := result.details.insert key value }

end OperationResult

/-- Configuration validation result. -/
structure ValidationResult where
  valid : Bool
  errors : List String
  warnings : List String
  deriving DecidableEq, Repr

namespace InterfaceHelpers

/-- Validate D-Bus method parameters. -/
def validateNamespaceName (isAlphanumeric : Char → Bool) (name : String) : Except DbusError Unit :=
  if name = "" then .error (.configurationError "Namespace name cannot be empty")
  else if 255 < byteLen name then .error (.configurationError "Namespace name too long")
  else if !name.toList.all fun c => isAlphanumeric c || c == '-' || c == '_' then
    .error (.configurationError "Namespace name contains invalid characters")
  else .ok ()

/-- Validate configuration file path. -/
def validateConfigPath (path : String) : Except DbusError Unit :=
  if path = "" then .error (.configurationError "Configuration path cannot be empty")
  else if !endsWith path ".toml" then
    .error (.configurationError "Configuration file must have .toml extension")
  else if containsStr path ".." then .error (.configurationError "Path traversal not allowed")
  else .ok ()

end InterfaceHelpers

end Segwire.Common
