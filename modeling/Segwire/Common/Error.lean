import Segwire.Foundation.FileSystem

/-!
# Errors

The error types of `segwire-common` with their messages, and the conversions
between them.

## Main definitions

* `ConfigError`, `SegwireError`, `NetlinkError`, `DbusError` — the error types
* `SegwireError.toDbusError`, `DbusError.toSegwireError` — the conversions
-/

namespace Segwire.Common

open Foundation

/-- `toml::de::Error` -/
structure TomlError where
  message : String
  deriving DecidableEq, Repr

/-- Configuration-related errors. -/
inductive ConfigError
  | invalidToml (error : TomlError)
  | missingField (field : String)
  | invalidValue (field value : String)
  | fileNotFound (path : String)
  | envSubstitution (message : String)
  deriving DecidableEq, Repr

/-- Main error type for segwire operations. -/
inductive SegwireError
  | config (error : ConfigError)
  | network (message : String)
  | dbus (message : String)
  | permission (message : String)
  | system (error : IoError)
  | validation (message : String)
  deriving DecidableEq, Repr

/-- Results with `SegwireError`. -/
abbrev SegwireResult (α : Type) := Except SegwireError α

namespace ConfigError

/-- The `Display` text. -/
def display : ConfigError → String
  | invalidToml error => "Invalid TOML syntax: " ++ error.message
  | missingField field => "Missing required field: " ++ field
  | invalidValue field value => "Invalid value for field '" ++ field ++ "': " ++ value
  | fileNotFound path => "Configuration file not found: " ++ path
  | envSubstitution message => "Environment variable substitution failed: " ++ message

end ConfigError

namespace SegwireError

/-- The `Display` text. -/
def display : SegwireError → String
  | config error => "Configuration error: " ++ error.display
  | network message => "Network operation failed: " ++ message
  | dbus message => "D-Bus error: " ++ message
  | permission message => "Permission denied: " ++ message
  | system error => "System error: " ++ error.message
  | validation message => "Validation error: " ++ message

end SegwireError

instance : Coe ConfigError SegwireError := ⟨.config⟩

/-- Errors specific to netlink operations. -/
inductive NetlinkError
  | namespaceNotFound (name : String)
  | namespaceExists (name : String)
  | createFailed (name reason : String)
  | deleteFailed (name reason : String)
  | insufficientPrivileges
  | interfaceNotFound (name : String)
  | dnsConfigFailed (name reason : String)
  | invalidRoute (reason : String)
  | invalidDns (reason : String)
  | socketError (reason : String)
  | protocolError (reason : String)
  deriving DecidableEq, Repr

namespace NetlinkError

/-- The `Display` text. -/
def display : NetlinkError → String
  | namespaceNotFound name => "Namespace '" ++ name ++ "' not found"
  | namespaceExists name => "Namespace '" ++ name ++ "' already exists"
  | createFailed name reason => "Failed to create namespace '" ++ name ++ "': " ++ reason
  | deleteFailed name reason => "Failed to delete namespace '" ++ name ++ "': " ++ reason
  | insufficientPrivileges => "Insufficient privileges for namespace operations"
  | interfaceNotFound name => "Network interface '" ++ name ++ "' not found"
  | dnsConfigFailed name reason =>
    "Failed to configure DNS in namespace '" ++ name ++ "': " ++ reason
  | invalidRoute reason => "Invalid route configuration: " ++ reason
  | invalidDns reason => "Invalid DNS configuration: " ++ reason
  | socketError reason => "Netlink socket error: " ++ reason
  | protocolError reason => "Netlink protocol error: " ++ reason

/-- `SegwireError::from` -/
def toSegwireError (error : NetlinkError) : SegwireError := .network error.display

end NetlinkError

instance : Coe NetlinkError SegwireError := ⟨NetlinkError.toSegwireError⟩

/-- D-Bus error types with descriptive messages. -/
inductive DbusError
  | configurationError (message : String)
  | networkError (message : String)
  | permissionDenied (message : String)
  | namespaceNotFound (message : String)
  | invalidState (message : String)
  | systemError (message : String)
  | internalError (message : String)
  deriving DecidableEq, Repr

namespace DbusError

/-- Get the error message. -/
def message : DbusError → String
  | configurationError m | networkError m | permissionDenied m | namespaceNotFound m
  | invalidState m | systemError m | internalError m => m

/-- `SegwireError::from` -/
def toSegwireError : DbusError → SegwireError
  | configurationError m => .validation m
  | networkError m => .network m
  | permissionDenied m => .permission m
  | namespaceNotFound m => .network m
  | invalidState m => .validation m
  | systemError m => .system ⟨m⟩
  | internalError m => .network m

end DbusError

/-- `DbusError::from` -/
def SegwireError.toDbusError : SegwireError → DbusError
  | .config error => .configurationError error.display
  | .network m => .networkError m
  | .permission m => .permissionDenied m
  | .system error => .systemError error.message
  | .dbus m => .internalError m
  | .validation m => .configurationError m

/-- A D-Bus error that travels through `SegwireError` keeps its message. -/
theorem DbusError.message_toDbusError_toSegwireError (error : DbusError) :
    error.toSegwireError.toDbusError.message = error.message := by
  cases error <;> rfl

end Segwire.Common
