import HstsPreload.Host.Address
import HstsPreload.ListSource
import HstsPreload.Text.Blank

/-!
Settings, as they are given by variables of the environment. What is not given has a default; what is
given but cannot be read is refused.
-/

namespace HstsPreload

open HstsPreload.Text

/-- The stage a service runs in. -/
inductive Environment where
  | development
  | test
  | production
  deriving Repr, DecidableEq, Inhabited

structure Config where
  environment : Environment := .development
  host : String := "127.0.0.1"
  port : Nat := 8080
  logLevel : String := "info"
  databasePath : String := "hstspreload.sqlite3"
  /-- Whether records are kept in a database that goes away with the process. -/
  inMemory : Bool := false
  /-- How long reads are kept; 0 turns the cache off. -/
  cacheSeconds : Nat := 60
  listUrl : String := PreloadList.publishedAt
  debugEndpoints : Bool := false
  serviceUrl : String := "https://hstspreload.org/api/v2"
  deriving Repr, DecidableEq, Inhabited

/-- Why settings are refused. -/
inductive ConfigFault where
  | invalidPort
  | invalidHost
  | invalidCacheSeconds (value : String)
  | invalidFlag (name value : String)
  deriving Repr, DecidableEq

def ConfigFault.message : ConfigFault → String
  | .invalidPort => "APP_PORT must be a valid u16"
  | .invalidHost => "APP_HOST must parse to an IPv4 or IPv6 address"
  | .invalidCacheSeconds value =>
    s!"PRELOAD_CACHE_SECONDS must be a whole number of seconds, got '{value}'"
  | .invalidFlag name value => s!"{name} must be a boolean flag, got '{value}'"

def ConfigFault.source? : ConfigFault → Option String
  | .invalidHost => some "invalid IP address syntax"
  | _ => none

/-- A value in lower case without blanks around it. -/
def bareWord (value : String) : String :=
  .ofList (lowerAscii (trim value.toList))

/-- The stage that a word stands for; most words stand for development. -/
def Environment.ofText (value : String) : Environment :=
  match bareWord value with
  | "prod" | "production" => .production
  | "test" | "ci" => .test
  | _ => .development

namespace Config

/-- Reads a port, which may not have blanks around it. -/
def readPort (value : String) : Except ConfigFault Nat :=
  (readNat 65535 value.toList).mapError fun _ => .invalidPort

def readCacheSeconds (value : String) : Except ConfigFault Nat :=
  (readNat (UInt64.size - 1) (trim value.toList)).mapError fun _ => .invalidCacheSeconds value

def readFlag (name value : String) : Except ConfigFault Bool :=
  match bareWord value with
  | "1" | "true" | "yes" | "on" => .ok true
  | "0" | "false" | "no" | "off" | "" => .ok false
  | _ => .error (.invalidFlag name value)

/-- Reads a variable if it is set. -/
def readOr {α : Type} (dflt : α) (read : String → Except ConfigFault α) :
    Option String → Except ConfigFault α
  | some value => read value
  | none => .ok dflt

/-- The variable of the switch for debugging. -/
def debugVariable : String := "PRELOAD_DEBUG_ENDPOINTS"

/-- The settings that the environment gives; the first that cannot be read is reported. -/
def ofVariables (given : String → Option String) : Except ConfigFault Config := do
  let d : Config := {}
  let port ← readOr d.port readPort (given "APP_PORT")
  let cacheSeconds ← readOr d.cacheSeconds readCacheSeconds (given "PRELOAD_CACHE_SECONDS")
  let debugEndpoints ← readOr d.debugEndpoints (readFlag debugVariable) (given debugVariable)
  return {
    environment := ((given "APP_ENV").map .ofText).getD d.environment
    host := (given "APP_HOST").getD d.host
    port
    logLevel := (given "APP_LOG_LEVEL").getD d.logLevel
    databasePath := (given "PRELOAD_DATABASE_PATH").getD d.databasePath
    cacheSeconds
    listUrl := (given "PRELOAD_LIST_URL").getD d.listUrl
    debugEndpoints
    serviceUrl := (given "PRELOAD_SERVICE_URL").getD d.serviceUrl }

/-- Where to listen. The host is an address, or the name of the local machine. -/
def endpoint (c : Config) : Except ConfigFault Host.Endpoint :=
  if lowerAscii c.host.toList = "localhost".toList then .ok ⟨.v4 .loopback, c.port⟩
  else
    match Host.Address.ofText? c.host.toList with
    | some address => .ok ⟨address, c.port⟩
    | none => .error .invalidHost

end Config

end HstsPreload
