import ConnPool.Isolation

namespace ConnPool

inductive ConfigFault where
  | unknownLevel (why : Isolation.Unknown)
  | foreignUrl (driver url : String)
  | badValue (key value reason : String)
  | otherDriver (named used : String)
  | urlRequired
  | noCapacity
  | pingQueryRequired
  | other (text : String)
  deriving DecidableEq, Repr

inductive Error where
  | connection (text : String)
  | query (text : String)
  | driver (text : String)
  | configuration (fault : ConfigFault)
  | unknownProperty (key : String)
  /-- A call came through a checkout that the pool has taken back. -/
  | connectionInvalidated
  | poolExhausted
  | poolUnknown
  | io (text : String)
  | json
  | toml
  | notSupported (text : String)
  | other (text : String)
  deriving DecidableEq, Repr

/-- An error that is reported, or a misuse that aborts the call. -/
inductive Failure where
  | error (e : Error)
  | panic (text : String)
  deriving DecidableEq, Repr

abbrev Outcome (α : Type) := Except Failure α

def Outcome.fail {α : Type} (e : Error) : Outcome α := .error (.error e)

def ConfigFault.message : ConfigFault → String
  | unknownLevel (.code c) => "Unknown isolation level code: " ++ String.ofList (Text.ofInt c)
  | unknownLevel (.name s) => "Unknown isolation level: " ++ s
  | foreignUrl driver url => "Driver '" ++ driver ++ "' does not accept url '" ++ url ++ "'"
  | badValue key value reason =>
    "Invalid value '" ++ value ++ "' for property '" ++ key ++ "': " ++ reason
  | otherDriver named used =>
    "Property 'driver' names '" ++ named ++ "' but the factory uses '" ++ used ++ "'"
  | urlRequired => "Property 'url' is required"
  | noCapacity => "max_active_connections must be greater than 0"
  | pingQueryRequired => "ping_enabled requires a non-empty ping_query"
  | other text => text

namespace Error

def message : Error → String
  | connection text => "Connection error: " ++ text
  | query text => "Query error: " ++ text
  | driver text => "Driver error: " ++ text
  | configuration fault => "Configuration error: " ++ fault.message
  | unknownProperty key => "Unknown DataSource property: " ++ key
  | connectionInvalidated => "Error accessing pooled connection. Connection is invalid."
  | poolExhausted => "Could not get a good connection to the database"
  | poolUnknown =>
    "Unknown severe error condition. The connection pool returned a null connection."
  | io text => "IO error: " ++ text
  | json => "Serialization error"
  | toml => "TOML error"
  | notSupported text => "Not supported: " ++ text
  | other text => text

def isPoolFailure : Error → Bool
  | poolExhausted | poolUnknown => true
  | _ => false

end Error

def Isolation.ofText (s : String) : Except Error Isolation :=
  (Isolation.parse s).mapError fun why => .configuration (.unknownLevel why)

end ConnPool
