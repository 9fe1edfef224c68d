import KctlProbe.Settings

/-!
# The fields of the settings

A configuration gives settings field by field. A field has a name and a place in the order of
declaration, and an `Assignment` is a field together with a value of its type.
-/

namespace KctlProbe.Settings

/-- A field of the settings. -/
inductive Field where
  | program
  | host
  | port
  | user
  | hmacKey
  | tls
  | clusterVersion
  | quiet
  | terse
  | verbose
  | yes
  deriving DecidableEq, Repr

namespace Field

/-- Every field, in the order of declaration. -/
def all : List Field :=
  [.program, .host, .port, .user, .hmacKey, .tls, .clusterVersion, .quiet, .terse, .verbose, .yes]

/-- The name of a field in a configuration. -/
def name : Field → String
  | .program => "program"
  | .host => "host"
  | .port => "port"
  | .user => "user"
  | .hmacKey => "hmac_key"
  | .tls => "tls"
  | .clusterVersion => "cluster_version"
  | .quiet => "quiet"
  | .terse => "terse"
  | .verbose => "verbose"
  | .yes => "yes"

/-- The field with the given name. -/
def ofName? (s : String) : Option Field :=
  all.find? (·.name == s)

end Field

/-- A field and its value. -/
inductive Assignment where
  | program (path : Bytes)
  | host (name : String)
  | port (number : UInt16)
  | user (id : Option Int64)
  | hmacKey (key : Option String)
  | tls (on : Bool)
  | clusterVersion (version : Option Int64)
  | quiet (on : Bool)
  | terse (on : Bool)
  | verbose (on : Bool)
  | yes (on : Bool)
  deriving DecidableEq, Repr

/-- The settings after an assignment. -/
def assign (c : Settings) : Assignment → Settings
  | .program path => { c with program := path }
  | .host name => { c with host := name }
  | .port number => { c with port := number }
  | .user id => { c with user := id }
  | .hmacKey key => { c with hmacKey := key }
  | .tls on => { c with tls := on }
  | .clusterVersion version => { c with clusterVersion := version }
  | .quiet on => { c with quiet := on }
  | .terse on => { c with terse := on }
  | .verbose on => { c with verbose := on }
  | .yes on => { c with yes := on }

end KctlProbe.Settings
