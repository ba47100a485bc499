import QueryGateway.Decimal.Reading
import QueryGateway.Http.Percent
import QueryGateway.Text.Blank
import QueryGateway.Text.Network

/-!
# Addresses of database servers

An address is a URL or a list of settings, each a key and a value with an equals sign between them.
It has to name a host, and at most one port or a port for each host.

## Main definitions

* `ServerAddress` — what an address says about where the server is.
* `ServerAddress.ofText?` — reads an address.
* `ServerAddress.refusal` — why no server is reached at an address.
-/

namespace QueryGateway.Postgres

/-- What an address says about where the server is. -/
structure ServerAddress where
  hosts : List String := []
  /-- The numeric addresses of the hosts. -/
  numeric : List String := []
  ports : List Nat := []
  deriving DecidableEq, Repr

/-- Why no server is reached at an address. -/
inductive AddressFault
  | malformed
  /-- Hosts and ports do not fit together. -/
  | inconsistent
  | unreachable
  deriving DecidableEq, Repr

/-- The wording of a fault. -/
def AddressFault.message : AddressFault → String
  | .malformed => "invalid connection string"
  | .inconsistent => "invalid configuration"
  | .unreachable => "error connecting to server"

namespace ServerAddress

/-- A number of 16 bits, perhaps with a plus sign. -/
def port? (text : String) : Option Nat :=
  if text.startsWith "-" then none
  else (Numeral.integer? text).bind fun n => if n < 65536 then some n.toNat else none

/-- The ports of a list; an empty one is the usual port. -/
def ports? (text : String) : Option (List Nat) :=
  (Text.split ',' text).mapM fun part => if part = "" then some 5432 else port? part

/-- Whether a text is an integer in some range. -/
def isInteger (least most : Int) (text : String) : Bool :=
  !(least = 0 && text.startsWith "-") && (Numeral.integer? text).any fun n => least ≤ n && n ≤ most

/-- Whether a text is an integer of 64 bits. -/
def isInt64 : String → Bool := isInteger (-9223372036854775808) 9223372036854775807

/-- The settings that do not say where the server is, with their values. -/
def accepts (key value : String) : Bool :=
  match key with
  | "user" | "password" | "dbname" | "options" | "application_name" => true
  | "sslmode" | "channel_binding" => ["disable", "prefer", "require"].contains value
  | "sslnegotiation" => ["postgres", "direct"].contains value
  | "connect_timeout" | "tcp_user_timeout" | "keepalives_idle" | "keepalives_interval" =>
    isInt64 value
  | "keepalives" => isInteger 0 18446744073709551615 value
  | "keepalives_retries" => isInteger 0 4294967295 value
  | "target_session_attrs" => ["any", "read-write", "read-only"].contains value
  | "load_balance_hosts" => ["disable", "random"].contains value
  | _ => false

/-- Adds a setting. -/
def set? (a : ServerAddress) (key value : String) : Option ServerAddress :=
  match key with
  | "host" => some { a with hosts := a.hosts ++ Text.split ',' value }
  | "hostaddr" =>
    let parts := Text.split ',' value
    if parts.all fun part => Text.isIpv4 part.toList || Text.isIpv6 part.toList then
      some { a with numeric := a.numeric ++ parts }
    else none
  | "port" => (ports? value).map fun ports => { a with ports := a.ports ++ ports }
  | _ => if accepts key value then some a else none

/-! ## Lists of settings -/

/-- The characters up to one that satisfies a test, and the rest from there; a backslash makes the
next character count as itself. -/
def readEscaped (stop : Char → Bool) : List Char → List Char × List Char
  | [] => ([], [])
  | '\\' :: rest =>
    if stop '\\' then ([], '\\' :: rest)
    else
      match rest with
      | [] => ([], [])
      | c :: rest =>
        let (value, rest) := readEscaped stop rest
        (c :: value, rest)
  | c :: rest =>
    if stop c then ([], c :: rest)
    else
      let (value, rest) := readEscaped stop rest
      (c :: value, rest)

/-- The value of a setting, perhaps in quotes. -/
def readValue : List Char → Option (String × List Char)
  | '\x27' :: rest =>
    match readEscaped (· = '\x27') rest with
    | (value, _ :: rest) => some (String.ofList value, rest)
    | (_, []) => none
  | cs =>
    match readEscaped Text.isBlank cs with
    | ([], _) => none
    | (value, rest) => some (String.ofList value, rest)

/-- Reads settings, at most so many; what starts with an equals sign is left aside. -/
def readSettings : Nat → ServerAddress → List Char → Option ServerAddress
  | 0, a, _ => some a
  | fuel + 1, a, cs =>
    let cs := cs.dropWhile Text.isBlank
    let isKey (c : Char) : Bool := !Text.isBlank c && c ≠ '='
    let key := cs.takeWhile isKey
    if key = [] then some a
    else
      match (cs.dropWhile isKey).dropWhile Text.isBlank with
      | '=' :: rest => do
        let (value, rest) ← readValue (rest.dropWhile Text.isBlank)
        readSettings fuel (← a.set? (String.ofList key) value) rest
      | _ => none

/-! ## URLs -/

/-- The text of a part of a URL. -/
def decode? (part : List Char) : Option String :=
  Utf8.decode? (Percent.decode (Utf8.encode (String.ofList part)))

/-- Adds the host of a URL; one that starts with a slash is a path. -/
def addHost? (a : ServerAddress) (part : List Char) : Option ServerAddress :=
  let bytes := Percent.decode (Utf8.encode (String.ofList part))
  if bytes.head? = some 47 then some { a with hosts := a.hosts ++ [Utf8.lossy bytes] }
  else (Utf8.decode? bytes).map fun host => { a with hosts := a.hosts ++ [host] }

/-- Adds a host with its port; a host in brackets may hold colons. -/
def addPlace? (a : ServerAddress) : List Char → Option ServerAddress
  | '[' :: rest =>
    match rest.dropWhile (· ≠ ']') with
    | [] => none
    | _ :: after =>
      let host := rest.takeWhile (· ≠ ']')
      match after with
      | [] => do (← a.addHost? host).set? "port" "5432"
      | ':' :: port => do (← a.addHost? host).set? "port" (← decode? port)
      | _ => none
  | cs => do
    let a ← a.addHost? (cs.takeWhile (· ≠ ':'))
    match cs.dropWhile (· ≠ ':') with
    | [] => a.set? "port" "5432"
    | _ :: port => a.set? "port" (← decode? port)

/-- Adds the settings after the question mark of a URL, at most so many. -/
def addFields? : Nat → ServerAddress → List Char → Option ServerAddress
  | _, a, [] => some a
  | 0, a, _ => some a
  | fuel + 1, a, cs =>
    match cs.dropWhile (· ≠ '=') with
    | [] => none
    | _ :: rest => do
      let key ← decode? (cs.takeWhile (· ≠ '='))
      let value := rest.takeWhile (· ≠ '&')
      let a ← if key = "host" then a.addHost? value else a.set? key (← decode? value)
      addFields? fuel a ((rest.dropWhile (· ≠ '&')).drop 1)

/-- Reads a URL after its scheme: a user, hosts with ports, the name of a database, and settings. -/
def ofUrl? (cs : List Char) : Option ServerAddress := do
  let place ←
    if cs.contains '@' then
      let _ ← decode? ((cs.takeWhile (· ≠ '@')).takeWhile (· ≠ ':'))
      pure ((cs.dropWhile (· ≠ '@')).drop 1)
    else pure cs
  let isHost (c : Char) : Bool := c ≠ '/' && c ≠ '?'
  let hosts := place.takeWhile isHost
  let a ←
    if hosts = [] then pure {}
    else (Text.splitChars ',' hosts).foldlM addPlace? {}
  let path := place.dropWhile isHost
  let _ ← decode? (path.takeWhile (· ≠ '?'))
  let fields := (path.dropWhile (· ≠ '?')).drop 1
  addFields? (fields.length + 1) a fields

/-- Reads an address. -/
def ofText? (text : String) : Option ServerAddress :=
  let cs := text.toList
  match ["postgres://", "postgresql://"].find? fun scheme => scheme.toList.isPrefixOf cs with
  | some scheme => ofUrl? (cs.drop scheme.length)
  | none => readSettings (cs.length + 1) {} cs

/-- Whether hosts and ports fit together. -/
def isConsistent (a : ServerAddress) : Bool :=
  let count := max a.hosts.length a.numeric.length
  count ≠ 0 && (a.hosts = [] || a.numeric = [] || a.hosts.length = a.numeric.length) &&
    (a.ports.length ≤ 1 || a.ports.length = count)

/-- Why no server is reached at an address where none answers. -/
def refusal (text : String) : AddressFault :=
  match ofText? text with
  | none => .malformed
  | some a => if a.isConsistent then .unreachable else .inconsistent

end ServerAddress

end QueryGateway.Postgres
