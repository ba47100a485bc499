import QueryGateway.Decimal.Reading
import QueryGateway.Http.Percent
import QueryGateway.Queue.Delivery
import QueryGateway.Text.Case
import QueryGateway.Text.Network

/-!
# Addresses of list servers

The server of a queue is given by a URL with a host, and perhaps a port, a user with a password, the
number of a database and the version of the protocol.

## Main definitions

* `ListServerFault` — why no server is reached at an address.
* `ListServerAddress.refusal` — what is wrong with an address.
-/

namespace QueryGateway

/-- Why no server is reached at an address. -/
inductive ListServerFault
  | malformed
  | noHost
  /-- The address asks for encryption. -/
  | encrypted
  | database
  | user
  | password
  | version (text : String)
  | unreachable
  deriving DecidableEq, Repr

/-- The error of a queue whose server is not reached. -/
def ListServerFault.error : ListServerFault → QueueError
  | .malformed => invalid "Redis URL did not parse" ""
  | .noHost => invalid "Missing hostname" ""
  | .encrypted => invalid "can\x27t connect with TLS, the feature is not enabled" ""
  | .database => invalid "Invalid database number" ""
  | .user => invalid "Username is not valid UTF-8 string" ""
  | .password => invalid "Password is not valid UTF-8 string" ""
  | .version text => invalid "Invalid protocol version" (": " ++ text)
  | .unreachable => .publish "redis connection failed: Connection refused (os error 111)"
where
  /-- The error of an address that cannot be used. -/
  invalid (wording detail : String) : QueueError :=
    .publish ("invalid redis url: " ++ wording ++ "- InvalidClientConfig" ++ detail)

namespace ListServerAddress

/-- The parts of a URL after its scheme. -/
structure Parts where
  user : List Char := []
  password : List Char := []
  host : List Char := []
  path : List Char := []
  query : List Char := []

/-- Whether a character may occur in the scheme of a URL after its first letter. -/
def isSchemeChar (c : Char) : Bool := c.isAlphanum || c = '+' || c = '-' || c = '.'

/-- The scheme of a URL in lower case, and what follows its colon. -/
def scheme? (cs : List Char) : Option (String × List Char) :=
  let name := cs.takeWhile isSchemeChar
  match cs.dropWhile isSchemeChar with
  | ':' :: rest =>
    if name.head?.any Char.isAlpha then some (Text.asciiLower (String.ofList name), rest) else none
  | _ => none

/-- Whether a port is empty or a number of 16 bits. -/
def isPort (cs : List Char) : Bool :=
  cs.all Char.isDigit && Numeral.natOf cs < 65536

/-- Whether a character may not occur in the name of a host. -/
def isForbidden (c : Char) : Bool :=
  [' ', '#', '/', ':', '<', '>', '?', '@', '[', '\\', ']', '^', '|', '\x00'].contains c

/-- The host of a URL without its port. -/
def host? (cs : List Char) : Option (List Char) :=
  match cs with
  | '[' :: rest =>
    let address := rest.takeWhile (· ≠ ']')
    match rest.dropWhile (· ≠ ']') with
    | [']'] => if Text.isIpv6 address then some address else none
    | ']' :: ':' :: port => if Text.isIpv6 address && isPort port then some address else none
    | _ => none
  | _ =>
    let name := cs.takeWhile (· ≠ ':')
    let port := cs.dropWhile (· ≠ ':')
    if name.any isForbidden then none
    else if name = [] && port ≠ [] then none
    else if isPort (port.drop 1) then some name
    else none

/-- The parts before and after the last of some characters. -/
def splitLast? (c : Char) (cs : List Char) : Option (List Char × List Char) :=
  if cs.contains c then
    let after := (cs.reverse.takeWhile (· ≠ c)).reverse
    some (cs.take (cs.length - after.length - 1), after)
  else none

/-- The parts of a URL after its scheme; without two slashes there is only a path. -/
def parts? (cs : List Char) : Option Parts :=
  let cs := cs.takeWhile (· ≠ '#')
  let query := (cs.dropWhile (· ≠ '?')).drop 1
  match cs.takeWhile (· ≠ '?') with
  | '/' :: '/' :: rest => do
    let place := rest.takeWhile (· ≠ '/')
    let path := rest.dropWhile (· ≠ '/')
    match splitLast? '@' place with
    | none => return { host := ← host? place, path, query }
    | some (login, place) =>
      let host ← host? place
      if host = [] then none
      return {
        user := login.takeWhile (· ≠ ':')
        password := (login.dropWhile (· ≠ ':')).drop 1
        host, path, query }
  | path => some { path, query }

/-- Whether a part of a URL is a text. -/
def isText (part : List Char) : Bool :=
  (Utf8.decode? (Percent.decode (Utf8.encode (String.ofList part)))).isSome

/-- A path without the slashes at its ends. -/
def trimSlashes (cs : List Char) : List Char :=
  ((cs.dropWhile (· = '/')).reverse.dropWhile (· = '/')).reverse

/-- Whether a path is empty or the number of a database. -/
def isDatabase (path : List Char) : Bool :=
  let name := trimSlashes path
  name = [] || (Numeral.integer? (String.ofList name)).any fun n =>
    -9223372036854775808 ≤ n && n < 9223372036854775808

/-- The version of the protocol that a query string asks for, if it is not known. -/
def unknownVersion? (query : List Char) : Option String :=
  let asked := (Percent.formFields (String.ofList query)).filter (·.1 = "protocol")
  (asked.getLast?.map Prod.snd).filter fun text => ["2", "resp2", "3", "resp3"].all (· ≠ text)

/-- The schemes with a host, and those of them that ask for encryption. -/
def hostSchemes : List String := ["redis", "rediss", "valkey", "valkeys"]

/-- The schemes that ask for encryption. -/
def encryptedSchemes : List String := ["rediss", "valkeys"]

/-- The schemes of servers that are reached by a path. -/
def pathSchemes : List String := ["unix", "redis+unix", "valkey+unix"]

/-- Why no server is reached at an address where none answers. -/
def refusal (address : String) : ListServerFault :=
  let isEdge (c : Char) : Bool := c ≤ ' '
  let cs := ((address.toList.dropWhile isEdge).reverse.dropWhile isEdge).reverse
  let cs := cs.filter fun c => c ≠ '\t' && c ≠ '\n' && c ≠ '\r'
  match scheme? cs with
  | none => .malformed
  | some (scheme, rest) =>
    if !(hostSchemes ++ pathSchemes).contains scheme then .malformed
    else
      match parts? rest with
      | none => .malformed
      | some parts =>
        if pathSchemes.contains scheme then .unreachable
        else if parts.host = [] then .noHost
        else if encryptedSchemes.contains scheme then .encrypted
        else if !isDatabase parts.path then .database
        else if !isText parts.user then .user
        else if !isText parts.password then .password
        else ((unknownVersion? parts.query).map .version).getD .unreachable

end ListServerAddress

end QueryGateway
