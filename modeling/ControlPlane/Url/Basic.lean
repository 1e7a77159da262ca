import ControlPlane.Url.Form
import ControlPlane.Url.Host

/-!
# Addresses

An address has a scheme and a path, and may have a host with user and port, a query, and a fragment. `Url.text` writes it;
an address that was read is in the one form in which it is written.
-/

namespace ControlPlane

namespace Url

/-- Who asks, at which host and port. The port is there where it is not the usual one of the scheme. -/
structure Authority where
  user : String := ""
  password : String := ""
  host : Host
  port : Option UInt16 := none
deriving DecidableEq, Repr

/-- A path: segments with a slash before each, or a text of its own. -/
inductive Path where
  | segments (s : List String)
  | rootless (s : String)
deriving DecidableEq, Repr

end Url

/-- An address. -/
structure Url where
  scheme : String
  authority : Option Url.Authority := none
  path : Url.Path
  query : Option String := none
  fragment : Option String := none
deriving DecidableEq, Repr

namespace Url

/-- The usual ports of the special schemes. -/
def specialPorts : List (String × Option UInt16) :=
  [("http", some 80), ("https", some 443), ("ws", some 80), ("wss", some 443), ("ftp", some 21), ("file", none)]

/-- Whether a scheme is special: its addresses have hosts, and paths that are never empty. -/
def isSpecial (scheme : String) : Bool := (specialPorts.lookup scheme).isSome

/-- The usual port of a scheme. -/
def defaultPort (scheme : String) : Option UInt16 := (specialPorts.lookup scheme).join

/-- The user and the password as they stand before a host. -/
def Authority.credentials (a : Authority) : String :=
  let password := if a.password.isEmpty then "" else ":" ++ a.password
  if a.user.isEmpty && a.password.isEmpty then "" else a.user ++ password ++ "@"

/-- The host and the port. -/
def Authority.place (a : Authority) : String :=
  a.host.text ++ (a.port.elim "" fun p => ":" ++ toString p.toNat)

/-- The text of a path. -/
def Path.text : Path → String
  | segments s => String.join (s.map ("/" ++ ·))
  | rootless s => s

/-- The text of an address. Where no host stands before it, a path must not begin with two slashes. -/
def text (u : Url) : String :=
  let authority := u.authority.elim "" fun a => "//" ++ a.credentials ++ a.place
  let guard := match u.authority, u.path with
    | none, .segments ("" :: _ :: _) => "/."
    | _, _ => ""
  u.scheme ++ ":" ++ authority ++ guard ++ u.path.text ++ (u.query.elim "" ("?" ++ ·))
    ++ (u.fragment.elim "" ("#" ++ ·))

/-- Whether an address names a host. -/
def hasHost (u : Url) : Bool :=
  match u.authority with
  | some a => a.host ≠ .name ""
  | none => false

/-- The address without user and password. -/
def withoutCredentials (u : Url) : Url :=
  { u with authority := u.authority.map fun a => { a with user := "", password := "" } }

/-- The address without its fragment. -/
def withoutFragment (u : Url) : Url := { u with fragment := none }

/-- The pairs of the query. -/
def queryPairs (u : Url) : List (String × String) :=
  u.query.elim [] fun q => Form.decode (Text.octets q)

/-- The address with pairs behind its query. A query that stays empty is none. -/
def withPairs (u : Url) (pairs : List (String × String)) : Url :=
  let query := Form.append (u.query.elim [] String.toList) pairs
  { u with query := if query.isEmpty then none else some (String.ofList query) }

end Url

end ControlPlane
