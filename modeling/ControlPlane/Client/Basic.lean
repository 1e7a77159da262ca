import ControlPlane.Http.Verdict
import ControlPlane.Session
import ControlPlane.Text.Base64
import ControlPlane.Text.Quoted
import ControlPlane.Url.Parser

/-!
# Asking the platform

A client knows the address of the platform, which ends in a slash, and a token that it shows with every request. Paths are
seen from that address. A user in the address is shown as credentials of its own, before the token.
-/

namespace ControlPlane

/-- Where the platform is, and the token that it asks for. -/
structure Client where
  base : Url
  token : String
deriving DecidableEq, Repr

namespace Client

variable {σ : Type}

/-- The client for an address, to which a slash is added where it does not end in one. -/
def ofAddress (token address : String) : Result Client :=
  match Url.ofString (if address.toList.getLast? = some '/' then address else address ++ "/") with
  | .ok base => .ok { base, token }
  | .error fault => .error (.badUrl fault)

/-- The setting that holds the address. -/
def addressSetting : String := "CF_API_URL"

/-- The setting that holds the token. -/
def tokenSetting : String := "CF_ACCESS_TOKEN"

/-- The failure for a setting that is not there. -/
def unset (setting : String) : Failure := .configMissing (setting ++ " environment variable not set")

/-- The client that settings describe. -/
def ofSettings (setting? : String → Option String) : Result Client :=
  match setting? addressSetting, setting? tokenSetting with
  | none, _ => .error (unset addressSetting)
  | some _, none => .error (unset tokenSetting)
  | some address, some token => ofAddress token address

/-- A client as it is shown, without its token. -/
def shown (c : Client) : String := "CfClient \x7b base_url: " ++ Text.quoted c.base.text ++ ", .. \x7d"

/-! ## Addresses -/

/-- The address of a path. It must have a host. -/
def address (c : Client) (path : String) : Result Url :=
  match c.base.join path with
  | .error fault => .error (.badUrl fault)
  | .ok u => if u.hasHost then .ok u else .error (.transport (.unusableUrl u.text))

/-- The characters that no request can hold in its host. -/
def unusableInHost : List Char := ['"', '\x60', '\x7b', '\x7d']

/-- Whether an address can be asked: over the web, and with a host that a request can hold. -/
def isUsable (u : Url) : Bool :=
  (u.scheme == "http" || u.scheme == "https")
    && u.authority.all fun a => a.host.text.toList.all (! unusableInHost.contains ·)

/-! ## Credentials -/

/-- A user or a password as it was meant. -/
def plainCredential? (s : String) : Option String := Text.ofUtf8? (Url.percentDecode (Text.octets s))

/-- The user and the password of an address, if it has some. -/
def userInfo? (u : Url) : Option (String × Option String) := do
  let a ← u.authority
  let user ← plainCredential? a.user
  let password := if a.password.isEmpty then none else plainCredential? a.password
  if user.isEmpty && password.isNone then none else some (user, password)

/-- The credentials for a user and a password. -/
def basicCredentials (user : String) (password : Option String) : List UInt8 :=
  Text.octets "Basic " ++ Text.encode (Text.Base64.encode (Text.octets (user ++ ":" ++ password.getD "")))

/-- The credentials for a token. -/
def bearerCredentials (token : String) : List UInt8 := Text.octets ("Bearer " ++ token)

/-- The credentials shown to an address. -/
def credentials (c : Client) (u : Url) : List (List UInt8) :=
  ((userInfo? u).map fun (user, password) => basicCredentials user password).toList ++ [bearerCredentials c.token]

/-! ## Requests -/

/-- The address without the user and the password that are shown as credentials. -/
def publicAddress (u : Url) : Url := if (userInfo? u).isSome then u.withoutCredentials else u

/-- The request to an address, if it can be sent. -/
def request (c : Client) (method : Http.Method) (u : Url) : Result Http.Request :=
  if Http.isHeaderValue (bearerCredentials c.token) then
    if isUsable u then
      .ok { method, url := (publicAddress u).withoutFragment, authorization := (c.credentials u).map Http.trimValue }
    else .error (.transport (.unusableUrl (publicAddress u).text))
  else .error (.transport .badHeader)

/-- Sends a request to an address. The response is one of success. -/
def send (c : Client) (server : Http.Server σ) (method : Http.Method) (u : Url) : Conversation σ Http.Response := do
  let request ← Conversation.known (c.request method u)
  match ← Conversation.exchange server request with
  | .dropped => throw (.transport (.connectionLost (publicAddress u).text))
  | .response r => Conversation.known r.check

/-- Asks for what is at a path. -/
def get (c : Client) (server : Http.Server σ) (path : String) : Conversation σ Http.Response := do
  c.send server .get (← Conversation.known (c.address path))

/-- Asks for what is at a path, with pairs. -/
def getWith (c : Client) (server : Http.Server σ) (path : String) (pairs : List (String × String)) :
    Conversation σ Http.Response := do
  c.send server .get ((← Conversation.known (c.address path)).withPairs pairs)

/-- Asks to delete what is at a path, with pairs. -/
def deleteWith (c : Client) (server : Http.Server σ) (path : String) (pairs : List (String × String)) :
    Conversation σ Http.Response := do
  c.send server .delete ((← Conversation.known (c.address path)).withPairs pairs)

end Client

end ControlPlane
