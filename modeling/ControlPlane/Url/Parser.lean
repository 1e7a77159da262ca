import ControlPlane.Url.Basic

/-!
# Reading addresses

An address is read on its own, or as seen from another address, which then lends the parts that are missing. Blanks at both
ends, and tabs and line breaks anywhere, do not count.
-/

namespace ControlPlane.Url

/-! ## Parts of an address -/

/-- Whether a character is a control character or a space. -/
def isOuterBlank (c : Char) : Bool := c.toNat ≤ 0x20

/-- Whether a character is a tab or ends a line. -/
def isBreak (c : Char) : Bool := c == '\t' || c == '\n' || c == '\r'

/-- The text of an address without the blanks at both ends. -/
def trimmed (s : List Char) : List Char := ((s.dropWhile isOuterBlank).reverse.dropWhile isOuterBlank).reverse

/-- The part of an address without its breaks. -/
def unbroken (s : List Char) : List Char := s.filter (! isBreak ·)

/-- The next character that counts, and what follows it. -/
def next? (s : List Char) : Option (Char × List Char) :=
  match s.dropWhile isBreak with
  | [] => none
  | c :: rest => some (c, rest)

/-- The scheme at the start of a text, in small letters, and what follows its colon. -/
def scheme? (s : List Char) : Option (String × List Char) :=
  let before := s.takeWhile fun c => isBreak c || c.isAlphanum || c == '+' || c == '-' || c == '.'
  let name := unbroken before
  match name, s.drop before.length with
  | c :: _, ':' :: rest => if c.isAlpha then some (String.ofList (name.map Char.toLower), rest) else none
  | _, _ => none

/-- Whether a character ends a segment of a path. -/
def isSlash (special : Bool) (c : Char) : Bool := c = '/' || (special && c = '\\')

/-- Text before a query or a fragment, and the rest. -/
def splitPath (s : List Char) : List Char × List Char := s.span fun c => c ≠ '?' && c ≠ '#'

/-- Query and fragment at the end of an address. -/
def tail (special : Bool) (s : List Char) : Option String × Option String :=
  let (query, rest) := match s with
    | '?' :: r =>
      let (q, rest) := r.span (· ≠ '#')
      let set := if special then inSpecialQuery else inQuery
      (some (String.ofList (percentEncode set (Text.encode q))), rest)
    | r => (none, r)
  let fragment := match rest with
    | '#' :: f => some (String.ofList (percentEncode inFragment (Text.encode f)))
    | _ => none
  (query, fragment)

/-! ## Paths -/

/-- Whether a segment stands for the segment it is in. -/
def isSingleDot (s : String) : Bool := ["." , "%2e", "%2E"].contains s

/-- Whether a segment stands for the segment before. -/
def isDoubleDot (s : String) : Bool :=
  ["..", "%2e.", "%2E.", ".%2e", ".%2E", "%2e%2e", "%2e%2E", "%2E%2e", "%2E%2E"].contains s

/-- A segment as it is written. -/
def segment (s : List Char) : String := String.ofList (percentEncode inPath (Text.encode s))

/-- Whether a segment is a drive letter: a letter with a colon or a bar. -/
def isDriveLetter (s : List Char) : Bool :=
  match s with
  | [c, m] => c.isAlpha && (m == ':' || m == '|')
  | _ => false

/-- Whether dots do not go back behind a segment: it is a drive letter, or begins with one and a backslash. -/
def holdsBack (s : String) : Bool :=
  isDriveLetter (s.toList.take 2) && (s.toList.drop 2).head?.all (· == '\\')

/-- The segments without the last one, unless that one holds back. -/
def back (s : List String) : List String := if s.getLast?.any holdsBack then s else s.dropLast

/-- Goes one segment further. Dots stay or go back, and at the end of a path leave a slash. -/
def step (done : List String) (s : String) (atEnd : Bool) : List String :=
  let slash := if atEnd then [""] else []
  if isDoubleDot s then back done ++ slash
  else if isSingleDot s then done ++ slash
  else done ++ [s]

/-- Walks along segments from some others. -/
def walk : List String → List String → List String
  | done, [] => done
  | done, s :: rest => walk (step done s rest.isEmpty) rest

/-- The segments reached from others by a path without its first slash. -/
def resolve (scheme : String) (start : List String) (path : List Char) : List String :=
  walk start ((Text.split (isSlash (isSpecial scheme)) path).map segment)

/-- The path behind a host. -/
def pathBehindHost (scheme : String) (s : List Char) : Path :=
  match s with
  | [] => .segments (if isSpecial scheme then [""] else [])
  | c :: rest => .segments (resolve scheme [] (if isSlash (isSpecial scheme) c then rest else c :: rest))

/-! ## Hosts with user and port -/

/-- The text before a path, a query or a fragment, and the rest. -/
def splitAuthority (special : Bool) (s : List Char) : List Char × List Char :=
  s.span fun c => !(c = '/' || c = '?' || c = '#' || (special && c = '\\'))

/-- The text before and after the last at sign. -/
def splitUser (s : List Char) : Option (List Char × List Char) :=
  if s.contains '@' then
    let host := (s.reverse.takeWhile (· ≠ '@')).reverse
    some (s.take (s.length - host.length - 1), host)
  else none

/-- The text of a host, and what follows it from a colon on. Colons between brackets belong to the host. -/
def splitHost : Bool → List Char → List Char × List Char
  | _, [] => ([], [])
  | inside, c :: rest =>
    if c = ':' ∧ !inside then ([], c :: rest)
    else
      let (host, after) := splitHost (c = '[' || (inside && c ≠ ']')) rest
      (c :: host, after)

/-- The port in digits. The usual port of the scheme is left out. -/
def port? (scheme : String) (digits : List Char) : Except Fault (Option UInt16) :=
  if digits.all Char.isDigit then
    let n := Decimal.ofDigits digits
    if UInt16.size ≤ n then .error .invalidPort
    else if digits.isEmpty || defaultPort scheme == some n.toUInt16 then .ok none
    else .ok (some n.toUInt16)
  else .error .invalidPort

/-- A user or a password. -/
def userInfo (s : List Char) : String := String.ofList (percentEncode inUserInfo (Text.encode s))

/-- Who asks, at which host and port, and what stands behind the port: a backslash ends the port and begins the path. Whether
anything follows the whole is told, since a lone at sign must not end it. -/
def readAuthority (scheme : String) (s : List Char) (followed : Bool) : Except Fault (Authority × List Char) := do
  let (user, place) := (splitUser s).getD ([], s)
  let named := (splitUser s).isSome
  let (hostText, rest) := splitHost false place
  if named && user.isEmpty && place.isEmpty && followed then .error .emptyHost
  else if isSpecial scheme && hostText.isEmpty then .error .emptyHost
  else
    let host ← if isSpecial scheme then Host.ofSpecial hostText else Host.ofOther hostText
    if hostText.isEmpty && !rest.isEmpty then .error .emptyHost
    else
      let (digits, behindPort) := (rest.drop 1).span (· ≠ '\\')
      let port ← port? scheme digits
      let (name, behind) := user.span (· ≠ ':')
      let a : Authority := { user := userInfo name, password := userInfo (behind.drop 1), host, port }
      if hostText.isEmpty && !a.credentials.isEmpty then .error .emptyHost else .ok (a, behindPort)

/-- An address behind its two slashes. -/
def behindSlashes (scheme : String) (s : List Char) : Except Fault Url := do
  let special := isSpecial scheme
  let (before, rest) := splitAuthority special s
  let (a, behindPort) ← readAuthority scheme before (!rest.isEmpty)
  let (path, rest) := splitPath (behindPort ++ rest)
  let (query, fragment) := tail special rest
  .ok { scheme, authority := some a, path := pathBehindHost scheme path, query, fragment }

/-! ## Files

The path of a file may begin with a drive letter. Breaks do not count in it, except that one behind the colon of a drive
letter ends the segment; the next segment then stands as it is, even where it has dots only. -/

/-- The authority of a file without host. -/
def localFile : Authority := { host := .name "" }

/-- Whether a path begins with a drive letter that is a segment of its own. -/
def startsWithDrive (s : List Char) : Bool :=
  isDriveLetter (s.take 2) && (s.drop 2).head?.all fun c => c == '/' || c == '\\' || c == '?' || c == '#'

/-- Whether a segment is a drive letter in its usual form, with a colon. -/
def isUsualDrive (s : String) : Bool := isDriveLetter s.toList && s.toList.contains ':'

/-- A drive letter in its usual form. -/
def usualDrive (s : List Char) : String := String.ofList (s.take 1 ++ [':'])

/-- A drive letter, and what a break behind it parts from it. -/
def splitDrive? (s : List Char) : Option (String × List Char) := do
  let (letter, rest) ← next? s
  let (colon, rest) ← next? rest
  let after := unbroken rest
  if letter.isAlpha && colon == ':' && rest.head?.any isBreak && !after.isEmpty then
    some (String.ofList [letter, colon], after)
  else none

/-- The segments reached along the path of a file, and whether one of them, as a whole, was a drive letter at the start. -/
def walkFile : List String × Bool → List (List Char) → List String × Bool
  | done, [] => done
  | (done, onDrive), s :: rest =>
    let reached :=
      if done.isEmpty && isDriveLetter (unbroken s) then ([usualDrive (unbroken s)], true)
      else
        match if done.isEmpty then splitDrive? s else none with
        | some (drive, after) => ([drive, segment after], onDrive)
        | none => (step done (segment (unbroken s)) rest.isEmpty, onDrive)
    walkFile reached rest

/-- The segments reached from others along the path of a file, and whether it leads to a drive. No empty segments stand at
the start. -/
def resolveFile (start : List String) (path : List Char) : List String × Bool :=
  let (reached, onDrive) := walkFile (start, false) (Text.split (isSlash true) path)
  match reached.dropWhile (·.isEmpty) with
  | [] => ([""], onDrive)
  | segments => (segments, onDrive)

/-- The segments reached from another file along a path without a slash at its start. The drive letter at the end of the
other file stays: alone it is a segment, and behind others it becomes part of the next one, unless that has dots only. -/
def besides (others : List String) (path : List Char) : List String :=
  match others.getLast? with
  | none => (resolveFile [] path).1
  | some last =>
    if isUsualDrive last then
      let first := segment (unbroken (path.takeWhile (! isSlash true ·)))
      if others.length = 1 || isSingleDot first || isDoubleDot first then (resolveFile others path).1
      else (resolveFile others.dropLast (last.toList ++ path)).1
    else (resolveFile others.dropLast path).1

/-- A file with a host, a path, and what follows the path. -/
def fileAt (host : Host) (segments : List String) (rest : List Char) : Url :=
  let (query, fragment) := tail true (unbroken rest)
  { scheme := "file", authority := some { host }, path := .segments segments, query, fragment }

/-- A file behind two slashes. A drive letter is no host, and a path that leads to a drive has none. -/
def fileBehindSlashes (s : List Char) : Except Fault Url := do
  let (before, behind) := splitAuthority true s
  let hostText := unbroken before
  if isDriveLetter hostText then
    let (path, rest) := splitPath s
    .ok (fileAt (.name "") (resolveFile [] path).1 rest)
  else
    let (path, rest) := splitPath behind
    let host ← if hostText.isEmpty then .ok (Host.name "") else Host.ofSpecial hostText
    if host = .name "" ∨ host = .name "localhost" then .ok (fileAt (.name "") (resolveFile [] path).1 rest)
    else
      let (segments, onDrive) := resolveFile [] (path.drop 1)
      .ok (fileAt (if onDrive then .name "" else host) segments rest)

/-- The segments of the path of an address. -/
def segmentsOf (u : Url) : List String :=
  match u.path with
  | .segments s => s
  | .rootless _ => []

/-- The host of a file. -/
def hostOf (u : Url) : Host := (u.authority.getD localFile).host

/-- A file behind one slash, as seen from another file if there is one: on its drive, or else at its host. -/
def fileBehindSlash (base : Option Url) (s : List Char) : Url :=
  let (path, rest) := splitPath s
  let lent := if startsWithDrive (unbroken s) then none else base
  let drive := (lent.elim [] segmentsOf).take 1 |>.filter isUsualDrive
  let host := if drive.isEmpty then lent.elim (.name "") hostOf else .name ""
  fileAt host (resolveFile drive path).1 rest

/-- A file, as seen from another file if there is one. -/
def file (base : Option Url) (s : List Char) : Except Fault Url :=
  match next? s with
  | none => .ok (base.elim (fileAt (.name "") [""] []) withoutFragment)
  | some (c, after) =>
    if isSlash true c then
      match next? after with
      | some (d, rest) => if isSlash true d then fileBehindSlashes rest else .ok (fileBehindSlash base after)
      | none => .ok (fileBehindSlash base after)
    else
      let (path, rest) := splitPath s
      match base with
      | none => .ok (fileAt (.name "") (resolveFile [] path).1 rest)
      | some b =>
        let (query, fragment) := tail true (unbroken rest)
        if c = '#' then .ok { b with fragment }
        else if c = '?' then .ok { b with query, fragment }
        else if startsWithDrive (unbroken s) then .ok (fileAt (.name "") (resolveFile [] path).1 rest)
        else .ok (fileAt (hostOf b) (besides (segmentsOf b) path) rest)

/-! ## Addresses -/

/-- An address behind a scheme that is not special. -/
def other (scheme : String) (s : List Char) : Except Fault Url :=
  match s with
  | '/' :: '/' :: rest => behindSlashes scheme rest
  | '/' :: rest =>
    let (path, rest) := splitPath rest
    let (query, fragment) := tail false rest
    .ok { scheme, path := .segments (resolve scheme [] path), query, fragment }
  | s =>
    let (path, rest) := splitPath s
    let (query, fragment) := tail false rest
    .ok { scheme, path := .rootless (String.ofList (percentEncode inControls (Text.encode path))), query, fragment }

/-- An address as seen from another one whose path has segments. -/
def relative (base : Url) (start : List String) (s : List Char) : Except Fault Url :=
  let special := isSpecial base.scheme
  match s with
  | [] => .ok { base with fragment := none }
  | '?' :: rest =>
    let (query, fragment) := tail special ('?' :: rest)
    .ok { base with query, fragment }
  | '#' :: rest => .ok { base with fragment := (tail special ('#' :: rest)).2 }
  | c :: rest =>
    if c = '/' ∨ c = '\\' then
      match rest with
      | d :: after =>
        if d = '/' ∨ d = '\\' then
          behindSlashes base.scheme (if c = '/' ∧ d = '/' then after else after.dropWhile (isSlash true))
        else .ok (reach [] rest)
      | [] => .ok (reach [] [])
    else .ok (reach start.dropLast (c :: rest))
where
  /-- The address reached along a path. -/
  reach (from_ : List String) (s : List Char) : Url :=
    let (path, rest) := splitPath s
    let (query, fragment) := tail (isSpecial base.scheme) rest
    { base with path := .segments (resolve base.scheme from_ path), query, fragment }

/-- An address with a scheme, as seen from another one if there is one. -/
def absolute (base : Option Url) (scheme : String) (s : List Char) : Except Fault Url :=
  if scheme = "file" then file (base.filter (·.scheme == "file")) s
  else
    let s := unbroken s
    if isSpecial scheme then
      let slashes := (s.takeWhile (isSlash true)).length
      match base with
      | some b =>
        match b.path with
        | .segments start =>
          if slashes < 2 ∧ b.scheme = scheme then relative b start s
          else behindSlashes scheme (s.drop slashes)
        | .rootless _ => behindSlashes scheme (s.drop slashes)
      | none => behindSlashes scheme (s.drop slashes)
    else other scheme s

/-- Reads an address, as seen from another one if there is one. -/
def read (base : Option Url) (s : String) : Except Fault Url :=
  let s := trimmed s.toList
  match scheme? s with
  | some (scheme, rest) => absolute base scheme rest
  | none =>
    match base with
    | none => .error .relativeWithoutBase
    | some b =>
      if b.scheme = "file" then file (some b) s
      else
        let s := unbroken s
        match b.path with
        | .segments start => relative b start s
        | .rootless _ =>
          match s with
          | '#' :: _ => .ok { b with fragment := (tail (isSpecial b.scheme) s).2 }
          | _ => .error .relativeWithRootlessBase

/-- Reads an address. -/
def ofString (s : String) : Except Fault Url := read none s

/-- Reads an address as seen from another one. -/
def join (base : Url) (s : String) : Except Fault Url := read (some base) s

end ControlPlane.Url
