/-
# File URIs

`ofPath?` writes the URI of an absolute path, component by component, with
whatever could be mistaken in a segment spelled out.  `toPath?` reads a URI and
gives the path it names: its path is walked, and then every segment is decoded.
So a separator that was spelled out comes back only after the dots have been
resolved, and the path may hold `..` again.

Any scheme with a hierarchical path will do as long as the URI names no other
host than this one.
-/

import Switchboard.FileUri.Host
import Switchboard.FileUri.Trail
import Switchboard.Path.Basic

namespace Switchboard
namespace FileUri

/-- The URI of an absolute path; a relative one has none. -/
def ofPath? (p : Path) : Option String :=
  if p.isAbsolute then
    let names := p.components.drop 1
    let segment (c : Path.Component) : Bytes := match c with
      | .name bytes => Percent.encode bytes
      | .up => Path.dotDot
      | _ => []
    let path := if names.isEmpty then [Path.separator]
      else names.flatMap fun c => Path.separator :: segment c
    Utf8.decode? (Utf8.encode "file://" ++ path)
  else none

/-- The text that a URI is read from, without control characters and blanks at its ends. -/
def trimmed (cs : List Char) : List Char :=
  let outer (c : Char) : Bool := c.toNat ≤ 0x20
  ((cs.dropWhile outer).reverse.dropWhile outer).reverse

/-- A character of a scheme after its first letter. -/
def isSchemeChar (c : Char) : Bool :=
  isLetter c || ('0' ≤ c && c ≤ '9') || c == '+' || c == '-' || c == '.'

/-- The scheme of a URI in lower case, and what follows its colon. -/
def scheme? (cs : List Char) : Option (List Char × List Char) :=
  let spans (c : Char) : Bool := isSchemeChar c || isIgnored c
  let scheme := counted (cs.takeWhile spans)
  match cs.dropWhile spans with
  | ':' :: rest =>
    if scheme.head?.any isLetter then some (scheme.map Domain.lower, rest) else none
  | _ => none

/-- The kind of a scheme. -/
def kindOf (scheme : List Char) : Kind :=
  if scheme = "file".toList then .file
  else if ["http", "https", "ws", "wss", "ftp"].contains (String.ofList scheme) then .network
  else .other

/-- The bytes of resolved segments, each behind a separator. -/
def decoded (segments : List (List Char)) : Bytes :=
  segments.flatMap fun s => Path.separator :: Percent.decode (Utf8.encode (String.ofList s))

/-- Whether a path ends with a letter and a colon or a bar, and is not that alone. -/
def endsWithDrive (bs : Bytes) : Bool :=
  match bs.reverse with
  | mark :: c :: _ :: _ =>
    (mark == 0x3A || mark == 0x7C) && ((0x41 ≤ c && c ≤ 0x5A) || (0x61 ≤ c && c ≤ 0x7A))
  | _ => false

/-- The path of resolved segments; a drive letter at its end gets a separator. -/
def pathOf (segments : List (List Char)) : Path :=
  let bs := decoded segments
  ⟨if endsWithDrive bs then bs ++ [Path.separator] else bs⟩

/-- The path that a path text names, walked from its first character on. -/
def walkedPath (kind : Kind) (text : List Char) : Path :=
  pathOf ((Trail.ofText kind text).segments kind)

/-- A text without the separator it starts with. -/
def behindSlash (kind : Kind) (text : List Char) : List Char := (afterSlash? kind text).getD text

/-- The path of a URI in the scheme `file`, of which the text after two
separators is given.  The separator behind the name of this host, or behind
none, counts as an empty segment, so a drive letter behind it is a name as any
other.  Where the host is another one that separator does not count, and a drive
letter behind it takes the place of the host. -/
def hostedPath? (text : List Char) : Option Path :=
  let inHost (c : Char) : Bool := !(isSlash .file c || endsPath c)
  let host := counted (text.takeWhile inHost)
  let path := text.dropWhile inHost
  if isDrive host then some (walkedPath .file text)
  else if host.isEmpty then some (walkedPath .file path)
  else match Host.read? host with
    | none => none
    | some .loopback => some (walkedPath .file path)
    | some .other =>
      let trail := Trail.ofText .file (behindSlash .file path)
      if trail.replacesHost then some (pathOf (trail.segments .file)) else none

/-- The path of a URI in the scheme `file`. -/
def filePath? (text : List Char) : Option Path :=
  match afterSlash? .file text with
  | none => some (walkedPath .file text)
  | some rest => match afterSlash? .file rest with
    | none => some (walkedPath .file rest)
    | some after => hostedPath? after

/-- What stands behind the user of an authority, and whether a user is named;
none if an `@` stands where only a host may. -/
def afterUser? (kind : Kind) (text : List Char) : Option (Bool × List Char) :=
  let authority := text.takeWhile fun c => !(isSlash kind c || endsPath c)
  if authority.contains '@' then
    let host := (authority.reverse.takeWhile (· != '@')).reverse
    let user := counted (authority.take (authority.length - host.length - 1))
    let rest := text.drop (authority.length - host.length)
    if user.isEmpty then
      if (counted host).isEmpty && !(counted rest).isEmpty then none else some (false, rest)
    else some (user != [':'], rest)
  else some (false, text)

/-- The host text at the front of an authority. -/
def hostText (kind : Kind) : Bool → List Char → List Char
  | _, [] => []
  | bracketed, c :: rest =>
    if (c == ':' && !bracketed) || isSlash kind c || endsPath c then []
    else c :: hostText kind (if c == '[' then true else if c == ']' then false else bracketed) rest

/-- What follows a port, if there is one and it is at most 65535. -/
def afterPort? : List Char → Option (List Char)
  | ':' :: rest =>
    let inPort (c : Char) : Bool := !(c == '/' || c == '\\' || endsPath c)
    if (Host.number? 10 (counted (rest.takeWhile inPort))).any (· ≤ 65535) then
      some (rest.dropWhile inPort)
    else none
  | rest => some rest

/-- The path behind an authority; it has to be written where the scheme has no
network hosts. -/
def pathBehind? (kind : Kind) (text : List Char) : Option Path :=
  if kind = .other && text.head?.all endsPath then none
  else some (walkedPath kind (behindSlash kind text))

/-- The path of a URI with an authority, in any scheme but `file`. -/
def authorityPath? (kind : Kind) (text : List Char) : Option Path :=
  (afterUser? kind text).bind fun (hasUser, text) =>
    let span := hostText kind false text
    let host := counted span
    let rest := text.drop span.length
    if host.isEmpty && (hasUser || kind = .network || rest.head? == some ':') then none
    else
      let named := if kind = .network then Host.read? host else Host.readOpaque? host
      if named = some .loopback then (afterPort? rest).bind (pathBehind? kind) else none

/-- The path that a URI names. -/
def toPath? (uri : String) : Option Path :=
  (scheme? (trimmed uri.toList)).bind fun (scheme, rest) =>
    match kindOf scheme with
    | .file => filePath? rest
    | .network =>
      authorityPath? .network (rest.dropWhile fun c => isSlash .network c || isIgnored c)
    | .other => (afterSlash? .other rest).bind fun path =>
      match afterSlash? .other path with
      | some after => authorityPath? .other after
      | none => some (walkedPath .other path)

example : toPath? "file:///C|/x" = some (.ofText "/C|/x") ∧
    toPath? "file:/C|/x" = some (.ofText "/C:/x") ∧
    toPath? "file://host/C:/x" = some (.ofText "/C:/x") := by decide +kernel

end FileUri
end Switchboard
