import SplRust.Core.Request

/-! The response side of the loopback transforms of `spl-core/src/bridge.rs`: which upstream
headers reach the local caller, and how cookies and redirects are rewritten. -/

namespace SplRust.Core
open SplRust.Lib

/-! ### Text helpers of the standard library -/

/-- `split` at a character; there is always a first part. -/
def splitChar (separator : Char) : Text → List Text
  | [] => [[]]
  | c :: rest =>
      if c = separator then [] :: splitChar separator rest
      else match splitChar separator rest with
        | [] => [[c]]
        | part :: parts => (c :: part) :: parts

/-- `split_once` at a character. -/
def splitOnce (separator : Char) (text : Text) : Option (Text × Text) :=
  match text.dropWhile (· != separator) with
  | [] => none
  | _ :: rest => some (text.takeWhile (· != separator), rest)

/-- `rsplit_once` at a character. -/
def rsplitOnce (separator : Char) (text : Text) : Option (Text × Text) :=
  (splitOnce separator text.reverse).map fun parts => (parts.2.reverse, parts.1.reverse)

/-- `split_once("://")`. -/
def splitScheme : Text → Option (Text × Text)
  | [] => none
  | ':' :: '/' :: '/' :: rest => some ([], rest)
  | c :: rest => (splitScheme rest).map (Prod.map (c :: ·) id)

/-- `trim_end_matches` of a character. -/
def trimEndMatches (c : Char) (text : Text) : Text := (text.reverse.dropWhile (· == c)).reverse

/-! ### Names -/

structure BridgeNames where
  capabilityCookieName : Text
  upstreamCookiePrefix : Text
  observerHeaderName : Text
  protocolVersionHeaderName : Text
  deriving DecidableEq, Repr

structure RequestHead where
  method : Text
  target : Text
  headers : Headers
  deriving DecidableEq, Repr

def hopByHop : List Text :=
  ["connection", "keep-alive", "proxy-authenticate", "proxy-authorization", "te", "trailer",
    "transfer-encoding", "upgrade"].map String.toList

def preservedResponseHeaders : List Text :=
  ["content-type", "content-encoding", "cache-control", "etag", "last-modified", "expires", "vary",
    "accept-ranges", "content-range", "www-authenticate", "retry-after", "content-security-policy",
    "content-security-policy-report-only", "referrer-policy", "x-content-type-options",
    "x-frame-options", "x-xss-protection", "permissions-policy", "cross-origin-opener-policy",
    "cross-origin-resource-policy", "cross-origin-embedder-policy",
    "strict-transport-security"].map String.toList

def shouldPreserveResponseHeader (name : Text) : Bool := preservedResponseHeaders.contains name

/-! ### Redirects -/

def splitHttpUrl (location : Text) : Option (Text × Text × Text) :=
  match splitScheme location with
  | none => none
  | some (scheme, rest) =>
      if !eqIgnoreAsciiCase scheme "http".toList && !eqIgnoreAsciiCase scheme "https".toList then none
      else
        let inAuthority := fun c => c != '/' && c != '?' && c != '#'
        some (scheme, rest.takeWhile inAuthority, rest.dropWhile inAuthority)

def defaultPort (scheme : Text) : Option Nat :=
  if eqIgnoreAsciiCase scheme "http".toList then some 80
  else if eqIgnoreAsciiCase scheme "https".toList then some 443
  else none

def parsePort (text : Text) : Option Nat := parseUnsigned 10 (2 ^ 16 - 1) text

def splitHostPort (hostPort : Text) : Text × Option Nat :=
  match rsplitOnce ':' hostPort with
  | some (host, port) =>
      if host.contains ':' then (toAsciiLowercase hostPort, none)
      else (toAsciiLowercase host, parsePort port)
  | none => (toAsciiLowercase hostPort, none)

def splitAuthority (authority : Text) : Text × Option Nat :=
  let hostPort := ((rsplitOnce '@' authority).map Prod.snd).getD authority
  match hostPort with
  | '[' :: afterBracket =>
      match splitOnce ']' afterBracket with
      | some (host, remainder) =>
          (toAsciiLowercase host, match remainder with
            | ':' :: port => parsePort port
            | _ => none)
      | none => splitHostPort hostPort
  | _ => splitHostPort hostPort

def authorityMatches (locationScheme locationAuthority known : Text) : Bool :=
  let (locationHost, locationPort) := splitAuthority locationAuthority
  let locationEffectivePort := locationPort <|> defaultPort locationScheme
  let (knownScheme, knownAuthority) :=
    match splitHttpUrl known with
    | some (scheme, authority, _) => (some scheme, authority)
    | none => (none, known)
  let (knownHost, knownPort) := splitAuthority knownAuthority
  if locationHost ≠ knownHost then false
  else match knownPort <|> knownScheme.bind defaultPort with
    | some port => locationEffectivePort == some port
    | none => true

def rewriteRedirect (location : Text) (journalHosts : List Text) (loopbackOrigin : Text) : Text :=
  match splitHttpUrl location with
  | none => location
  | some (scheme, authority, suffix) =>
      if journalHosts.any (authorityMatches scheme authority) then
        trimEndMatches '/' loopbackOrigin ++ suffix
      else location

/-! ### Cookies -/

/-- Whether an attribute of a cookie is valid on loopback. -/
def keepsAttribute (attr : Text) : Bool :=
  let attrName := trim (((splitOnce '=' attr).map Prod.fst).getD attr)
  attr != [] && !eqIgnoreAsciiCase attrName "domain".toList && !eqIgnoreAsciiCase attrName "secure".toList

def rewriteSetCookie (value : Text) (names : BridgeNames) : Text :=
  match (splitChar ';' value).map trim with
  | [] => []
  | first :: attrs =>
      let first := match splitOnce '=' first with
        | some (name, cookieValue) => names.upstreamCookiePrefix ++ trim name ++ "=".toList ++ cookieValue
        | none => first
      "; ".toList.intercalate (first :: attrs.filter keepsAttribute)

/-! ### Response headers -/

def responseHeader (journalHosts : List Text) (loopbackOrigin : Text) (names : BridgeNames)
    (header : Text × Text) : Option (Text × Text) :=
  let name := toAsciiLowercase header.1
  if name = "content-length".toList ∨ name ∈ hopByHop then none
  else if name = "set-cookie".toList then some (name, rewriteSetCookie header.2 names)
  else if name = "location".toList then
    some (name, rewriteRedirect header.2 journalHosts loopbackOrigin)
  else if shouldPreserveResponseHeader name then some (name, header.2)
  else none

def responseHeaders (upstream : Headers) (journalHosts : List Text) (loopbackOrigin : Text)
    (names : BridgeNames) : Headers :=
  upstream.filterMap (responseHeader journalHosts loopbackOrigin names)

end SplRust.Core
