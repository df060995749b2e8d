import Gatehouse.Bytes.Base64
import Gatehouse.Hash.Sha256
import Gatehouse.Session.Flavor
import Gatehouse.Text.Blank

/-! # Who is calling

A caller is described by what it says of itself (*hints*) and by what the connection shows (*user
agent* and *address*). Blank values count as absent. A caller that names a device or a platform, or
whose user agent looks like a phone, is mobile; any other is a browser. A caller without a device
name of its own is recognised by a fingerprint of user agent and address. -/

namespace Gatehouse

/-- What the connection shows of a caller. -/
structure Transport where
  userAgent : Option String
  ipAddress : Option String
  deriving DecidableEq, Repr

/-- What a caller says of itself. -/
structure ClientHints where
  deviceId : Option String
  deviceName : Option String
  platform : Option String
  appVersion : Option String
  deriving DecidableEq, Repr

/-- A caller after classification. -/
structure ClientInfo where
  flavor : Flavor
  deviceId : String
  deviceName : String
  platform : String
  appVersion : Option String
  userAgent : Option String
  ipAddress : Option String
  deriving DecidableEq, Repr

/-- A value trimmed, if it is there and not blank. -/
def nonBlank (s : Option String) : Option String := s.bind Text.nonBlank?

/-- Transport values trimmed, blank ones dropped. -/
def Transport.ofRaw (userAgent ipAddress : Option String) : Transport :=
  ⟨nonBlank userAgent, nonBlank ipAddress⟩

/-- No hints at all. -/
def ClientHints.none : ClientHints := ⟨.none, .none, .none, .none⟩

namespace Client

/-- The list begins with the given characters. -/
def beginsWith : List Char → List Char → Bool
  | _, [] => true
  | c :: cs, p :: ps => c == p && beginsWith cs ps
  | [], _ :: _ => false

/-- The given characters stand somewhere in the list. -/
def occursIn (part : List Char) : List Char → Bool
  | [] => part.isEmpty
  | c :: cs => beginsWith (c :: cs) part || occursIn part cs

/-- A text stands somewhere in another. -/
def mentions (s part : String) : Bool := occursIn part.toList s.toList

/-- What the user agents of phones mention. -/
def mobileMarkers : List String := ["Mobile", "Android", "iPhone"]

/-- The user agent looks like a phone. -/
def isMobileAgent (userAgent : String) : Bool := mobileMarkers.any (mentions userAgent)

/-- The length of a fingerprint. -/
def fingerprintLength : Nat := 16

/-- The device id of a caller that names none: the first characters of the digest of its user agent
and address, in Base64. -/
def fingerprint (userAgent ipAddress : String) : String :=
  let digest := Sha256.digest (Bytes.ofText (userAgent ++ ":" ++ ipAddress))
  String.ofList ((Base64.encode Base64.standard digest).toList.take fingerprintLength)

/-- The name of the browser that a user agent belongs to. Edge mentions Chrome, and Chrome mentions
Safari, so the order of the questions matters. -/
def browserName (userAgent : String) : String :=
  if mentions userAgent "Edg" then "Edge Browser"
  else if mentions userAgent "Chrome" then "Chrome Browser"
  else if mentions userAgent "Firefox" then "Firefox Browser"
  else if mentions userAgent "Safari" then "Safari Browser"
  else "Web Browser"

/-- The platform of a caller that names none. -/
def defaultPlatform : Flavor → String
  | .mobile => "mobile"
  | .web => "web"

/-- What hints and connection say about a caller. -/
def classify (hints : ClientHints) (transport : Transport) : ClientInfo :=
  let deviceId := nonBlank hints.deviceId
  let platform := nonBlank hints.platform
  let userAgent := nonBlank transport.userAgent
  let ipAddress := nonBlank transport.ipAddress
  let agent := userAgent.getD ""
  let flavor : Flavor :=
    if deviceId.isSome || platform.isSome || isMobileAgent agent then .mobile else .web
  { flavor
    deviceId := deviceId.getD (fingerprint agent (ipAddress.getD ""))
    deviceName := (nonBlank hints.deviceName).getD (browserName agent)
    platform := platform.getD (defaultPlatform flavor)
    appVersion := nonBlank hints.appVersion
    userAgent
    ipAddress }

end Client

end Gatehouse
