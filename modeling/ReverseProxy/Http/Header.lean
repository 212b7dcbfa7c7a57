import ReverseProxy.Text.Ascii
import ReverseProxy.Text.Bytes

/-! # Header fields -/

namespace ReverseProxy

/-- The characters of a token: letters, digits and some marks. -/
def isTokenChar (c : Char) : Bool :=
  c.isAlphanum || c ∈ ['!', '#', '$', '%', '&', '\'', '*', '+', '-', '.', '^', '_', '\x60', '|', '~']

/-- Names are small letters, and at most 65535 bytes. -/
def isHeaderName (text : String) : Bool :=
  text ≠ "" && text.utf8ByteSize ≤ 65535 && text.toList.all fun c => isTokenChar c && !c.isUpper

/-- The name of a field. Capitals in a name say nothing, so it has none. -/
structure HeaderName where
  text : String
  valid : isHeaderName text = true
deriving DecidableEq

namespace HeaderName

/-- Reads a name in any case of letters. -/
def ofText? (text : String) : Option HeaderName :=
  if valid : isHeaderName (Ascii.lower text) = true then some ⟨Ascii.lower text, valid⟩ else none

def connection : HeaderName := ⟨"connection", by decide⟩
def contentLength : HeaderName := ⟨"content-length", by decide⟩
def contentType : HeaderName := ⟨"content-type", by decide⟩
def host : HeaderName := ⟨"host", by decide⟩
def keepAlive : HeaderName := ⟨"keep-alive", by decide⟩
def proxyAuthorization : HeaderName := ⟨"proxy-authorization", by decide⟩
def proxyConnection : HeaderName := ⟨"proxy-connection", by decide⟩
def requestId : HeaderName := ⟨"x-request-id", by decide⟩
def te : HeaderName := ⟨"te", by decide⟩
def trailer : HeaderName := ⟨"trailer", by decide⟩
def transferEncoding : HeaderName := ⟨"transfer-encoding", by decide⟩
def upgrade : HeaderName := ⟨"upgrade", by decide⟩
def userAgent : HeaderName := ⟨"user-agent", by decide⟩

end HeaderName

/-- Fields in the order in which they came. A name may occur many times. -/
abbrev Headers := List (HeaderName × Bytes)

namespace Headers

/-- The values of a name, in order. -/
def values (headers : Headers) (name : HeaderName) : List Bytes :=
  (headers.filter (·.1 = name)).map (·.2)

def first? (headers : Headers) (name : HeaderName) : Option Bytes := (headers.values name).head?

def has (headers : Headers) (name : HeaderName) : Bool := headers.any (·.1 = name)

/-- The first value of a name as text, if it can be read as text. -/
def text? (headers : Headers) (name : HeaderName) : Option String :=
  (headers.first? name).bind Bytes.visible?

def without (headers : Headers) (name : HeaderName) : Headers := headers.filter (·.1 ≠ name)

/-- One value in place of all values of a name. -/
def set (headers : Headers) (name : HeaderName) (value : Bytes) : Headers :=
  headers.without name ++ [(name, value)]

/-- A value for a name that has none. -/
def setDefault (headers : Headers) (name : HeaderName) (value : Bytes) : Headers :=
  if headers.has name then headers else headers ++ [(name, value)]

/-- A request that says no readable id of its own has the id `-`. -/
def requestId (headers : Headers) : String := (headers.text? .requestId).getD "-"

end Headers

end ReverseProxy
