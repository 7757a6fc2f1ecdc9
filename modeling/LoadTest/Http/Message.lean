import LoadTest.Http.Status
import LoadTest.Text.Utf8
import LoadTest.Time.Duration

/-!
# Requests and responses
-/

namespace LoadTest.Http

/-! ## headers -/

abbrev Header := String × String

namespace Header

def isTokenChar (c : Char) : Bool :=
  c.isAlphanum || c ∈ ['!', '#', '$', '%', '&', '\'', '*', '+', '-', '.', '^', '_', '`', '|', '~']

def isName (s : String) : Bool :=
  s ≠ "" && s.toList.all isTokenChar && s.utf8ByteSize < UInt16.size

def isValue (s : String) : Bool :=
  s.toList.all fun c => (0x20 ≤ c.toNat && c.toNat ≠ 0x7F) || c = '\t'

def isValid (h : Header) : Bool := isName h.1 && isValue h.2

def names (headers : List Header) : List String := (headers.map fun h => h.1.toLower).eraseDups

/-- the headers with small names, those of one name together -/
def grouped (headers : List Header) : List Header :=
  (names headers).flatMap fun name =>
    (headers.filter fun h => h.1.toLower = name).map fun h => (name, h.2)

end Header

/-! ## requests -/

structure Request where
  method : String := "GET"
  url : String
  headers : List Header := []
  body : String := ""
  timeout : Option Duration := none
deriving DecidableEq, Repr

def Request.get (url : String) : Request := { url }

def Request.post (url body : String) : Request := { method := "POST", url, body }

/-- The first line of a request for a path at an authority; a tunnel is asked for by its
authority. -/
def Request.line (r : Request) (authority path : List Char) : String :=
  let place := if r.method = "CONNECT" then authority else path
  r.method ++ " " ++ String.ofList place ++ " HTTP/1.1"

/-! ## answers -/

inductive Version where
  | http09 | http10 | http11 | http2 | http3
deriving DecidableEq, Repr

namespace Version

def all : List Version := [http09, http10, http11, http2, http3]

def number : Version → String
  | http09 => "0.9"
  | http10 => "1.0"
  | http11 => "1.1"
  | http2 => "2"
  | http3 => "3"

def ofNumber? (s : String) : Option Version := all.find? fun v => v.number = s

theorem ofNumber?_number (v : Version) : ofNumber? v.number = some v := by cases v <;> decide

/-- versions without a name of their own count as 1.1 -/
def name : Version → String
  | http10 => "HTTP/1.0"
  | http2 => "HTTP/2"
  | http3 => "HTTP/3"
  | http09 | http11 => "HTTP/1.1"

end Version

abbrev Bytes := List UInt8

/-- A header of an answer; its value need not be text. -/
abbrev Field := String × Bytes

namespace Field

def ofHeader (h : Header) : Field := (h.1, Text.utf8 h.2)

def size (f : Field) : Nat := f.1.utf8ByteSize + 2 + f.2.length + 2

/-- the values of a name that is given in small letters -/
def values (name : String) (fields : List Field) : List Bytes :=
  (fields.filter fun f => f.1.toLower = name).map (·.2)

end Field

structure Answer where
  version : Version := .http11
  status : UInt16 := 200
  fields : List Field := []
  body : Bytes := []

def Answer.headBytes (a : Answer) : Nat :=
  let line := a.version.name.utf8ByteSize + 1 + (Text.digits a.status.toNat).length + 2
  min (UInt64.size - 1) (line + a.fields.foldr (fun f n => f.size + n) 0 + 2)

/-- Nothing follows the head of some answers, whatever it says; what comes after a tunnel has been
opened is no body either. -/
def hasBody (method : String) (status : Nat) : Bool :=
  method ≠ "HEAD" && 200 ≤ status && status ≠ 204 && status ≠ 304 &&
    !(method = "CONNECT" && status < 300)

structure Response where
  status : UInt16
  fields : List Field
  body : Bytes
  started : Int
  elapsed : Duration
  bytesReceived : Nat

namespace Response

def isSuccess (r : Response) : Bool := 200 ≤ r.status && r.status < 400

def text? (r : Response) : Option String := Text.ofUtf8? r.body

end Response

end LoadTest.Http
