import Gatehouse.Header

/-!
# Exchanges with the authority

An exchange sends one request and gets one reply or fails. What carries it is not modelled:
an `Authority` is any function from requests to replies.
-/

set_option autoImplicit false

namespace Gatehouse

/-- The methods that the authority is asked with. -/
inductive Method where
  | get
  | post
  deriving DecidableEq

def Method.name : Method → String
  | .get => "GET"
  | .post => "POST"

/-- One question to the authority. -/
structure Request where
  method : Method
  url : String
  headers : Headers
  deriving DecidableEq

/-- An answer. The wording of a complaint about its body is not modelled, so it comes with the
answer. -/
structure Reply where
  status : Nat
  body : Bytes
  /-- What is said of the body if it cannot be read. -/
  complaint : String

/-- Why an exchange gives nothing. -/
inductive ExchangeFault where
  /-- The connection failed, for a reason of its own. -/
  | http (reason : String)
  | transport (reason : String)
  | invalidUrl (url reason : String)
  /-- The answer has another status than the one that was asked for. -/
  | unexpectedStatus (status : Nat)
  | invalidResponse (reason : String)
  deriving DecidableEq

def ExchangeFault.message : ExchangeFault → String
  | .http reason => "HTTP error: " ++ reason
  | .transport reason => "Transport error: " ++ reason
  | .invalidUrl url reason => "Invalid URL " ++ url ++ ": " ++ reason
  | .unexpectedStatus status => "Authority returned status " ++ toString status
  | .invalidResponse reason => "Invalid response: " ++ reason

/-- What answers requests. -/
abbrev Authority := Request → Except ExchangeFault Reply

namespace Status

/-- The status that the authority agrees with. -/
def ok : Nat := 200

/-- The usual words for a status, if it has any. -/
def phrase? : Nat → Option String
  | 100 => some "Continue"
  | 101 => some "Switching Protocols"
  | 102 => some "Processing"
  | 103 => some "Early Hints"
  | 200 => some "OK"
  | 201 => some "Created"
  | 202 => some "Accepted"
  | 203 => some "Non Authoritative Information"
  | 204 => some "No Content"
  | 205 => some "Reset Content"
  | 206 => some "Partial Content"
  | 207 => some "Multi-Status"
  | 208 => some "Already Reported"
  | 226 => some "IM Used"
  | 300 => some "Multiple Choices"
  | 301 => some "Moved Permanently"
  | 302 => some "Found"
  | 303 => some "See Other"
  | 304 => some "Not Modified"
  | 305 => some "Use Proxy"
  | 307 => some "Temporary Redirect"
  | 308 => some "Permanent Redirect"
  | 400 => some "Bad Request"
  | 401 => some "Unauthorized"
  | 402 => some "Payment Required"
  | 403 => some "Forbidden"
  | 404 => some "Not Found"
  | 405 => some "Method Not Allowed"
  | 406 => some "Not Acceptable"
  | 407 => some "Proxy Authentication Required"
  | 408 => some "Request Timeout"
  | 409 => some "Conflict"
  | 410 => some "Gone"
  | 411 => some "Length Required"
  | 412 => some "Precondition Failed"
  | 413 => some "Payload Too Large"
  | 414 => some "URI Too Long"
  | 415 => some "Unsupported Media Type"
  | 416 => some "Range Not Satisfiable"
  | 417 => some "Expectation Failed"
  | 418 => some "I'm a teapot"
  | 421 => some "Misdirected Request"
  | 422 => some "Unprocessable Entity"
  | 423 => some "Locked"
  | 424 => some "Failed Dependency"
  | 425 => some "Too Early"
  | 426 => some "Upgrade Required"
  | 428 => some "Precondition Required"
  | 429 => some "Too Many Requests"
  | 431 => some "Request Header Fields Too Large"
  | 451 => some "Unavailable For Legal Reasons"
  | 500 => some "Internal Server Error"
  | 501 => some "Not Implemented"
  | 502 => some "Bad Gateway"
  | 503 => some "Service Unavailable"
  | 504 => some "Gateway Timeout"
  | 505 => some "HTTP Version Not Supported"
  | 506 => some "Variant Also Negotiates"
  | 507 => some "Insufficient Storage"
  | 508 => some "Loop Detected"
  | 510 => some "Not Extended"
  | 511 => some "Network Authentication Required"
  | _ => none

/-- A status as it is shown in messages. -/
def text (status : Nat) : String :=
  toString status ++ " " ++ (phrase? status).getD "<unknown status code>"

end Status

end Gatehouse
