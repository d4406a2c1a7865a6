import SplRust.Core.Http

/-! The request head that a dialer sends (`build_request_head` of `spl-core/src/http.rs`). -/

namespace SplRust.Core
open SplRust.Lib

def defaultHttpHost : Text := "spl.local".toList

def utf8Bytes (text : Text) : Bytes := text.flatMap String.utf8EncodeChar

def isFramingOwned (name : Text) : Bool :=
  eqIgnoreAsciiCase name "host".toList || eqIgnoreAsciiCase name "content-length".toList ||
    eqIgnoreAsciiCase name "accept".toList

def headerLine (name value : Text) : Text := name ++ ": ".toList ++ value ++ "\r\n".toList

/-- The caller's `accept` header, or the default one. -/
def acceptLine (headers : Headers) : Text :=
  match headers.find? fun header => eqIgnoreAsciiCase header.1 "accept".toList with
  | some header => headerLine header.1 header.2
  | none => "accept: application/json\r\n".toList

def buildRequestHeadWithHost (method path host : Text) (headers : Headers) (contentLength : Nat) : Bytes :=
  utf8Bytes (method ++ " ".toList ++ path ++ " HTTP/1.1\r\n".toList ++
    headerLine "host".toList host ++ acceptLine headers ++
    ((headers.filter fun header => !isFramingOwned header.1).flatMap fun header =>
      headerLine header.1 header.2) ++
    "content-length: ".toList ++ (toString contentLength).toList ++ "\r\n\r\n".toList)

def buildRequestHead (method path : Text) (headers : Headers) (contentLength : Nat) : Bytes :=
  buildRequestHeadWithHost method path defaultHttpHost headers contentLength

theorem utf8Bytes_append (fst second : Text) : utf8Bytes (fst ++ second) = utf8Bytes fst ++ utf8Bytes second :=
  List.flatMap_append

theorem buildRequestHead_ne_nil (method path : Text) (headers : Headers) (contentLength : Nat) :
    buildRequestHead method path headers contentLength ≠ [] := by
  rw [buildRequestHead, buildRequestHeadWithHost, utf8Bytes_append]
  exact List.append_ne_nil_of_right_ne_nil _ (by decide)

end SplRust.Core
