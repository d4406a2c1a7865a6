import SplRust.Core.Frame

/-! The certificate walker of `spl-core/src/ca.rs`. `CaError::MalformedDer` is `none`; the position
after an element is its end. -/

namespace SplRust.Core
open SplRust.Lib Option List

structure DerElement where
  fullStart : Nat
  contentStart : Nat
  fullEnd : Nat

namespace DerElement

def full (elem : DerElement) (input : Bytes) : Bytes := (input.take elem.fullEnd).drop elem.fullStart

def content (elem : DerElement) (input : Bytes) : Bytes := (input.take elem.fullEnd).drop elem.contentStart

end DerElement

namespace Ca

variable (input : Bytes)

variable {inp certDer spkiDer tbsDer signature : Bytes} {pos : Nat} {tag : UInt8} {elem tbs spki : DerElement}

end Ca

end SplRust.Core
