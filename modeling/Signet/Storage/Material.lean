import Signet.Text.CodePoint

/-!
# Signing material

What a signer hands over to be stored.
-/
namespace Signet

/-- Signed content, its signature, and maybe the certificate of the signer with its chain.
For attestations the signature is the signed envelope. -/
structure Material where
  content : Bytes := []
  signature : Bytes := []
  certificate : Option Bytes := none
  chain : Option Bytes := none
deriving DecidableEq, Repr

end Signet
