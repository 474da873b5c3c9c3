import Pubky2Pubky.Protocol.Primitives

/-!
# Client errors

A failure of the client is a protocol failure passed on, or one of its own with
the text that names the operation.
-/

namespace Pubky2Pubky
namespace Client

open Foundation Protocol

inductive ClientError where
  | protocol (error : ProtocolError)
  | invalidRelayUrl
  | timeout (operation : String)
  | discovery (text : String)
  | state (text : String)
  | iroh (text : String)
  | channelClosed
  | unexpectedPeer
  deriving DecidableEq, Repr

abbrev ClientResult (α : Type) := Except ClientError α

/-- A protocol failure becomes a client failure. -/
def fromProtocol {α : Type} (result : Result α) : ClientResult α :=
  match result with
  | Except.ok a => Except.ok a
  | Except.error e => Except.error (ClientError.protocol e)

@[simp] theorem fromProtocol_eq_ok {α : Type} {result : Result α} {a : α} :
    fromProtocol result = Except.ok a <-> result = Except.ok a := by
  cases result with
  | ok b => simp [fromProtocol]
  | error e => simp [fromProtocol]

end Client
end Pubky2Pubky
