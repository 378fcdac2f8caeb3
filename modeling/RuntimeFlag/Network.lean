import RuntimeFlag.Transport.Delivery
import RuntimeFlag.Transport.Message
import Std.Internal.UV.DNS
import Std.Internal.UV.TCP
/-!
# The network

Requests over connections that are not encrypted. An encrypted connection cannot be made, so a
control plane that wants one is one that cannot be reached.
-/
namespace RuntimeFlag.Network

private def await {α : Type} (promise : IO.Promise (Except IO.Error α)) : IO α := do
  match ← IO.wait promise.result? with
  | some (.ok value) => pure value
  | some (.error error) => throw error
  | none => throw (IO.userError "the promise was dropped")

private def addressOf (port : UInt16) : Std.Net.IPAddr → Std.Net.SocketAddress
  | .v4 address => .v4 ⟨address, port⟩
  | .v6 address => .v6 ⟨address, port⟩

/-- Connects to the first address that takes a connection. -/
private def connect (port : UInt16) : List Std.Net.IPAddr → IO Std.Internal.UV.TCP.Socket
  | [] => throw (IO.userError "no address takes a connection")
  | address :: others => do
    let socket ← Std.Internal.UV.TCP.Socket.new
    try
      await (← socket.connect (addressOf port address))
      pure socket
    catch _ => connect port others

private partial def receive (socket : Std.Internal.UV.TCP.Socket) (read : ByteArray) :
    IO ByteArray := do
  match ← await (← socket.recv? 65536) with
  | some bytes => receive socket (read ++ bytes)
  | none => pure read

private def hostName (url : Url) : String :=
  String.ofList (((url.host.map Host.chars).getD []).filter fun c => c ≠ '[' && c ≠ ']')

private def open? (url : Url) : IO (Option Std.Internal.UV.TCP.Socket) := do
  if url.scheme ≠ "http".toList then return none
  let port := UInt16.ofNat (url.effectivePort?.getD 80)
  try
    let addresses ← await (← Std.Internal.UV.DNS.getAddrInfo (hostName url) "" 0)
    some <$> connect port addresses.toList
  catch _ => pure none

/-- Sends a request and waits for its outcome. -/
def exchange (request : Request) : IO Outcome := do
  if !Transport.isSendable request.url.withoutUserInfo then
    return Transport.undelivered request
  let some socket ← open? request.url | return Transport.undelivered request
  try
    await (← socket.send #[(Transport.message request).toUTF8])
    let bytes ← receive socket ByteArray.empty
    match Transport.Response.ofBytes? bytes.toList with
    | some response => pure response.outcome
    | none => pure (Transport.interrupted request)
  catch _ => pure (Transport.interrupted request)

end RuntimeFlag.Network
