import LedgerBench.Failure
import LedgerBench.Machine.Basic
import LedgerBench.Net.Url
import LedgerBench.Net.WebSocket

/-! Connecting by an address: `memory://` stands for a fresh ledger in memory and `ws://` for a
server that is running somewhere. -/

namespace LedgerBench

open Net

inductive Link where
  | memory (server : Server)
  | socket (socket : WebSocket)

instance : Transport Link where
  request command params
    | .memory server =>
      let (reply, server) := Transport.request command params server
      (reply, .memory server)
    | .socket socket =>
      let (reply, socket) := Transport.request command params socket
      (reply, .socket socket)
  close
    | .memory server =>
      let (result, server) := Transport.close server
      (result, .memory server)
    | .socket socket =>
      let (result, socket) := Transport.close socket
      (result, .socket socket)

def Link.keys? : Link → Option KeySource
  | .memory server => some server.keys
  | .socket _ => none

structure Network where
  dial : Url → Except RemoteError WebSocket

def Net.HostName.isKnown : HostName → Bool
  | .name text => text == "localhost"
  | _ => true

def Network.offline : Network where
  dial url :=
    if url.host.any HostName.isKnown then
      .error (.transport ("IO error: " ++ SystemError.networkUnreachable.message))
    else
      .error (.transport ("IO error: failed to lookup address information: " ++
        "Temporary failure in name resolution"))

/-- Connects by an address. A ledger in memory draws its keys from the given source. -/
def connect (network : Network) (keys : KeySource) (address : String) : Except Failure Link :=
  match Url.parse address with
  | .error e => .error (.plain s!"Invalid connection string [{address}]: {e.message}")
  | .ok url =>
    if url.scheme = "memory" then .ok (.memory (.start keys))
    else if url.scheme = "wss" then
      .error (.plain ("TLS connections are not supported, connect to [" ++ url.text ++
        "] over ws:// instead"))
    else if url.scheme = "ws" then
      match network.dial url with
      | .ok socket => .ok (.socket socket)
      | .error e => .error (.plain s!"Could not connect to {url.text}: {e.message}")
    else .error (.plain s!"Unsupported connection scheme [{url.scheme}]")

end LedgerBench
