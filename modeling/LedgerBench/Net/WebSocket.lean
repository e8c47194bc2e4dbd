import LedgerBench.Client.Transport
import LedgerBench.Json.Parser
import LedgerBench.Text.Utf8

/-! Requests over a message stream, one at a time. Each request has a number of its own, which is
used up even if the request fails, and only a message with that number is taken for its answer; what
was meant for an earlier request is passed over. -/

namespace LedgerBench.Net

inductive Frame where
  | text (s : String)
  | binary (bytes : List UInt8)
  | ping
  | pong
  | close
  deriving Repr, DecidableEq

/-- What happens at the receiving end. The stream can end without a closing frame, and silence lasts
longer than a request waits. -/
inductive Arrival where
  | frame (frame : Frame)
  | reset
  | silence
  deriving Repr, DecidableEq

/-- How far a stream has got. After a closing frame of the peer nothing may be sent any more; a
released connection has been given up on this side. -/
inductive Phase where
  | active
  | closedByPeer
  | terminated
  | released
  deriving Repr, DecidableEq

/-- A connection with what will arrive without further requests, what the peer does when the next
request reaches it, and the requests that were sent. -/
structure WebSocket where
  phase : Phase
  nextId : UInt64
  incoming : List Arrival
  reaction : List Arrival
  sent : List Json

namespace WebSocket

def start : WebSocket := ⟨.active, 1, [], [], []⟩

def sentAfterClosing : RemoteError :=
  .transport "WebSocket protocol error: Sending after closing is not allowed"

def connectionReset : RemoteError :=
  .transport "WebSocket protocol error: Connection reset without closing handshake"

def brokenMessage : RemoteError := .decode "<json>"

/-- The fields of a request: those of its parameters, its number and its command. -/
def message (id : UInt64) (command : String) (members : List (String × Json)) : Json :=
  ((Json.object members).setField "id" (.number (.natural id))).setField "command"
    (.string command)

def frameText : Frame → Option (Except RemoteError String)
  | .text s => some (.ok s)
  | .binary bytes =>
    match Text.readUtf8 bytes with
    | .ok s => some (.ok (String.ofList s))
    | .error e => some (.error (.decode ("binary message is not UTF-8: " ++ e.message)))
  | .ping | .pong | .close => none

/-- Reads arrivals until the answer to a request is there. Gives the phase that the stream is then
in, and what has not been read. -/
def await (id : UInt64) : List Arrival → Except RemoteError Json × Phase × List Arrival
  | [] => (.error .timeout, .active, [])
  | .silence :: rest => (.error .timeout, .active, rest)
  | .reset :: _ => (.error connectionReset, .terminated, [])
  | .frame .close :: rest => (.error .closed, .closedByPeer, rest)
  | .frame frame :: rest =>
    match frameText frame with
    | none => await id rest
    | some (.error e) => (.error e, .active, rest)
    | some (.ok text) =>
      match Json.parse? text with
      | none => (.error brokenMessage, .active, rest)
      | some envelope =>
        if envelope.wordField? "id" = some id then (.ok envelope, .active, rest)
        else await id rest

def exchange (id : UInt64) (request : Json) (socket : WebSocket) :
    Except RemoteError Json × WebSocket :=
  match socket.phase with
  | .released | .terminated => (.error .closed, socket)
  | .closedByPeer => (.error sentAfterClosing, socket)
  | .active =>
    let (reply, phase, incoming) := await id (socket.incoming ++ socket.reaction)
    (reply, { socket with phase, incoming, reaction := [], sent := socket.sent ++ [request] })

def request (command : String) (params : Json) (socket : WebSocket) :
    Except RemoteError Json × WebSocket :=
  let id := socket.nextId
  let socket := { socket with nextId := id + 1 }
  match params with
  | .object members => exchange id (message id command members) socket
  | .null => exchange id (message id command []) socket
  | other =>
    (.error (.decode ("request parameters must be an object, got " ++ other.compact)), socket)

/-- Gives the connection up, with a closing frame if one can still be sent. -/
def close (socket : WebSocket) : Except RemoteError Unit × WebSocket :=
  (match socket.phase with
    | .active | .released => .ok ()
    | .closedByPeer => .error sentAfterClosing
    | .terminated => .error .closed,
    { socket with phase := .released })

def reacting (socket : WebSocket) (reaction : List Arrival) : WebSocket :=
  { socket with reaction }

end WebSocket

instance : Transport WebSocket where
  request := WebSocket.request
  close := WebSocket.close

end LedgerBench.Net
