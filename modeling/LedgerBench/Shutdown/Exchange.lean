import LedgerBench.Register
import LedgerBench.Shutdown.Listener

/-! Handles and listeners by name over one channel. Listeners that come from one another share a
receiver, so a signal that one of them takes is gone for the others, but each is triggered by
itself. -/

namespace LedgerBench.Shutdown

structure Ear where
  receiver : Nat
  triggered : Bool
  deriving Repr, DecidableEq

structure Exchange where
  channel : Channel
  handles : List String
  receivers : List Receiver
  ears : Register String Ear

namespace Exchange

def start (handle : String) : Exchange := ⟨.start, [handle], [], .empty⟩

def hasHandle (exchange : Exchange) (handle : String) : Bool :=
  exchange.handles.contains handle

/-- Sends the signal through a handle; `none` if there is no such handle. -/
def shutdown (exchange : Exchange) (handle : String) : Option Exchange :=
  if exchange.hasHandle handle then some { exchange with channel := exchange.channel.send }
  else none

def dropHandle (exchange : Exchange) (handle : String) : Bool × Exchange :=
  if exchange.hasHandle handle then
    (true, { exchange with
      channel := exchange.channel.dropHandle
      handles := exchange.handles.erase handle })
  else (false, exchange)

/-- Makes one more handle; an old one of the same name goes. -/
def cloneHandle (exchange : Exchange) (handle name : String) : Option Exchange :=
  if exchange.hasHandle handle then
    let cleared := (exchange.dropHandle name).2
    some { cleared with
      channel := cleared.channel.addHandle
      handles := name :: cleared.handles }
  else none

def listen (exchange : Exchange) (name handle : String) : Option Exchange :=
  if exchange.hasHandle handle then
    some { exchange with
      receivers := exchange.receivers ++ [exchange.channel.subscribe]
      ears := exchange.ears.insert name ⟨exchange.receivers.length, false⟩ }
  else none

/-- A second listener on the receiver of the first. -/
def cloneListener (exchange : Exchange) (listener name : String) : Option Exchange := do
  let ear ← exchange.ears.get? listener
  return { exchange with ears := exchange.ears.insert name ear }

def ask (look : Listener → Channel → Bool × Listener) (exchange : Exchange) (name : String) :
    Option (Bool × Exchange) := do
  let ear ← exchange.ears.get? name
  let receiver ← exchange.receivers[ear.receiver]?
  let (seen, after) := look ⟨receiver, ear.triggered⟩ exchange.channel
  return (seen, { exchange with
    receivers := exchange.receivers.set ear.receiver after.receiver
    ears := exchange.ears.insert name { ear with triggered := after.triggered } })

def shouldShutdown (exchange : Exchange) (name : String) : Option (Bool × Exchange) :=
  exchange.ask Listener.shouldShutdown name

def waitIsOver (exchange : Exchange) (name : String) : Option (Bool × Exchange) :=
  exchange.ask Listener.waitIsOver name

end Exchange
end LedgerBench.Shutdown
