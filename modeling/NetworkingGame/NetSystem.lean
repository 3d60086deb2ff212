import NetworkingGame.EnetRuns
import NetworkingGame.TurnSafety

/-!
The program as it runs: the server and the clients, each with the worker
thread of the network library, and between them buffers of bytes. What a
client sends waits in the queue of its library, travels, waits as an event of
the server's library, and only then is handled; the way back is the same.
-/

namespace NetworkingGame

open Library Library.Transition

/-- A client. `events` are the buffers that its library has received. -/
structure Process where
  scene : GameScene
  dispatched : List CustomPacket
  packetQueue : List (List Char)
  wireUp : List (List Char)
  wireDown : List (List Char)
  events : Mailbox (List Char)

namespace Process

def fresh (blank : Sprite) : Process := ⟨.create blank, [], [], [], [], .empty⟩

/-- The front of the sending queue is encoded and given to the library. -/
def sendFrontOfQueue (process : Process) : Option Process :=
  match process.scene.client.sendingQueue with
  | [] => none
  | packet :: rest =>
      some { process with
        packetQueue := process.packetQueue ++ [packet.data]
        scene := process.scene.withClient { process.scene.client with sendingQueue := rest } }

/-- One turn of the loop of `consume_events`, with `on_data`. -/
def onData (process : Process) : Option Process := do
  let (data, events) ← process.events.take
  let msg ← CustomPacket.ofData data
  return { process with
    events := events
    scene := process.scene.withClient { process.scene.client with
      recievedQueue := process.scene.client.recievedQueue ++ [msg] } }

def dispatch (process : Process) : Option Process :=
  match process.scene.client.recievedQueue with
  | [] => none
  | packet :: rest =>
      (({ process.scene.client with recievedQueue := rest }).processRecievedPackets
        packet).toOption.map fun client =>
          { process with
            dispatched := process.dispatched ++ [packet]
            scene := process.scene.withClient client }

def act (process : Process) : LocalEvent → Option Process
  | .send => process.sendFrontOfQueue
  | .receive => process.onData
  | .dispatch => process.dispatch
  | .frame => process.scene.update.toOption.map fun scene => { process with scene := scene }
  | .click undefinedReturn xpos ypos =>
      (process.scene.clickHandler undefinedReturn xpos ypos).toOption.map fun scene =>
        { process with scene := scene }
  | .enter str => some { process with scene := process.scene.enterPressed str }

/-- `send_queued_packets_in_thread` of the client, for one packet. -/
def transmit (process : Process) : Option Process :=
  match process.packetQueue with
  | [] => none
  | data :: rest =>
      some { process with packetQueue := rest, wireUp := process.wireUp ++ [data] }

/-- What has arrived becomes an event. -/
def deliver (process : Process) : Option Process :=
  match process.wireDown with
  | [] => none
  | data :: rest =>
      some { process with wireDown := rest, events := process.events.post data }

def poll (process : Process) : Option Process :=
  process.events.fetch.map fun events => { process with events := events }

end Process

/-- A client is named by the object that the server's library has for it. One
that the server has lost is followed no further. -/
structure NetSystem where
  hosting : Hosting Server
  processes : Nat → Option Process

inductive NetEvent
  | accept (blank : Sprite)
  | lose (client : Nat)
  | capture (client : Nat)
  | sendQueued
  | fetch
  | handle
  | transmit (client : Nat)
  | deliver (client : Nat)
  | poll (client : Nat)
  | act (client : Nat) (event : LocalEvent)
deriving DecidableEq

def NetEvent.isAccept : NetEvent → Bool
  | .accept _ => true
  | _ => false

namespace NetSystem

def start : NetSystem := ⟨.start, fun _ => none⟩

/-- What one client does by itself. -/
def stepProcess (net : NetSystem) (client : Nat) (step : Process → Option Process) :
    Option NetSystem := do
  let process ← net.processes client
  let after ← step process
  return { net with processes := Function.update net.processes client (some after) }

def step (net : NetSystem) : NetEvent → Option NetSystem
  | .accept blank => do
      let hosting ← net.hosting.step Server.callbacks .accept
      let client := net.hosting.host.heap.length
      return ⟨hosting, Function.update net.processes client (some (.fresh blank))⟩
  | .lose client => do
      let hosting ← net.hosting.step Server.callbacks (.lose client)
      return ⟨hosting, Function.update net.processes client none⟩
  | .capture client => do
      let process ← net.processes client
      match process.wireUp with
      | [] => none
      | data :: rest =>
          let hosting ← net.hosting.step Server.callbacks (.capture client data)
          return ⟨hosting,
            Function.update net.processes client (some { process with wireUp := rest })⟩
  | .sendQueued => do
      let (host, sent) ← net.hosting.host.sendQueuedPacket
      let hosting : Hosting Server := ⟨net.hosting.app, host⟩
      match sent with
      | none => return { net with hosting := hosting }
      | some (client, data) =>
          let process := (net.processes client).map fun process =>
            { process with wireDown := process.wireDown ++ [data] }
          return ⟨hosting, Function.update net.processes client process⟩
  | .fetch => do
      let hosting ← net.hosting.step Server.callbacks .fetch
      return { net with hosting := hosting }
  | .handle => do
      let hosting ← net.hosting.step Server.callbacks .handle
      return { net with hosting := hosting }
  | .transmit client => net.stepProcess client Process.transmit
  | .deliver client => net.stepProcess client Process.deliver
  | .poll client => net.stepProcess client Process.poll
  | .act client event => net.stepProcess client fun process => process.act event

end NetSystem

/-- The data of an event of this client. -/
def ServerEvent.dataOf (client : Nat) : ServerEvent → Option (List Char)
  | .connect _ => none
  | .receive other data => if other = client then some data else none
  | .disconnect _ => none

namespace EnetServer

/-- What is queued for a uid. -/
def queued (host : EnetServer) (uid : Nat) : List (List Char) :=
  (host.packetQueue.filter fun packet => packet.clientId = uid).map QueuedPacket.data

/-- What a client has sent and the server has not handled. -/
def received (host : EnetServer) (client : Nat) : List (List Char) :=
  host.events.pending.filterMap (ServerEvent.dataOf client)

end EnetServer

/-- The packets in some buffers. -/
def CustomPacket.readAll (buffers : List (List Char)) : List CustomPacket :=
  buffers.filterMap CustomPacket.ofData

/-- A client as the server's program and the players see it: with one queue of
packets in either direction. -/
def NetSystem.view (net : NetSystem) (client : Nat) (process : Process) : Conn where
  uid := client
  inPeerMap := true
  scene := process.scene
  dispatched := process.dispatched
  down := CustomPacket.readAll
    (process.events.pending ++ process.wireDown ++ net.hosting.host.queued client)
  up := CustomPacket.readAll
    (net.hosting.host.received client ++ process.wireUp ++ process.packetQueue)

/-- A state of the abstract system shows a state of the whole program: the
server has the same clients, the clients that it knows look the same, and one
that it does not know yet has only drawn its first frames. -/
structure NetSystem.Shows (net : NetSystem) (system : System) : Prop where
  active : system.server.gameActive = net.hosting.app.gameActive
  clients : system.uids = net.hosting.host.connectedClients
  uids : net.hosting.host.uids = .ok system.uids
  known : ∀ client process, net.processes client = some process →
    client ∈ net.hosting.host.connectedClients → net.view client process ∈ system.conns
  unknown : ∀ client process, net.processes client = some process →
    client ∉ net.hosting.host.connectedClients → process.dispatched = [] ∧
      process.scene.client = .fresh

end NetworkingGame
