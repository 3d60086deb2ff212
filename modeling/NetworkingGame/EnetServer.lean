import NetworkingGame.Library.Mailbox
import NetworkingGame.Server

/-!
The server class of the network library. Its worker thread captures the
events of ENet and sends what is queued; the thread of the game server takes
the captured events over and runs a callback for each. For every connection
the worker allocates an object, to which the events and the list of connected
clients point; the heap remembers all allocations, so that the use of a
deleted object is seen.
-/

namespace NetworkingGame

open Library Library.Transition

/-- The object allocated for a connection: `server_client`. -/
structure ServerClient where
  uid : Nat
deriving DecidableEq, Repr

/-- `server_event`. A client is a pointer, the place of its allocation. -/
inductive ServerEvent
  | connect (client : Nat)
  | receive (client : Nat) (data : List Char)
  | disconnect (client : Nat)
deriving DecidableEq, Repr

/-- An access to a deleted object, a second deletion, a failed assertion, and
what a callback does wrong by itself. -/
inductive LibraryFault
  | useAfterFree
  | doubleFree
  | assertion
  | callback
deriving DecidableEq, Repr

/-- `server_queued_packet`: the uid of its destination and the bytes. -/
structure QueuedPacket where
  clientId : Nat
  data : List Char
deriving DecidableEq, Repr

/-- The initialize function and the three callbacks, which are given the uids
of `get_connected_clients()` and return what they ask to be sent. -/
structure Callbacks (σ : Type) where
  initializeClient : σ → Nat × σ
  onConnected : σ → List Nat → Nat → Except LibraryFault (σ × List QueuedPacket)
  onDisconnected : σ → List Nat → Nat → Except LibraryFault (σ × List QueuedPacket)
  onData : σ → List Nat → Nat → List Char → Except LibraryFault (σ × List QueuedPacket)

/-- `peers` are the clients that the `data` of the connected ENet peers points
to; `threadPeerMap` names a peer by its client. The slots that ENet keeps its
peers in, and what `data` holds while a slot is free, are left to ENet. -/
structure EnetServer where
  heap : List (Option ServerClient)
  peers : List Nat
  threadPeerMap : Nat → Option Nat
  connectedClients : List Nat
  packetQueue : List QueuedPacket
  events : Mailbox ServerEvent

namespace EnetServer

def listening : EnetServer where
  heap := []
  peers := []
  threadPeerMap := fun _ => none
  connectedClients := []
  packetQueue := []
  events := .empty

def deref (host : EnetServer) (client : Nat) : Except LibraryFault ServerClient :=
  match host.heap[client]? with
  | some (some object) => .ok object
  | _ => .error .useAfterFree

def delete (host : EnetServer) (client : Nat) : Except LibraryFault EnetServer :=
  match host.heap[client]? with
  | some (some _) => .ok { host with heap := host.heap.set client none }
  | _ => .error .doubleFree

/-- The uids of `get_connected_clients()`, read through the pointers. -/
def uids (host : EnetServer) : Except LibraryFault (List Nat) :=
  host.connectedClients.mapM fun client => do
    let object ← host.deref client
    return object.uid

def send (host : EnetServer) (packets : List QueuedPacket) : EnetServer :=
  { host with packetQueue := host.packetQueue ++ packets }

section Worker

/-- The assertion that the `data` of the new peer is null is about the slot
that ENet chose, and is not modelled. -/
def handleConnectEvent (uid : Nat) (host : EnetServer) : EnetServer :=
  let client := host.heap.length
  { host with
    heap := host.heap ++ [some ⟨uid⟩]
    peers := host.peers ++ [client]
    threadPeerMap := Function.update host.threadPeerMap uid (some client)
    events := host.events.post (.connect client) }

def handleReceiveEvent (client : Nat) (data : List Char) (host : EnetServer) : EnetServer :=
  { host with events := host.events.post (.receive client data) }

/-- Both assertions are about what the map holds for the uid of the client. -/
def handleDisconnectEvent (client : Nat) (host : EnetServer) : Except LibraryFault EnetServer := do
  let object ← host.deref client
  if host.threadPeerMap object.uid = some client then
    return { host with
      peers := host.peers.erase client
      threadPeerMap := Function.update host.threadPeerMap object.uid none
      events := host.events.post (.disconnect client) }
  else throw .assertion

/-- One packet of `send_queued_packets_in_thread`, and the peer that gets it:
none if the uid has left the map. -/
def sendQueuedPacket (host : EnetServer) : Option (EnetServer × Option (Nat × List Char)) :=
  match host.packetQueue with
  | [] => none
  | packet :: rest =>
      some ({ host with packetQueue := rest },
        (host.threadPeerMap packet.clientId).map fun client => (client, packet.data))

end Worker

section Consumer

variable {σ : Type}

/-- One turn of the loop of `consume_events`. -/
def handleEvent (callbacks : Callbacks σ) (app : σ) (host : EnetServer) :
    ServerEvent → Except LibraryFault (σ × EnetServer)
  | .connect client => do
      let host := { host with connectedClients := host.connectedClients ++ [client] }
      let object ← host.deref client
      let uids ← host.uids
      let (app, packets) ← callbacks.onConnected app uids object.uid
      return (app, host.send packets)
  | .disconnect client =>
      if client ∈ host.connectedClients then do
        let host := { host with connectedClients := host.connectedClients.erase client }
        let object ← host.deref client
        let host ← host.delete client
        let uids ← host.uids
        let (app, packets) ← callbacks.onDisconnected app uids object.uid
        return (app, host.send packets)
      else throw .assertion
  | .receive client data => do
      let object ← host.deref client
      let uids ← host.uids
      let (app, packets) ← callbacks.onData app uids object.uid data
      return (app, host.send packets)

/-- `destroy_unhandled_event_data`: the packet of a `receive` event is not an
object of the heap here. -/
def destroyUnhandledEventData (host : EnetServer) : ServerEvent → Except LibraryFault EnetServer
  | .connect client => host.delete client
  | .receive _ _ => .ok host
  | .disconnect _ => .ok host

/-- `stop_listening`, once the worker has disconnected its peers and ended. -/
def stopListening (host : EnetServer) : Except LibraryFault EnetServer := do
  let host := { host with peers := [], threadPeerMap := fun _ => none, packetQueue := [] }
  let host ← host.events.queue.foldlM destroyUnhandledEventData host
  let host := { host with events := { host.events with queue := [] } }
  let host ← host.connectedClients.foldlM delete host
  return { host with connectedClients := [] }

end Consumer

end EnetServer

/-- What the environment and the two threads do. -/
inductive HostEvent
  | accept
  | capture (client : Nat) (data : List Char)
  | lose (client : Nat)
  | sendQueued
  | fetch
  | handle
deriving DecidableEq, Repr

/-- The server class and the program that uses it. -/
structure Hosting (σ : Type) where
  app : σ
  host : EnetServer

namespace Hosting

variable {σ : Type}

/-- What a step does: nothing where there is nothing to do, or where ENet would
not report the event. Its host takes a limited number of peers, and only
speaks about those. -/
def attempt (callbacks : Callbacks σ) (hosting : Hosting σ) :
    HostEvent → Option (Except LibraryFault (Hosting σ))
  | .accept =>
      if hosting.host.peers.length < Server.maxClientCount then
        let (uid, app) := callbacks.initializeClient hosting.app
        some (.ok ⟨app, hosting.host.handleConnectEvent uid⟩)
      else none
  | .capture client data =>
      if client ∈ hosting.host.peers then
        some (.ok ⟨hosting.app, hosting.host.handleReceiveEvent client data⟩)
      else none
  | .lose client =>
      if client ∈ hosting.host.peers then
        some ((hosting.host.handleDisconnectEvent client).map fun host => ⟨hosting.app, host⟩)
      else none
  | .sendQueued => hosting.host.sendQueuedPacket.map fun result => .ok ⟨hosting.app, result.1⟩
  | .fetch => hosting.host.events.fetch.map fun events =>
      .ok ⟨hosting.app, { hosting.host with events := events }⟩
  | .handle => hosting.host.events.take.map fun taken =>
      (EnetServer.handleEvent callbacks hosting.app { hosting.host with events := taken.2 }
        taken.1).map fun result => ⟨result.1, result.2⟩

def step (callbacks : Callbacks σ) (hosting : Hosting σ) (event : HostEvent) :
    Option (Hosting σ) :=
  (hosting.attempt callbacks event).bind Except.toOption

end Hosting

namespace Server

/-- The packets to send, if every client of `clients[i]` was there. -/
def encode (actions : List Action) : Except LibraryFault (List QueuedPacket) :=
  actions.mapM fun
    | .sendTo uid packet => .ok ⟨uid, packet.data⟩
    | .missingClient _ => .error .callback

/-- What `initialise` binds. Data is forwarded as it came. -/
def callbacks : Callbacks Server where
  initializeClient server := (server.componentNextUid, server.takeUid)
  onConnected server clients client := do
    let (server, actions) := server.onClientConnect clients client
    let packets ← encode actions
    return (server, packets)
  onDisconnected server clients _ := do
    let (server, actions) := server.onClientDisconnect clients
    let packets ← encode actions
    return (server, packets)
  onData server clients client data :=
    match CustomPacket.ofData data with
    | none => .error .callback
    | some msg =>
        if isForwarded msg.type then
          .ok (server, (clients.filter (· ≠ client)).map fun uid => ⟨uid, data⟩)
        else do
          let packets ← encode (onClientData clients client msg)
          return (server, packets)

end Server

end NetworkingGame
