import NetworkingGame.SceneSteps
import NetworkingGame.ServerSession

/-!
The whole system: the server and up to two connected clients, each with its
two threads and one reliable queue in either direction. A run is any
interleaving of connects, disconnects, packets handled by the server, packets
sent, received and dispatched by a client's network thread, frames, clicks and
chat lines. A step that throws, divides by zero or looks past the last client
of the server has no successor.
-/

namespace NetworkingGame

open Library.Transition

/-- A connected client. `down` and `up` are the packets on the network, and
`dispatched` is the history of what its network thread has processed. -/
structure Conn where
  uid : Nat
  inPeerMap : Bool
  scene : GameScene
  dispatched : List CustomPacket
  down : List CustomPacket
  up : List CustomPacket
deriving DecidableEq

/-- The steps of one client. `undefinedReturn` is what the caller of
`endgame_check` finds where that function returns nothing. -/
inductive LocalEvent
  | send
  | receive
  | dispatch
  | frame
  | click (undefinedReturn : Bool) (xpos ypos : Int)
  | enter (str : String)
deriving DecidableEq

def LocalEvent.isClick : LocalEvent → Bool
  | .click _ _ _ => true
  | _ => false

namespace GameScene

def withClient (scene : GameScene) (client : ClientComponent) : GameScene :=
  { scene with client := client }

end GameScene

namespace Conn

def fresh (uid : Nat) (blank : Sprite) : Conn where
  uid := uid
  inPeerMap := true
  scene := .create blank
  dispatched := []
  down := []
  up := []

/-- Everything that was sent to the client since it connected. -/
def sent (conn : Conn) : List CustomPacket :=
  conn.dispatched ++ conn.scene.client.recievedQueue ++ conn.down

/-- What the client has written and the server has not handled, oldest first. -/
def unhandled (conn : Conn) : List CustomPacket := conn.up ++ conn.scene.client.sendingQueue

def replacedBy (uid : Nat) (conn : Conn) : Conn :=
  { conn with inPeerMap := conn.inPeerMap && conn.uid ≠ uid }

def receive (actions : List Action) (conn : Conn) : Conn :=
  { conn with
    down := conn.down ++ if conn.inPeerMap then Action.mail actions conn.uid else [] }

/-- The packet at the front of the sending queue is encoded, and what arrives
is what the decoder makes of it. -/
def sendFrontOfQueue (conn : Conn) : Option Conn :=
  match conn.scene.client.sendingQueue with
  | [] => none
  | packet :: rest => (CustomPacket.ofData packet.data).map fun msg =>
      { conn with
        up := conn.up ++ [msg]
        scene := conn.scene.withClient { conn.scene.client with sendingQueue := rest } }

def onData (conn : Conn) : Option Conn :=
  match conn.down with
  | [] => none
  | packet :: rest =>
      some { conn with
        down := rest
        scene := conn.scene.withClient { conn.scene.client with
          recievedQueue := conn.scene.client.recievedQueue ++ [packet] } }

/-- One turn of the loop that empties the received queue. -/
def dispatch (conn : Conn) : Option Conn :=
  match conn.scene.client.recievedQueue with
  | [] => none
  | packet :: rest =>
      (({ conn.scene.client with recievedQueue := rest }).processRecievedPackets
        packet).toOption.map fun client =>
          { conn with
            dispatched := conn.dispatched ++ [packet]
            scene := conn.scene.withClient client }

def step (conn : Conn) : LocalEvent → Option Conn
  | .send => conn.sendFrontOfQueue
  | .receive => conn.onData
  | .dispatch => conn.dispatch
  | .frame => conn.scene.update.toOption.map fun scene => { conn with scene := scene }
  | .click undefinedReturn xpos ypos =>
      (conn.scene.clickHandler undefinedReturn xpos ypos).toOption.map fun scene =>
        { conn with scene := scene }
  | .enter str => some { conn with scene := conn.scene.enterPressed str }

/-- The steps of a client with their effect on the scene spelled out. Without
`clicks` the mouse is left alone. -/
inductive Local (clicks : Bool) (conn : Conn) : Conn → Prop
  | send (packet msg : CustomPacket) (rest : List CustomPacket)
      (hqueue : conn.scene.client.sendingQueue = packet :: rest)
      (hread : CustomPacket.ofData packet.data = some msg) :
      Local clicks conn { conn with
        up := conn.up ++ [msg]
        scene := conn.scene.withClient { conn.scene.client with sendingQueue := rest } }
  | receive (packet : CustomPacket) (rest : List CustomPacket)
      (hdown : conn.down = packet :: rest) :
      Local clicks conn { conn with
        down := rest
        scene := conn.scene.withClient { conn.scene.client with
          recievedQueue := conn.scene.client.recievedQueue ++ [packet] } }
  | dispatch (packet : CustomPacket) (rest : List CustomPacket) (client : ClientComponent)
      (hqueue : conn.scene.client.recievedQueue = packet :: rest)
      (hread : ({ conn.scene.client with recievedQueue := rest }).processRecievedPackets
        packet = .ok client) :
      Local clicks conn { conn with
        dispatched := conn.dispatched ++ [packet]
        scene := conn.scene.withClient client }
  | frame (scene : GameScene) (hframe : conn.scene.Frame scene) :
      Local clicks conn { conn with scene := scene }
  | click (scene : GameScene) (hclicks : clicks = true) (hclick : conn.scene.Click scene) :
      Local clicks conn { conn with scene := scene }
  | enter (scene : GameScene) (henter : conn.scene.Enter scene) :
      Local clicks conn { conn with scene := scene }

theorem Local.mono {clicks clicks' : Bool} {conn after : Conn} (h : Local clicks conn after)
    (hle : clicks = true → clicks' = true) : Local clicks' conn after := by
  cases h with
  | send packet msg rest hqueue hread => exact .send packet msg rest hqueue hread
  | receive packet rest hdown => exact .receive packet rest hdown
  | dispatch packet rest client hqueue hread => exact .dispatch packet rest client hqueue hread
  | frame scene hframe => exact .frame scene hframe
  | click scene hclicks hclick => exact .click scene (hle hclicks) hclick
  | enter scene henter => exact .enter scene henter

theorem toOption_eq_some {α : Type} {result : Except Fault α} {a : α}
    (h : result.toOption = some a) : result = .ok a := by
  cases result with
  | error fault => cases h
  | ok value => rw [Option.some.inj h]

section Network

variable {conn after : Conn}

theorem sendFrontOfQueue_eq_some (h : conn.sendFrontOfQueue = some after) :
    ∃ packet msg rest, conn.scene.client.sendingQueue = packet :: rest ∧
      CustomPacket.ofData packet.data = some msg ∧ after = { conn with
        up := conn.up ++ [msg]
        scene := conn.scene.withClient { conn.scene.client with sendingQueue := rest } } := by
  unfold sendFrontOfQueue at h
  split at h
  · cases h
  · rename_i packet rest hqueue
    obtain ⟨msg, hread, rfl⟩ := Option.map_eq_some_iff.mp h
    exact ⟨packet, msg, rest, hqueue, hread, rfl⟩

theorem onData_eq_some (h : conn.onData = some after) :
    ∃ packet rest, conn.down = packet :: rest ∧ after = { conn with
      down := rest
      scene := conn.scene.withClient { conn.scene.client with
        recievedQueue := conn.scene.client.recievedQueue ++ [packet] } } := by
  unfold onData at h
  split at h
  · cases h
  · rename_i packet rest hdown
    exact ⟨packet, rest, hdown, (Option.some.inj h).symm⟩

theorem dispatch_eq_some (h : conn.dispatch = some after) :
    ∃ packet rest client, conn.scene.client.recievedQueue = packet :: rest ∧
      ({ conn.scene.client with recievedQueue := rest }).processRecievedPackets packet =
        .ok client ∧ after = { conn with
          dispatched := conn.dispatched ++ [packet]
          scene := conn.scene.withClient client } := by
  unfold dispatch at h
  split at h
  · cases h
  · rename_i packet rest hqueue
    obtain ⟨client, hclient, rfl⟩ := Option.map_eq_some_iff.mp h
    exact ⟨packet, rest, client, hqueue, toOption_eq_some hclient, rfl⟩

end Network

theorem step_local {conn after : Conn} {event : LocalEvent} (h : conn.step event = some after) :
    Local event.isClick conn after := by
  cases event with
  | send =>
      obtain ⟨packet, msg, rest, hqueue, hread, rfl⟩ := sendFrontOfQueue_eq_some h
      exact .send packet msg rest hqueue hread
  | receive =>
      obtain ⟨packet, rest, hdown, rfl⟩ := onData_eq_some h
      exact .receive packet rest hdown
  | dispatch =>
      obtain ⟨packet, rest, client, hqueue, hread, rfl⟩ := dispatch_eq_some h
      exact .dispatch packet rest client hqueue hread
  | frame =>
      simp only [step, Option.map_eq_some_iff] at h
      obtain ⟨scene, hscene, rfl⟩ := h
      exact .frame scene (GameScene.update_frame (toOption_eq_some hscene))
  | click undefinedReturn xpos ypos =>
      simp only [step, Option.map_eq_some_iff] at h
      obtain ⟨scene, hscene, rfl⟩ := h
      exact .click scene rfl (GameScene.clickHandler_click (toOption_eq_some hscene))
  | enter str =>
      simp only [step] at h
      obtain rfl := Option.some.inj h
      exact .enter _ (GameScene.enterPressed_enter str conn.scene)

end Conn

structure System where
  server : Server
  conns : List Conn
deriving DecidableEq

/-- `blank` is the sprite that the renderer of a new client hands out. -/
inductive SystemEvent
  | connect (blank : Sprite)
  | disconnect (index : Nat)
  | serve (index : Nat)
  | act (index : Nat) (event : LocalEvent)
deriving DecidableEq

namespace System

def initial : System := ⟨.initial, []⟩

def uids (system : System) : List Nat := system.conns.map Conn.uid

def deliver (actions : List Action) (system : System) : System :=
  { system with conns := system.conns.map (Conn.receive actions) }

def step (system : System) : SystemEvent → Option System
  | .connect blank =>
      if system.conns.length < Server.maxClientCount then
        let uid := system.server.componentNextUid
        let conns := system.conns.map (Conn.replacedBy uid) ++ [.fresh uid blank]
        let result := system.server.takeUid.onClientConnect (system.uids ++ [uid]) uid
        some (deliver result.2 ⟨result.1, conns⟩)
      else none
  | .disconnect index =>
      match system.conns[index]? with
      | none => none
      | some leaver =>
          if leaver.inPeerMap then
            let conns := system.conns.eraseIdx index
            let result := system.server.onClientDisconnect (conns.map Conn.uid)
            some (deliver result.2 ⟨result.1, conns⟩)
          else none
  | .serve index =>
      match system.conns[index]? with
      | none => none
      | some sender =>
          match sender.up with
          | [] => none
          | msg :: rest =>
              let conns := system.conns.set index { sender with up := rest }
              let actions := Server.onClientData system.uids sender.uid msg
              if actions.all Action.found then some (deliver actions ⟨system.server, conns⟩)
              else none
  | .act index event =>
      match system.conns[index]? with
      | none => none
      | some conn => (conn.step event).map fun after =>
          { system with conns := system.conns.set index after }

section Serving

variable {system after : System} {index : Nat}

/-- A packet is handled if the server does not look past its last client. -/
theorem step_serve_eq {sender : Conn} {msg : CustomPacket} {rest : List CustomPacket}
    (hsender : system.conns[index]? = some sender) (hup : sender.up = msg :: rest)
    (hfound : msg.type = "resume" → 2 ≤ system.conns.length) :
    system.step (.serve index) =
      some (deliver (Server.onClientData system.uids sender.uid msg)
        ⟨system.server, system.conns.set index { sender with up := rest }⟩) := by
  have hall := (Server.onClientData_found system.uids sender.uid msg).mpr
    (by rwa [uids, List.length_map])
  simp only [step, hsender, hup, hall, if_true]

theorem step_serve_cases (h : system.step (.serve index) = some after) :
    ∃ sender msg rest, system.conns[index]? = some sender ∧ sender.up = msg :: rest ∧
      (msg.type = "resume" → 2 ≤ system.conns.length) ∧
      after = deliver (Server.onClientData system.uids sender.uid msg)
        ⟨system.server, system.conns.set index { sender with up := rest }⟩ := by
  simp only [step] at h
  split at h
  · cases h
  · rename_i sender hsender
    split at h
    · cases h
    · rename_i msg rest hup
      split at h
      · rename_i hall
        have hfound := (Server.onClientData_found system.uids sender.uid msg).mp hall
        rw [uids, List.length_map] at hfound
        exact ⟨sender, msg, rest, hsender, hup, hfound, (Option.some.inj h).symm⟩
      · cases h

end Serving

section Refinement

def peer (conn : Conn) : Peer := ⟨conn.uid, conn.inPeerMap, conn.sent⟩

/-- The server's side of the system. -/
def session (system : System) : Session := ⟨system.server, system.conns.map peer⟩

/-- What the server sees of a step. -/
def observed (system : System) : SystemEvent → List Event
  | .connect _ => [.connect]
  | .disconnect index => [.disconnect index]
  | .serve index =>
      match (system.conns[index]?).bind fun sender => sender.up.head? with
      | none => []
      | some msg => [.data index msg]
  | .act _ _ => []

theorem peer_receive (actions : List Action) (conn : Conn) :
    peer (conn.receive actions) = (peer conn).receive actions := by
  simp [peer, Conn.receive, Peer.receive, Conn.sent]

/-- A client's own steps do not change what it was sent. -/
theorem peer_local {clicks : Bool} {conn after : Conn} (h : conn.Local clicks after) :
    peer after = peer conn := by
  cases h with
  | send => rfl
  | receive packet rest hdown => simp [peer, Conn.sent, GameScene.withClient, hdown]
  | dispatch packet rest client hqueue hread =>
      have hsame := (ClientComponent.processRecievedPackets_processed hread).queues.1
      simp [peer, Conn.sent, GameScene.withClient, hqueue, hsame]
  | frame scene hframe => simp [peer, Conn.sent, hframe.recievedQueue]
  | click scene _ hclick => simp [peer, Conn.sent, hclick.recievedQueue]
  | enter scene henter => simp [peer, Conn.sent, henter.recievedQueue]

theorem map_peer_set {conns : List Conn} {index : Nat} {before after : Conn}
    (hindex : conns[index]? = some before) (hpeer : peer after = peer before) :
    (conns.set index after).map peer = conns.map peer := by
  obtain ⟨hlt, hbefore⟩ := List.getElem?_eq_some_iff.mp hindex
  rw [List.map_set, hpeer, ← hbefore]
  apply List.ext_getElem (by simp)
  intro i h1 h2
  rw [List.getElem_set]
  split
  · rename_i h
    subst h
    simp
  · rfl

theorem session_deliver (actions : List Action) (system : System) :
    (system.deliver actions).session = system.session.deliver actions := by
  simp [deliver, session, Session.deliver, peer_receive, Function.comp_def]

theorem uids_session (system : System) : system.session.uids = system.uids := by
  simp [Session.uids, session, uids, peer, Function.comp_def]

/-- The system refines the server under arbitrary events: each step is
matched by the event that the server sees, or by none. -/
theorem step_refines {system after : System} {event : SystemEvent}
    (h : system.step event = some after) :
    exec Session.step system.session (system.observed event) = some after.session := by
  cases event with
  | connect blank =>
      simp only [step] at h
      split at h
      · rename_i hlength
        obtain rfl := Option.some.inj h
        have hsize : system.session.peers.length < Server.maxClientCount := by
          simpa [session] using hlength
        simp only [observed, exec_cons, exec_nil, Option.some.injEq]
        refine ⟨_, ?_, rfl⟩
        rw [session_deliver]
        simp only [Session.step, Session.handle, if_pos hsize, uids_session]
        have hreplaced : peer ∘ Conn.replacedBy system.server.componentNextUid =
            Peer.replacedBy system.server.componentNextUid ∘ peer := rfl
        have hfresh : peer (.fresh system.server.componentNextUid blank) =
            ⟨system.server.componentNextUid, true, []⟩ := rfl
        simp [session, hreplaced, hfresh]
      · cases h
  | disconnect index =>
      simp only [step] at h
      split at h
      · cases h
      · rename_i leaver hleaver
        split at h
        · rename_i hmapped
          obtain rfl := Option.some.inj h
          simp only [observed, exec_cons, exec_nil, Option.some.injEq]
          refine ⟨_, ?_, rfl⟩
          rw [session_deliver]
          have hpeer : system.session.peers[index]? = some (peer leaver) := by
            simp [session, hleaver]
          have hmapped' : (peer leaver).inPeerMap = true := hmapped
          simp only [Session.step, Session.handle, hpeer, hmapped', if_true]
          simp [session, List.eraseIdx_map, peer, Function.comp_def]
        · cases h
  | serve index =>
      obtain ⟨sender, msg, rest, hsender, hup, -, rfl⟩ := step_serve_cases h
      simp only [observed, hsender, Option.bind_some, hup, List.head?_cons, exec_cons,
        exec_nil, Option.some.injEq]
      refine ⟨_, ?_, rfl⟩
      rw [session_deliver]
      have hpeer : system.session.peers[index]? = some (peer sender) := by
        simp [session, hsender]
      have hset :=
        @map_peer_set system.conns index sender { sender with up := rest } hsender rfl
      simp only [Session.step, Session.handle, hpeer, uids_session, Option.map_some]
      simp only [session, hset]
      rfl
  | act index event =>
      simp only [step] at h
      split at h
      · cases h
      · rename_i conn hconn
        obtain ⟨next, hnext, rfl⟩ := Option.map_eq_some_iff.mp h
        simp only [observed, exec_nil, Option.some.injEq]
        simp only [session, map_peer_set hconn (peer_local (Conn.step_local hnext))]

theorem exec_refines {events : List SystemEvent} {system : System}
    (h : exec step initial events = some system) :
    ∃ seen, exec Session.step Session.initial seen = some system.session :=
  exec_simulates (fun _ _ _ hstep => step_refines hstep) h

end Refinement

end System

end NetworkingGame
