import NetworkingGame.Library.Transition
import NetworkingGame.GameScene
import NetworkingGame.Server

/-!
The server under any sequence of connects, disconnects and received packets.
The peer map of the network library is part of the state: an entry is made by
a connect and taken out by a disconnect, and a packet goes to the entry of its
uid. Each client carries the history of what it was sent.
-/

namespace NetworkingGame

open Library.Transition

structure Peer where
  uid : Nat
  inPeerMap : Bool
  sent : List CustomPacket
deriving DecidableEq

namespace Peer

/-- A new entry of the peer map takes the place of one with the same uid. -/
def replacedBy (uid : Nat) (peer : Peer) : Peer :=
  { peer with inPeerMap := peer.inPeerMap && peer.uid ≠ uid }

def receive (actions : List Action) (peer : Peer) : Peer :=
  { peer with
    sent := peer.sent ++ if peer.inPeerMap then Action.mail actions peer.uid else [] }

end Peer

structure Session where
  server : Server
  peers : List Peer
deriving DecidableEq

/-- What the network library reports; `index` is a position among the
connected clients. -/
inductive Event
  | connect
  | disconnect (index : Nat)
  | data (index : Nat) (msg : CustomPacket)
deriving DecidableEq

namespace Session

def initial : Session := ⟨.initial, []⟩

def uids (session : Session) : List Nat := session.peers.map Peer.uid

/-- `consume_events` on one event, with what the callback asks to send. The
library asserts that a client that leaves is the one in its map. -/
def handle (session : Session) : Event → Option (Session × List Action)
  | .connect =>
      if session.peers.length < Server.maxClientCount then
        let uid := session.server.componentNextUid
        let peers := session.peers.map (Peer.replacedBy uid) ++ [⟨uid, true, []⟩]
        let result := session.server.takeUid.onClientConnect (session.uids ++ [uid]) uid
        some (⟨result.1, peers⟩, result.2)
      else none
  | .disconnect index =>
      match session.peers[index]? with
      | none => none
      | some leaver =>
          if leaver.inPeerMap then
            let peers := session.peers.eraseIdx index
            let result := session.server.onClientDisconnect (peers.map Peer.uid)
            some (⟨result.1, peers⟩, result.2)
          else none
  | .data index msg =>
      match session.peers[index]? with
      | none => none
      | some sender => some (session, Server.onClientData session.uids sender.uid msg)

def deliver (actions : List Action) (session : Session) : Session :=
  { session with peers := session.peers.map (Peer.receive actions) }

def step (session : Session) (event : Event) : Option Session :=
  (session.handle event).map fun result => result.1.deliver result.2

def actions (session : Session) (event : Event) : List Action :=
  ((session.handle event).map Prod.snd).getD []

/-- The packets that place a client in a session. -/
def isControl (packet : CustomPacket) : Bool :=
  packet.type = "init" || packet.type = "start" ||
    (packet.type = "reconnect" && packet.msgText = "true")

def control (sent : List CustomPacket) : List CustomPacket := sent.filter isControl

/-- The actions carry no control packet to this uid. -/
def Quiet (actions : List Action) (uid : Nat) : Prop :=
  ∀ packet ∈ Action.mail actions uid, isControl packet = false

theorem control_receive {actions : List Action} {peer : Peer} (h : Quiet actions peer.uid) :
    control (peer.receive actions).sent = control peer.sent := by
  unfold control Peer.receive
  rw [List.filter_append]
  have hnone : (if peer.inPeerMap then Action.mail actions peer.uid else []).filter
      isControl = [] := by
    split
    · exact List.filter_eq_nil_iff.mpr fun packet hpacket => by simp [h packet hpacket]
    · rfl
  rw [hnone, List.append_nil]

theorem quiet_onClientData (clients : List Nat) (client : Nat) (msg : CustomPacket)
    (uid : Nat) : Quiet (Server.onClientData clients client msg) uid := by
  intro packet hpacket
  have haction := Action.mem_mail.mp hpacket
  unfold Server.onClientData at haction
  split at haction
  · rename_i hforwarded
    simp only [Server.sendToAllIf, List.mem_map, Action.sendTo.injEq] at haction
    obtain ⟨_, -, -, rfl⟩ := haction
    simp only [Server.isForwarded, Bool.or_eq_true, decide_eq_true_eq] at hforwarded
    rcases hforwarded with (((h | h) | h) | h) | h <;> simp [isControl, h]
  · split at haction
    · simp only [Server.sendToIndex, List.mem_cons, List.not_mem_nil, or_false] at haction
      rcases haction with h | h <;> split at h <;> cases h <;> decide +kernel
    · cases haction

theorem quiet_onClientDisconnect (server : Server) (clients : List Nat) (uid : Nat) :
    Quiet (server.onClientDisconnect clients).2 uid := by
  intro packet hpacket
  have haction := Action.mem_mail.mp hpacket
  unfold Server.onClientDisconnect at haction
  split at haction
  · split at haction
    · cases haction
    · simp only [Server.sendToIndex, List.mem_singleton] at haction
      split at haction <;> cases haction
      decide +kernel
  · cases haction

/-- A reconnecting client is welcomed; nobody else hears a control packet. -/
theorem quiet_onClientConnect {server : Server} (hactive : server.gameActive = true)
    (clients : List Nat) {client uid : Nat} (huid : uid ≠ client) :
    Quiet (server.onClientConnect clients client).2 uid := by
  intro packet hpacket
  have haction := Action.mem_mail.mp hpacket
  rw [Server.onClientConnect, if_pos hactive] at haction
  simp only [Server.sendToAllIf, List.mem_cons, Action.sendTo.injEq, List.mem_map] at haction
  rcases haction with ⟨h, -⟩ | ⟨_, -, -, rfl⟩
  · exact absurd h huid
  · decide +kernel

/-- How a client of a running game came to it: from the lobby, or later. -/
def Seated (peer : Peer) : Prop :=
  (∃ id, control peer.sent = [Server.initPacket id, Server.startPacket]) ∨
    control peer.sent = [Server.reconPacket]

theorem Seated.receive {actions : List Action} {peer : Peer} (h : Seated peer)
    (hquiet : Quiet actions peer.uid) : Seated (peer.receive actions) := by
  unfold Seated
  rw [control_receive hquiet]
  exact h

/-- What a connect to a running game sends. -/
def welcome (session : Session) : List Action :=
  (session.server.takeUid.onClientConnect
    (session.uids ++ [session.server.componentNextUid]) session.server.componentNextUid).2

/-- A client whose uid comes round again loses its entry of the peer map, so
the welcome of the newcomer does not reach it. -/
theorem Seated.replaced {session : Session} {peer : Peer} (h : Seated peer)
    (active : session.server.gameActive = true) :
    Seated ((peer.replacedBy session.server.componentNextUid).receive session.welcome) := by
  by_cases huid : peer.uid = session.server.componentNextUid
  · have hsame : ((peer.replacedBy session.server.componentNextUid).receive
        session.welcome).sent = peer.sent := by
      simp [Peer.receive, Peer.replacedBy, huid]
    unfold Seated
    rw [hsame]
    exact h
  · have hseated : Seated (peer.replacedBy session.server.componentNextUid) := h
    apply hseated.receive
    have hactive : session.server.takeUid.gameActive = true := active
    exact quiet_onClientConnect hactive _ huid

/-- The three phases of a session. -/
inductive Phase : Session → Prop
  | empty {server : Server} (inactive : server.gameActive = false) : Phase ⟨server, []⟩
  | waiting {server : Server} {peer : Peer} (inactive : server.gameActive = false)
      (mapped : peer.inPeerMap = true)
      (greeted : control peer.sent = [Server.initPacket 0])
      (bound : peer.uid < 2 ^ 32)
      (next : server.componentNextUid = (peer.uid + 1) % 2 ^ 32) : Phase ⟨server, [peer]⟩
  | playing {server : Server} {peers : List Peer} (active : server.gameActive = true)
      (nonempty : peers ≠ []) (size : peers.length ≤ 2)
      (seated : ∀ peer ∈ peers, Seated peer) : Phase ⟨server, peers⟩

structure Sound (session : Session) : Prop where
  phase : Phase session
  bound : session.server.componentNextUid < 2 ^ 32

/-- The next uid is a new one, also where the counter has wrapped. -/
theorem uid_ne_next {uid nextUid : Nat} (hnext : nextUid = (uid + 1) % 2 ^ 32) :
    uid ≠ nextUid := by
  omega

theorem sound_initial : Sound initial := ⟨.empty rfl, by decide⟩

theorem step_empty {server : Server} {event : Event} {after : Session}
    (inactive : server.gameActive = false) (h : step ⟨server, []⟩ event = some after) :
    event = .connect ∧ after = ⟨server.takeUid,
      [⟨server.componentNextUid, true, [Server.initPacket 0]⟩]⟩ := by
  cases event with
  | connect =>
      simp [step, handle, uids, Server.maxClientCount, Server.onClientConnect, Server.takeUid,
        inactive, Server.assignClientLocalID, deliver, Peer.receive] at h
      exact ⟨rfl, h ▸ by simp [Server.takeUid, inactive]⟩
  | disconnect index => simp [step, handle] at h
  | data index msg => simp [step, handle] at h

/-- The local id given to the second client of the lobby. -/
def secondID (waiting : Nat) : Int := if waiting % 2 = 0 then 1 else 0

theorem step_waiting {server : Server} {peer : Peer} {event : Event} {after : Session}
    (inactive : server.gameActive = false) (mapped : peer.inPeerMap = true)
    (next : server.componentNextUid = (peer.uid + 1) % 2 ^ 32)
    (h : step ⟨server, [peer]⟩ event = some after) :
    (event = .connect ∧ after = ⟨{ server.takeUid with gameActive := true },
      [⟨peer.uid, true, peer.sent ++ [Server.startPacket]⟩,
        ⟨server.componentNextUid, true,
          [Server.initPacket (secondID peer.uid), Server.startPacket]⟩]⟩) ∨
    (event = .disconnect 0 ∧ after = ⟨server, []⟩) ∨
    (∃ msg, event = .data 0 msg ∧
      after = ⟨server, [peer.receive (Server.onClientData [peer.uid] peer.uid msg)]⟩) := by
  have fresh := uid_ne_next next
  cases event with
  | connect =>
      left
      simp [step, handle, uids, Server.maxClientCount, Server.onClientConnect, Server.takeUid,
        inactive, Server.assignClientLocalID, deliver, Peer.receive, Peer.replacedBy, mapped,
        fresh, fresh.symm, Server.sendToIndex] at h
      exact ⟨rfl, h ▸ by simp [Server.takeUid, secondID]⟩
  | disconnect index =>
      right; left
      cases index with
      | zero =>
          simp [step, handle, mapped, Server.onClientDisconnect, inactive, deliver] at h
          exact ⟨rfl, h.symm⟩
      | succ index => simp [step, handle] at h
  | data index msg =>
      right; right
      cases index with
      | zero =>
          simp [step, handle, deliver, uids] at h
          exact ⟨msg, rfl, h.symm⟩
      | succ index => simp [step, handle] at h

theorem mail_welcome {session : Session} (active : session.server.gameActive = true) :
    Action.mail session.welcome session.server.componentNextUid = [Server.reconPacket] := by
  have hactive : session.server.takeUid.gameActive = true := active
  rw [welcome, Server.onClientConnect, if_pos hactive, Action.mail_sendTo, if_pos rfl]
  congr 1
  apply List.eq_nil_iff_forall_not_mem.mpr
  intro packet hpacket
  have haction := Action.mem_mail.mp hpacket
  simp [Server.sendToAllIf] at haction

theorem step_playing {server : Server} {peers : List Peer} {event : Event} {after : Session}
    (active : server.gameActive = true) (h : step ⟨server, peers⟩ event = some after) :
    (event = .connect ∧ peers.length < 2 ∧ after = ⟨server.takeUid,
      peers.map (fun peer => (peer.replacedBy server.componentNextUid).receive
        (welcome ⟨server, peers⟩)) ++
      [⟨server.componentNextUid, true, [Server.reconPacket]⟩]⟩) ∨
    (∃ index, event = .disconnect index ∧ index < peers.length ∧
      peers.eraseIdx index = [] ∧
      after = ⟨{ server with nextUid := 0, gameActive := false }, []⟩) ∨
    (∃ index, event = .disconnect index ∧ index < peers.length ∧
      peers.eraseIdx index ≠ [] ∧ after = ⟨server, (peers.eraseIdx index).map
        (Peer.receive (server.onClientDisconnect ((peers.eraseIdx index).map Peer.uid)).2)⟩) ∨
    (∃ index msg sender, event = .data index msg ∧ peers[index]? = some sender ∧
      after = ⟨server, peers.map
        (Peer.receive (Server.onClientData (peers.map Peer.uid) sender.uid msg))⟩) := by
  cases event with
  | connect =>
      left
      have hmail : Action.mail (welcome ⟨server, peers⟩) server.componentNextUid =
          [Server.reconPacket] := mail_welcome active
      simp only [step, handle, Option.map_eq_some_iff] at h
      obtain ⟨result, hresult, rfl⟩ := h
      split at hresult
      · rename_i hlength
        obtain rfl := Option.some.inj hresult
        have hserver : (server.takeUid.onClientConnect
            (uids ⟨server, peers⟩ ++ [server.componentNextUid])
            server.componentNextUid).1 = server.takeUid := by
          simp [Server.onClientConnect, Server.takeUid, active]
        refine ⟨rfl, hlength, ?_⟩
        simp only [deliver, hserver, List.map_append, List.map_map, List.map_cons, List.map_nil]
        simp only [welcome] at hmail
        simp [Peer.receive, hmail, welcome, Function.comp_def]
      · cases hresult
  | disconnect index =>
      right
      simp only [step, handle, Option.map_eq_some_iff] at h
      obtain ⟨result, hresult, rfl⟩ := h
      split at hresult
      · cases hresult
      · rename_i leaver hleaver
        have hindex : index < peers.length := (List.getElem?_eq_some_iff.mp hleaver).1
        split at hresult
        · obtain rfl := Option.some.inj hresult
          by_cases hempty : peers.eraseIdx index = []
          · left
            refine ⟨index, rfl, hindex, hempty, ?_⟩
            simp [hempty, Server.onClientDisconnect, active, deliver]
          · right; left
            refine ⟨index, rfl, hindex, hempty, ?_⟩
            simp [Server.onClientDisconnect, active, deliver, hempty]
        · cases hresult
  | data index msg =>
      right; right; right
      simp only [step, handle, Option.map_eq_some_iff] at h
      obtain ⟨result, hresult, rfl⟩ := h
      split at hresult
      · cases hresult
      · rename_i sender hsender
        obtain rfl := Option.some.inj hresult
        exact ⟨index, msg, sender, rfl, hsender, rfl⟩

theorem Sound.step {session after : Session} {event : Event} (hsound : Sound session)
    (h : session.step event = some after) : Sound after := by
  obtain ⟨hphase, hbound⟩ := hsound
  have htake (server : Server) : server.takeUid.componentNextUid < 2 ^ 32 :=
    Nat.mod_lt _ (by decide)
  cases hphase with
  | empty inactive =>
      obtain ⟨rfl, rfl⟩ := step_empty inactive h
      exact ⟨.waiting inactive rfl rfl hbound rfl, htake _⟩
  | @waiting server peer inactive mapped greeted bound next =>
      rcases step_waiting inactive mapped next h with ⟨rfl, rfl⟩ | ⟨rfl, rfl⟩ | ⟨msg, rfl, rfl⟩
      · refine ⟨.playing rfl (by simp) (by simp) ?_, htake _⟩
        intro seat hseat
        simp only [List.mem_cons, List.not_mem_nil, or_false] at hseat
        left
        rcases hseat with rfl | rfl
        · refine ⟨0, ?_⟩
          simp only [control, List.filter_append] at greeted ⊢
          rw [greeted]
          rfl
        · exact ⟨secondID peer.uid, rfl⟩
      · exact ⟨.empty inactive, hbound⟩
      · refine ⟨.waiting inactive mapped ?_ bound next, hbound⟩
        rw [control_receive (quiet_onClientData _ _ _ _)]
        exact greeted
  | @playing server peers active nonempty size seated =>
      rcases step_playing active h with ⟨rfl, hlength, rfl⟩ | ⟨index, rfl, -, -, rfl⟩ |
        ⟨index, rfl, hindex, hrest, rfl⟩ | ⟨index, msg, sender, rfl, -, rfl⟩
      · refine ⟨.playing active (by simp) (by simp; omega) ?_, htake _⟩
        intro seat hseat
        simp only [List.mem_append, List.mem_map, List.mem_singleton] at hseat
        rcases hseat with ⟨peer, hpeer, rfl⟩ | rfl
        · exact (seated peer hpeer).replaced active
        · exact Or.inr rfl
      · exact ⟨.empty rfl, hbound⟩
      · refine ⟨.playing active (by simpa using hrest) ?_ ?_, hbound⟩
        · simp only [List.length_map]
          exact (List.length_eraseIdx_le peers index).trans size
        · intro seat hseat
          obtain ⟨peer, hpeer, rfl⟩ := List.mem_map.mp hseat
          exact (seated peer (List.mem_of_mem_eraseIdx hpeer)).receive
            (quiet_onClientDisconnect _ _ _)
      · refine ⟨.playing active (by simpa using nonempty) (by simpa using size) ?_, hbound⟩
        intro seat hseat
        obtain ⟨peer, hpeer, rfl⟩ := List.mem_map.mp hseat
        exact (seated peer hpeer).receive (quiet_onClientData _ _ _ _)

theorem sound_exec {events : List Event} {session : Session}
    (h : exec step initial events = some session) : Sound session :=
  invariant_of_step (fun _ _ _ hsound hstep => hsound.step hstep) h sound_initial

end Session

end NetworkingGame
