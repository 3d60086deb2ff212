import NetworkingGame.Library.Paired
import NetworkingGame.NetSystem
import NetworkingGame.WireFormat

/-!
The whole program refines the system of one queue in either direction. An
event of the server's library is handled as one step of the server, whatever
the threads have done in the meantime; all that the buffers and threads do is
to hold packets back, without losing, doubling or reordering any for a client
that is connected.
-/

namespace NetworkingGame

open Library Library.Transition

namespace CustomPacket

@[simp] theorem readAll_nil : readAll [] = [] := rfl

@[simp] theorem readAll_append (first second : List (List Char)) :
    readAll (first ++ second) = readAll first ++ readAll second :=
  List.filterMap_append

theorem readAll_cons {data : List Char} {msg : CustomPacket} (h : ofData data = some msg)
    (rest : List (List Char)) : readAll (data :: rest) = msg :: readAll rest :=
  List.filterMap_cons_some h

/-- What `data` writes is always readable, though not always the same packet. -/
theorem ofData_data_isSome (packet : CustomPacket) : ∃ msg, ofData packet.data = some msg := by
  rw [ofData_isSome_iff, data]
  simp only [List.count_append, List.count_cons_self, List.count_nil]
  omega

end CustomPacket

/-- What is in the queue for a uid. -/
def mailbag (packets : List QueuedPacket) (uid : Nat) : List (List Char) :=
  (packets.filter fun packet => packet.clientId = uid).map QueuedPacket.data

section Mailbag

variable {packets : List QueuedPacket} {actions : List Action}

theorem mailbag_append (first second : List QueuedPacket) (uid : Nat) :
    mailbag (first ++ second) uid = mailbag first uid ++ mailbag second uid := by
  simp [mailbag]

theorem mailbag_cons (packet : QueuedPacket) (rest : List QueuedPacket) (uid : Nat) :
    mailbag (packet :: rest) uid =
      if packet.clientId = uid then packet.data :: mailbag rest uid else mailbag rest uid := by
  simp only [mailbag, List.filter_cons, decide_eq_true_eq]
  split <;> rfl

theorem mailbag_nil_of_targets {uid : Nat} (h : ∀ packet ∈ packets, packet.clientId ≠ uid) :
    mailbag packets uid = [] := by
  rw [mailbag, List.map_eq_nil_iff, List.filter_eq_nil_iff]
  intro packet hpacket
  simpa using h packet hpacket

/-- The queued bytes say what the actions say, to everyone. -/
def Posts (packets : List QueuedPacket) (actions : List Action) : Prop :=
  ∀ uid, CustomPacket.readAll (mailbag packets uid) = Action.mail actions uid

theorem posts_queued (h : ∀ uid packet, Action.sendTo uid packet ∈ actions → packet.NulFree) :
    Posts (actions.filterMap Action.queued) actions := by
  intro uid
  induction actions with
  | nil => rfl
  | cons action actions ih =>
      have hrest := ih fun uid packet hmem => h uid packet (List.mem_cons_of_mem action hmem)
      cases action with
      | sendTo destination packet =>
          have hread := CustomPacket.ofData_data (h destination packet List.mem_cons_self)
          have hqueued : (Action.sendTo destination packet :: actions).filterMap Action.queued =
              ⟨destination, packet.data⟩ :: actions.filterMap Action.queued := rfl
          rw [hqueued, mailbag_cons, Action.mail_sendTo]
          split
          · rw [CustomPacket.readAll_cons hread, hrest]
          · exact hrest
      | missingClient index => exact hrest

theorem posts_forward {data : List Char} {msg : CustomPacket}
    (hread : CustomPacket.ofData data = some msg) (clients : List Nat) :
    Posts (clients.map fun uid => ⟨uid, data⟩) (clients.map fun uid => .sendTo uid msg) := by
  intro uid
  induction clients with
  | nil => rfl
  | cons client clients ih =>
      rw [List.map_cons, List.map_cons, mailbag_cons, Action.mail_sendTo]
      split
      · rw [CustomPacket.readAll_cons hread, ih]
      · exact ih

end Mailbag

namespace Server

/-- The packets that the server makes up itself. -/
def announcements : List CustomPacket :=
  [initPacket 0, initPacket 1, startPacket, reconPacket, readyPacket, completedPacket,
    dataSenderPacket]

theorem nulFree_announcements : ∀ packet ∈ announcements, packet.NulFree := by
  have hfree : ∀ packet ∈ announcements, '\x00' ∉ packet.type.toList ∧
      '\x00' ∉ packet.username.toList ∧ '\x00' ∉ packet.msgText.toList := by decide +kernel
  intro packet hpacket
  obtain ⟨htype, husername, hmsgText⟩ := hfree packet hpacket
  exact ⟨htype, husername, hmsgText⟩

section Response

variable {server : Server} {clients : List Nat} {client uid : Nat} {packet : CustomPacket}

theorem sendToIndex_cases {index : Nat} {sent : CustomPacket}
    (h : .sendTo uid packet = sendToIndex clients index sent) : uid ∈ clients ∧ packet = sent := by
  unfold sendToIndex at h
  split at h
  · rename_i found hfound
    obtain ⟨rfl, rfl⟩ := Action.sendTo.inj h
    exact ⟨List.mem_of_getElem? hfound, rfl⟩
  · cases h

theorem sendToAllIf_cases {sent : CustomPacket} {predicate : Nat → Bool}
    (h : .sendTo uid packet ∈ sendToAllIf clients sent predicate) :
    uid ∈ clients ∧ packet = sent := by
  simp only [sendToAllIf, List.mem_map, Action.sendTo.injEq] at h
  obtain ⟨found, hfound, rfl, rfl⟩ := h
  exact ⟨List.mem_of_mem_filter hfound, rfl⟩

theorem assignClientLocalID_cases
    (h : .sendTo uid packet ∈ assignClientLocalID clients client) :
    uid = client ∧ packet ∈ announcements := by
  rw [assignClientLocalID, List.mem_singleton] at h
  obtain ⟨rfl, rfl⟩ := Action.sendTo.inj h
  refine ⟨rfl, ?_⟩
  split <;> decide +kernel

theorem onClientConnect_cases (hclient : client ∈ clients)
    (h : .sendTo uid packet ∈ (server.onClientConnect clients client).2) :
    uid ∈ clients ∧ packet ∈ announcements := by
  unfold onClientConnect at h
  split at h
  · rcases List.mem_cons.mp h with h | h
    · obtain ⟨rfl, rfl⟩ := Action.sendTo.inj h
      exact ⟨hclient, by decide +kernel⟩
    · obtain ⟨hmem, rfl⟩ := sendToAllIf_cases h
      exact ⟨hmem, by decide +kernel⟩
  · split at h
    · rcases List.mem_append.mp h with h | h
      · obtain ⟨rfl, hpacket⟩ := assignClientLocalID_cases h
        exact ⟨hclient, hpacket⟩
      · simp only [List.mem_cons, List.not_mem_nil, or_false] at h
        rcases h with h | h
        · obtain ⟨hmem, rfl⟩ := sendToIndex_cases h
          exact ⟨hmem, by decide +kernel⟩
        · obtain ⟨hmem, rfl⟩ := sendToIndex_cases h
          exact ⟨hmem, by decide +kernel⟩
    · obtain ⟨rfl, hpacket⟩ := assignClientLocalID_cases h
      exact ⟨hclient, hpacket⟩

theorem onClientDisconnect_cases
    (h : .sendTo uid packet ∈ (server.onClientDisconnect clients).2) :
    uid ∈ clients ∧ packet ∈ announcements := by
  unfold onClientDisconnect at h
  split at h
  · split at h
    · cases h
    · obtain ⟨hmem, rfl⟩ := sendToIndex_cases (List.mem_singleton.mp h)
      exact ⟨hmem, by decide +kernel⟩
  · cases h

theorem onClientData_cases {msg : CustomPacket} (hnot : isForwarded msg.type = false)
    (h : .sendTo uid packet ∈ onClientData clients client msg) :
    uid ∈ clients ∧ packet ∈ announcements := by
  rw [onClientData, hnot] at h
  simp only [Bool.false_eq_true, if_false] at h
  split at h
  · simp only [List.mem_cons, List.not_mem_nil, or_false] at h
    rcases h with h | h
    · obtain ⟨hmem, rfl⟩ := sendToIndex_cases h
      exact ⟨hmem, by decide +kernel⟩
    · obtain ⟨hmem, rfl⟩ := sendToIndex_cases h
      exact ⟨hmem, by decide +kernel⟩
  · cases h

/-- What a response is in terms of the actions of the callbacks. -/
def actionsOf (server : Server) (clients : List Nat) (client : Nat) :
    ServerEvent → List Action
  | .connect _ => (server.onClientConnect clients client).2
  | .receive _ data =>
      match CustomPacket.ofData data with
      | none => []
      | some msg => onClientData clients client msg
  | .disconnect _ => (server.onClientDisconnect clients).2

theorem respond_posts (event : ServerEvent)
    (hclient : (∃ other, event = .connect other) → client ∈ clients) :
    Posts (server.respond clients client event).2 (server.actionsOf clients client event) := by
  cases event with
  | connect other =>
      exact posts_queued fun uid packet hmem => nulFree_announcements packet
        (onClientConnect_cases (hclient ⟨other, rfl⟩) hmem).2
  | receive other data =>
      simp only [respond, actionsOf]
      cases hread : CustomPacket.ofData data with
      | none => exact fun uid => rfl
      | some msg =>
          simp only
          split
          · rename_i hforwarded
            rw [onClientData, if_pos hforwarded]
            exact posts_forward hread _
          · rename_i hnot
            exact posts_queued fun uid packet hmem => nulFree_announcements packet
              (onClientData_cases (by simpa using hnot) hmem).2
  | disconnect other =>
      exact posts_queued fun uid packet hmem => nulFree_announcements packet
        (onClientDisconnect_cases hmem).2

theorem target_of_queued {actions : List Action} {sent : QueuedPacket}
    (h : sent ∈ actions.filterMap Action.queued) :
    ∃ packet, Action.sendTo sent.clientId packet ∈ actions := by
  obtain ⟨action, haction, hqueued⟩ := List.mem_filterMap.mp h
  cases action with
  | sendTo uid packet =>
      obtain rfl := Option.some.inj hqueued
      exact ⟨packet, haction⟩
  | missingClient index => cases hqueued

/-- A response goes to connected clients only. -/
theorem respond_targets (event : ServerEvent)
    (hclient : (∃ other, event = .connect other) → client ∈ clients) {sent : QueuedPacket}
    (h : sent ∈ (server.respond clients client event).2) : sent.clientId ∈ clients := by
  cases event with
  | connect other =>
      obtain ⟨packet, hmem⟩ := target_of_queued h
      exact (onClientConnect_cases (hclient ⟨other, rfl⟩) hmem).1
  | receive other data =>
      simp only [respond] at h
      split at h
      · cases h
      · split at h
        · obtain ⟨uid, huid, rfl⟩ := List.mem_map.mp h
          exact List.mem_of_mem_filter huid
        · rename_i hnot
          obtain ⟨packet, hmem⟩ := target_of_queued h
          exact (onClientData_cases (by simpa using hnot) hmem).1
  | disconnect other =>
      obtain ⟨packet, hmem⟩ := target_of_queued h
      exact (onClientDisconnect_cases hmem).1

end Response

end Server

namespace EnetServer

section Buffers

variable {host : EnetServer} {client : Nat}

theorem queued_send (packets : List QueuedPacket) (uid : Nat) :
    (host.send packets).queued uid = host.queued uid ++ mailbag packets uid :=
  mailbag_append host.packetQueue packets uid

theorem received_eq {other : EnetServer} (h : other.events.pending = host.events.pending) :
    other.received client = host.received client := by
  rw [received, received, h]

theorem received_post {other : EnetServer} {event : ServerEvent}
    (h : other.events = host.events.post event) :
    other.received client = host.received client ++ (event.dataOf client).toList := by
  rw [received, received, h, Mailbox.pending_post, List.filterMap_append, List.filterMap_cons]
  cases event.dataOf client <;> rfl

theorem received_take {event : ServerEvent} {rest : Mailbox ServerEvent}
    (htake : host.events.take = some (event, rest)) (clients : List Nat)
    (packets : List QueuedPacket) :
    host.received client = (event.dataOf client).toList ++
      ((host.handled rest clients event).send packets).received client := by
  have hpending : ((host.handled rest clients event).send packets).events = rest := by
    cases event <;> rfl
  rw [received, received, hpending, Mailbox.pending_take htake, List.filterMap_cons]
  cases event.dataOf client <;> rfl

theorem queued_handled {rest : Mailbox ServerEvent} {clients : List Nat} {event : ServerEvent}
    (packets : List QueuedPacket) (uid : Nat) :
    ((host.handled rest clients event).send packets).queued uid =
      host.queued uid ++ mailbag packets uid := by
  rw [queued_send]
  cases event <;> rfl

end Buffers

end EnetServer

namespace Process

/-- A client that has drawn a frame of the lobby. -/
def drawn (blank : Sprite) : Process :=
  { fresh blank with
    scene := { GameScene.create blank with lastScene := true, sceneFullInit := true } }

/-- A client that the server's program does not know yet: it has sent nothing
and was sent nothing. -/
inductive Waits : Process → Prop
  | new (blank : Sprite) : Waits (fresh blank)
  | drawn (blank : Sprite) : Waits (drawn blank)

section Waiting

variable {process after : Process}

theorem Waits.empty (h : Waits process) : process.dispatched = [] ∧ process.packetQueue = [] ∧
    process.wireUp = [] ∧ process.wireDown = [] ∧ process.events = .empty ∧
      process.scene.client = .fresh := by
  cases h <;> exact ⟨rfl, rfl, rfl, rfl, rfl, rfl⟩

theorem Waits.transmit (h : Waits process) : process.transmit = none := by
  rw [Process.transmit, h.empty.2.1]

theorem Waits.deliver (h : Waits process) : process.deliver = none := by
  rw [Process.deliver, h.empty.2.2.2.1]

theorem Waits.poll (h : Waits process) (hpoll : process.poll = some after) : Waits after := by
  have hfetch : process.poll = some process := by cases h <;> rfl
  rw [hfetch] at hpoll
  exact Option.some.inj hpoll ▸ h

/-- In the lobby nothing but a frame changes the scene. -/
theorem Waits.act (h : Waits process) {event : LocalEvent}
    (hact : process.act event = some after) : Waits after := by
  cases event with
  | send => cases h <;> cases hact
  | receive => cases h <;> cases hact
  | dispatch => cases h <;> cases hact
  | frame =>
      cases h with
      | new blank => exact Option.some.inj hact ▸ .drawn blank
      | drawn blank => exact Option.some.inj hact ▸ .drawn blank
  | click undefinedReturn xpos ypos =>
      have hclick : process.act (.click undefinedReturn xpos ypos) = some process := by
        cases h <;> rfl
      rw [hclick] at hact
      exact Option.some.inj hact ▸ h
  | enter str =>
      have henter : process.act (.enter str) = some process := by
        cases h <;> rfl
      rw [henter] at hact
      exact Option.some.inj hact ▸ h

end Waiting

end Process

namespace NetSystem

open CustomPacket (readAll readAll_append readAll_cons)

section View

variable {net : NetSystem} {client : Nat} {process after : Process}

theorem view_congr {other : NetSystem}
    (hqueued : other.hosting.host.queued client = net.hosting.host.queued client)
    (hreceived : other.hosting.host.received client = net.hosting.host.received client) :
    other.view client process = net.view client process := by
  simp only [view, hqueued, hreceived]

theorem view_transmit (h : process.transmit = some after) :
    net.view client after = net.view client process := by
  unfold Process.transmit at h
  split at h
  · cases h
  · rename_i data rest hqueue
    obtain rfl := Option.some.inj h
    simp only [view, hqueue]
    simp

theorem view_deliver (h : process.deliver = some after) :
    net.view client after = net.view client process := by
  unfold Process.deliver at h
  split at h
  · cases h
  · rename_i data rest hwire
    obtain rfl := Option.some.inj h
    simp only [view, hwire, Mailbox.pending_post]
    simp

theorem view_poll (h : process.poll = some after) :
    net.view client after = net.view client process := by
  obtain ⟨events, hfetch, rfl⟩ := Option.map_eq_some_iff.mp h
  simp only [view, Mailbox.pending_fetch hfetch]

/-- A client does to its process what it does to the connection it shows. -/
theorem view_act {event : LocalEvent} (h : process.act event = some after) :
    (net.view client process).step event = some (net.view client after) := by
  cases event with
  | send =>
      simp only [Process.act, Process.sendFrontOfQueue] at h
      split at h
      · cases h
      · rename_i packet rest hqueue
        obtain rfl := Option.some.inj h
        obtain ⟨msg, hread⟩ := packet.ofData_data_isSome
        have hqueue' : (net.view client process).scene.client.sendingQueue = packet :: rest :=
          hqueue
        simp only [Conn.step, Conn.sendFrontOfQueue, hqueue', hread, Option.map_some]
        simp [view, readAll_cons hread, GameScene.withClient]
  | receive =>
      simp only [Process.act, Process.onData, Option.bind_eq_bind, Option.bind_eq_some_iff,
        Option.pure_def, Option.some.injEq, Prod.exists] at h
      obtain ⟨data, events, htake, msg, hread, rfl⟩ := h
      have hdown : (net.view client process).down =
          msg ::
            readAll (events.pending ++ process.wireDown ++ net.hosting.host.queued client) := by
        simp only [view, Mailbox.pending_take htake]
        exact readAll_cons hread _
      simp only [Conn.step, Conn.onData, hdown]
      rfl
  | dispatch =>
      simp only [Process.act, Process.dispatch] at h
      split at h
      · cases h
      · rename_i packet rest hqueue
        obtain ⟨component, hread, rfl⟩ := Option.map_eq_some_iff.mp h
        have hqueue' : (net.view client process).scene.client.recievedQueue = packet :: rest :=
          hqueue
        have hread' : (({ (net.view client process).scene.client with
            recievedQueue := rest }).processRecievedPackets packet).toOption = some component :=
          hread
        simp only [Conn.step, Conn.dispatch, hqueue', hread', Option.map_some]
        rfl
  | frame =>
      obtain ⟨scene, hscene, rfl⟩ := Option.map_eq_some_iff.mp h
      have hscene' : (net.view client process).scene.update.toOption = some scene := hscene
      simp only [Conn.step, hscene', Option.map_some]
      rfl
  | click undefinedReturn xpos ypos =>
      obtain ⟨scene, hscene, rfl⟩ := Option.map_eq_some_iff.mp h
      have hscene' : ((net.view client process).scene.clickHandler undefinedReturn xpos
          ypos).toOption = some scene := hscene
      simp only [Conn.step, hscene', Option.map_some]
      rfl
  | enter str =>
      rw [← Option.some.inj h]
      rfl

end View

/-- The connection of the abstract system that stands for a client: all of it
while the client is there, and what the server will handle once it is lost. -/
inductive Tracks (net : NetSystem) (client : Nat) : Conn → Prop
  | online (process : Process) (h : net.processes client = some process) :
      Tracks net client (net.view client process)
  | gone (conn : Conn) (h : net.processes client = none) (uid : conn.uid = client)
      (mapped : conn.inPeerMap = true) (rest : List CustomPacket)
      (hup : conn.up = readAll (net.hosting.host.received client) ++ rest) :
      Tracks net client conn

structure Refines (net : NetSystem) (system : System) (behind ahead : Roll) : Prop where
  sound : net.hosting.Sound behind ahead
  room : net.hosting.host.heap.length ≤ 2 ^ 32
  present : ∀ client, client ∈ ahead.clients ↔ ∃ process, net.processes client = some process
  server : system.server = { net.hosting.app with componentNextUid := behind.next % 2 ^ 32 }
  conns : List.Forall₂ (Tracks net) behind.clients system.conns
  waiting : ∀ client process, behind.next ≤ client → net.processes client = some process →
    process.Waits
  unsent : ∀ client, behind.next ≤ client → net.hosting.host.queued client = []
  unheard : ∀ client, behind.next ≤ client → net.hosting.host.received client = []

section Relation

variable {net after : NetSystem} {system : System} {behind ahead : Roll} {client : Nat}
  {process : Process} {conn : Conn}

theorem Tracks.uid_eq (h : Tracks net client conn) : conn.uid = client := by
  cases h with
  | online process hprocess => rfl
  | gone conn hprocess uid => exact uid

theorem Tracks.inPeerMap (h : Tracks net client conn) : conn.inPeerMap = true := by
  cases h with
  | online process hprocess => rfl
  | gone conn hprocess uid mapped => exact mapped

theorem Tracks.congr (h : Tracks net client conn)
    (hprocess : after.processes client = net.processes client)
    (hqueued : ∀ process, net.processes client = some process →
      after.hosting.host.queued client = net.hosting.host.queued client)
    (hreceived : after.hosting.host.received client = net.hosting.host.received client) :
    Tracks after client conn := by
  cases h with
  | online process h =>
      rw [← view_congr (hqueued process h) hreceived]
      exact .online process (hprocess.trans h)
  | gone conn h uid mapped rest hup =>
      exact .gone conn (hprocess.trans h) uid mapped rest (hreceived ▸ hup)

theorem uids_of_tracks {clients : List Nat} {conns : List Conn}
    (h : List.Forall₂ (Tracks net) clients conns) : conns.map Conn.uid = clients := by
  have heq : List.Forall₂ Eq clients (conns.map Conn.uid) :=
    List.forall₂_map_right_iff.mpr (h.imp fun _ _ htracks => htracks.uid_eq.symm)
  rw [List.forall₂_eq_eq_eq] at heq
  exact heq.symm

theorem Refines.known_or_new (h : Refines net system behind ahead)
    (hprocess : net.processes client = some process) :
    client ∈ behind.clients ∨ behind.next ≤ client := by
  have hpeer := (h.present client).mpr ⟨process, hprocess⟩
  have hlive := (h.sound.owned.live client).mp (h.sound.owned.peer_live hpeer)
  exact hlive.imp_right And.left

theorem Refines.conn_of_process (h : Refines net system behind ahead)
    (hprocess : net.processes client = some process) (hmem : client ∈ behind.clients) :
    ∃ i : Nat, behind.clients[i]? = some client ∧
      system.conns[i]? = some (net.view client process) := by
  obtain ⟨i, hi⟩ := List.mem_iff_getElem?.mp hmem
  obtain ⟨conn, hconn, htracks⟩ := forall₂_get? h.conns hi
  refine ⟨i, hi, ?_⟩
  cases htracks with
  | online found hfound =>
      rw [hprocess] at hfound
      rw [hconn, Option.some.inj hfound]
  | gone conn hgone =>
      rw [hprocess] at hgone
      cases hgone

end Relation

/-- A client of the abstract system goes through some events of its own. -/
theorem exec_acts {system : System} {i : Nat} {conn next : Conn} {events : List LocalEvent}
    (hconn : system.conns[i]? = some conn) (hrun : exec Conn.step conn events = some next) :
    exec System.step system (events.map fun event => .act i event) =
      some { system with conns := system.conns.set i next } := by
  induction events generalizing system conn with
  | nil =>
      obtain rfl := Option.some.inj hrun
      obtain ⟨hlt, hget⟩ := List.getElem?_eq_some_iff.mp hconn
      rw [← hget, List.set_getElem_self]
      rfl
  | cons event events ih =>
      obtain ⟨reached, hstep, hrest⟩ := (exec_cons _ _ _ _).mp hrun
      rw [List.map_cons, exec_cons]
      refine ⟨{ system with conns := system.conns.set i reached }, ?_, ?_⟩
      · simp only [System.step, hconn, hstep, Option.map_some]
      · have hset : (system.conns.set i reached)[i]? = some reached := by
          rw [List.getElem?_set_self (List.getElem?_eq_some_iff.mp hconn).1]
        rw [@ih { system with conns := system.conns.set i reached } reached hset hrest,
          List.set_set]

section Simulation

variable {net after : NetSystem} {system : System} {behind ahead : Roll} {client : Nat}

/-- What a client does by itself is what its connection does. -/
theorem Refines.stepProcess (h : Refines net system behind ahead)
    {step : Process → Option Process} (hstep : net.stepProcess client step = some after)
    (hwaits : ∀ process next, step process = some next → process.Waits → next.Waits)
    (hview : ∀ process next, step process = some next → ∃ events,
      exec Conn.step (net.view client process) events = some (net.view client next)) :
    ∃ events reached, exec System.step system events = some reached ∧
      Refines after reached behind ahead := by
  simp only [NetSystem.stepProcess, Option.bind_eq_bind, Option.bind_eq_some_iff, Option.pure_def,
    Option.some.injEq] at hstep
  obtain ⟨process, hprocess, next, hnext, rfl⟩ := hstep
  have hpresent (other : Nat) : other ∈ ahead.clients ↔
      ∃ found, Function.update net.processes client (some next) other = some found := by
    rw [h.present, Function.update_apply]
    split
    · rename_i heq
      rw [heq]
      exact ⟨fun _ => ⟨next, rfl⟩, fun _ => ⟨process, hprocess⟩⟩
    · exact Iff.rfl
  have hwaiting (other : Nat) (found : Process) (hnew : behind.next ≤ other)
      (hfound : Function.update net.processes client (some next) other = some found) :
      found.Waits := by
    rw [Function.update_apply] at hfound
    split at hfound
    · rename_i heq
      subst heq
      obtain rfl := Option.some.inj hfound
      exact hwaits process next hnext (h.waiting other process hnew hprocess)
    · exact h.waiting other found hnew hfound
  have hother (other : Nat) (hne : other ≠ client) (conn : Conn)
      (htracks : Tracks net other conn) : Tracks { net with
        processes := Function.update net.processes client (some next) } other conn :=
    htracks.congr (Function.update_of_ne hne _ _) (fun _ _ => rfl) rfl
  rcases h.known_or_new hprocess with hmem | hnew
  · obtain ⟨i, hi, hconn⟩ := h.conn_of_process hprocess hmem
    obtain ⟨events, hevents⟩ := hview process next hnext
    refine ⟨_, _, exec_acts hconn hevents, { h with
      present := hpresent, waiting := hwaiting, conns := ?_ }⟩
    refine forall₂_set h.conns behind.nodup hi ?_ fun other _ => hother other
    exact .online next (Function.update_self ..)
  · refine ⟨[], system, rfl, { h with
      present := hpresent, waiting := hwaiting, conns := ?_ }⟩
    refine forall₂_imp_mem h.conns fun other hother' => hother other ?_
    rintro rfl
    exact absurd (behind.issued other hother') (Nat.not_lt.mpr hnew)

theorem Refines.next_le (h : Refines net system behind ahead) :
    behind.next ≤ net.hosting.host.heap.length :=
  h.sound.owned.allocated ▸ h.sound.owned.next_le

theorem mem_update {processes : Nat → Option Process} {clients clients' : List Nat}
    (h : ∀ other, other ∈ clients ↔ ∃ process, processes other = some process) (client : Nat)
    (process : Option Process)
    (hmem : ∀ other, other ∈ clients' ↔
      (other = client ∧ process.isSome) ∨ (other ≠ client ∧ other ∈ clients)) (other : Nat) :
    other ∈ clients' ↔ ∃ found, Function.update processes client process other = some found := by
  rw [hmem, Function.update_apply]
  split
  · rename_i heq
    simp [heq, Option.isSome_iff_exists]
  · rename_i hne
    simp [hne, h]

theorem waits_update {processes : Nat → Option Process} {next : Nat}
    (h : ∀ other process, next ≤ other → processes other = some process → process.Waits)
    (client : Nat) (process : Option Process)
    (hwaits : next ≤ client → ∀ found, process = some found → found.Waits) (other : Nat)
    (found : Process) (hnew : next ≤ other)
    (hfound : Function.update processes client process other = some found) : found.Waits := by
  rw [Function.update_apply] at hfound
  split at hfound
  · rename_i heq
    exact hwaits (heq ▸ hnew) found hfound
  · exact h other found hnew hfound

theorem Refines.accept (h : Refines net system behind ahead) {blank : Sprite}
    (hroom : net.hosting.host.heap.length < 2 ^ 32)
    (hstep : net.step (.accept blank) = some after) :
    ∃ reached, Refines after system behind reached := by
  simp only [NetSystem.step, Option.bind_eq_bind, Option.bind_eq_some_iff, Option.pure_def,
    Option.some.injEq] at hstep
  obtain ⟨hosting, hhosting, rfl⟩ := hstep
  have hattempt := Hosting.attempt_of_step hhosting
  simp only [Hosting.attempt] at hattempt
  split at hattempt
  · rename_i hpeers
    obtain rfl := Except.ok.inj (Option.some.inj hattempt)
    obtain ⟨reached, hsound⟩ := h.sound.accept hroom hpeers
    have hreceived (other : Nat) :
        (net.hosting.host.handleConnectEvent net.hosting.app.componentNextUid).received other =
          net.hosting.host.received other :=
      (EnetServer.received_post rfl).trans (List.append_nil _)
    have hpresent := @mem_update _ _ reached.clients h.present net.hosting.host.heap.length
      (some (.fresh blank)) fun other => by
        have hclients : reached.clients =
            net.hosting.host.peers ++ [net.hosting.host.heap.length] := hsound.owned.peers
        rw [hclients, List.mem_append, List.mem_singleton, ← h.sound.owned.peers]
        simp only [Option.isSome_some, and_true]
        tauto
    have hwaiting := waits_update h.waiting net.hosting.host.heap.length (some (.fresh blank))
      fun _ found hfound => Option.some.inj hfound ▸ .new blank
    refine ⟨reached, hsound, ?_, hpresent, h.server, ?_, hwaiting, h.unsent, ?_⟩
    · simp only [EnetServer.handleConnectEvent, Server.callbacks, List.length_append,
        List.length_singleton]
      exact hroom
    · refine forall₂_imp_mem h.conns fun other hother conn htracks => ?_
      have hne : other ≠ net.hosting.host.heap.length :=
        Nat.ne_of_lt ((behind.issued other hother).trans_le h.next_le)
      exact htracks.congr (Function.update_of_ne hne _ _) (fun _ _ => rfl) (hreceived other)
    · exact fun other hnew => (hreceived other).trans (h.unheard other hnew)
  · cases hattempt

theorem Tracks.lost {conn : Conn} (h : Tracks net client conn)
    (hgone : after.processes client = none)
    (hreceived : after.hosting.host.received client = net.hosting.host.received client) :
    Tracks after client conn := by
  cases h with
  | online process hprocess =>
      refine .gone _ hgone rfl rfl (readAll (process.wireUp ++ process.packetQueue)) ?_
      rw [hreceived, view]
      simp
  | gone conn hprocess uid mapped rest hup =>
      exact .gone conn hgone uid mapped rest (hreceived ▸ hup)

theorem Refines.lose (h : Refines net system behind ahead)
    (hstep : net.step (.lose client) = some after) :
    ∃ reached, Refines after system behind reached := by
  simp only [NetSystem.step, Option.bind_eq_bind, Option.bind_eq_some_iff, Option.pure_def,
    Option.some.injEq] at hstep
  obtain ⟨hosting, hhosting, rfl⟩ := hstep
  have hattempt := Hosting.attempt_of_step hhosting
  simp only [Hosting.attempt] at hattempt
  split at hattempt
  · rename_i hpeer
    obtain ⟨host, reached, hlost, howned, hhost⟩ := h.sound.owned.handleDisconnectEvent hpeer
    rw [hlost] at hattempt
    obtain rfl := Except.ok.inj (Option.some.inj hattempt)
    have hreceived (other : Nat) : host.received other = net.hosting.host.received other :=
      (EnetServer.received_post (by rw [hhost])).trans (List.append_nil _)
    have hheap : host.heap = net.hosting.host.heap := by rw [hhost]
    have hqueued (other : Nat) : host.queued other = net.hosting.host.queued other := by
      rw [hhost]
      rfl
    have hpresent := @mem_update _ _ reached.clients h.present client none fun other => by
      have hclients : reached.clients = ahead.clients.erase client := by
        rw [howned.peers, hhost, h.sound.owned.peers]
      rw [hclients, ahead.nodup.mem_erase_iff]
      simp
    have hwaiting := waits_update h.waiting client none fun _ found hfound => by cases hfound
    refine ⟨reached, ⟨howned, h.sound.counted.congr hheap⟩, hheap ▸ h.room, hpresent, h.server, ?_,
      hwaiting, fun other hnew => (hqueued other).trans (h.unsent other hnew),
      fun other hnew => (hreceived other).trans (h.unheard other hnew)⟩
    refine forall₂_imp_mem h.conns fun other hother conn htracks => ?_
    by_cases hne : other = client
    · subst hne
      exact htracks.lost (Function.update_self ..) (hreceived other)
    · exact htracks.congr (Function.update_of_ne hne _ _) (fun _ _ => hqueued other)
        (hreceived other)
  · cases hattempt

theorem Refines.capture (h : Refines net system behind ahead)
    (hstep : net.step (.capture client) = some after) : Refines after system behind ahead := by
  simp only [NetSystem.step, Option.bind_eq_bind, Option.bind_eq_some_iff] at hstep
  obtain ⟨process, hprocess, hstep⟩ := hstep
  split at hstep
  · cases hstep
  · rename_i data rest hwire
    simp only [Option.bind_eq_some_iff, Option.pure_def, Option.some.injEq] at hstep
    obtain ⟨hosting, hhosting, rfl⟩ := hstep
    have hknown : ¬ behind.next ≤ client := by
      intro hnew
      have hempty := (h.waiting client process hnew hprocess).empty.2.2.1
      rw [hwire] at hempty
      cases hempty
    have hattempt := Hosting.attempt_of_step hhosting
    simp only [Hosting.attempt] at hattempt
    split at hattempt
    · rename_i hpeer
      obtain rfl := Except.ok.inj (Option.some.inj hattempt)
      have hreceived (other : Nat) :
          (net.hosting.host.handleReceiveEvent client data).received other =
            net.hosting.host.received other ++ if client = other then [data] else [] := by
        rw [EnetServer.received_post rfl, ServerEvent.dataOf]
        split <;> rfl
      have hunchanged (other : Nat) (hne : other ≠ client) :
          (net.hosting.host.handleReceiveEvent client data).received other =
            net.hosting.host.received other := by
        rw [hreceived, if_neg hne.symm, List.append_nil]
      have hpresent := @mem_update _ _ ahead.clients h.present client
        (some { process with wireUp := rest }) fun other => by
          have hmem := (h.present client).mpr ⟨process, hprocess⟩
          by_cases hother : other = client
          · simp [hother, hmem]
          · simp [hother]
      have hwaiting := waits_update h.waiting client (some { process with wireUp := rest })
        fun hnew => absurd hnew hknown
      refine ⟨⟨h.sound.owned.handleReceiveEvent hpeer data, h.sound.counted.congr rfl⟩, h.room,
        hpresent, h.server, ?_, hwaiting, h.unsent, ?_⟩
      · refine forall₂_imp_mem h.conns fun other hother conn htracks => ?_
        by_cases hne : other = client
        · subst hne
          cases htracks with
          | online found hfound =>
              obtain rfl := Option.some.inj (hprocess.symm.trans hfound)
              have hview : net.view other process = NetSystem.view ⟨⟨net.hosting.app,
                  net.hosting.host.handleReceiveEvent other data⟩,
                  Function.update net.processes other (some { process with wireUp := rest })⟩
                  other { process with wireUp := rest } := by
                simp only [view, hreceived, hwire]
                simp [EnetServer.handleReceiveEvent, EnetServer.queued]
              rw [hview]
              exact .online _ (Function.update_self ..)
          | gone conn hgone => cases hprocess.symm.trans hgone
        · exact htracks.congr (Function.update_of_ne hne _ _) (fun _ _ => rfl)
            (hunchanged other hne)
      · intro other hnew
        have hne : other ≠ client := by
          rintro rfl
          exact hknown hnew
        exact (hunchanged other hne).trans (h.unheard other hnew)
    · cases hattempt

theorem Refines.fetch (h : Refines net system behind ahead) (hstep : net.step .fetch = some after) :
    Refines after system behind ahead := by
  simp only [NetSystem.step, Option.bind_eq_bind, Option.bind_eq_some_iff, Option.pure_def,
    Option.some.injEq] at hstep
  obtain ⟨hosting, hhosting, rfl⟩ := hstep
  have hattempt := Hosting.attempt_of_step hhosting
  obtain ⟨events, hfetch, hok⟩ := Option.map_eq_some_iff.mp hattempt
  obtain rfl := Except.ok.inj hok
  have hreceived (other : Nat) : EnetServer.received { net.hosting.host with events := events }
      other = net.hosting.host.received other :=
    EnetServer.received_eq (Mailbox.pending_fetch hfetch)
  refine { h with
    sound := ⟨{ h.sound.owned with lags := h.sound.owned.lags.fetch hfetch },
      h.sound.counted.congr rfl⟩
    conns := ?_
    unheard := fun other hnew => (hreceived other).trans (h.unheard other hnew) }
  exact forall₂_imp_mem h.conns fun other _ conn htracks =>
    htracks.congr rfl (fun _ _ => rfl) (hreceived other)

/-- The peer that a packet is sent to is the client it was meant for. -/
theorem Refines.target (h : Refines net system behind ahead) {uid : Nat}
    (hmapped : net.hosting.host.threadPeerMap uid = some client) :
    uid = client ∧ ∃ process, net.processes client = some process := by
  obtain ⟨hmem, hobject⟩ := (h.sound.owned.mapped uid client).mp hmapped
  refine ⟨?_, (h.present client).mp hmem⟩
  rw [← h.sound.uidOf_eq h.room ⟨_, hobject⟩, EnetServer.uidOf_eq hobject]

theorem Refines.mapped (h : Refines net system behind ahead) {process : Process}
    (hprocess : net.processes client = some process) :
    net.hosting.host.threadPeerMap client = some client := by
  have hmem := (h.present client).mpr ⟨process, hprocess⟩
  have hlive := h.sound.owned.peer_live hmem
  refine (h.sound.owned.mapped client client).mpr ⟨hmem, ?_⟩
  have hobject := hlive.heap
  rwa [h.sound.uidOf_eq h.room hlive] at hobject

theorem Refines.sendQueued (h : Refines net system behind ahead)
    (hstep : net.step .sendQueued = some after) : Refines after system behind ahead := by
  simp only [NetSystem.step, Option.bind_eq_bind, Option.bind_eq_some_iff, Prod.exists] at hstep
  obtain ⟨host, sent, hsend, hstep⟩ := hstep
  have howned := h.sound.owned.sendQueuedPacket hsend
  unfold EnetServer.sendQueuedPacket at hsend
  split at hsend
  · cases hsend
  · rename_i packet rest hqueue
    obtain ⟨rfl, rfl⟩ := Prod.mk.inj (Option.some.inj hsend)
    have hqueued (other : Nat) : net.hosting.host.queued other =
        if packet.clientId = other then packet.data :: mailbag rest other
        else mailbag rest other := by
      rw [← mailbag_cons, ← hqueue]
      rfl
    have hsame (other : Nat) (hne : packet.clientId ≠ other) : EnetServer.queued
        { net.hosting.host with packetQueue := rest } other = net.hosting.host.queued other := by
      rw [hqueued, if_neg hne]
      rfl
    have hknown : ¬ behind.next ≤ packet.clientId := by
      intro hnew
      have hempty := h.unsent _ hnew
      rw [hqueued, if_pos rfl] at hempty
      cases hempty
    have hunsent (other : Nat) (hnew : behind.next ≤ other) : EnetServer.queued
        { net.hosting.host with packetQueue := rest } other = [] := by
      rw [hsame other ?_]
      · exact h.unsent other hnew
      · rintro rfl
        exact hknown hnew
    have hsound : Hosting.Sound ⟨net.hosting.app, { net.hosting.host with packetQueue := rest }⟩
        behind ahead := ⟨howned, h.sound.counted.congr rfl⟩
    cases hmapped : net.hosting.host.threadPeerMap packet.clientId with
    | none =>
        rw [hmapped] at hstep
        obtain rfl := Option.some.inj hstep
        refine { h with sound := hsound, unsent := hunsent, conns := ?_ }
        refine forall₂_imp_mem h.conns fun other _ conn htracks => ?_
        refine htracks.congr rfl (fun process hprocess => hsame other ?_) rfl
        rintro rfl
        rw [h.mapped hprocess] at hmapped
        cases hmapped
    | some client =>
        rw [hmapped] at hstep
        obtain ⟨htarget, process, hprocess⟩ := h.target hmapped
        subst htarget
        simp only [Option.map_some, hprocess] at hstep
        obtain rfl := Option.some.inj hstep
        have hpresent := @mem_update _ _ ahead.clients h.present packet.clientId
          (some { process with wireDown := process.wireDown ++ [packet.data] }) fun other => by
            have hmem := (h.present packet.clientId).mpr ⟨process, hprocess⟩
            by_cases hother : other = packet.clientId
            · simp [hother, hmem]
            · simp [hother]
        have hwaiting := waits_update h.waiting packet.clientId
          (some { process with wireDown := process.wireDown ++ [packet.data] })
          fun hnew => absurd hnew hknown
        refine ⟨hsound, h.room, hpresent, h.server, ?_, hwaiting, hunsent, h.unheard⟩
        refine forall₂_imp_mem h.conns fun other _ conn htracks => ?_
        by_cases hne : other = packet.clientId
        · subst hne
          cases htracks with
          | online found hfound =>
              obtain rfl := Option.some.inj (hprocess.symm.trans hfound)
              have hview : net.view packet.clientId process = NetSystem.view ⟨⟨net.hosting.app,
                  { net.hosting.host with packetQueue := rest }⟩,
                  Function.update net.processes packet.clientId
                    (some { process with wireDown := process.wireDown ++ [packet.data] })⟩
                  packet.clientId
                  { process with wireDown := process.wireDown ++ [packet.data] } := by
                have hrest : EnetServer.queued { net.hosting.host with packetQueue := rest }
                    packet.clientId = mailbag rest packet.clientId := rfl
                simp only [view, hqueued, hrest, if_true]
                simp [EnetServer.received]
              rw [hview]
              exact .online _ (Function.update_self ..)
          | gone conn hgone => cases hprocess.symm.trans hgone
        · exact htracks.congr (Function.update_of_ne hne _ _)
            (fun _ _ => hsame other (Ne.symm hne)) rfl

end Simulation

section Handling

/-- The program once the server's library has taken an event, before the
callback has sent anything. -/
def taken (net : NetSystem) (rest : Mailbox ServerEvent) (clients : List Nat)
    (event : ServerEvent) : NetSystem :=
  { net with hosting := ⟨net.hosting.app, net.hosting.host.handled rest clients event⟩ }

/-- The program after the callback. -/
def responded (net : NetSystem) (rest : Mailbox ServerEvent) (clients : List Nat)
    (event : ServerEvent) : NetSystem :=
  let result := net.hosting.app.respond clients event.client event
  { net with hosting := ⟨result.1, (net.hosting.host.handled rest clients event).send result.2⟩ }

variable {net after : NetSystem} {system : System} {behind ahead reached : Roll} {client : Nat}
  {event : ServerEvent} {rest : Mailbox ServerEvent} {conn : Conn}

theorem Refines.handle_cases (h : Refines net system behind ahead)
    (hstep : net.step .handle = some after) :
    ∃ event rest reached, net.hosting.host.events.take = some (event, rest) ∧
      behind.replay event = some reached ∧ after = net.responded rest reached.clients event ∧
      after.hosting.Sound reached ahead ∧
      ∀ client data, event = .receive client data →
        Server.refuses reached.clients data = false := by
  simp only [NetSystem.step, Option.bind_eq_bind, Option.bind_eq_some_iff, Option.pure_def,
    Option.some.injEq] at hstep
  obtain ⟨hosting, hhosting, rfl⟩ := hstep
  have hattempt := Hosting.attempt_of_step hhosting
  have htaken := hattempt
  obtain ⟨⟨event, rest⟩, htake, -⟩ := Option.map_eq_some_iff.mp htaken
  obtain ⟨reached, hreplay, hlive, hclients, haccepted, hrefused⟩ := h.sound.handle htake
  have huids : reached.clients.map net.hosting.host.uidOf = reached.clients := by
    refine (List.map_congr_left fun client hmem => ?_).trans (List.map_id _)
    exact h.sound.uidOf_eq h.room (hclients client hmem)
  rw [huids] at hrefused
  rw [huids, h.sound.uidOf_eq h.room hlive] at haccepted
  refine ⟨event, rest, reached, htake, hreplay, ?_⟩
  by_cases hdata : ∃ client data, event = .receive client data ∧
      Server.refuses reached.clients data = true
  · have herror := hrefused hdata
    rw [hattempt] at herror
    cases Option.some.inj herror
  · have hok : ∀ client data, event = .receive client data →
        Server.refuses reached.clients data = false := by
      intro client data hevent
      by_contra hrefuses
      exact hdata ⟨client, data, hevent, by simpa using hrefuses⟩
    obtain ⟨hresult, hsound⟩ := haccepted hok
    rw [hattempt] at hresult
    obtain rfl := Except.ok.inj (Option.some.inj hresult)
    exact ⟨rfl, hsound, hok⟩

theorem received_responded (htake : net.hosting.host.events.take = some (event, rest))
    (clients : List Nat) (client : Nat) : net.hosting.host.received client =
      (event.dataOf client).toList ++
        (net.responded rest clients event).hosting.host.received client :=
  EnetServer.received_take htake clients _

/-- What the callback sends to a client goes into the queue that it shows. -/
theorem Tracks.respond {clients : List Nat}
    (h : Tracks (net.taken rest clients event) client conn)
    (hevent : (∃ other, event = .connect other) → event.client ∈ clients) :
    Tracks (net.responded rest clients event) client
      (conn.receive (net.hosting.app.actionsOf clients event.client event)) := by
  have hposts :=
    @Server.respond_posts net.hosting.app clients event.client event hevent client
  have hqueued : (net.responded rest clients event).hosting.host.queued client =
      (net.taken rest clients event).hosting.host.queued client ++
        mailbag (net.hosting.app.respond clients event.client event).2 client :=
    EnetServer.queued_send _ client
  cases h with
  | online process hprocess =>
      have hview : ((net.taken rest clients event).view client process).receive
          (net.hosting.app.actionsOf clients event.client event) =
            (net.responded rest clients event).view client process := by
        have hreceived : (net.responded rest clients event).hosting.host.received client =
            (net.taken rest clients event).hosting.host.received client := rfl
        simp only [Conn.receive, view, hqueued, hreceived, ← hposts, if_true]
        simp
      rw [hview]
      exact .online process hprocess
  | gone conn hprocess uid mapped rest hup => exact .gone _ hprocess uid mapped rest hup

/-- All that holds after an event, once the connections do. -/
theorem Refines.responded (h : Refines net system behind ahead)
    (htake : net.hosting.host.events.take = some (event, rest))
    (hreplay : behind.replay event = some reached)
    (hsound : (net.responded rest reached.clients event).hosting.Sound reached ahead)
    (hevent : (∃ other, event = .connect other) → event.client ∈ reached.clients)
    {conns : List Conn}
    (hconns : List.Forall₂ (Tracks (net.responded rest reached.clients event)) reached.clients
      conns) :
    Refines (net.responded rest reached.clients event)
      ⟨{ (net.hosting.app.respond reached.clients event.client event).1 with
        componentNextUid := reached.next % 2 ^ 32 }, conns⟩ reached ahead := by
  have hnext : behind.next ≤ reached.next := by
    cases event with
    | connect other =>
        obtain ⟨-, hroom, rfl⟩ := Roll.replay_connect hreplay
        exact Nat.le_succ _
    | receive other data => exact (Roll.replay_receive hreplay).2 ▸ Nat.le_refl _
    | disconnect other => exact (Roll.replay_disconnect hreplay).2 ▸ Nat.le_refl _
  have hheap : (net.responded rest reached.clients event).hosting.host.heap.length =
      net.hosting.host.heap.length :=
    hsound.owned.allocated.symm.trans h.sound.owned.allocated
  refine ⟨hsound, hheap.trans_le h.room, h.present, rfl, hconns, ?_, ?_, ?_⟩
  · exact fun other process hnew => h.waiting other process (hnext.trans hnew)
  · intro other hnew
    have hqueued : (net.responded rest reached.clients event).hosting.host.queued other =
        net.hosting.host.queued other ++
          mailbag (net.hosting.app.respond reached.clients event.client event).2 other :=
      EnetServer.queued_handled _ other
    have htargets : mailbag (net.hosting.app.respond reached.clients event.client event).2 other =
        [] := by
      apply mailbag_nil_of_targets
      intro packet hpacket heq
      have hmem := Server.respond_targets event hevent hpacket
      exact absurd (reached.issued _ hmem) (Nat.not_lt.mpr (heq ▸ hnew))
    rw [hqueued, htargets, h.unsent other (hnext.trans hnew)]
    rfl
  · intro other hnew
    have hreceived := received_responded htake reached.clients other
    rw [h.unheard other (hnext.trans hnew)] at hreceived
    exact (List.append_eq_nil_iff.mp hreceived.symm).2

theorem onClientConnect_numbered (server : Server) (n : Nat) (clients : List Nat)
    (client : Nat) : Server.onClientConnect { server with componentNextUid := n } clients client =
      ({ (server.onClientConnect clients client).1 with componentNextUid := n },
        (server.onClientConnect clients client).2) := by
  simp only [Server.onClientConnect]
  split
  · rfl
  · split <;> rfl

theorem onClientDisconnect_numbered (server : Server) (n : Nat) (clients : List Nat) :
    Server.onClientDisconnect { server with componentNextUid := n } clients =
      ({ (server.onClientDisconnect clients).1 with componentNextUid := n },
        (server.onClientDisconnect clients).2) := by
  simp only [Server.onClientDisconnect]
  split
  · split <;> rfl
  · rfl

/-- A client that the server hears of joins as a new connection, and draws
there the frame that it has drawn already. -/
theorem newcomer (h : Refines net system behind ahead)
    (htake : net.hosting.host.events.take = some (.connect behind.next, rest))
    {clients : List Nat} (hmem : behind.next ∈ clients) :
    ∃ blank events next, exec Conn.step ((Conn.fresh behind.next blank).receive
        (net.hosting.app.actionsOf clients behind.next (.connect behind.next))) events =
          some next ∧
      Tracks (net.responded rest clients (.connect behind.next)) behind.next next := by
  have hunheard : (net.responded rest clients (.connect behind.next)).hosting.host.received
      behind.next = [] := by
    have hreceived := received_responded htake clients behind.next
    rw [h.unheard behind.next (Nat.le_refl _)] at hreceived
    exact (List.append_eq_nil_iff.mp hreceived.symm).2
  have hposts := @Server.respond_posts net.hosting.app clients behind.next
    (.connect behind.next) (fun _ => hmem) behind.next
  have hqueued : (net.responded rest clients (.connect behind.next)).hosting.host.queued
      behind.next = mailbag (net.hosting.app.respond clients behind.next
        (.connect behind.next)).2 behind.next := by
    refine (EnetServer.queued_handled _ behind.next).trans ?_
    rw [h.unsent behind.next (Nat.le_refl _)]
    rfl
  have hfresh (blank : Sprite) : (Conn.fresh behind.next blank).receive
      (net.hosting.app.actionsOf clients behind.next (.connect behind.next)) =
        (net.responded rest clients (.connect behind.next)).view behind.next (.fresh blank) := by
    simp only [view, hqueued, hunheard, Process.fresh]
    simp [Conn.receive, Conn.fresh, hposts]
  cases hprocess : net.processes behind.next with
  | none =>
      refine ⟨blankSprite, [], _, rfl, .gone _ hprocess rfl rfl [] ?_⟩
      rw [hunheard]
      rfl
  | some process =>
      cases h.waiting behind.next process (Nat.le_refl _) hprocess with
      | new blank =>
          refine ⟨blank, [], _, rfl, ?_⟩
          rw [hfresh]
          exact .online _ hprocess
      | drawn blank =>
          refine ⟨blank, [.frame], _, ?_, .online _ hprocess⟩
          rw [hfresh]
          have hframe : (Process.fresh blank).act .frame = some (.drawn blank) := rfl
          exact (exec_cons _ _ _ _).mpr ⟨_, view_act hframe, rfl⟩

theorem Refines.connected (h : Refines net system behind ahead)
    (htake : net.hosting.host.events.take = some (.connect client, rest))
    (hreplay : behind.replay (.connect client) = some reached)
    (hsound : (net.responded rest reached.clients (.connect client)).hosting.Sound reached ahead) :
    ∃ events last, exec System.step system events = some last ∧
      Refines (net.responded rest reached.clients (.connect client)) last reached ahead := by
  obtain ⟨rfl, hroom, rfl⟩ := Roll.replay_connect hreplay
  have hmem : behind.next ∈ (behind.enter hroom).clients :=
    List.mem_append.mpr (Or.inr List.mem_cons_self)
  obtain ⟨blank, events, next, hevents, hnext⟩ := newcomer h htake hmem
  have huids := uids_of_tracks h.conns
  have hbound : behind.next % 2 ^ 32 = behind.next := by
    have hlt : behind.next + 1 ≤ ahead.next := hsound.owned.next_le
    have hroom := h.room
    rw [← h.sound.owned.allocated] at hroom
    exact Nat.mod_eq_of_lt (by omega)
  have huid : system.server.componentNextUid = behind.next := by
    rw [h.server]
    exact hbound
  have hreplaced : system.conns.map (Conn.replacedBy behind.next) = system.conns := by
    refine (List.map_congr_left fun conn hconn => ?_).trans (List.map_id _)
    have hne : conn.uid ≠ behind.next := by
      intro heq
      have hissued := behind.issued conn.uid (huids ▸ List.mem_map_of_mem hconn)
      omega
    simp [Conn.replacedBy, hne]
  have hlength : system.conns.length < Server.maxClientCount := by
    rw [← h.conns.length_eq]
    exact hroom
  have hserver : system.server.takeUid =
      { net.hosting.app with componentNextUid := (behind.next + 1) % 2 ^ 32 } := by
    rw [h.server, Server.takeUid, hbound]
  have hclients : system.uids ++ [behind.next] = (behind.enter hroom).clients := by
    rw [System.uids, huids]
    rfl
  let actions := net.hosting.app.actionsOf (behind.enter hroom).clients behind.next
    (.connect behind.next)
  let server : Server := { (net.hosting.app.respond (behind.enter hroom).clients behind.next
    (.connect behind.next)).1 with componentNextUid := (behind.next + 1) % 2 ^ 32 }
  have hstep : System.step system (.connect blank) = some ⟨server,
      system.conns.map (Conn.receive actions) ++
        [(Conn.fresh behind.next blank).receive actions]⟩ := by
    simp only [System.step, if_pos hlength, huid, hreplaced, hserver, hclients,
      onClientConnect_numbered, System.deliver, List.map_append, List.map_cons, List.map_nil]
    rfl
  have hlast : (system.conns.map (Conn.receive actions) ++
      [(Conn.fresh behind.next blank).receive actions])[system.conns.length]? =
        some ((Conn.fresh behind.next blank).receive actions) := by
    rw [List.getElem?_append_right (by simp)]
    simp
  refine ⟨.connect blank :: events.map fun event => .act system.conns.length event, _,
    (exec_cons _ _ _ _).mpr ⟨_, hstep, exec_acts hlast hevents⟩, ?_⟩
  have hset : (system.conns.map (Conn.receive actions) ++
      [(Conn.fresh behind.next blank).receive actions]).set system.conns.length next =
        system.conns.map (Conn.receive actions) ++ [next] := by
    rw [List.set_append_right _ _ (by simp)]
    simp
  have hconns : List.Forall₂
      (Tracks (net.responded rest (behind.enter hroom).clients (.connect behind.next)))
      (behind.enter hroom).clients (system.conns.map (Conn.receive actions) ++ [next]) := by
    refine List.rel_append ?_ (.cons hnext .nil)
    rw [List.forall₂_map_right_iff]
    refine h.conns.imp fun other conn htracks => ?_
    refine Tracks.respond (htracks.congr rfl (fun _ _ => rfl) ?_) fun _ => hmem
    exact (received_responded htake [] other).symm
  rw [hset]
  exact h.responded htake hreplay hsound (fun _ => hmem) hconns

/-- What the server handles next is what the connection has sent first. -/
theorem Tracks.consume {data : List Char} {msg : CustomPacket}
    (h : Tracks net client conn)
    (htake : net.hosting.host.events.take = some (.receive client data, rest))
    (hread : CustomPacket.ofData data = some msg) (clients : List Nat) :
    ∃ up, conn.up = msg :: up ∧
      Tracks (net.taken rest clients (.receive client data)) client { conn with up := up } := by
  have hreceived : net.hosting.host.received client =
      data :: (net.taken rest clients (.receive client data)).hosting.host.received client := by
    have hcons := received_responded htake clients client
    rw [ServerEvent.dataOf, if_pos rfl] at hcons
    exact hcons
  cases h with
  | online process hprocess =>
      refine ⟨_, ?_, .online process hprocess⟩
      simp only [view, hreceived]
      exact readAll_cons hread _
  | gone conn hprocess uid mapped left hup =>
      refine ⟨readAll ((net.taken rest clients (.receive client data)).hosting.host.received
        client) ++ left, ?_, .gone _ hprocess uid mapped left rfl⟩
      rw [hup, hreceived, readAll_cons hread]
      rfl

theorem Refines.heard (h : Refines net system behind ahead) {data : List Char}
    (htake : net.hosting.host.events.take = some (.receive client data, rest))
    (hreplay : behind.replay (.receive client data) = some reached)
    (hsound : (net.responded rest reached.clients
      (.receive client data)).hosting.Sound reached ahead)
    (haccepted : Server.refuses reached.clients data = false) :
    ∃ events last, exec System.step system events = some last ∧
      Refines (net.responded rest reached.clients (.receive client data)) last reached ahead := by
  obtain ⟨hmem, rfl⟩ := Roll.replay_receive hreplay
  obtain ⟨msg, hread, hresume⟩ := Server.refuses_eq_false haccepted
  obtain ⟨i, hi⟩ := List.mem_iff_getElem?.mp hmem
  obtain ⟨sender, hsender, htracks⟩ := forall₂_get? h.conns hi
  obtain ⟨up, hup, hconsumed⟩ := htracks.consume htake hread reached.clients
  have hactions : net.hosting.app.actionsOf reached.clients client (.receive client data) =
      Server.onClientData system.uids sender.uid msg := by
    rw [System.uids, uids_of_tracks h.conns, htracks.uid_eq]
    simp only [Server.actionsOf, hread]
  have hresponse : (net.hosting.app.respond reached.clients client (.receive client data)).1 =
      net.hosting.app := by
    simp only [Server.respond, hread]
    split <;> rfl
  refine ⟨[.serve i], ⟨system.server, (system.conns.set i { sender with up := up }).map
    (Conn.receive (Server.onClientData system.uids sender.uid msg))⟩, ?_, ?_⟩
  · rw [h.conns.length_eq] at hresume
    exact (exec_cons _ _ _ _).mpr ⟨_, System.step_serve_eq hsender hup hresume, rfl⟩
  · rw [h.server, ← hresponse, ← hactions]
    refine h.responded htake hreplay hsound (fun _ => hmem) ?_
    rw [List.forall₂_map_right_iff]
    refine forall₂_set h.conns reached.nodup hi (hconsumed.respond fun _ => hmem) ?_
    intro other _ hne conn hother
    refine Tracks.respond (hother.congr rfl (fun _ _ => rfl) ?_) fun _ => hmem
    have hreceived := received_responded htake reached.clients other
    rw [ServerEvent.dataOf, if_neg hne.symm] at hreceived
    exact hreceived.symm

theorem Refines.disconnected (h : Refines net system behind ahead)
    (htake : net.hosting.host.events.take = some (.disconnect client, rest))
    (hreplay : behind.replay (.disconnect client) = some reached)
    (hsound : (net.responded rest reached.clients (.disconnect client)).hosting.Sound
      reached ahead) :
    ∃ events last, exec System.step system events = some last ∧
      Refines (net.responded rest reached.clients (.disconnect client)) last reached ahead := by
  obtain ⟨hmem, rfl⟩ := Roll.replay_disconnect hreplay
  obtain ⟨i, hi⟩ := List.mem_iff_getElem?.mp hmem
  obtain ⟨hlt, hget⟩ := List.getElem?_eq_some_iff.mp hi
  have herase : (behind.leave client).clients = behind.clients.eraseIdx i := by
    rw [← behind.nodup.erase_getElem i hlt, hget]
    rfl
  obtain ⟨leaver, hleaver, htracks⟩ := forall₂_get? h.conns hi
  have hconns := forall₂_eraseIdx h.conns i
  rw [← herase] at hconns
  have huids := uids_of_tracks hconns
  let response := net.hosting.app.respond (behind.leave client).clients client (.disconnect client)
  refine ⟨[.disconnect i], ⟨{ response.1 with componentNextUid := behind.next % 2 ^ 32 },
    (system.conns.eraseIdx i).map (Conn.receive
      (net.hosting.app.actionsOf (behind.leave client).clients client (.disconnect client)))⟩,
    ?_, ?_⟩
  · simp only [exec_cons, exec_nil, System.step, hleaver, htracks.inPeerMap, if_true, h.server,
      onClientDisconnect_numbered, huids, Option.some.injEq, exists_eq_left']
    rfl
  · refine h.responded htake hreplay hsound (fun hconnect => ?_) ?_
    · obtain ⟨other, hother⟩ := hconnect
      cases hother
    · rw [List.forall₂_map_right_iff]
      refine hconns.imp fun other conn htracks => ?_
      refine Tracks.respond (htracks.congr rfl (fun _ _ => rfl) ?_) fun hconnect => ?_
      · exact (received_responded htake [] other).symm
      · obtain ⟨other, hother⟩ := hconnect
        cases hother

theorem Refines.handle (h : Refines net system behind ahead)
    (hstep : net.step .handle = some after) :
    ∃ events last reached, exec System.step system events = some last ∧
      Refines after last reached ahead := by
  obtain ⟨event, rest, reached, htake, hreplay, rfl, hsound, haccepted⟩ := h.handle_cases hstep
  cases event with
  | connect client =>
      obtain ⟨events, last, hevents, hlast⟩ := h.connected htake hreplay hsound
      exact ⟨events, last, reached, hevents, hlast⟩
  | receive client data =>
      obtain ⟨events, last, hevents, hlast⟩ :=
        h.heard htake hreplay hsound (haccepted client data rfl)
      exact ⟨events, last, reached, hevents, hlast⟩
  | disconnect client =>
      obtain ⟨events, last, hevents, hlast⟩ := h.disconnected htake hreplay hsound
      exact ⟨events, last, reached, hevents, hlast⟩

end Handling

section Runs

variable {net after : NetSystem} {system : System} {behind ahead : Roll}

theorem refines_start : Refines start System.initial .empty .empty := by
  refine ⟨Hosting.sound_start, Nat.zero_le _, ?_, rfl, .nil, ?_, fun _ _ => rfl, fun _ _ => rfl⟩
  · intro client
    constructor
    · intro hmem
      cases hmem
    · rintro ⟨process, hprocess⟩
      cases hprocess
  · intro client process _ hprocess
    cases hprocess

/-- Whatever a thread does is some steps of the abstract system, none where
a packet is only handed on. -/
theorem Refines.step (h : Refines net system behind ahead) {event : NetEvent}
    (hroom : event.isAccept = true → net.hosting.host.heap.length < 2 ^ 32)
    (hstep : net.step event = some after) :
    ∃ events last behind ahead, exec System.step system events = some last ∧
      Refines after last behind ahead := by
  cases event with
  | accept blank =>
      obtain ⟨reached, hreached⟩ := h.accept (hroom rfl) hstep
      exact ⟨[], system, behind, reached, rfl, hreached⟩
  | lose client =>
      obtain ⟨reached, hreached⟩ := h.lose hstep
      exact ⟨[], system, behind, reached, rfl, hreached⟩
  | capture client => exact ⟨[], system, behind, ahead, rfl, h.capture hstep⟩
  | sendQueued => exact ⟨[], system, behind, ahead, rfl, h.sendQueued hstep⟩
  | fetch => exact ⟨[], system, behind, ahead, rfl, h.fetch hstep⟩
  | handle =>
      obtain ⟨events, last, reached, hevents, hlast⟩ := h.handle hstep
      exact ⟨events, last, reached, ahead, hevents, hlast⟩
  | transmit client =>
      obtain ⟨events, last, hevents, hlast⟩ := h.stepProcess hstep
        (fun process next hnext hwaits => by
          rw [hwaits.transmit] at hnext
          cases hnext)
        fun process next hnext => ⟨[], congrArg some (view_transmit hnext).symm⟩
      exact ⟨events, last, behind, ahead, hevents, hlast⟩
  | deliver client =>
      obtain ⟨events, last, hevents, hlast⟩ := h.stepProcess hstep
        (fun process next hnext hwaits => by
          rw [hwaits.deliver] at hnext
          cases hnext)
        fun process next hnext => ⟨[], congrArg some (view_deliver hnext).symm⟩
      exact ⟨events, last, behind, ahead, hevents, hlast⟩
  | poll client =>
      obtain ⟨events, last, hevents, hlast⟩ := h.stepProcess hstep
        (fun process next hnext hwaits => hwaits.poll hnext)
        fun process next hnext => ⟨[], congrArg some (view_poll hnext).symm⟩
      exact ⟨events, last, behind, ahead, hevents, hlast⟩
  | act client event =>
      obtain ⟨events, last, hevents, hlast⟩ := h.stepProcess hstep
        (fun process next hnext hwaits => hwaits.act hnext)
        fun process next hnext => ⟨[event], (exec_cons _ _ _ _).mpr ⟨_, view_act hnext, rfl⟩⟩
      exact ⟨events, last, behind, ahead, hevents, hlast⟩

/-- What the server's library does in a step. -/
theorem step_hosting {event : NetEvent} (hstep : net.step event = some after) :
    ∃ events, exec (Hosting.step Server.callbacks) net.hosting events = some after.hosting ∧
      events.count .accept = [event].countP NetEvent.isAccept := by
  have hone {event : HostEvent}
      (h : net.hosting.step Server.callbacks event = some after.hosting) :
      exec (Hosting.step Server.callbacks) net.hosting [event] = some after.hosting :=
    (exec_cons _ _ _ _).mpr ⟨_, h, rfl⟩
  have hnone {client : Nat} {step : Process → Option Process}
      (h : net.stepProcess client step = some after) : after.hosting = net.hosting := by
    simp only [stepProcess, Option.bind_eq_bind, Option.bind_eq_some_iff, Option.pure_def,
      Option.some.injEq] at h
    obtain ⟨process, -, next, -, rfl⟩ := h
    rfl
  cases event with
  | accept blank =>
      simp only [step, Option.bind_eq_bind, Option.bind_eq_some_iff, Option.pure_def,
        Option.some.injEq] at hstep
      obtain ⟨hosting, hhosting, rfl⟩ := hstep
      exact ⟨[.accept], hone hhosting, rfl⟩
  | lose client =>
      simp only [step, Option.bind_eq_bind, Option.bind_eq_some_iff, Option.pure_def,
        Option.some.injEq] at hstep
      obtain ⟨hosting, hhosting, rfl⟩ := hstep
      exact ⟨[.lose client], hone hhosting, rfl⟩
  | capture client =>
      simp only [step, Option.bind_eq_bind, Option.bind_eq_some_iff] at hstep
      obtain ⟨process, -, hstep⟩ := hstep
      split at hstep
      · cases hstep
      · simp only [Option.bind_eq_some_iff, Option.pure_def, Option.some.injEq] at hstep
        obtain ⟨hosting, hhosting, rfl⟩ := hstep
        exact ⟨[.capture client _], hone hhosting, rfl⟩
  | sendQueued =>
      simp only [step, Option.bind_eq_bind, Option.bind_eq_some_iff, Prod.exists] at hstep
      obtain ⟨host, sent, hsend, hstep⟩ := hstep
      have hhosting : after.hosting = ⟨net.hosting.app, host⟩ := by
        split at hstep
        · exact Option.some.inj hstep ▸ rfl
        · exact Option.some.inj hstep ▸ rfl
      refine ⟨[.sendQueued], hone ?_, rfl⟩
      rw [hhosting, Hosting.step, Hosting.attempt, hsend]
      rfl
  | fetch =>
      simp only [step, Option.bind_eq_bind, Option.bind_eq_some_iff, Option.pure_def,
        Option.some.injEq] at hstep
      obtain ⟨hosting, hhosting, rfl⟩ := hstep
      exact ⟨[.fetch], hone hhosting, rfl⟩
  | handle =>
      simp only [step, Option.bind_eq_bind, Option.bind_eq_some_iff, Option.pure_def,
        Option.some.injEq] at hstep
      obtain ⟨hosting, hhosting, rfl⟩ := hstep
      exact ⟨[.handle], hone hhosting, rfl⟩
  | transmit client => exact ⟨[], congrArg some (hnone hstep).symm, rfl⟩
  | deliver client => exact ⟨[], congrArg some (hnone hstep).symm, rfl⟩
  | poll client => exact ⟨[], congrArg some (hnone hstep).symm, rfl⟩
  | act client event => exact ⟨[], congrArg some (hnone hstep).symm, rfl⟩

theorem Refines.run {events : List NetEvent} (h : Refines net system behind ahead)
    (hroom : net.hosting.host.heap.length + events.countP NetEvent.isAccept ≤ 2 ^ 32)
    (hrun : exec NetSystem.step net events = some after) :
    ∃ acts last behind ahead, exec System.step system acts = some last ∧
      Refines after last behind ahead := by
  induction events generalizing net system behind ahead with
  | nil =>
      obtain rfl : net = after := Option.some.inj hrun
      exact ⟨[], system, behind, ahead, rfl, h⟩
  | cons event events ih =>
      obtain ⟨reached, hstep, hrest⟩ := (exec_cons _ _ _ _).mp hrun
      have hcount : (event :: events).countP NetEvent.isAccept =
          [event].countP NetEvent.isAccept + events.countP NetEvent.isAccept :=
        @List.countP_append _ _ [event] events
      rw [hcount] at hroom
      obtain ⟨hosted, hhosted, haccepts⟩ := step_hosting hstep
      obtain ⟨-, -, -, hlength⟩ := h.sound.exec (by omega) hhosted
      have hnext : event.isAccept = true → net.hosting.host.heap.length < 2 ^ 32 := by
        intro haccept
        rw [List.countP_singleton, if_pos haccept] at hroom
        omega
      obtain ⟨acts, last, behind', ahead', hacts, hlast⟩ := h.step hnext hstep
      obtain ⟨more, final, behind'', ahead'', hmore, hfinal⟩ := ih hlast (by omega) hrest
      exact ⟨acts ++ more, final, behind'', ahead'',
        (exec_append _ _ _ _).mpr ⟨last, hacts, hmore⟩, hfinal⟩

theorem Refines.shows (h : Refines net system behind ahead) : net.Shows system := by
  have huids := uids_of_tracks h.conns
  have hclients : system.uids = net.hosting.host.connectedClients :=
    huids.trans h.sound.owned.clients
  refine ⟨by rw [h.server], hclients, ?_, ?_, ?_⟩
  · rw [h.sound.uids_eq]
    have hsame : behind.clients.map net.hosting.host.uidOf = behind.clients := by
      refine (List.map_congr_left fun client hmem => ?_).trans (List.map_id _)
      exact h.sound.uidOf_eq h.room ((h.sound.owned.live client).mpr (Or.inl hmem))
    exact congrArg Except.ok (hsame.trans huids.symm)
  · intro client process hprocess hmem
    rw [← h.sound.owned.clients] at hmem
    obtain ⟨i, -, hconn⟩ := h.conn_of_process hprocess hmem
    exact List.mem_of_getElem? hconn
  · intro client process hprocess hnot
    rw [← h.sound.owned.clients] at hnot
    have hwaits := h.waiting client process ((h.known_or_new hprocess).resolve_left hnot) hprocess
    exact ⟨hwaits.empty.1, hwaits.empty.2.2.2.2.2⟩

/-- Every run of the threads, libraries and buffers shows a run of the system
in which each client has one queue in either direction. -/
theorem refines_system {events : List NetEvent} {net : NetSystem}
    (hrun : exec step start events = some net)
    (hcount : events.countP NetEvent.isAccept ≤ 2 ^ 32) :
    ∃ acts system, exec System.step System.initial acts = some system ∧
      net.Shows system := by
  have hstart : start.hosting.host.heap.length = 0 := rfl
  obtain ⟨acts, last, behind, ahead, hacts, hlast⟩ := refines_start.run (by omega) hrun
  exact ⟨acts, last, hacts, hlast.shows⟩

/-- What the server's library has sent to a client arrives there and is read. -/
def collect (client count : Nat) : List NetEvent :=
  List.replicate count (.deliver client) ++ [.poll client] ++
    List.replicate count (.act client .receive) ++ List.replicate count (.act client .dispatch) ++
    [.act client .frame]

/-- Two clients connect before the game server looks, and take in `init` and
`start`. -/
def threadedRun : List NetEvent :=
  [.accept blankSprite, .accept blankSprite, .fetch, .handle, .handle] ++
    List.replicate 4 .sendQueued ++ collect 0 2 ++ collect 1 2

/-- The first player moves a unit and ends the turn; the first of the two
packets is on the wire. -/
def movingThreads : List NetEvent :=
  threadedRun ++ [.act 0 (.click false 50 10), .act 0 (.click false 300 100),
    .act 0 (.click false 1200 650), .act 0 .send, .act 0 .send, .transmit 0]

/-- Both packets reach the server, which handles them before it hears that the
second client is gone; the first one is told to wait. -/
def partedThreads : List NetEvent :=
  movingThreads ++ [.transmit 0, .capture 0, .capture 0, .lose 1, .fetch] ++
    List.replicate 3 .handle ++ List.replicate 3 .sendQueued ++ collect 0 1

theorem refines_system_parted : ∃ net, exec step start partedThreads = some net ∧
    net.hosting.host.uids = .ok [0] ∧
    ∃ acts system, exec System.step System.initial acts = some system ∧ net.Shows system := by
  have hrun : (exec step start partedThreads).any (fun net =>
      net.hosting.host.uids = .ok [0]) = true := by decide +kernel
  obtain ⟨net, hnet, huids⟩ := (Option.any_eq_true _ _).mp hrun
  exact ⟨net, hnet, of_decide_eq_true huids, refines_system hnet (by decide)⟩

end Runs

end NetSystem

end NetworkingGame
