import NetworkingGame.Pair

/-!
One side of a game that both clients started from the lobby. Between such a
pair only chat and unit packets pass, so that each of them is described by its
label, the queue of unit packets on their way to it and the queue of those it
has written; `Effect` lists what a step does to that description.
-/

namespace NetworkingGame

namespace Conn

/-- The packets that the two sides of an undisturbed game exchange. -/
def Plain (packet : CustomPacket) : Prop := packet.type = "chat" ∨ ∃ m : Msg, packet = m.packet

def isUnit (packet : CustomPacket) : Bool := packet.type = "unit"

/-- The unit packets that the client has yet to drain. -/
def incoming (conn : Conn) : List CustomPacket :=
  (conn.scene.client.unitUpdateQueue ++ conn.scene.client.recievedQueue ++ conn.down).filter
    isUnit

/-- The unit packets that the client has written and the server not handled. -/
def outgoing (conn : Conn) : List CustomPacket := conn.unhandled.filter isUnit

/-- All unit packets in transit from `x` to `y`, oldest first. -/
def transit (x y : Conn) : List CustomPacket := y.incoming ++ x.outgoing

/-- The local id that makes a frame assign the team `label`. -/
def idOf : PlayerTurn → Int
  | .player2 => 1
  | _ => 0

structure Side (label : PlayerTurn) (conn : Conn) : Prop where
  mapped : conn.inPeerMap = true
  unhandled : ∀ packet ∈ conn.unhandled, Plain packet
  inbox : ∀ packet ∈ conn.scene.client.recievedQueue ++ conn.down,
    Plain packet ∨ packet = Server.initPacket (idOf label) ∨ packet = Server.startPacket
  queue : ∀ packet ∈ conn.scene.client.unitUpdateQueue, ∃ m : Msg, packet = m.packet
  notReconnecting : conn.scene.client.isReconnecting = false
  notUpdated : conn.scene.client.updateComplete = false
  userID : conn.scene.client.userID = -1 ∨ conn.scene.client.userID = idOf label
  team : conn.scene.assignedTeam = .none ∨ conn.scene.assignedTeam = label
  turn : conn.scene.playerTurn ≠ .none

/-- What a step of one client does, seen through its two queues. -/
inductive Effect (label : PlayerTurn) (x y : Conn) : Prop
  | quiet (incoming : y.incoming = x.incoming) (outgoing : y.outgoing = x.outgoing)
      (board : y.scene.board = x.scene.board)
      (flags : ∀ ref, (y.scene.units.get ref).hasChanged = (x.scene.units.get ref).hasChanged)
      (select : y.scene.select = x.scene.select)
      (turn : y.scene.playerTurn = x.scene.playerTurn)
      (outcome : y.scene.outcome = x.scene.outcome)
  | drained (hwait : x.scene.playerTurn = GameScene.otherTurn label)
      (hplaying : x.scene.gameFinished = false)
      (incoming : x.incoming = x.scene.client.unitUpdateQueue ++ y.incoming)
      (outgoing : y.outgoing = x.outgoing)
      (flags : ∀ ref, (y.scene.units.get ref).hasChanged = (x.scene.units.get ref).hasChanged)
      (select : y.scene.select = x.scene.select)
      (read : ∀ msgs : List Msg, x.scene.client.unitUpdateQueue = msgs.map Msg.packet →
        y.scene.board = msgs.foldl Msg.onBoard x.scene.board ∧
        y.scene.playerTurn = msgs.foldl Msg.onTurn x.scene.playerTurn ∧
        y.scene.outcome = msgs.foldl Msg.onOutcome x.scene.outcome)
  | ended (undefinedReturn : Bool) (hturn : x.scene.playerTurn = label)
      (hteam : x.scene.assignedTeam = label)
      (incoming : y.incoming = x.incoming)
      (outgoing : y.outgoing =
        x.outgoing ++ (x.scene.turnMsgs undefinedReturn).map Msg.packet)
      (scene : y.scene = x.scene.endTurn undefinedReturn)
  | moved (hselect : x.scene.playerTurn = label ∨ x.scene.select ≠ .fill false)
      (incoming : y.incoming = x.incoming) (outgoing : y.outgoing = x.outgoing)
      (hmoved : x.scene.Moved y.scene)

/-- The step changes nothing that the description is made of. -/
structure Quiet (x y : Conn) : Prop where
  incoming : y.incoming = x.incoming
  outgoing : y.outgoing = x.outgoing
  board : y.scene.board = x.scene.board
  flags : ∀ ref, (y.scene.units.get ref).hasChanged = (x.scene.units.get ref).hasChanged
  select : y.scene.select = x.scene.select
  turn : y.scene.playerTurn = x.scene.playerTurn
  outcome : y.scene.outcome = x.scene.outcome

/-- The step is a frame that reads the queue. -/
structure Drained (x y : Conn) : Prop where
  drains : x.scene.Drains
  incoming : x.incoming = x.scene.client.unitUpdateQueue ++ y.incoming
  outgoing : y.outgoing = x.outgoing
  flags : ∀ ref, (y.scene.units.get ref).hasChanged = (x.scene.units.get ref).hasChanged
  select : y.scene.select = x.scene.select
  read : ∀ msgs : List Msg, x.scene.client.unitUpdateQueue = msgs.map Msg.packet →
    y.scene.board = msgs.foldl Msg.onBoard x.scene.board ∧
    y.scene.playerTurn = msgs.foldl Msg.onTurn x.scene.playerTurn ∧
    y.scene.outcome = msgs.foldl Msg.onOutcome x.scene.outcome

/-- The steps of one side: a click, a frame that reads the queue, and the ones
that nobody notices. -/
inductive SideStep (x : Conn) : LocalEvent → Conn → Prop
  | clicked (undefinedReturn : Bool) (xpos ypos : Int) (scene : GameScene)
      (hclick : x.scene.clickHandler undefinedReturn xpos ypos = .ok scene) :
      SideStep x (.click undefinedReturn xpos ypos) { x with scene := scene }
  | drained (y : Conn) (h : Drained x y) : SideStep x .frame y
  | quiet (event : LocalEvent) (y : Conn) (h : Quiet x y) : SideStep x event y

section Packets

theorem Plain.type {packet : CustomPacket} (h : Plain packet) :
    packet.type = "chat" ∨ packet.type = "unit" := by
  rcases h with h | ⟨m, rfl⟩
  · exact Or.inl h
  · exact Or.inr (Msg.packet_type m)

theorem Plain.isForwarded {packet : CustomPacket} (h : Plain packet) :
    Server.isForwarded packet.type = true := by
  rcases h.type with h | h <;> simp [Server.isForwarded, h]

theorem Plain.of_unit {packet : CustomPacket} (h : Plain packet) (hunit : isUnit packet = true) :
    ∃ m : Msg, packet = m.packet := by
  rcases h with h | h
  · simp [isUnit, h] at hunit
  · exact h

@[simp] theorem isUnit_packet (m : Msg) : isUnit m.packet = true := by
  simp [isUnit]

theorem filter_isUnit_packets (msgs : List Msg) :
    (msgs.map Msg.packet).filter isUnit = msgs.map Msg.packet := by
  apply List.filter_eq_self.mpr
  intro packet hpacket
  obtain ⟨m, -, rfl⟩ := List.mem_map.mp hpacket
  exact isUnit_packet m

theorem Plain.nulFree {packet : CustomPacket} (h : Plain packet) (hother : packet.type ≠ "chat") :
    packet.NulFree := by
  obtain ⟨m, rfl⟩ := h.resolve_left hother
  exact Msg.nulFree_packet m

theorem Plain.read {packet msg : CustomPacket} (h : Plain packet)
    (hread : CustomPacket.ofData packet.data = some msg) :
    Plain msg ∧ [msg].filter isUnit = [packet].filter isUnit := by
  rcases CustomPacket.eq_or_chat h.nulFree hread with rfl | ⟨hchat, htype⟩
  · exact ⟨h, rfl⟩
  · exact ⟨Or.inl htype, by simp [isUnit, hchat, htype]⟩

theorem exists_msgs {packets : List CustomPacket}
    (h : ∀ packet ∈ packets, ∃ m : Msg, packet = m.packet) :
    ∃ msgs : List Msg, packets = msgs.map Msg.packet := by
  obtain ⟨msgs, hmsgs, -⟩ := @Msg.exists_list (fun _ => True) packets fun packet hpacket =>
    (h packet hpacket).imp fun _ hm => ⟨hm, trivial⟩
  exact ⟨msgs, hmsgs⟩

end Packets

section Steps

variable {label : PlayerTurn}

theorem idOf_team (hlabel : label ≠ .none) {scene : GameScene}
    (huserID : scene.client.userID = -1 ∨ scene.client.userID = idOf label)
    (hteam : scene.assignedTeam = .none ∨ scene.assignedTeam = label) :
    scene.begun.assignedTeam = .none ∨ scene.begun.assignedTeam = label := by
  unfold GameScene.begun GameScene.assignTeam
  rcases hteam with hteam | hteam
  · rcases huserID with hid | hid
    · left
      simp [hid, hteam]
    · right
      cases label with
      | none => exact absurd rfl hlabel
      | player1 => simp [hid, hteam, idOf]
      | player2 => simp [hid, hteam, idOf]
  · right
    cases label with
    | none => exact absurd rfl hlabel
    | player1 => simp [hteam]
    | player2 => simp [hteam]

theorem Side.closed_send {conn : Conn} (h : Side label conn) :
    conn.scene.sendsSnapshot = false := by
  simp [GameScene.sendsSnapshot, h.notReconnecting]

theorem Side.closed_adopt {conn : Conn} (h : Side label conn) :
    conn.scene.adoptsSnapshot = false := by
  simp [GameScene.adoptsSnapshot, h.notReconnecting]

theorem Side.queue_msgs {conn : Conn} (h : Side label conn) :
    ∃ msgs : List Msg, conn.scene.client.unitUpdateQueue = msgs.map Msg.packet :=
  exists_msgs h.queue

theorem otherTurn_ne_none {turn : PlayerTurn} (h : turn ≠ .none) :
    GameScene.otherTurn turn ≠ .none := by
  cases turn <;> simp [GameScene.otherTurn] at h ⊢

theorem onTurn_ne_none {turn : PlayerTurn} (h : turn ≠ .none) (msgs : List Msg) :
    msgs.foldl Msg.onTurn turn ≠ .none := by
  induction msgs generalizing turn with
  | nil => exact h
  | cons m msgs ih =>
      apply ih
      cases m with
      | unit => exact h
      | endgame => exact h
      | endturn => exact otherTurn_ne_none h

/-- Only the other side's turn lets a frame drain. -/
theorem awaits_label {scene : GameScene}
    (hteam : scene.assignedTeam = .none ∨ scene.assignedTeam = label) (h : scene.awaits) :
    scene.playerTurn = GameScene.otherTurn label := by
  rcases h with ⟨hturn, h⟩ | ⟨hturn, h⟩
  · rcases hteam with hteam | hteam
    · exact absurd (h.symm.trans hteam) (by simp)
    · rw [hturn, ← hteam, h]
      rfl
  · rcases hteam with hteam | hteam
    · exact absurd (h.symm.trans hteam) (by simp)
    · rw [hturn, ← hteam, h]
      rfl

theorem Quiet.effect {x y : Conn} (h : Quiet x y) : Effect label x y :=
  .quiet h.incoming h.outgoing h.board h.flags h.select h.turn h.outcome

theorem Drained.awaits (hlabel : label ≠ .none) {x y : Conn} (hside : Side label x)
    (h : Drained x y) : x.scene.playerTurn = GameScene.otherTurn label := by
  have hteam := idOf_team hlabel hside.userID hside.team
  rw [← GameScene.begun_playerTurn]
  exact awaits_label hteam h.drains.2.2

theorem Drained.effect (hlabel : label ≠ .none) {x y : Conn} (hside : Side label x)
    (h : Drained x y) : Effect label x y :=
  .drained (h.awaits hlabel hside) h.drains.2.1 h.incoming h.outgoing h.flags h.select h.read

theorem Side.drain (hlabel : label ≠ .none) {conn : Conn} (h : Side label conn)
    {scene : GameScene} (hdrains : conn.scene.Drains)
    (hdrain : conn.scene.begun.unitsUpdate.unitNetworkUpdate = .ok scene) :
    Side label { conn with scene := scene } ∧ Drained conn { conn with scene := scene } := by
  have hbegun : conn.scene.begun.unitsUpdate.client = conn.scene.client := by
    simp [GameScene.unitsUpdate]
  have hread (msgs : List Msg)
      (hmsgs : conn.scene.client.unitUpdateQueue = msgs.map Msg.packet) :=
    GameScene.drain_spec (hbegun ▸ hmsgs) hdrain
  obtain ⟨msgs, hmsgs⟩ := h.queue_msgs
  obtain ⟨hclient, -, hflags, hselect, hturn, -, hassigned⟩ := hread msgs hmsgs
  rw [hbegun] at hclient
  refine ⟨?_, hdrains, ?_, ?_, ?_, ?_, ?_⟩
  · refine ⟨h.mapped, ?_, ?_, ?_, ?_, ?_, ?_, ?_, ?_⟩
    · simpa [Conn.unhandled, hclient] using h.unhandled
    · simpa [hclient] using h.inbox
    · simp [hclient]
    · simpa [hclient] using h.notReconnecting
    · simpa [hclient] using h.notUpdated
    · simpa [hclient] using h.userID
    · rw [hassigned]
      exact idOf_team hlabel h.userID h.team
    · simp only [hturn]
      exact onTurn_ne_none (by simpa [GameScene.unitsUpdate] using h.turn) msgs
  · simp [Conn.incoming, hclient, hmsgs, filter_isUnit_packets]
  · simp [Conn.outgoing, Conn.unhandled, hclient]
  · intro ref
    rw [hflags ref, GameScene.unitsUpdate_hasChanged, GameScene.begun_units]
  · rw [hselect]
    simp [GameScene.unitsUpdate]
  · intro msgs hmsgs
    obtain ⟨-, hboard, -, -, hturn, houtcome, -⟩ := hread msgs hmsgs
    refine ⟨by simpa using hboard, ?_, ?_⟩
    · rw [hturn]
      simp [GameScene.unitsUpdate]
    · rw [houtcome]
      simp [GameScene.unitsUpdate, GameScene.outcome]

theorem Side.frame (hlabel : label ≠ .none) {conn : Conn} (h : Side label conn)
    {scene : GameScene} (hframe : conn.scene.Frame scene) :
    Side label { conn with scene := scene } ∧
      (Quiet conn { conn with scene := scene } ∨ Drained conn { conn with scene := scene }) := by
  have hteam := idOf_team hlabel h.userID h.team
  have hquiet (scene : GameScene) (hclient : scene.client = conn.scene.client)
      (hboard : scene.board = conn.scene.board)
      (hflags : ∀ ref, (scene.units.get ref).hasChanged = (conn.scene.units.get ref).hasChanged)
      (hselect : scene.select = conn.scene.select)
      (hturn : scene.playerTurn = conn.scene.playerTurn)
      (houtcome : scene.outcome = conn.scene.outcome)
      (hassigned : scene.assignedTeam = conn.scene.begun.assignedTeam) :
      Side label { conn with scene := scene } ∧
        (Quiet conn { conn with scene := scene } ∨ Drained conn { conn with scene := scene }) := by
    refine ⟨?_, Or.inl ⟨?_, ?_, hboard, hflags, hselect, hturn, houtcome⟩⟩
    · refine ⟨h.mapped, ?_, ?_, ?_, ?_, ?_, ?_, ?_, ?_⟩
      · simpa [Conn.unhandled, hclient] using h.unhandled
      · simpa [hclient] using h.inbox
      · simpa [hclient] using h.queue
      · simpa [hclient] using h.notReconnecting
      · simpa [hclient] using h.notUpdated
      · simpa [hclient] using h.userID
      · simpa [hassigned] using hteam
      · simpa [hturn] using h.turn
    · simp [Conn.incoming, hclient]
    · simp [Conn.outgoing, Conn.unhandled, hclient]
  cases hframe with
  | idle => exact hquiet _ (by simp) (by simp) (by simp) (by simp) (by simp) (by simp) rfl
  | send hsend => exact absurd (hsend.symm.trans h.closed_send) (by simp)
  | adopt hadopt => exact absurd (hadopt.symm.trans h.closed_adopt) (by simp)
  | finished => exact hquiet _ (by simp) (by simp) (by simp) (by simp) (by simp) (by simp) rfl
  | wait =>
      refine hquiet _ (by simp [GameScene.unitsUpdate]) (by simp) ?_ ?_ ?_ ?_ rfl
      · intro ref
        rw [GameScene.unitsUpdate_hasChanged, GameScene.begun_units]
      · simp [GameScene.unitsUpdate]
      · simp [GameScene.unitsUpdate]
      · simp [GameScene.unitsUpdate, GameScene.outcome]
  | drain closed hfinished hwait _ hdrain =>
      obtain ⟨hside, hdrained⟩ := h.drain hlabel ⟨closed, hfinished, hwait⟩ hdrain
      exact ⟨hside, Or.inr hdrained⟩

theorem Side.send {conn : Conn} (h : Side label conn) {packet msg : CustomPacket}
    {rest : List CustomPacket} (hqueue : conn.scene.client.sendingQueue = packet :: rest)
    (hread : CustomPacket.ofData packet.data = some msg) {after : Conn}
    (hafter : after = { conn with
      up := conn.up ++ [msg]
      scene := conn.scene.withClient { conn.scene.client with sendingQueue := rest } }) :
    Side label after ∧ Quiet conn after := by
  subst hafter
  have hpacket : Plain packet := h.unhandled packet (by simp [Conn.unhandled, hqueue])
  obtain ⟨hmsg, hsame⟩ := hpacket.read hread
  refine ⟨{ h with unhandled := ?_ }, ⟨rfl, ?_, rfl, fun _ => rfl, rfl, rfl, rfl⟩⟩
  · intro p hp
    simp only [Conn.unhandled, GameScene.withClient, List.append_assoc, List.singleton_append,
      List.mem_append, List.mem_cons] at hp
    rcases hp with hp | rfl | hp
    · exact h.unhandled p (by simp [Conn.unhandled, hp])
    · exact hmsg
    · exact h.unhandled p (by simp [Conn.unhandled, hqueue, hp])
  · simp only [Conn.outgoing, Conn.unhandled, GameScene.withClient, hqueue,
      List.filter_append, hsame]
    rw [List.append_assoc, ← List.filter_append]
    rfl

theorem Side.receive {conn : Conn} (h : Side label conn) {packet : CustomPacket}
    {rest : List CustomPacket} (hdown : conn.down = packet :: rest) {after : Conn}
    (hafter : after = { conn with
      down := rest
      scene := conn.scene.withClient { conn.scene.client with
        recievedQueue := conn.scene.client.recievedQueue ++ [packet] } }) :
    Side label after ∧ Quiet conn after := by
  subst hafter
  refine ⟨{ h with inbox := ?_ }, ⟨?_, rfl, rfl, fun _ => rfl, rfl, rfl, rfl⟩⟩
  · intro p hp
    apply h.inbox p
    simpa [GameScene.withClient, hdown] using hp
  · simp [Conn.incoming, GameScene.withClient, hdown]

/-- Dispatching anything but a unit packet leaves what is still to come. -/
theorem incoming_dispatched {conn : Conn} {packet : CustomPacket} {rest : List CustomPacket}
    {client : ClientComponent} (hqueue : conn.scene.client.recievedQueue = packet :: rest)
    (hnot : packet.type ≠ "unit")
    (hupdates : client.unitUpdateQueue = conn.scene.client.unitUpdateQueue)
    (hreceived : client.recievedQueue = rest) :
    Conn.incoming { conn with
      dispatched := conn.dispatched ++ [packet]
      scene := conn.scene.withClient client } = conn.incoming := by
  have hdrop : ((packet :: rest) ++ conn.down).filter isUnit =
      (rest ++ conn.down).filter isUnit := by simp [isUnit, hnot]
  simp only [Conn.incoming, GameScene.withClient, hupdates, hreceived, hqueue,
    List.append_assoc, List.filter_append] at hdrop ⊢
  rw [hdrop]

theorem Side.dispatch {conn : Conn} (h : Side label conn)
    {packet : CustomPacket} {rest : List CustomPacket} {client : ClientComponent}
    (hqueue : conn.scene.client.recievedQueue = packet :: rest)
    (hread : ({ conn.scene.client with recievedQueue := rest }).Processed packet client)
    {after : Conn} (hafter : after = { conn with
      dispatched := conn.dispatched ++ [packet]
      scene := conn.scene.withClient client }) :
    Side label after ∧ Quiet conn after := by
  subst hafter
  have harrived := h.inbox packet (by simp [hqueue])
  have hinbox : ∀ p ∈ rest ++ conn.down,
      Plain p ∨ p = Server.initPacket (idOf label) ∨ p = Server.startPacket := by
    intro p hp
    apply h.inbox p
    simp only [List.mem_append] at hp ⊢
    rw [hqueue]
    exact hp.imp_left (List.mem_cons_of_mem _)
  have htype : packet.type = "chat" ∨ packet.type = "unit" ∨ packet.type = "init" ∨
      packet.type = "start" := by
    rcases harrived with hplain | rfl | rfl
    · exact hplain.type.imp_right Or.inl
    · exact Or.inr (Or.inr (Or.inl rfl))
    · exact Or.inr (Or.inr (Or.inr rfl))
  cases hread with
  | ignored hother =>
      have hnot : packet.type ≠ "unit" := by
        intro hunit
        exact hother (by simp [hunit])
      exact ⟨{ h with inbox := hinbox },
        ⟨incoming_dispatched hqueue hnot rfl rfl, rfl, rfl, fun _ => rfl, rfl, rfl, rfl⟩⟩
  | init hinit id hid =>
      have hvalue : id = idOf label := by
        rcases harrived with hplain | rfl | rfl
        · rcases hplain.type with h | h <;> simp [h] at hinit
        · rw [Server.initPacket, CustomPacket.toInt_toString] at hid
          split at hid
          · exact (Except.ok.inj hid).symm
          · cases hid
        · simp [Server.startPacket] at hinit
      have hnot : packet.type ≠ "unit" := by simp [hinit]
      exact ⟨{ h with inbox := hinbox, userID := Or.inr hvalue },
        ⟨incoming_dispatched hqueue hnot rfl rfl, rfl, rfl, fun _ => rfl, rfl, rfl, rfl⟩⟩
  | unit hunit =>
      have hmsg : ∃ m : Msg, packet = m.packet := by
        rcases harrived with hplain | rfl | rfl
        · exact hplain.of_unit (by simp [isUnit, hunit])
        · simp [Server.initPacket] at hunit
        · simp [Server.startPacket] at hunit
      refine ⟨{ h with inbox := hinbox, queue := ?_ },
        ⟨?_, rfl, rfl, fun _ => rfl, rfl, rfl, rfl⟩⟩
      · intro p hp
        simp only [GameScene.withClient, List.mem_append, List.mem_singleton] at hp
        rcases hp with hp | rfl
        · exact h.queue p hp
        · exact hmsg
      · simp [Conn.incoming, GameScene.withClient, hqueue]
  | start hstart =>
      have hnot : packet.type ≠ "unit" := by simp [hstart]
      exact ⟨{ h with inbox := hinbox },
        ⟨incoming_dispatched hqueue hnot rfl rfl, rfl, rfl, fun _ => rfl, rfl, rfl, rfl⟩⟩
  | turn hother => simp [hother] at htype
  | player hother => simp [hother] at htype
  | reconnecting hother => simp [hother] at htype
  | resumed hother => simp [hother] at htype
  | dataSender hother => simp [hother] at htype
  | ready hother => simp [hother] at htype
  | updateComplete hother => simp [hother] at htype

theorem Side.click {conn : Conn} (h : Side label conn)
    {scene : GameScene} (hclick : conn.scene.Click scene) :
    Side label { conn with scene := scene } ∧
      Effect label conn { conn with scene := scene } := by
  cases hclick with
  | ignored => exact ⟨h, .quiet rfl rfl rfl (fun _ => rfl) rfl rfl rfl⟩
  | ended undefinedReturn hopen hturn =>
      have hteam : conn.scene.assignedTeam = label := by
        rcases h.team with hnone | hteam
        · exact absurd (hturn.trans hnone) h.turn
        · exact hteam
      have hunits : ((conn.scene.turnMsgs undefinedReturn).map Msg.packet).filter isUnit =
          (conn.scene.turnMsgs undefinedReturn).map Msg.packet := filter_isUnit_packets _
      refine ⟨?_, .ended undefinedReturn (hturn.trans hteam) hteam ?_ ?_ rfl⟩
      · rw [GameScene.endTurn_eq]
        refine { h with unhandled := ?_, turn := otherTurn_ne_none h.turn }
        intro p hp
        simp only [Conn.unhandled, ClientComponent.push, List.mem_append, List.mem_map] at hp
        rcases hp with hp | hp | ⟨m, -, rfl⟩
        · exact h.unhandled p (by simp [Conn.unhandled, hp])
        · exact h.unhandled p (by simp [Conn.unhandled, hp])
        · exact Or.inr ⟨m, rfl⟩
      · rw [GameScene.endTurn_eq]
        rfl
      · rw [GameScene.endTurn_eq]
        simp only [Conn.outgoing, Conn.unhandled, ClientComponent.push, List.filter_append, hunits,
          List.append_assoc]
  | moved hopen _ hselect hmoved =>
      have hside : Side label { conn with scene := scene } := by
        rw [hmoved.rest]
        exact { h with }
      refine ⟨hside, .moved ?_ ?_ ?_ hmoved⟩
      · rcases hselect with hturn | hselect
        · left
          rcases h.team with hnone | hteam
          · exact absurd (hturn.trans hnone) h.turn
          · exact hturn.trans hteam
        · exact Or.inr hselect
      · rw [hmoved.rest]
        rfl
      · rw [hmoved.rest]
        rfl

theorem Side.enter {conn : Conn} (h : Side label conn)
    {scene : GameScene} (henter : conn.scene.Enter scene) :
    Side label { conn with scene := scene } ∧
      Quiet conn { conn with scene := scene } := by
  cases henter with
  | ignored => exact ⟨h, ⟨rfl, rfl, rfl, fun _ => rfl, rfl, rfl, rfl⟩⟩
  | named hopen username =>
      exact ⟨{ h with }, ⟨rfl, rfl, rfl, fun _ => rfl, rfl, rfl, rfl⟩⟩
  | chat hopen line hchat =>
      refine ⟨{ h with unhandled := ?_ }, ⟨rfl, ?_, rfl, fun _ => rfl, rfl, rfl, rfl⟩⟩
      · intro p hp
        simp only [Conn.unhandled, GameScene.push, ClientComponent.push, List.mem_append,
          List.mem_singleton] at hp
        rcases hp with hp | hp | rfl
        · exact h.unhandled p (by simp [Conn.unhandled, hp])
        · exact h.unhandled p (by simp [Conn.unhandled, hp])
        · exact Or.inl hchat
      · simp [Conn.outgoing, Conn.unhandled, GameScene.push, ClientComponent.push, isUnit, hchat]

/-- Every step of a client keeps its side and has one of the four effects. -/
theorem Side.step (hlabel : label ≠ .none) {clicks : Bool} {conn after : Conn}
    (h : Side label conn) (hstep : conn.Local clicks after) :
    Side label after ∧ Effect label conn after := by
  have hkept {after : Conn} (hquiet : Side label after ∧ Quiet conn after) :
      Side label after ∧ Effect label conn after := ⟨hquiet.1, hquiet.2.effect⟩
  cases hstep with
  | send packet msg rest hqueue hread => exact hkept (h.send hqueue hread rfl)
  | receive packet rest hdown => exact hkept (h.receive hdown rfl)
  | dispatch packet rest client hqueue hread =>
      exact hkept (h.dispatch hqueue
        (ClientComponent.processRecievedPackets_processed hread) rfl)
  | frame scene hframe =>
      obtain ⟨hside, hquiet | hdrained⟩ := h.frame hlabel hframe
      · exact ⟨hside, hquiet.effect⟩
      · exact ⟨hside, hdrained.effect hlabel h⟩
  | click scene _ hclick => exact h.click hclick
  | enter scene henter => exact hkept (h.enter henter)

/-- What an event of a client amounts to. -/
theorem Side.sideStep (hlabel : label ≠ .none) {event : LocalEvent} {conn after : Conn}
    (h : Side label conn) (hstep : conn.step event = some after) : SideStep conn event after := by
  cases event with
  | send =>
      obtain ⟨packet, msg, rest, hqueue, hread, hafter⟩ := sendFrontOfQueue_eq_some hstep
      exact .quiet _ _ (h.send hqueue hread hafter).2
  | receive =>
      obtain ⟨packet, rest, hdown, hafter⟩ := onData_eq_some hstep
      exact .quiet _ _ (h.receive hdown hafter).2
  | dispatch =>
      obtain ⟨packet, rest, client, hqueue, hread, hafter⟩ := dispatch_eq_some hstep
      exact .quiet _ _ (h.dispatch hqueue
        (ClientComponent.processRecievedPackets_processed hread) hafter).2
  | frame =>
      obtain ⟨scene, hscene, rfl⟩ := Option.map_eq_some_iff.mp hstep
      obtain ⟨-, hquiet | hdrained⟩ :=
        h.frame hlabel (GameScene.update_frame (toOption_eq_some hscene))
      · exact .quiet _ _ hquiet
      · exact .drained _ hdrained
  | click undefinedReturn xpos ypos =>
      obtain ⟨scene, hscene, rfl⟩ := Option.map_eq_some_iff.mp hstep
      exact .clicked undefinedReturn xpos ypos scene (toOption_eq_some hscene)
  | enter str =>
      obtain rfl := Option.some.inj hstep
      exact .quiet _ _ (h.enter (GameScene.enterPressed_enter str conn.scene)).2

/-- The server only passes packets of a side on. -/
theorem Side.serve {other : PlayerTurn} {x y x' y' : Conn} (hx : Side label x)
    (hy : Side other y) (huid : x.uid ≠ y.uid) (h : Serve x y x' y') :
    (Side label x' ∧ Side other y') ∧ (x'.uid = x.uid ∧ y'.uid = y.uid) ∧
      (x'.scene = x.scene ∧ y'.scene = y.scene) ∧
      (transit x' y' = transit x y ∧ transit y' x' = transit y x) := by
  have hreaches : x.reaches y = true := by
    simp [Conn.reaches, hy.mapped, huid.symm]
  cases h with
  | forward msg rest hup hforward =>
      have hmsg : Plain msg := hx.unhandled msg (by simp [Conn.unhandled, hup])
      refine ⟨⟨{ hx with unhandled := ?_ }, { hy with inbox := ?_ }⟩, ⟨rfl, rfl⟩, ⟨rfl, rfl⟩,
        ?_, ?_⟩
      · intro p hp
        apply hx.unhandled p
        simp only [Conn.unhandled, List.mem_append] at hp ⊢
        rw [hup]
        exact hp.imp_left (List.mem_cons_of_mem _)
      · intro p hp
        simp only [hreaches, if_true, List.mem_append, List.mem_singleton] at hp
        rcases hp with hp | hp | rfl
        · exact hy.inbox p (by simp [hp])
        · exact hy.inbox p (by simp [hp])
        · exact Or.inl hmsg
      · simp only [transit, Conn.incoming, Conn.outgoing, Conn.unhandled, hreaches, if_true, hup,
          List.append_assoc, ← List.filter_append, List.cons_append,
          List.nil_append]
      · rfl
  | resume msg rest hup hresume =>
      have hmsg : Plain msg := hx.unhandled msg (by simp [Conn.unhandled, hup])
      rcases hmsg.type with h | h <;> simp [h] at hresume
  | dropped msg rest hup hforward =>
      have hmsg : Plain msg := hx.unhandled msg (by simp [Conn.unhandled, hup])
      exact absurd (hmsg.isForwarded.symm.trans hforward) (by simp)

end Steps

end Conn

end NetworkingGame
