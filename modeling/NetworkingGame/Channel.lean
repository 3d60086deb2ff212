import NetworkingGame.Stage

/-!
The packets of the game on their way between two clients, whatever went on
before: what a client can write, the queue of game packets from one client to
the other, and what a step of a client or of the server does to that queue.
-/

namespace NetworkingGame

namespace GameScene

/-- What a frame writes: nothing, a snapshot or a `resume`. -/
theorem Frame.sendingQueue {scene after : GameScene} (h : Frame scene after) :
    ∃ packets, after.client.sendingQueue = scene.client.sendingQueue ++ packets ∧
      (packets = [] ∨
        (scene.sendsSnapshot = true ∧ ∃ gameTurn, scene.whichTurn = .ok gameTurn ∧
          packets = scene.begun.snapshot gameTurn) ∨
        (scene.adoptsSnapshot = true ∧ packets = [resumePacket])) := by
  rcases h.client_cases with hclient | ⟨hsend, gameTurn, hturn, hclient⟩ |
    ⟨hadopt, hclient⟩ | ⟨-, hclient⟩
  · exact ⟨[], by simp [hclient], Or.inl rfl⟩
  · refine ⟨_, ?_, Or.inr (Or.inl ⟨hsend, gameTurn, hturn, rfl⟩)⟩
    rw [hclient]
    rfl
  · refine ⟨_, ?_, Or.inr (Or.inr ⟨hadopt, rfl⟩)⟩
    rw [hclient]
    rfl
  · exact ⟨[], by simp [hclient], Or.inl rfl⟩

/-- The scene without the queues of its network thread and the user name. -/
def core (scene : GameScene) : GameScene :=
  scene.withClient { scene.client with sendingQueue := [], recievedQueue := [], username := "" }

end GameScene

namespace Conn

/-- What a client can write. -/
inductive Written : CustomPacket → Prop
  | chat (packet : CustomPacket) (htype : packet.type = "chat") : Written packet
  | msg (m : Msg) : Written m.packet
  | player (team : Int) (hteam : team = 1 ∨ team = 2) : Written (GameScene.playerPacket team)
  | turn (gameTurn : Int) (hturn : gameTurn = 1 ∨ gameTurn = 2) :
      Written (GameScene.turnPacket gameTurn)
  | updateComplete : Written GameScene.updateCompletePacket
  | resume : Written GameScene.resumePacket

/-- The forwarded packets that the game acts on. -/
def isGame (packet : CustomPacket) : Bool :=
  packet.type = "unit" || packet.type = "turn" || packet.type = "player" ||
    packet.type = "update_complete"

/-- What a client was sent and has not taken in. -/
def inbox (conn : Conn) : List CustomPacket := conn.scene.client.recievedQueue ++ conn.down

def outbox (conn : Conn) : List CustomPacket := conn.unhandled.filter isGame

/-- What of it the server will forward to `y`. -/
def toward (x y : Conn) : List CustomPacket := if x.reaches y then x.outbox else []

/-- The game packets on their way from `x` to `y`, oldest first. -/
def flow (x y : Conn) : List CustomPacket := y.inbox.filter isGame ++ x.toward y

def types (packets : List CustomPacket) : List String := packets.map CustomPacket.type

/-- Some `resume` of the client has not been handled. -/
def resumes (conn : Conn) : Prop := "resume" ∈ types conn.unhandled

section Packets

theorem isForwarded_eq (packet : CustomPacket) :
    Server.isForwarded packet.type = (decide (packet.type = "chat") || isGame packet) := by
  simp only [Server.isForwarded, isGame, Bool.or_assoc]

theorem type_ne_of_not_isGame {packet : CustomPacket} (h : isGame packet = false) :
    packet.type ≠ "unit" ∧ packet.type ≠ "turn" ∧ packet.type ≠ "player" ∧
      packet.type ≠ "update_complete" := by
  simpa [isGame, and_assoc] using h

@[simp] theorem isGame_packet (m : Msg) : isGame m.packet = true := by
  simp [isGame]

@[simp] theorem isGame_completed : isGame Server.completedPacket = false := by decide

@[simp] theorem isGame_ready : isGame Server.readyPacket = false := by decide

@[simp] theorem isGame_dataSender : isGame Server.dataSenderPacket = false := by decide

@[simp] theorem isGame_recon : isGame Server.reconPacket = false := by decide

@[simp] theorem isGame_start : isGame Server.startPacket = false := by decide

@[simp] theorem isGame_init (id : Int) : isGame (Server.initPacket id) = false := by
  simp [isGame, Server.initPacket]

@[simp] theorem isGame_resume : isGame GameScene.resumePacket = false := by decide

@[simp] theorem isGame_player (team : Int) : isGame (GameScene.playerPacket team) = true := by
  simp [isGame, GameScene.playerPacket]

@[simp] theorem isGame_turn (gameTurn : Int) : isGame (GameScene.turnPacket gameTurn) = true := by
  simp [isGame, GameScene.turnPacket]

@[simp] theorem isGame_updateComplete : isGame GameScene.updateCompletePacket = true := by
  decide

theorem filter_isGame_packets (msgs : List Msg) :
    (msgs.map Msg.packet).filter isGame = msgs.map Msg.packet := by
  apply List.filter_eq_self.mpr
  intro packet hpacket
  obtain ⟨m, -, rfl⟩ := List.mem_map.mp hpacket
  exact isGame_packet m

theorem reaches_congr {x y x' y' : Conn} (hx : x'.uid = x.uid) (hy : y'.uid = y.uid)
    (hmapped : y'.inPeerMap = y.inPeerMap) : x'.reaches y' = x.reaches y := by
  rw [reaches, reaches, hx, hy, hmapped]

theorem mem_types {type : String} {packets : List CustomPacket} :
    type ∈ types packets ↔ ∃ packet ∈ packets, packet.type = type := List.mem_map

@[simp] theorem types_append (first second : List CustomPacket) :
    types (first ++ second) = types first ++ types second := List.map_append

@[simp] theorem types_nil : types [] = [] := rfl

@[simp] theorem types_cons (packet : CustomPacket) (packets : List CustomPacket) :
    types (packet :: packets) = packet.type :: types packets := rfl

theorem updateComplete_mem_filter {packets : List CustomPacket} :
    "update_complete" ∈ types (packets.filter isGame) ↔ "update_complete" ∈ types packets := by
  simp only [mem_types, List.mem_filter]
  constructor
  · rintro ⟨packet, ⟨hpacket, -⟩, htype⟩
    exact ⟨packet, hpacket, htype⟩
  · rintro ⟨packet, hpacket, htype⟩
    exact ⟨packet, ⟨hpacket, by simp [isGame, htype]⟩, htype⟩

theorem not_mem_types_packets (msgs : List Msg) {type : String} (h : type ≠ "unit") :
    type ∉ types (msgs.map Msg.packet) := by
  intro hmem
  obtain ⟨packet, hpacket, rfl⟩ := mem_types.mp hmem
  obtain ⟨m, -, rfl⟩ := List.mem_map.mp hpacket
  exact h (Msg.packet_type m)

theorem Written.nulFree {packet : CustomPacket} (h : Written packet)
    (hother : packet.type ≠ "chat") : packet.NulFree := by
  cases h with
  | chat _ htype => exact absurd htype hother
  | msg m => exact Msg.nulFree_packet m
  | player team hteam =>
      rcases hteam with rfl | rfl <;> exact ⟨by decide, by decide, by decide +kernel⟩
  | turn gameTurn hturn =>
      rcases hturn with rfl | rfl <;> exact ⟨by decide, by decide, by decide +kernel⟩
  | updateComplete => exact ⟨by decide, by decide, by decide⟩
  | resume => exact ⟨by decide, by decide, by decide⟩

theorem Written.read {packet msg : CustomPacket} (h : Written packet)
    (hread : CustomPacket.ofData packet.data = some msg) :
    Written msg ∧ msg.type = packet.type ∧ [msg].filter isGame = [packet].filter isGame := by
  rcases CustomPacket.eq_or_chat h.nulFree hread with rfl | ⟨hchat, htype⟩
  · exact ⟨h, rfl, rfl⟩
  · exact ⟨.chat _ htype, htype.trans hchat.symm, by simp [isGame, hchat, htype]⟩

theorem Written.of_turn {packet : CustomPacket} (h : Written packet)
    (htype : packet.type = "turn") :
    ∃ gameTurn, packet = GameScene.turnPacket gameTurn ∧ (gameTurn = 1 ∨ gameTurn = 2) := by
  cases h with
  | chat _ hchat => simp [hchat] at htype
  | msg m => simp at htype
  | player team => simp [GameScene.playerPacket] at htype
  | turn gameTurn hturn => exact ⟨gameTurn, rfl, hturn⟩
  | updateComplete => simp [GameScene.updateCompletePacket] at htype
  | resume => simp [GameScene.resumePacket] at htype

theorem Written.of_player {packet : CustomPacket} (h : Written packet)
    (htype : packet.type = "player") :
    ∃ team, packet = GameScene.playerPacket team ∧ (team = 1 ∨ team = 2) := by
  cases h with
  | chat _ hchat => simp [hchat] at htype
  | msg m => simp at htype
  | player team hteam => exact ⟨team, rfl, hteam⟩
  | turn gameTurn => simp [GameScene.turnPacket] at htype
  | updateComplete => simp [GameScene.updateCompletePacket] at htype
  | resume => simp [GameScene.resumePacket] at htype

theorem Written.of_unit {packet : CustomPacket} (h : Written packet)
    (htype : packet.type = "unit") : ∃ m : Msg, packet = m.packet := by
  cases h with
  | chat _ hchat => simp [hchat] at htype
  | msg m => exact ⟨m, rfl⟩
  | player team => simp [GameScene.playerPacket] at htype
  | turn gameTurn => simp [GameScene.turnPacket] at htype
  | updateComplete => simp [GameScene.updateCompletePacket] at htype
  | resume => simp [GameScene.resumePacket] at htype

theorem Written.of_updateComplete {packet : CustomPacket} (h : Written packet)
    (htype : packet.type = "update_complete") : packet = GameScene.updateCompletePacket := by
  cases h with
  | chat _ hchat => simp [hchat] at htype
  | msg m => simp at htype
  | player team => simp [GameScene.playerPacket] at htype
  | turn gameTurn => simp [GameScene.turnPacket] at htype
  | updateComplete => rfl
  | resume => simp [GameScene.resumePacket] at htype

end Packets

section Snapshot

open GameScene

/-- All eight units, as the snapshot lists them. -/
def unitMsgs (scene : GameScene) : List Msg :=
  UnitRef.all.map fun ref => Msg.ofUnit ref (scene.units.get ref)

/-- A snapshot without the packet that ends it. -/
def batch (scene : GameScene) (gameTurn : Int) : List CustomPacket :=
  playerPacket scene.opponentTeam :: turnPacket gameTurn :: (unitMsgs scene).map Msg.packet

theorem snapshot_eq (scene : GameScene) (gameTurn : Int) :
    scene.snapshot gameTurn = batch scene gameTurn ++ [updateCompletePacket] := by
  simp only [snapshot, batch, unitMsgs, allUnits, List.map_map]
  rfl

theorem opponentTeam_cases (scene : GameScene) :
    scene.opponentTeam = 1 ∨ scene.opponentTeam = 2 := by
  unfold opponentTeam
  split
  · exact Or.inr rfl
  · exact Or.inl rfl

theorem whichTurn_cases {scene : GameScene} {gameTurn : Int}
    (h : scene.whichTurn = .ok gameTurn) :
    (gameTurn = 1 ∧ scene.playerTurn = .player1) ∨
      (gameTurn = 2 ∧ scene.playerTurn = .player2) := by
  unfold whichTurn at h
  split at h
  · rename_i hturn
    exact Or.inl ⟨(Except.ok.inj h).symm, hturn⟩
  · rename_i hturn
    exact Or.inr ⟨(Except.ok.inj h).symm, hturn⟩
  · cases h

theorem written_batch {scene : GameScene} {gameTurn : Int} (h : gameTurn = 1 ∨ gameTurn = 2) :
    ∀ packet ∈ batch scene gameTurn, Written packet := by
  intro packet hpacket
  simp only [batch, List.mem_cons, List.mem_map] at hpacket
  rcases hpacket with rfl | rfl | ⟨m, -, rfl⟩
  · exact .player _ (opponentTeam_cases scene)
  · exact .turn _ h
  · exact .msg m

theorem isGame_batch {scene : GameScene} {gameTurn : Int} :
    ∀ packet ∈ batch scene gameTurn, isGame packet = true := by
  intro packet hpacket
  simp only [batch, List.mem_cons, List.mem_map] at hpacket
  rcases hpacket with rfl | rfl | ⟨m, -, rfl⟩
  · exact isGame_player _
  · exact isGame_turn _
  · exact isGame_packet m

theorem types_batch (scene : GameScene) (gameTurn : Int) :
    "update_complete" ∉ types (batch scene gameTurn) := by
  intro hmem
  simp only [batch, types_cons, List.mem_cons] at hmem
  rcases hmem with h | h | h
  · simp [playerPacket] at h
  · simp [turnPacket] at h
  · exact not_mem_types_packets _ (by simp) h

theorem filter_isGame_snapshot (scene : GameScene) (gameTurn : Int) :
    (scene.snapshot gameTurn).filter isGame = scene.snapshot gameTurn := by
  rw [snapshot_eq, List.filter_append, List.filter_eq_self.mpr isGame_batch]
  simp

end Snapshot

section Deeds

/-- What sending, receiving, chatting and an ignored click have in common. -/
structure Same (x x' : Conn) : Prop where
  core : x'.scene.core = x.scene.core
  inbox : x'.inbox = x.inbox
  dispatched : x'.dispatched = x.dispatched
  outbox : x'.outbox = x.outbox
  resumes : x'.resumes ↔ x.resumes
  uid : x'.uid = x.uid
  mapped : x'.inPeerMap = x.inPeerMap
  all : ∀ packet ∈ x'.unhandled, Written packet

/-- The steps of a client, without those that only move packets along. -/
inductive Deed (clicks : Bool) (x : Conn) : Conn → Prop
  | same (x' : Conn) (hsame : Same x x') : Deed clicks x x'
  | reads (packet : CustomPacket) (rest : List CustomPacket) (client : ClientComponent)
      (hqueue : x.scene.client.recievedQueue = packet :: rest)
      (hread : ({ x.scene.client with recievedQueue := rest }).Processed packet client) :
      Deed clicks x { x with
        dispatched := x.dispatched ++ [packet]
        scene := x.scene.withClient client }
  | draws (scene : GameScene) (hframe : x.scene.Frame scene) :
      Deed clicks x { x with scene := scene }
  | ends (undefinedReturn : Bool) (hclicks : clicks = true) (hopen : x.scene.isOpen = true)
      (hturn : x.scene.playerTurn = x.scene.assignedTeam) :
      Deed clicks x { x with scene := x.scene.endTurn undefinedReturn }
  | moves (scene : GameScene) (hclicks : clicks = true) (hopen : x.scene.isOpen = true)
      (hmoved : x.scene.Moved scene) : Deed clicks x { x with scene := scene }

theorem Same.refl {x : Conn} (hall : ∀ packet ∈ x.unhandled, Written packet) : Same x x :=
  ⟨rfl, rfl, rfl, rfl, Iff.rfl, rfl, rfl, hall⟩

/-- A field of the scene that is no matter of chat or of moving packets. -/
theorem Same.field {x x' : Conn} (h : Same x x') {α : Type} (f : GameScene → α) :
    f x'.scene.core = f x.scene.core :=
  congrArg f h.core

theorem Same.send {x : Conn} (hall : ∀ packet ∈ x.unhandled, Written packet)
    {packet msg : CustomPacket} {rest : List CustomPacket}
    (hqueue : x.scene.client.sendingQueue = packet :: rest)
    (hread : CustomPacket.ofData packet.data = some msg) :
    Same x { x with
      up := x.up ++ [msg]
      scene := x.scene.withClient { x.scene.client with sendingQueue := rest } } := by
  obtain ⟨hmsg, htype, hgame⟩ := (hall packet (by simp [unhandled, hqueue])).read hread
  have hunhandled : x.unhandled = x.up ++ packet :: rest := by rw [unhandled, hqueue]
  refine ⟨rfl, rfl, rfl, ?_, ?_, rfl, rfl, ?_⟩
  · simp only [Conn.outbox, unhandled, GameScene.withClient, hqueue, List.filter_append, hgame]
    rw [List.append_assoc, ← List.filter_append]
    rfl
  · simp [Conn.resumes, unhandled, GameScene.withClient, htype, hqueue]
  · intro p hp
    simp only [unhandled, GameScene.withClient, List.append_assoc, List.singleton_append,
      List.mem_append, List.mem_cons] at hp
    rcases hp with hp | rfl | hp
    · exact hall p (by simp [hunhandled, hp])
    · exact hmsg
    · exact hall p (by simp [hunhandled, hp])

theorem Same.enter {x : Conn} (hall : ∀ packet ∈ x.unhandled, Written packet)
    {scene : GameScene} (henter : x.scene.Enter scene) : Same x { x with scene := scene } := by
  cases henter with
  | ignored => exact .refl hall
  | named hopen username => exact ⟨rfl, rfl, rfl, rfl, Iff.rfl, rfl, rfl, hall⟩
  | chat hopen line hchat =>
      refine ⟨rfl, rfl, rfl, ?_, ?_, rfl, rfl, ?_⟩
      · simp [Conn.outbox, unhandled, GameScene.push, ClientComponent.push, isGame, hchat]
      · simp [Conn.resumes, unhandled, GameScene.push, ClientComponent.push, hchat]
      · intro p hp
        simp only [unhandled, GameScene.push, ClientComponent.push, ← List.append_assoc,
          List.mem_append, List.mem_singleton] at hp
        rcases hp with hp | rfl
        · exact hall p (by simpa [unhandled] using hp)
        · exact .chat _ hchat

/-- The steps of a client that only writes what it should. -/
theorem Local.deed {clicks : Bool} {x x' : Conn}
    (hall : ∀ packet ∈ x.unhandled, Written packet) (h : x.Local clicks x') :
    Deed clicks x x' := by
  cases h with
  | send packet msg rest hqueue hread => exact .same _ (.send hall hqueue hread)
  | receive packet rest hdown =>
      refine .same _ ⟨rfl, ?_, rfl, rfl, Iff.rfl, rfl, rfl, hall⟩
      simp [inbox, GameScene.withClient, hdown]
  | dispatch packet rest client hqueue hread =>
      exact .reads packet rest client hqueue
        (ClientComponent.processRecievedPackets_processed hread)
  | frame scene hframe => exact .draws scene hframe
  | click scene hclicks hclick =>
      cases hclick with
      | ignored => exact .same _ (.refl hall)
      | ended undefinedReturn hopen hturn => exact .ends undefinedReturn hclicks hopen hturn
      | moved hopen _ hselect hmoved => exact .moves _ hclicks hopen hmoved
  | enter scene henter => exact .same _ (.enter hall henter)

/-- What a step of a client adds to the game packets that it has written. -/
theorem Deed.outbox {clicks : Bool} {x x' : Conn} (h : Deed clicks x x') :
    ∃ packets, x'.outbox = x.outbox ++ packets ∧
      (packets = [] ∨
        (x.scene.sendsSnapshot = true ∧ ∃ gameTurn, x.scene.whichTurn = .ok gameTurn ∧
          packets = x.scene.begun.snapshot gameTurn) ∨
        (clicks = true ∧ x.scene.isOpen = true ∧ ∃ undefinedReturn,
          packets = (x.scene.turnMsgs undefinedReturn).map Msg.packet)) := by
  cases h with
  | same _ hsame => exact ⟨[], by simp [hsame.outbox], Or.inl rfl⟩
  | reads packet rest client hqueue hread =>
      have hsending : client.sendingQueue = x.scene.client.sendingQueue := hread.queues.2
      refine ⟨[], ?_, Or.inl rfl⟩
      simp [Conn.outbox, unhandled, GameScene.withClient, hsending]
  | draws scene hframe =>
      obtain ⟨packets, hsending, hcases⟩ := hframe.sendingQueue
      refine ⟨packets.filter isGame, ?_, ?_⟩
      · simp [Conn.outbox, unhandled, hsending]
      · rcases hcases with rfl | ⟨hsend, gameTurn, hturn, rfl⟩ | ⟨-, rfl⟩
        · exact Or.inl rfl
        · exact Or.inr (Or.inl ⟨hsend, gameTurn, hturn, filter_isGame_snapshot _ _⟩)
        · exact Or.inl rfl
  | ends undefinedReturn hclicks hopen hturn =>
      refine ⟨_, ?_, Or.inr (Or.inr ⟨hclicks, hopen, undefinedReturn, rfl⟩)⟩
      rw [GameScene.endTurn_eq]
      simp only [Conn.outbox, unhandled, ClientComponent.push, ← List.append_assoc,
        List.filter_append]
      rw [filter_isGame_packets]
  | moves scene _ _ hmoved =>
      refine ⟨[], ?_, Or.inl rfl⟩
      rw [hmoved.rest]
      simp [Conn.outbox, unhandled]

theorem Deed.peer {clicks : Bool} {x x' : Conn} (h : Deed clicks x x') :
    x'.uid = x.uid ∧ x'.inPeerMap = x.inPeerMap := by
  cases h with
  | same _ hsame => exact ⟨hsame.uid, hsame.mapped⟩
  | reads => exact ⟨rfl, rfl⟩
  | draws => exact ⟨rfl, rfl⟩
  | ends => exact ⟨rfl, rfl⟩
  | moves => exact ⟨rfl, rfl⟩

end Deeds

section Served

/-- What the server does with a packet of `x` while `y` is the other client. -/
structure Served (x y x' y' : Conn) : Prop where
  sceneX : x'.scene = x.scene
  sceneY : y'.scene = y.scene
  uidX : x'.uid = x.uid
  uidY : y'.uid = y.uid
  mappedX : x'.inPeerMap = x.inPeerMap
  mappedY : y'.inPeerMap = y.inPeerMap
  dispatchedX : x'.dispatched = x.dispatched
  dispatchedY : y'.dispatched = y.dispatched
  handled : ∃ msg, x.unhandled = msg :: x'.unhandled
  unhandledY : y'.unhandled = y.unhandled
  toX : ∃ packets, x'.down = x.down ++ packets ∧
    ∀ packet ∈ packets, packet = Server.completedPacket ∧ x.resumes
  toY : ∃ packets, y'.down = y.down ++ packets ∧
    ∀ packet ∈ packets, (packet ∈ x.unhandled ∧ Server.isForwarded packet.type = true) ∨
      (packet = Server.completedPacket ∧ x.resumes)
  flow : x'.flow y' = x.flow y
  back : y'.flow x' = y.flow x

theorem Serve.served {x y x' y' : Conn} (h : Serve x y x' y') : Served x y x' y' := by
  cases h with
  | forward msg rest hup hforward =>
      have hmem : msg ∈ x.unhandled := by simp [unhandled, hup]
      refine ⟨rfl, rfl, rfl, rfl, rfl, rfl, rfl, rfl, ⟨msg, ?_⟩, rfl, ⟨[], ?_, ?_⟩,
        ⟨_, rfl, ?_⟩, ?_, rfl⟩
      · simp [unhandled, hup]
      · simp
      · simp
      · intro packet hpacket
        split at hpacket
        · obtain rfl := List.mem_singleton.mp hpacket
          exact Or.inl ⟨hmem, hforward⟩
        · cases hpacket
      · have hsame (down : List CustomPacket) :
            reaches { x with up := rest } { y with down := down } = x.reaches y := rfl
        simp only [flow, toward, hsame]
        cases x.reaches y with
        | false => simp [inbox]
        | true =>
            simp only [if_true, inbox, outbox, unhandled, hup, List.append_assoc,
              ← List.filter_append, List.cons_append, List.nil_append]
  | resume msg rest hup hresume m n =>
      have hresumes : x.resumes := by simp [resumes, unhandled, hup, hresume]
      refine ⟨rfl, rfl, rfl, rfl, rfl, rfl, rfl, rfl, ⟨msg, ?_⟩, rfl, ⟨_, rfl, ?_⟩,
        ⟨_, rfl, ?_⟩, ?_, ?_⟩
      · simp [unhandled, hup]
      · intro packet hpacket
        exact ⟨List.eq_of_mem_replicate hpacket, hresumes⟩
      · intro packet hpacket
        exact Or.inr ⟨List.eq_of_mem_replicate hpacket, hresumes⟩
      · have hgame : isGame msg = false := by simp [isGame, hresume]
        simp [flow, inbox, toward, reaches, outbox, unhandled, hup, hgame]
      · simp [flow, inbox, toward, reaches, outbox, unhandled]
  | dropped msg rest hup hforward hresume =>
      refine ⟨rfl, rfl, rfl, rfl, rfl, rfl, rfl, rfl, ⟨msg, ?_⟩, rfl, ⟨[], ?_, ?_⟩,
        ⟨[], ?_, ?_⟩, ?_, rfl⟩
      · simp [unhandled, hup]
      · simp
      · simp
      · simp
      · simp
      · rw [isForwarded_eq, Bool.or_eq_false_iff] at hforward
        simp [flow, inbox, toward, reaches, outbox, unhandled, hup, hforward.2]

/-- The writer's own step adds what it writes at the end of the queue. -/
theorem flow_left {clicks : Bool} {x x' y : Conn} (h : Deed clicks x x')
    {packets : List CustomPacket} (houtbox : x'.outbox = x.outbox ++ packets) :
    x'.flow y = x.flow y ++ if x.reaches y then packets else [] := by
  rw [flow, flow, toward, toward, reaches_congr h.peer.1 rfl rfl, houtbox]
  cases x.reaches y <;> simp

/-- Taking in a packet removes it from the front of the queue, if it is one of
the game. -/
theorem flow_reads {x y : Conn} {packet : CustomPacket} {rest : List CustomPacket}
    {client : ClientComponent} (hqueue : y.scene.client.recievedQueue = packet :: rest)
    (hread : ({ y.scene.client with recievedQueue := rest }).Processed packet client) :
    x.flow y = (if isGame packet then [packet] else []) ++ x.flow { y with
      dispatched := y.dispatched ++ [packet]
      scene := y.scene.withClient client } := by
  have hreceived : client.recievedQueue = rest := hread.queues.1
  have hsame : x.toward { y with
      dispatched := y.dispatched ++ [packet]
      scene := y.scene.withClient client } = x.toward y := rfl
  rw [flow, flow, hsame]
  cases hgame : isGame packet <;> simp [inbox, GameScene.withClient, hqueue, hreceived, hgame]

theorem flow_congr {x y y' : Conn} (hinbox : y'.inbox = y.inbox) (huid : y'.uid = y.uid)
    (hmapped : y'.inPeerMap = y.inPeerMap) : x.flow y' = x.flow y := by
  rw [flow, flow, toward, toward, hinbox, reaches_congr rfl huid hmapped]

theorem toward_of_outbox {x y : Conn} (h : x.outbox = []) : x.toward y = [] := by
  rw [toward, h, ite_self]

/-- A step of the reader only touches its inbox. -/
theorem toward_right {clicks : Bool} {x y y' : Conn} (h : Deed clicks y y') :
    x.toward y' = x.toward y := by
  rw [toward, toward, reaches_congr rfl h.peer.1 h.peer.2]

end Served

section Newcomer

theorem joinedBy_inbox (uid : Nat) (x : Conn) :
    (x.joinedBy uid).inbox = x.inbox ∨
      (x.joinedBy uid).inbox = x.inbox ++ [Server.readyPacket] := by
  simp only [inbox, joinedBy]
  split
  · right
    rw [List.append_assoc]
  · left
    rw [List.append_nil]

/-- Only what the survivor has already written is on its way to a newcomer. -/
theorem flow_newcomer (x : Conn) (uid : Nat) (blank : Sprite) :
    (x.joinedBy uid).flow (newcomer uid blank) =
      if (x.joinedBy uid).reaches (newcomer uid blank) then x.outbox else [] := rfl

end Newcomer

end Conn

end NetworkingGame
