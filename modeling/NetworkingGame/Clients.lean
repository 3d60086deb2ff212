import NetworkingGame.Actions

/-!
Invariants of the single clients over whole runs, with clients that come and
go. A client shares nothing with the others but packets, so that a property of
the clients and one of the packets are kept together: the server only writes a
handful of packets itself and relays the rest.
-/

namespace NetworkingGame

open Library.Transition Library.Binary32

/-- The packets that the server writes itself. -/
inductive Server.Writes : CustomPacket → Prop
  | init (id : Int) : Server.Writes (Server.initPacket id)
  | start : Server.Writes Server.startPacket
  | recon : Server.Writes Server.reconPacket
  | ready : Server.Writes Server.readyPacket
  | completed : Server.Writes Server.completedPacket
  | dataSender : Server.Writes Server.dataSenderPacket

namespace Server

theorem writes_sendToIndex {clients : List Nat} {index uid : Nat} {packet sent : CustomPacket}
    (hwrites : Writes sent) (h : Action.sendTo uid packet = sendToIndex clients index sent) :
    Writes packet := by
  unfold sendToIndex at h
  split at h
  · obtain ⟨-, rfl⟩ := Action.sendTo.inj h
    exact hwrites
  · cases h

theorem writes_onClientConnect {server : Server} {clients : List Nat} {client uid : Nat}
    {packet : CustomPacket}
    (h : packet ∈ Action.mail (server.onClientConnect clients client).2 uid) : Writes packet := by
  have haction := Action.mem_mail.mp h
  unfold onClientConnect at haction
  split at haction
  · simp only [sendToAllIf, List.mem_cons, List.mem_map] at haction
    rcases haction with haction | ⟨other, -, haction⟩
    · obtain ⟨-, rfl⟩ := Action.sendTo.inj haction
      exact .recon
    · obtain ⟨-, rfl⟩ := Action.sendTo.inj haction
      exact .ready
  · split at haction
    · simp only [assignClientLocalID, List.mem_append, List.mem_cons, List.not_mem_nil,
        or_false] at haction
      rcases haction with haction | haction | haction
      · obtain ⟨-, rfl⟩ := Action.sendTo.inj haction
        exact .init _
      · exact writes_sendToIndex .start haction
      · exact writes_sendToIndex .start haction
    · simp only [assignClientLocalID, List.mem_singleton] at haction
      obtain ⟨-, rfl⟩ := Action.sendTo.inj haction
      exact .init _

theorem writes_onClientDisconnect {server : Server} {clients : List Nat} {uid : Nat}
    {packet : CustomPacket}
    (h : packet ∈ Action.mail (server.onClientDisconnect clients).2 uid) : Writes packet := by
  have haction := Action.mem_mail.mp h
  unfold onClientDisconnect at haction
  split at haction
  · split at haction
    · cases haction
    · exact writes_sendToIndex .dataSender (List.mem_singleton.mp haction)
  · cases haction

/-- The server relays what it was sent, or answers it. -/
theorem writes_onClientData {clients : List Nat} {client uid : Nat} {msg packet : CustomPacket}
    (h : packet ∈ Action.mail (onClientData clients client msg) uid) :
    packet = msg ∨ Writes packet := by
  have haction := Action.mem_mail.mp h
  unfold onClientData at haction
  split at haction
  · left
    simp only [sendToAllIf, List.mem_map] at haction
    obtain ⟨other, -, haction⟩ := haction
    exact (Action.sendTo.inj haction).2.symm
  · right
    split at haction
    · simp only [List.mem_cons, List.not_mem_nil, or_false] at haction
      rcases haction with haction | haction
      · exact writes_sendToIndex .completed haction
      · exact writes_sendToIndex .completed haction
    · cases haction

end Server

namespace System

/-- A condition on what a client does, in the state in which it does it. -/
def ActsMeet (Ok : Conn → LocalEvent → Prop) (system : System) : SystemEvent → Prop
  | .act index event => ∀ conn, system.conns[index]? = some conn → Ok conn event
  | _ => True

instance {Ok : Conn → LocalEvent → Prop} [∀ conn event, Decidable (Ok conn event)]
    (system : System) (event : SystemEvent) : Decidable (ActsMeet Ok system event) :=
  match event with
  | .connect _ => .isTrue trivial
  | .disconnect _ => .isTrue trivial
  | .serve _ => .isTrue trivial
  | .act index event =>
      match hconn : system.conns[index]? with
      | none => .isTrue fun conn h => by simp [hconn] at h
      | some conn => decidable_of_iff (Ok conn event) (by simp [ActsMeet, hconn])

theorem ActsMeet.mono {Ok Ok' : Conn → LocalEvent → Prop} {system : System} {event : SystemEvent}
    (h : ActsMeet Ok system event)
    (himp : ∀ conn ∈ system.conns, ∀ own, Ok conn own → Ok' conn own) :
    ActsMeet Ok' system event := by
  cases event with
  | connect => trivial
  | disconnect => trivial
  | serve => trivial
  | act index own =>
      intro conn hconn
      exact himp conn (List.mem_of_getElem? hconn) own (h conn hconn)

theorem ActsMeet.and {Ok Ok' : Conn → LocalEvent → Prop} {system : System} {event : SystemEvent}
    (h : ActsMeet Ok system event) (h' : ActsMeet Ok' system event) :
    ActsMeet (fun conn own => Ok conn own ∧ Ok' conn own) system event := by
  cases event with
  | connect => trivial
  | disconnect => trivial
  | serve => trivial
  | act index own => exact fun conn hconn => ⟨h conn hconn, h' conn hconn⟩

/-- A property of packets and one of clients that every step keeps. -/
structure ClientInvariant (Ok : Conn → LocalEvent → Prop) (Q : CustomPacket → Prop)
    (I : Conn → Prop) : Prop where
  server : ∀ packet, Server.Writes packet → Q packet
  fresh : ∀ uid blank, I (.fresh uid blank)
  mapped : ∀ x inPeerMap, I x → I { x with inPeerMap := inPeerMap }
  told : ∀ x packets, I x → (∀ packet ∈ packets, Q packet) → I { x with down := x.down ++ packets }
  handled : ∀ x msg rest, I x → x.up = msg :: rest → Q msg ∧ I { x with up := rest }
  act : ∀ x event x', I x → Ok x event → x.step event = some x' → I x'

variable {Ok : Conn → LocalEvent → Prop} {Q : CustomPacket → Prop} {I : Conn → Prop}

/-- A condition that is no condition is met along every run. -/
theorem along_actsMeet (h : ∀ conn event, Ok conn event) {system : System}
    {events : List SystemEvent} : Along System.step (ActsMeet Ok) system events := by
  apply @along_of_forall _ _ System.step (fun _ => True) (ActsMeet Ok)
  · exact fun _ _ _ _ _ => trivial
  · intro system event _
    cases event with
    | connect => trivial
    | disconnect => trivial
    | serve => trivial
    | act index event => exact fun conn _ => h conn event
  · trivial

theorem ClientInvariant.receive (h : ClientInvariant Ok Q I) {x : Conn} {actions : List Action}
    (hx : I x) (hmail : ∀ packet ∈ Action.mail actions x.uid, Q packet) :
    I (x.receive actions) := by
  apply h.told x _ hx
  intro packet hpacket
  split at hpacket
  · exact hmail packet hpacket
  · cases hpacket

theorem ClientInvariant.deliver (h : ClientInvariant Ok Q I) {actions : List Action}
    {system : System} (hall : ∀ x ∈ system.conns, I x)
    (hmail : ∀ uid, ∀ packet ∈ Action.mail actions uid, Q packet) :
    ∀ x ∈ (system.deliver actions).conns, I x := by
  intro x hx
  obtain ⟨before, hbefore, rfl⟩ := List.mem_map.mp hx
  exact h.receive (hall before hbefore) (hmail before.uid)

theorem ClientInvariant.step (h : ClientInvariant Ok Q I) {system after : System}
    {event : SystemEvent} (hall : ∀ x ∈ system.conns, I x) (hmeets : ActsMeet Ok system event)
    (hstep : System.step system event = some after) : ∀ x ∈ after.conns, I x := by
  cases event with
  | connect blank =>
      simp only [System.step] at hstep
      split at hstep
      · obtain rfl := Option.some.inj hstep
        apply h.deliver
        · intro x hx
          simp only [List.mem_append, List.mem_map, List.mem_singleton] at hx
          rcases hx with ⟨before, hbefore, rfl⟩ | rfl
          · exact h.mapped before _ (hall before hbefore)
          · exact h.fresh _ blank
        · intro uid packet hpacket
          exact h.server packet (Server.writes_onClientConnect hpacket)
      · cases hstep
  | disconnect index =>
      simp only [System.step] at hstep
      split at hstep
      · cases hstep
      · split at hstep
        · obtain rfl := Option.some.inj hstep
          apply h.deliver
          · intro x hx
            exact hall x (List.mem_of_mem_eraseIdx hx)
          · intro uid packet hpacket
            exact h.server packet (Server.writes_onClientDisconnect hpacket)
        · cases hstep
  | serve index =>
      obtain ⟨sender, msg, rest, hsender, hup, -, rfl⟩ := System.step_serve_cases hstep
      have hmem := List.mem_of_getElem? hsender
      obtain ⟨hmsg, hrest⟩ := h.handled sender msg rest (hall sender hmem) hup
      apply h.deliver
      · intro x hx
        rcases List.mem_or_eq_of_mem_set hx with hx | rfl
        · exact hall x hx
        · exact hrest
      · intro uid packet hpacket
        rcases Server.writes_onClientData hpacket with rfl | hwrites
        · exact hmsg
        · exact h.server packet hwrites
  | act index event =>
      simp only [System.step] at hstep
      split at hstep
      · cases hstep
      · rename_i conn hconn
        obtain ⟨next, hnext, rfl⟩ := Option.map_eq_some_iff.mp hstep
        intro x hx
        rcases List.mem_or_eq_of_mem_set hx with hx | rfl
        · exact hall x hx
        · exact h.act conn event x (hall conn (List.mem_of_getElem? hconn)) (hmeets conn hconn)
            hnext

/-- The invariant holds of every client in every state of a run. -/
theorem ClientInvariant.exec (h : ClientInvariant Ok Q I) {events : List SystemEvent}
    {system : System} (hrun : exec System.step initial events = some system)
    (halong : Along System.step (ActsMeet Ok) initial events) : ∀ x ∈ system.conns, I x := by
  have hinitial : ∀ x ∈ initial.conns, I x := by
    intro x hx
    cases hx
  exact @invariant_exec _ _ System.step (fun system => ∀ x ∈ system.conns, I x) (ActsMeet Ok)
    (fun system event after hall hmeets hstep => h.step hall hmeets hstep) initial system events
    hrun halong hinitial

end System

/-- A step of a client is a click, or one of the other steps. -/
theorem Conn.step_cases {x x' : Conn} {event : LocalEvent} (h : x.step event = some x') :
    (∃ undefinedReturn xpos ypos scene, event = .click undefinedReturn xpos ypos ∧
      x.scene.clickHandler undefinedReturn xpos ypos = .ok scene ∧ x' = { x with scene := scene }) ∨
    x.Local false x' := by
  have hlocal := step_local h
  cases event with
  | click undefinedReturn xpos ypos =>
      left
      simp only [step, Option.map_eq_some_iff] at h
      obtain ⟨scene, hscene, rfl⟩ := h
      exact ⟨undefinedReturn, xpos, ypos, scene, rfl, toOption_eq_some hscene, rfl⟩
  | send => exact Or.inr hlocal
  | receive => exact Or.inr hlocal
  | dispatch => exact Or.inr hlocal
  | frame => exact Or.inr hlocal
  | enter str => exact Or.inr hlocal

/-- A condition on the clicks of a client. -/
def Conn.ClickMeets (Ok : GameScene → Int → Int → Prop) (conn : Conn) : LocalEvent → Prop
  | .click _ xpos ypos => Ok conn.scene xpos ypos
  | _ => True

instance {Ok : GameScene → Int → Int → Prop} [∀ scene xpos ypos, Decidable (Ok scene xpos ypos)]
    (conn : Conn) (event : LocalEvent) : Decidable (conn.ClickMeets Ok event) :=
  match event with
  | .click _ xpos ypos => inferInstanceAs (Decidable (Ok conn.scene xpos ypos))
  | .send => .isTrue trivial
  | .receive => .isTrue trivial
  | .dispatch => .isTrue trivial
  | .frame => .isTrue trivial
  | .enter _ => .isTrue trivial

/-- What a packet says about a unit is true of some unit with the property. -/
def Msg.Tells (U : UnitRef → GameUnit → Prop) : Msg → Prop
  | .unit ref x y squadSize health => ∃ unit, U ref unit ∧
      Msg.unit ref x y squadSize health = Msg.ofUnit ref unit
  | .endgame _ => True
  | .endturn => True

/-- A packet can be read, and tells the truth if it is about a unit. -/
structure CustomPacket.Tells (U : UnitRef → GameUnit → Prop) (packet : CustomPacket) : Prop where
  readable : '\x00' ∉ packet.type.toList
  unit : packet.type = "unit" → ∃ m : Msg, packet = m.packet ∧ m.Tells U

namespace GameUnit

/-- What a drained packet makes of a unit. -/
def copied (unit : GameUnit) (x y : IntFloat) (squadSize health : Int) : GameUnit :=
  { unit with
    objectSprite := { unit.objectSprite with xPos := x, yPos := y }
    squadSize := squadSize
    health := health }

end GameUnit

/-- A property of the single units that every way to change one keeps. -/
structure UnitInvariant (Ok : GameScene → Int → Int → Prop) (U : UnitRef → GameUnit → Prop) :
    Prop where
  init : ∀ blank ref, U ref ((GameScene.initUnits blank).get ref)
  update : ∀ ref unit, U ref unit → U ref unit.update
  copied : ∀ ref unit other, U ref unit → U ref other →
    U ref (unit.copied other.objectSprite.xPos other.objectSprite.yPos other.squadSize
      other.health)
  ended : ∀ ref unit, U ref unit → U ref unit.resetActionPoints.clearChanged
  click : ∀ (scene after : GameScene) undefinedReturn xpos ypos,
    (∀ ref, U ref (scene.units.get ref)) → Ok scene xpos ypos →
    scene.clickHandler undefinedReturn xpos ypos = .ok after →
    ∀ ref, U ref (after.units.get ref)

namespace UnitInvariant

variable {Ok : GameScene → Int → Int → Prop} {U : UnitRef → GameUnit → Prop}

theorem tells_ofUnit {ref : UnitRef} {unit : GameUnit} (h : U ref unit) :
    (Msg.ofUnit ref unit).Tells U := ⟨unit, h, rfl⟩

theorem tells_packet {m : Msg} (h : m.Tells U) : m.packet.Tells U := by
  constructor
  · exact (Msg.nulFree_packet m).type
  · intro _
    exact ⟨m, rfl, h⟩

theorem tells_of_type {packet : CustomPacket} (hread : '\x00' ∉ packet.type.toList)
    (htype : packet.type ≠ "unit") : packet.Tells U :=
  ⟨hread, fun h => absurd h htype⟩

theorem tells_server {packet : CustomPacket} (h : Server.Writes packet) : packet.Tells U := by
  cases h with
  | init id => exact tells_of_type (by simp [Server.initPacket]) (by simp [Server.initPacket])
  | start => exact tells_of_type (by decide) (by decide)
  | recon => exact tells_of_type (by decide) (by decide)
  | ready => exact tells_of_type (by decide) (by decide)
  | completed => exact tells_of_type (by decide) (by decide)
  | dataSender => exact tells_of_type (by decide) (by decide)

/-- Encoding and decoding keep what a packet tells. -/
theorem tells_read {packet msg : CustomPacket} (h : packet.Tells U)
    (hread : CustomPacket.ofData packet.data = some msg) : msg.Tells U := by
  obtain ⟨received, hreceived, htype⟩ := CustomPacket.ofData_data_type h.readable
  obtain rfl := Option.some.inj (hread.symm.trans hreceived)
  constructor
  · rw [htype]
    exact h.readable
  · intro hunit
    obtain ⟨m, rfl, hm⟩ := h.unit (htype.symm.trans hunit)
    rw [CustomPacket.ofData_data (Msg.nulFree_packet m)] at hread
    exact ⟨m, (Option.some.inj hread).symm, hm⟩

theorem applyAll (h : UnitInvariant Ok U) {msgs : List Msg} (hmsgs : ∀ m ∈ msgs, m.Tells U)
    {scene : GameScene} (hunits : ∀ ref, U ref (scene.units.get ref)) (ref : UnitRef) :
    U ref ((scene.applyAll msgs).units.get ref) := by
  induction msgs generalizing scene with
  | nil => exact hunits ref
  | cons m msgs ih =>
      rw [GameScene.applyAll_cons]
      apply ih (fun m' hm' => hmsgs m' (List.mem_cons_of_mem m hm'))
      intro other
      have hm := hmsgs m List.mem_cons_self
      cases m with
      | unit told x y squadSize health =>
          obtain ⟨unit, hunit, heq⟩ := hm
          obtain ⟨-, rfl, rfl, rfl, rfl⟩ := Msg.unit.inj heq
          simp only [GameScene.applyMsg, Roster.get_set]
          split
          · rename_i hother
            rw [hother]
            exact h.copied told _ unit (hunits told) hunit
          · exact hunits other
      | endgame victor => exact hunits other
      | endturn => exact hunits other

theorem unitNetworkUpdate (h : UnitInvariant Ok U) {scene after : GameScene}
    (hqueue : ∀ packet ∈ scene.client.unitUpdateQueue, ∃ m : Msg, packet = m.packet ∧ m.Tells U)
    (hunits : ∀ ref, U ref (scene.units.get ref))
    (hdrain : scene.unitNetworkUpdate = .ok after) (ref : UnitRef) :
    U ref (after.units.get ref) := by
  obtain ⟨msgs, hmsgs, htells⟩ := Msg.exists_list hqueue
  rw [GameScene.unitNetworkUpdate_packet hmsgs hdrain]
  exact h.applyAll htells hunits ref

theorem adopt_units (scene : GameScene) : scene.adoptTurn.adoptTeam.units = scene.units := by
  unfold GameScene.adoptTeam GameScene.adoptTurn
  split_ifs <;> rfl

/-- What a frame does to the units, and what it writes. -/
theorem frame (h : UnitInvariant Ok U) {scene after : GameScene}
    (hqueue : ∀ packet ∈ scene.client.unitUpdateQueue, ∃ m : Msg, packet = m.packet ∧ m.Tells U)
    (hunits : ∀ ref, U ref (scene.units.get ref)) (hframe : scene.Frame after) :
    (∀ ref, U ref (after.units.get ref)) ∧
      ∃ packets, after.client.sendingQueue = scene.client.sendingQueue ++ packets ∧
        ∀ packet ∈ packets, packet.Tells U := by
  have hupdated {scene : GameScene} (hunits : ∀ ref, U ref (scene.units.get ref)) (ref : UnitRef) :
      U ref (scene.unitsUpdate.units.get ref) := by
    rw [GameScene.unitsUpdate, Roster.get_map]
    exact h.update ref _ (hunits ref)
  have hbegun (ref : UnitRef) : U ref (scene.begun.units.get ref) := by simpa using hunits ref
  cases hframe with
  | idle => exact ⟨hbegun, [], by simp, by simp⟩
  | send hsend gameTurn hturn =>
      refine ⟨hbegun, scene.begun.snapshot gameTurn, ?_, ?_⟩
      · simp [GameScene.sendSnapshot, GameScene.push, ClientComponent.push]
      · intro packet hpacket
        simp only [GameScene.snapshot, GameScene.allUnits, List.mem_append, List.mem_cons,
          List.mem_map, List.not_mem_nil, or_false] at hpacket
        rcases hpacket with ((rfl | rfl) | ⟨ref, -, rfl⟩) | rfl
        · exact tells_of_type (by simp [GameScene.playerPacket]) (by simp [GameScene.playerPacket])
        · exact tells_of_type (by simp [GameScene.turnPacket]) (by simp [GameScene.turnPacket])
        · exact tells_packet (tells_ofUnit (hbegun ref))
        · exact tells_of_type (by decide) (by decide)
  | adopt hadopt drained hdrain =>
      constructor
      · apply hupdated
        apply h.unitNetworkUpdate _ _ hdrain
        · simpa using hqueue
        · intro ref
          rw [adopt_units]
          exact hbegun ref
      · refine ⟨[GameScene.resumePacket], ?_, ?_⟩
        · rw [GameScene.finishAdoption_client hdrain]
          rfl
        · intro packet hpacket
          rw [List.mem_singleton.mp hpacket]
          exact tells_of_type (by decide) (by decide)
  | finished => exact ⟨hbegun, [], by simp, by simp⟩
  | wait => exact ⟨hupdated hbegun, [], by simp [GameScene.unitsUpdate], by simp⟩
  | drain closed hfinished hwait _ hdrain =>
      constructor
      · apply h.unitNetworkUpdate _ (hupdated hbegun) hdrain
        simpa [GameScene.unitsUpdate] using hqueue
      · refine ⟨[], ?_, by simp⟩
        rw [GameScene.unitNetworkUpdate_rest hdrain]
        simp [GameScene.unitsUpdate]

/-- What a click writes. -/
theorem click_writes {scene after : GameScene} (hunits : ∀ ref, U ref (scene.units.get ref))
    (hclick : scene.Click after) :
    ∃ packets, after.client = scene.client.push packets ∧ ∀ packet ∈ packets, packet.Tells U := by
  cases hclick with
  | ignored => exact ⟨[], by simp [ClientComponent.push], by simp⟩
  | ended undefinedReturn =>
      refine ⟨(scene.turnMsgs undefinedReturn).map Msg.packet, ?_, ?_⟩
      · rw [GameScene.endTurn_eq]
      · intro packet hpacket
        obtain ⟨m, hm, rfl⟩ := List.mem_map.mp hpacket
        apply tells_packet
        simp only [GameScene.turnMsgs, GameScene.changedMsgs, List.mem_append, List.mem_map,
          List.mem_singleton] at hm
        rcases hm with (⟨ref, -, rfl⟩ | hm) | rfl
        · exact tells_ofUnit (hunits ref)
        · split at hm
          · rw [List.mem_singleton.mp hm]
            trivial
          · cases hm
        · trivial
  | moved _ _ _ hmoved =>
      refine ⟨[], ?_, by simp⟩
      rw [hmoved.rest]
      simp [ClientComponent.push]

end UnitInvariant

/-- A client whose units have the property, and whose packets tell of such
units only. -/
structure Conn.Carries (U : UnitRef → GameUnit → Prop) (x : Conn) : Prop where
  units : ∀ ref, U ref (x.scene.units.get ref)
  inbox : ∀ packet ∈ x.scene.client.recievedQueue ++ x.down, packet.Tells U
  queue : ∀ packet ∈ x.scene.client.unitUpdateQueue, ∃ m : Msg, packet = m.packet ∧ m.Tells U
  unhandled : ∀ packet ∈ x.unhandled, packet.Tells U

namespace UnitInvariant

variable {Ok : GameScene → Int → Int → Prop} {U : UnitRef → GameUnit → Prop} {x x' : Conn}

theorem carries_send (h : x.Carries U) {packet msg : CustomPacket} {rest : List CustomPacket}
    (hqueue : x.scene.client.sendingQueue = packet :: rest)
    (hread : CustomPacket.ofData packet.data = some msg) :
    Conn.Carries U { x with
      up := x.up ++ [msg]
      scene := x.scene.withClient { x.scene.client with sendingQueue := rest } } := by
  refine { h with unhandled := ?_ }
  intro p hp
  simp only [Conn.unhandled, GameScene.withClient, List.mem_append, List.mem_singleton] at hp
  have hold : ∀ p ∈ x.up ++ packet :: rest, p.Tells U := by
    have hunhandled := h.unhandled
    rw [Conn.unhandled, hqueue] at hunhandled
    exact hunhandled
  rcases hp with (hp | rfl) | hp
  · exact hold p (by simp [hp])
  · exact tells_read (hold packet (by simp)) hread
  · exact hold p (by simp [hp])

theorem carries_receive (h : x.Carries U) {packet : CustomPacket} {rest : List CustomPacket}
    (hdown : x.down = packet :: rest) :
    Conn.Carries U { x with
      down := rest
      scene := x.scene.withClient { x.scene.client with
        recievedQueue := x.scene.client.recievedQueue ++ [packet] } } := by
  refine { h with inbox := ?_ }
  intro p hp
  apply h.inbox p
  rw [hdown]
  simpa [GameScene.withClient] using hp

theorem carries_dispatch (h : x.Carries U) {packet : CustomPacket} {rest : List CustomPacket}
    {client : ClientComponent} (hqueue : x.scene.client.recievedQueue = packet :: rest)
    (hread : ({ x.scene.client with recievedQueue := rest }).Processed packet client) :
    Conn.Carries U { x with
      dispatched := x.dispatched ++ [packet]
      scene := x.scene.withClient client } := by
  obtain ⟨hreceived, hsending⟩ := hread.queues
  have hqueue' := hread.unitUpdateQueue_eq
  have hinbox := h.inbox
  rw [hqueue] at hinbox
  constructor
  · exact h.units
  · intro p hp
    apply hinbox p
    simp only [GameScene.withClient, hreceived] at hp
    exact List.mem_cons_of_mem packet hp
  · intro p hp
    simp only [GameScene.withClient, hqueue'] at hp
    split at hp
    · rename_i htype
      rcases List.mem_append.mp hp with hp | hp
      · exact h.queue p hp
      · rw [List.mem_singleton.mp hp]
        exact (hinbox packet List.mem_cons_self).unit htype
    · exact h.queue p hp
  · intro p hp
    apply h.unhandled p
    simpa [Conn.unhandled, GameScene.withClient, hsending] using hp

/-- What a scene adds to the packets of its client. -/
theorem carries_scene (h : x.Carries U) {scene : GameScene}
    (hunits : ∀ ref, U ref (scene.units.get ref))
    (hreceived : scene.client.recievedQueue = x.scene.client.recievedQueue)
    (hqueue : scene.client.unitUpdateQueue = x.scene.client.unitUpdateQueue ∨
      scene.client.unitUpdateQueue = []) {packets : List CustomPacket}
    (hsending : scene.client.sendingQueue = x.scene.client.sendingQueue ++ packets)
    (hpackets : ∀ packet ∈ packets, packet.Tells U) :
    Conn.Carries U { x with scene := scene } := by
  constructor
  · exact hunits
  · simpa [hreceived] using h.inbox
  · intro p hp
    rcases hqueue with hqueue | hqueue
    · apply h.queue p
      rw [← hqueue]
      exact hp
    · simp [hqueue] at hp
  · intro p hp
    simp only [Conn.unhandled, hsending, ← List.append_assoc] at hp
    rcases List.mem_append.mp hp with hp | hp
    · exact h.unhandled p hp
    · exact hpackets p hp

/-- The steps of a client other than clicks. -/
theorem carries_local (h : UnitInvariant Ok U) (hx : x.Carries U) (hlocal : x.Local false x') :
    x'.Carries U := by
  cases hlocal with
  | send packet msg rest hqueue hread => exact carries_send hx hqueue hread
  | receive packet rest hdown => exact carries_receive hx hdown
  | dispatch packet rest client hqueue hread =>
      exact carries_dispatch hx hqueue (ClientComponent.processRecievedPackets_processed hread)
  | frame scene hframe =>
      obtain ⟨hunits, packets, hsending, hpackets⟩ := h.frame hx.queue hx.units hframe
      apply carries_scene hx hunits hframe.recievedQueue _ hsending hpackets
      rcases hframe.client_cases with h | ⟨-, _, -, h⟩ | ⟨-, h⟩ | ⟨-, h⟩
      · exact Or.inl (by rw [h])
      · exact Or.inl (by rw [h]; rfl)
      · exact Or.inr (by rw [h])
      · exact Or.inr (by rw [h])
  | click scene hclicks => cases hclicks
  | enter scene henter =>
      cases henter with
      | ignored => exact hx
      | named => exact { hx with }
      | chat hopen line hchat =>
          apply @carries_scene U x hx (x.scene.push [line]) hx.units rfl (Or.inl rfl) [line] rfl
          intro packet hpacket
          rw [List.mem_singleton.mp hpacket]
          exact tells_of_type (by simp [hchat]) (by simp [hchat])

theorem carries_step (h : UnitInvariant Ok U) {event : LocalEvent} (hx : x.Carries U)
    (hok : x.ClickMeets Ok event) (hstep : x.step event = some x') : x'.Carries U := by
  rcases Conn.step_cases hstep with
    ⟨undefinedReturn, xpos, ypos, scene, rfl, hclick, rfl⟩ | hlocal
  · have hunits := h.click _ _ _ _ _ hx.units hok hclick
    obtain ⟨packets, hclient, hpackets⟩ :=
      click_writes hx.units (GameScene.clickHandler_click hclick)
    exact carries_scene hx hunits (by rw [hclient]; rfl) (Or.inl (by rw [hclient]; rfl))
      (by rw [hclient]; rfl) hpackets
  · exact h.carries_local hx hlocal

/-- A property of the units is one of the clients. -/
theorem client (h : UnitInvariant Ok U) :
    System.ClientInvariant (Conn.ClickMeets Ok) (CustomPacket.Tells U) (Conn.Carries U) := by
  constructor
  · exact fun packet hwrites => tells_server hwrites
  · intro uid blank
    exact ⟨h.init blank, by simp [Conn.fresh, GameScene.create, ClientComponent.fresh],
      by simp [Conn.fresh, GameScene.create, ClientComponent.fresh],
      by simp [Conn.fresh, Conn.unhandled, GameScene.create, ClientComponent.fresh]⟩
  · intro x inPeerMap hx
    exact { hx with }
  · intro x packets hx hpackets
    refine { hx with inbox := ?_ }
    intro p hp
    simp only [← List.append_assoc] at hp
    rcases List.mem_append.mp hp with hp | hp
    · exact hx.inbox p hp
    · exact hpackets p hp
  · intro x msg rest hx hup
    have hold := hx.unhandled
    rw [Conn.unhandled, hup] at hold
    refine ⟨hold msg (by simp), { hx with unhandled := ?_ }⟩
    intro p hp
    exact hold p (List.mem_cons_of_mem msg hp)
  · exact fun x event x' hx hok hstep => h.carries_step hx hok hstep

/-- The units of every client keep the property over every run whose clicks
meet the condition. -/
theorem exec (h : UnitInvariant Ok U) {events : List SystemEvent} {system : System}
    (hrun : exec System.step System.initial events = some system)
    (halong : Along System.step (System.ActsMeet (Conn.ClickMeets Ok)) System.initial events) :
    ∀ x ∈ system.conns, x.Carries U := h.client.exec hrun halong

end UnitInvariant

namespace GameUnit

/-- What never changes about a unit, and its health, which stays positive. -/
structure Kept (ref : UnitRef) (unit : GameUnit) : Prop where
  isEnemy : unit.isEnemy = decide (ref.team = .player1)
  attack : 0 ≤ unit.attack
  armour : unit.armour.tdiv 100 = 0
  maxActionPoints : 0 ≤ unit.maxActionPoints
  health : 0 < unit.health

section Kept

variable {ref : UnitRef} {unit damageDealer hurt : GameUnit}

/-- A blow takes what is left of the last soldier's health, never all of it. -/
theorem takeDamage_health (h : unit.takeDamage damageDealer = .ok hurt)
    (hhealth : 0 < unit.health) : 0 < hurt.health := by
  unfold takeDamage at h
  split at h
  · cases h
  · rw [← Except.ok.inj h]
    have hless := Int.tmod_lt_of_pos (IntFloat.cast (damageDealer.attack * damageDealer.squadSize) -
      IntFloat.cast (damageDealer.attack * damageDealer.squadSize) *
        IntFloat.cast (unit.armour.tdiv 100)).val hhealth
    exact sub_pos.mpr hless

theorem Kept.takeDamage (h : unit.Kept ref) (hhurt : unit.takeDamage damageDealer = .ok hurt) :
    hurt.Kept ref := by
  have hhealth := takeDamage_health hhurt h.health
  rw [takeDamage_rest hhurt] at hhealth ⊢
  exact { h with health := hhealth }

theorem Kept.update (h : unit.Kept ref) : unit.update.Kept ref := by
  have hupdated := unit.update_updated
  generalize unit.update = after at hupdated ⊢
  cases hupdated with
  | died | dead | placed => exact { h with }

theorem kept_initUnits (blank : Sprite) (ref : UnitRef) :
    ((GameScene.initUnits blank).get ref).Kept ref := by
  cases ref <;> constructor <;>
    simp [GameScene.initUnits, Roster.get, createUnit, init, UnitType.find, UnitRef.team]

end Kept

end GameUnit

theorem kept_attackingOtherUnit {scene next : GameScene} {attacker : UnitRef} {xpos ypos : Int}
    (hunits : ∀ ref, (scene.units.get ref).Kept ref)
    (hnext : scene.attackingOtherUnit attacker xpos ypos = .ok next) (ref : UnitRef) :
    (next.units.get ref).Kept ref := by
  obtain ⟨hhit, hmiss, hspent⟩ := GameScene.attackingOtherUnit_get hnext
  by_cases hattacker : ref = attacker
  · rw [hattacker, hspent]
    exact { hunits attacker with }
  · cases hhits : scene.hits attacker xpos ypos ref with
    | false =>
        rw [hmiss ref hattacker hhits]
        exact hunits ref
    | true => exact (hunits ref).takeDamage (hhit ref hhits)

theorem kept_invariant :
    UnitInvariant (fun _ _ _ => True) (fun ref unit => unit.Kept ref) := by
  constructor
  · exact GameUnit.kept_initUnits
  · exact fun ref unit h => h.update
  · intro ref unit other hunit hother
    exact { hunit with health := hother.health }
  · intro ref unit h
    exact { h with }
  · intro scene after undefinedReturn xpos ypos hunits _ hclick
    apply GameScene.clickHandler_units _ _ _ hunits hclick
    · intro ref unit h
      exact { h with }
    · intro _ ref _ h
      exact { h with }
    · intro scene next attacker hunits _ hnext
      exact kept_attackingOtherUnit hunits hnext

end NetworkingGame
