import NetworkingGame.TurnToken

/-!
Where a reachable state of the system can be: nobody there, one client in the
lobby, the pair that the lobby has put together, or what a first disconnect
has left, from which on a second client is a newcomer that was never sent
`start`.
-/

namespace NetworkingGame

open Library.Transition

namespace Conn

/-- The client that waits in the lobby. -/
structure Lobby (nextUid : Nat) (conn : Conn) : Prop where
  side : Side .player1 conn
  closed : conn.scene.client.isLobby = true
  sent : conn.sent = [Server.initPacket 0]
  unhandled : conn.unhandled = []
  incoming : conn.incoming = []
  turn : conn.scene.playerTurn = .player1
  select : conn.scene.select = .fill false
  flags : ∀ ref, (conn.scene.units.get ref).hasChanged = false
  board : ∀ blank, conn.scene.board = (GameScene.create blank).board
  uid : conn.uid < 2 ^ 32
  next : nextUid = (conn.uid + 1) % 2 ^ 32

theorem Lobby.uid_ne {nextUid : Nat} {x : Conn} (h : Lobby nextUid x) : x.uid ≠ nextUid :=
  Session.uid_ne_next h.next

theorem board_create (blank blank' : Sprite) :
    (GameScene.create blank).board = (GameScene.create blank').board := rfl

theorem flags_create (blank : Sprite) (ref : UnitRef) :
    ((GameScene.create blank).units.get ref).hasChanged = false := by
  cases ref <;> rfl

/-- A client fresh from its constructor, with what it was sent on its way. -/
theorem side_fresh {label : PlayerTurn} {uid : Nat} {blank : Sprite}
    {packets : List CustomPacket}
    (h : ∀ packet ∈ packets,
      packet = Server.initPacket (idOf label) ∨ packet = Server.startPacket) :
    Side label { fresh uid blank with down := packets } := by
  refine ⟨rfl, ?_, ?_, ?_, rfl, rfl, Or.inl rfl, Or.inl rfl, by simp [fresh, GameScene.create]⟩
  · intro packet hpacket
    cases hpacket
  · intro packet hpacket
    exact Or.inr (h packet hpacket)
  · intro packet hpacket
    cases hpacket

theorem incoming_fresh {label : PlayerTurn} {uid : Nat} {blank : Sprite}
    {packets : List CustomPacket}
    (h : ∀ packet ∈ packets,
      packet = Server.initPacket (idOf label) ∨ packet = Server.startPacket) :
    incoming { fresh uid blank with down := packets } = [] := by
  have hunit : packets.filter isUnit = [] := by
    apply List.filter_eq_nil_iff.mpr
    intro packet hpacket
    rcases h packet hpacket with rfl | rfl
    · simp [isUnit, Server.initPacket]
    · simp [isUnit, Server.startPacket]
  simpa [incoming, fresh, GameScene.create, ClientComponent.fresh] using hunit

theorem lobby_fresh {uid nextUid : Nat} (blank : Sprite) (huid : uid < 2 ^ 32)
    (hnext : nextUid = (uid + 1) % 2 ^ 32) :
    Lobby nextUid { fresh uid blank with down := [Server.initPacket 0] } := by
  have hpackets : ∀ packet ∈ [Server.initPacket 0],
      packet = Server.initPacket (idOf .player1) ∨ packet = Server.startPacket := by
    intro packet hpacket
    exact Or.inl (List.mem_singleton.mp hpacket)
  exact ⟨side_fresh hpackets, rfl, rfl, rfl, incoming_fresh hpackets, rfl, rfl,
    flags_create blank, board_create blank, huid, hnext⟩

theorem isOpen_of_isLobby {scene : GameScene} (h : scene.client.isLobby = true) :
    scene.isOpen = false := by
  simp [GameScene.isOpen, h]

/-- In the lobby a client only takes in its `init`. -/
theorem Lobby.local {clicks : Bool} {nextUid : Nat} {x x' : Conn} (h : Lobby nextUid x)
    (hlocal : x.Local clicks x') :
    x'.scene.client.isLobby = true ∧ x'.unhandled = [] ∧ x'.incoming = [] ∧
      x'.scene.playerTurn = x.scene.playerTurn ∧ x'.scene.select = x.scene.select ∧
      x'.scene.units = x.scene.units := by
  have hshut := isOpen_of_isLobby h.closed
  cases hlocal with
  | send packet msg rest hqueue =>
      have hnone := h.unhandled
      simp [Conn.unhandled, hqueue] at hnone
  | receive packet rest hdown =>
      refine ⟨h.closed, h.unhandled, ?_, rfl, rfl, rfl⟩
      have hincoming := h.incoming
      simpa [Conn.incoming, GameScene.withClient, hdown] using hincoming
  | dispatch packet rest client hqueue hread =>
      have hsent := h.sent
      rw [Conn.sent, hqueue] at hsent
      have hpacket : packet ∈ [Server.initPacket 0] := by
        rw [← hsent]
        simp
      obtain rfl := List.mem_singleton.mp hpacket
      have hincoming := h.incoming
      simp only [Conn.incoming, hqueue] at hincoming
      cases ClientComponent.processRecievedPackets_processed hread with
      | init htype id hid =>
          refine ⟨h.closed, h.unhandled, ?_, rfl, rfl, rfl⟩
          simpa [Conn.incoming, GameScene.withClient, List.filter_append, isUnit,
            Server.initPacket] using hincoming
      | ignored hother => simp [Server.initPacket] at hother
      | unit htype => simp [Server.initPacket] at htype
      | turn htype => simp [Server.initPacket] at htype
      | player htype => simp [Server.initPacket] at htype
      | reconnecting htype => simp [Server.initPacket] at htype
      | resumed htype => simp [Server.initPacket] at htype
      | start htype => simp [Server.initPacket] at htype
      | dataSender htype => simp [Server.initPacket] at htype
      | ready htype => simp [Server.initPacket] at htype
      | updateComplete htype => simp [Server.initPacket] at htype
  | frame scene hframe =>
      cases hframe with
      | idle =>
          refine ⟨?_, ?_, ?_, by simp, by simp, by simp⟩
          · simpa using h.closed
          · simpa [Conn.unhandled] using h.unhandled
          · simpa [Conn.incoming] using h.incoming
      | send hsend => exact absurd (hsend.symm.trans h.side.closed_send) (by simp)
      | adopt hadopt => exact absurd (hadopt.symm.trans h.side.closed_adopt) (by simp)
      | finished closed => simp [h.closed] at closed
      | wait closed => simp [h.closed] at closed
      | drain closed => simp [h.closed] at closed
  | click scene _ hclick =>
      cases hclick with
      | ignored => exact ⟨h.closed, h.unhandled, h.incoming, rfl, rfl, rfl⟩
      | ended _ hopen => exact absurd (hopen.symm.trans hshut) (by simp)
      | moved hopen => exact absurd (hopen.symm.trans hshut) (by simp)
  | enter scene henter =>
      cases henter with
      | ignored => exact ⟨h.closed, h.unhandled, h.incoming, rfl, rfl, rfl⟩
      | named hopen => exact absurd (hopen.symm.trans hshut) (by simp)
      | chat hopen => exact absurd (hopen.symm.trans hshut) (by simp)

theorem Lobby.step {clicks : Bool} {nextUid : Nat} {x x' : Conn} (h : Lobby nextUid x)
    (hstep : x.SoloStep clicks x') : Lobby nextUid x' := by
  cases hstep with
  | serve msg rest hup =>
      have hnone := h.unhandled
      simp [Conn.unhandled, hup] at hnone
  | self _ hlocal =>
      obtain ⟨hside, -⟩ := h.side.step (by simp) hlocal
      obtain ⟨hclosed, hunhandled, hincoming, hturn, hselect, hunits⟩ := h.local hlocal
      have hpeer := System.peer_local hlocal
      have huid : x'.uid = x.uid := congrArg Peer.uid hpeer
      refine ⟨hside, hclosed, ?_, hunhandled, hincoming, hturn.trans h.turn,
        hselect.trans h.select, ?_, ?_, by rw [huid]; exact h.uid, by rw [huid]; exact h.next⟩
      · exact (congrArg Peer.sent hpeer).trans h.sent
      · intro ref
        rw [hunits]
        exact h.flags ref
      · intro blank
        rw [← h.board blank, GameScene.board, hunits]
        rfl

/-- The second client of the lobby starts a duel with the first. -/
theorem Lobby.duel {nextUid : Nat} {x : Conn} (h : Lobby nextUid x) (blank : Sprite)
    {other : PlayerTurn} :
    Duel .player1 other { x with down := x.down ++ [Server.startPacket] }
      { fresh nextUid blank with
        down := [Server.initPacket (idOf other), Server.startPacket] } := by
  have hpackets : ∀ packet ∈ [Server.initPacket (idOf other), Server.startPacket],
      packet = Server.initPacket (idOf other) ∨ packet = Server.startPacket := by
    intro packet hpacket
    simpa using hpacket
  have hincoming := @incoming_fresh other nextUid blank _ hpackets
  have hold : Conn.incoming { x with down := x.down ++ [Server.startPacket] } = [] := by
    have hnone := h.incoming
    simp only [Conn.incoming, List.filter_append] at hnone ⊢
    simpa [isUnit, Server.startPacket] using hnone
  refine ⟨{ h.side with inbox := ?_ }, side_fresh hpackets, h.uid_ne, ?_⟩
  · intro packet hpacket
    simp only [List.mem_append, List.mem_singleton] at hpacket
    rcases hpacket with hpacket | hpacket | rfl
    · exact h.side.inbox packet (by simp [hpacket])
    · exact h.side.inbox packet (by simp [hpacket])
    · exact Or.inr (Or.inr rfl)
  · rintro -
    have hout : Conn.outgoing { x with down := x.down ++ [Server.startPacket] } = [] := by
      have hnone := h.unhandled
      simp only [Conn.outgoing, Conn.unhandled] at hnone ⊢
      rw [hnone]
      rfl
    refine .holds ⟨?_, ?_, h.turn, rfl, rfl, flags_create blank, ?_⟩
    · rw [transit, hincoming, hout]
      rfl
    · rw [transit, hold]
      rfl
    · intro ref _
      change x.scene.board.get ref = (GameScene.create blank).board.get ref
      rw [h.board blank]

end Conn

/-- Where a reachable state can be. -/
inductive Stage : System → Prop
  | empty {server : Server} (inactive : server.gameActive = false) : Stage ⟨server, []⟩
  | waiting {server : Server} {x : Conn} (inactive : server.gameActive = false)
      (h : x.Lobby server.componentNextUid) : Stage ⟨server, [x]⟩
  | duel {server : Server} {a b : Conn} (active : server.gameActive = true)
      (other : PlayerTurn) (hother : other ≠ .none) (h : Conn.Duel .player1 other a b) :
      Stage ⟨server, [a, b]⟩
  | alone {server : Server} {x : Conn} (active : server.gameActive = true) :
      Stage ⟨server, [x]⟩
  | joined {server : Server} {a b : Conn} (active : server.gameActive = true)
      (h : Server.startPacket ∉ b.sent) : Stage ⟨server, [a, b]⟩

namespace System

theorem step_connect_empty {server : Server} {blank : Sprite} {after : System}
    (inactive : server.gameActive = false) (h : step ⟨server, []⟩ (.connect blank) = some after) :
    after = ⟨server.takeUid,
      [{ Conn.fresh server.componentNextUid blank with down := [Server.initPacket 0] }]⟩ := by
  simp [step, Server.maxClientCount, uids, Server.onClientConnect, Server.takeUid, inactive,
    Server.assignClientLocalID, deliver, Conn.receive, Conn.fresh] at h
  rw [← h]
  simp [Server.takeUid, inactive, Conn.fresh]

theorem step_connect_waiting {server : Server} {x : Conn} {blank : Sprite} {after : System}
    (inactive : server.gameActive = false) (hmapped : x.inPeerMap = true)
    (hfresh : x.uid ≠ server.componentNextUid)
    (h : step ⟨server, [x]⟩ (.connect blank) = some after) :
    ∃ other, other ≠ PlayerTurn.none ∧ after = ⟨{ server.takeUid with gameActive := true },
      [{ x with down := x.down ++ [Server.startPacket] },
        { Conn.fresh server.componentNextUid blank with
          down := [Server.initPacket (Conn.idOf other), Server.startPacket] }]⟩ := by
  have hother : ∃ other, other ≠ PlayerTurn.none ∧
      Conn.idOf other = if x.uid % 2 = 0 then 1 else 0 := by
    split
    · exact ⟨.player2, by simp, rfl⟩
    · exact ⟨.player1, by simp, rfl⟩
  obtain ⟨other, hnone, hid⟩ := hother
  refine ⟨other, hnone, ?_⟩
  rw [hid]
  simp [step, Server.maxClientCount, uids, Server.onClientConnect, Server.takeUid, inactive,
    Server.assignClientLocalID, deliver, Conn.receive, Conn.fresh, Conn.replacedBy, hmapped,
    hfresh, hfresh.symm, Server.sendToIndex] at h
  rw [← h]
  cases x
  simp only at hmapped
  simp [Server.takeUid, Conn.fresh, hmapped]

end System

namespace Conn

/-- A client of a running game when a newcomer gets the uid `uid`. -/
def joinedBy (uid : Nat) (x : Conn) : Conn :=
  { x with
    inPeerMap := x.inPeerMap && x.uid ≠ uid
    down := x.down ++ if x.inPeerMap && x.uid ≠ uid then [Server.readyPacket] else [] }

/-- A client of a running game when the other one has left. -/
def leftAlone (x : Conn) : Conn :=
  { x with down := x.down ++ if x.inPeerMap then [Server.dataSenderPacket] else [] }

/-- A client that connects to a running game. -/
def newcomer (uid : Nat) (blank : Sprite) : Conn :=
  { fresh uid blank with down := [Server.reconPacket] }

end Conn

namespace System

theorem step_connect_alone {server : Server} {x : Conn} {blank : Sprite} {after : System}
    (active : server.gameActive = true)
    (h : step ⟨server, [x]⟩ (.connect blank) = some after) :
    after = ⟨server.takeUid, [x.joinedBy server.componentNextUid,
      .newcomer server.componentNextUid blank]⟩ := by
  by_cases huid : x.uid = server.componentNextUid
  · simp [step, Server.maxClientCount, uids, Server.onClientConnect, Server.takeUid, active,
      deliver, Conn.receive, Conn.fresh, Conn.replacedBy, Server.sendToAllIf, huid] at h
    rw [← h]
    simp [Server.takeUid, active, Conn.joinedBy, Conn.newcomer, Conn.fresh, huid]
  · simp [step, Server.maxClientCount, uids, Server.onClientConnect, Server.takeUid, active,
      deliver, Conn.receive, Conn.fresh, Conn.replacedBy, Server.sendToAllIf, huid,
      Ne.symm huid] at h
    rw [← h]
    simp [Server.takeUid, active, Conn.joinedBy, Conn.newcomer, Conn.fresh, huid]

theorem step_connect_pair {server : Server} {a b : Conn} {blank : Sprite} :
    step ⟨server, [a, b]⟩ (.connect blank) = none := by
  simp [step, Server.maxClientCount]

theorem step_disconnect_alone {server : Server} {x : Conn} {index : Nat} {after : System}
    (h : step ⟨server, [x]⟩ (.disconnect index) = some after) :
    after.conns = [] ∧ after.server.gameActive = false ∧
      after.server.componentNextUid = server.componentNextUid := by
  rcases index with _ | index
  · simp only [step, List.getElem?_cons_zero] at h
    split at h
    · rw [← Option.some.inj h]
      cases hactive : server.gameActive <;>
        simp [Server.onClientDisconnect, hactive, deliver]
    · cases h
  · simp [step] at h

theorem step_disconnect_pair {server : Server} {a b : Conn} {index : Nat} {after : System}
    (active : server.gameActive = true)
    (h : step ⟨server, [a, b]⟩ (.disconnect index) = some after) :
    after = ⟨server, [b.leftAlone]⟩ ∨ after = ⟨server, [a.leftAlone]⟩ := by
  rcases index with _ | _ | index
  · simp only [step, List.getElem?_cons_zero] at h
    split at h
    · left
      rw [← Option.some.inj h]
      simp [Server.onClientDisconnect, active, Server.sendToIndex, deliver, Conn.receive,
        Conn.leftAlone]
    · cases h
  · simp only [step, List.getElem?_cons_succ, List.getElem?_cons_zero] at h
    split at h
    · right
      rw [← Option.some.inj h]
      simp [Server.onClientDisconnect, active, Server.sendToIndex, deliver, Conn.receive,
        Conn.leftAlone]
    · cases h
  · simp [step] at h

theorem start_not_mem_pair {clicks : Bool} {a b a' b' : Conn}
    (h : Server.startPacket ∉ b.sent) (hstep : Conn.PairStep clicks a b a' b') :
    Server.startPacket ∉ b'.sent := by
  have hcompleted (n : Nat) :
      Server.startPacket ∉ List.replicate n Server.completedPacket := by
    intro hmem
    have := List.eq_of_mem_replicate hmem
    simp [Server.startPacket, Server.completedPacket] at this
  cases hstep with
  | left => exact h
  | right _ hlocal =>
      have hsent : b'.sent = b.sent := congrArg Peer.sent (peer_local hlocal)
      rw [hsent]
      exact h
  | serveLeft _ _ hserve =>
      cases hserve with
      | forward msg rest hup hforward =>
          intro hmem
          simp only [Conn.sent] at hmem h
          rw [← List.append_assoc, List.mem_append] at hmem
          rcases hmem with hmem | hmem
          · exact h hmem
          · split at hmem
            · have hmsg := List.mem_singleton.mp hmem
              rw [← hmsg] at hforward
              simp [Server.startPacket, Server.isForwarded] at hforward
            · cases hmem
      | resume msg rest hup hresume m n =>
          intro hmem
          simp only [Conn.sent] at hmem h
          rw [← List.append_assoc, List.mem_append] at hmem
          rcases hmem with hmem | hmem
          · exact h hmem
          · exact hcompleted n hmem
      | dropped => exact h
  | serveRight _ _ hserve =>
      cases hserve with
      | forward => exact h
      | resume msg rest hup hresume m n =>
          intro hmem
          simp only [Conn.sent] at hmem h
          rw [← List.append_assoc, List.mem_append] at hmem
          rcases hmem with hmem | hmem
          · exact h hmem
          · exact hcompleted m hmem
      | dropped => exact h

end System

/-- What a step makes of the server and of the clients that are there. -/
inductive Stage.Next : System → SystemEvent → System → Prop
  | opened {server : Server} {blank : Sprite} (inactive : server.gameActive = false) :
      Next ⟨server, []⟩ (.connect blank) ⟨server.takeUid,
        [{ Conn.fresh server.componentNextUid blank with down := [Server.initPacket 0] }]⟩
  | started {server : Server} {x : Conn} {blank : Sprite} {other : PlayerTurn}
      (inactive : server.gameActive = false) (hlobby : x.Lobby server.componentNextUid)
      (hother : other ≠ .none) :
      Next ⟨server, [x]⟩ (.connect blank) ⟨{ server.takeUid with gameActive := true },
        [{ x with down := x.down ++ [Server.startPacket] },
          { Conn.fresh server.componentNextUid blank with
            down := [Server.initPacket (Conn.idOf other), Server.startPacket] }]⟩
  | joined {server : Server} {x : Conn} {blank : Sprite} (active : server.gameActive = true) :
      Next ⟨server, [x]⟩ (.connect blank) ⟨server.takeUid,
        [x.joinedBy server.componentNextUid, .newcomer server.componentNextUid blank]⟩
  | solo {server : Server} {x x' : Conn} {event : SystemEvent} (hstays : event.stays = true)
      (hstep : System.step ⟨server, [x]⟩ event = some ⟨server, [x']⟩)
      (hsolo : x.SoloStep event.isClick x') : Next ⟨server, [x]⟩ event ⟨server, [x']⟩
  | pair {server : Server} {a b a' b' : Conn} {event : SystemEvent} (hstays : event.stays = true)
      (hstep : System.step ⟨server, [a, b]⟩ event = some ⟨server, [a', b']⟩)
      (hpair : Conn.PairStep event.isClick a b a' b') :
      Next ⟨server, [a, b]⟩ event ⟨server, [a', b']⟩
  | leftFirst {server : Server} {a b : Conn} {index : Nat} (active : server.gameActive = true) :
      Next ⟨server, [a, b]⟩ (.disconnect index) ⟨server, [b.leftAlone]⟩
  | leftSecond {server : Server} {a b : Conn} {index : Nat} (active : server.gameActive = true) :
      Next ⟨server, [a, b]⟩ (.disconnect index) ⟨server, [a.leftAlone]⟩
  | emptied {server server' : Server} {x : Conn} {index : Nat}
      (inactive : server'.gameActive = false)
      (hnext : server'.componentNextUid = server.componentNextUid) :
      Next ⟨server, [x]⟩ (.disconnect index) ⟨server', []⟩

theorem Stage.next {system after : System} {event : SystemEvent} (h : Stage system)
    (hstep : system.step event = some after) : Next system event after := by
  have hsolo {server : Server} {x : Conn} (hstays : event.stays = true)
      (hstep : System.step ⟨server, [x]⟩ event = some after) : Next ⟨server, [x]⟩ event after := by
    obtain ⟨x', rfl, hlocal⟩ := System.step_solo hstays hstep
    exact .solo hstays hstep hlocal
  have hpair {server : Server} {a b : Conn} (active : server.gameActive = true)
      (hstep : System.step ⟨server, [a, b]⟩ event = some after) :
      Next ⟨server, [a, b]⟩ event after := by
    cases hstays : event.stays with
    | true =>
        obtain ⟨a', b', rfl, hlocal⟩ := System.step_pair hstays hstep
        exact .pair hstays hstep hlocal
    | false =>
        cases event with
        | connect blank =>
            rw [System.step_connect_pair] at hstep
            cases hstep
        | disconnect index =>
            rcases System.step_disconnect_pair active hstep with rfl | rfl
            · exact .leftFirst active
            · exact .leftSecond active
        | serve index => cases hstays
        | act index event => cases hstays
  have hempty {server : Server} {x : Conn} {index : Nat}
      (hstep : System.step ⟨server, [x]⟩ (.disconnect index) = some after) :
      Next ⟨server, [x]⟩ (.disconnect index) after := by
    obtain ⟨hconns, hinactive, hnext⟩ := System.step_disconnect_alone hstep
    obtain ⟨server', conns⟩ := after
    obtain rfl : conns = [] := hconns
    exact .emptied hinactive hnext
  cases h with
  | empty inactive =>
      cases event with
      | connect blank =>
          rw [System.step_connect_empty inactive hstep]
          exact .opened inactive
      | disconnect index => simp [System.step] at hstep
      | serve index => simp [System.step] at hstep
      | act index event => simp [System.step] at hstep
  | waiting inactive hlobby =>
      cases event with
      | connect blank =>
          obtain ⟨other, hother, rfl⟩ :=
            System.step_connect_waiting inactive hlobby.side.mapped hlobby.uid_ne hstep
          exact .started inactive hlobby hother
      | disconnect index => exact hempty hstep
      | serve index => exact hsolo rfl hstep
      | act index event => exact hsolo rfl hstep
  | alone active =>
      cases event with
      | connect blank =>
          rw [System.step_connect_alone active hstep]
          exact .joined active
      | disconnect index => exact hempty hstep
      | serve index => exact hsolo rfl hstep
      | act index event => exact hsolo rfl hstep
  | duel active => exact hpair active hstep
  | joined active => exact hpair active hstep

/-- Every step leads to one of the stages again. -/
theorem Stage.step {system after : System} {event : SystemEvent}
    (h : Stage system ∧ system.server.componentNextUid < 2 ^ 32)
    (hstep : system.step event = some after) :
    Stage after ∧ after.server.componentNextUid < 2 ^ 32 := by
  obtain ⟨h, hbound⟩ := h
  have htake (server : Server) : server.takeUid.componentNextUid < 2 ^ 32 :=
    Nat.mod_lt _ (by decide)
  cases h.next hstep with
  | opened inactive => exact ⟨.waiting inactive (Conn.lobby_fresh _ hbound rfl), htake _⟩
  | started _ hlobby hother => exact ⟨.duel rfl _ hother (hlobby.duel _), htake _⟩
  | joined active =>
      refine ⟨.joined active ?_, htake _⟩
      simp [Conn.sent, Conn.newcomer, Conn.fresh, GameScene.create, ClientComponent.fresh,
        Server.startPacket, Server.reconPacket]
  | solo _ _ hsolo =>
      cases h with
      | waiting inactive hlobby => exact ⟨.waiting inactive (hlobby.step hsolo), hbound⟩
      | alone active => exact ⟨.alone active, hbound⟩
  | pair _ _ hpair =>
      cases h with
      | duel active other hother hduel =>
          exact ⟨.duel active other hother (hduel.step (by simp) hother hpair), hbound⟩
      | joined active hstart =>
          exact ⟨.joined active (System.start_not_mem_pair hstart hpair), hbound⟩
  | leftFirst active => exact ⟨.alone active, hbound⟩
  | leftSecond active => exact ⟨.alone active, hbound⟩
  | emptied inactive hnext => exact ⟨.empty inactive, hnext ▸ hbound⟩

/-- Where a run is, and that the next uid fits an unsigned int. -/
theorem staged_exec {events : List SystemEvent} {system : System}
    (h : exec System.step System.initial events = some system) :
    Stage system ∧ system.server.componentNextUid < 2 ^ 32 := by
  have hinitial : Stage System.initial ∧ System.initial.server.componentNextUid < 2 ^ 32 :=
    ⟨.empty rfl, by decide⟩
  exact invariant_of_step (fun _ _ _ hs hstep => Stage.step hs hstep) h hinitial

theorem stage_exec {events : List SystemEvent} {system : System}
    (h : exec System.step System.initial events = some system) : Stage system :=
  (staged_exec h).1

end NetworkingGame
