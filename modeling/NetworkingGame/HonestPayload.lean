import NetworkingGame.Channel
import NetworkingGame.Clients
import NetworkingGame.Payload
import NetworkingGame.TeamHandover

/-!
The other side of the unchecked payloads: what clients of this program and the
server write is always read, so that no client of a run of such clients is
ever stopped by a text that it cannot read, by a division by zero or by
`whichTurn` ending without a value. `endgame_check` does end without one; a
click is given what its caller finds then, and is carried out with any of it.
The only condition is that the numbers of the units stay in the range of the
`int` that they are kept in.
-/

namespace NetworkingGame

open Library.Binary32 Library.Text Library.Transition

namespace CustomPacket

/-- The packet survives encoding, and its text can be read. A chat line may be
cut short. -/
structure Legible (packet : CustomPacket) : Prop where
  readable : '\x00' ∉ packet.type.toList
  whole : packet.type ≠ "chat" → packet.NulFree
  number : packet.type = "turn" ∨ packet.type = "player" → IsInt packet.msgText.toList
  unit : packet.type = "unit" → IsUnitText packet.msgText.toList

section Legible

variable {packet msg : CustomPacket}

theorem legible_chat (h : packet.type = "chat") : packet.Legible := by
  refine ⟨?_, fun hnot => absurd h hnot, ?_, ?_⟩
  · rw [h]
    decide
  · intro hnumber
    rw [h] at hnumber
    simp at hnumber
  · intro hunit
    rw [h] at hunit
    simp at hunit

/-- Control packets carry no number and no unit. -/
theorem legible_control (hfree : packet.NulFree)
    (htype : packet.type ∉ ["turn", "player", "unit"]) : packet.Legible := by
  simp only [List.mem_cons, List.not_mem_nil, or_false, not_or] at htype
  refine ⟨hfree.type, fun _ => hfree, ?_, fun hunit => absurd hunit htype.2.2⟩
  rintro (hturn | hplayer)
  · exact absurd hturn htype.1
  · exact absurd hplayer htype.2.1

theorem Legible.read (h : packet.Legible) (hread : ofData packet.data = some msg) :
    msg.Legible := by
  rcases eq_or_chat h.whole hread with rfl | ⟨-, htype⟩
  · exact h
  · exact legible_chat htype

theorem isInt_toString {n : Int} (h : InInt32 n) : IsInt (toString n).toList := by
  rw [toInt_isOk, toInt_toString, if_pos h]
  exact ⟨n, rfl⟩

/-- A number between 0 and 2 is read by all packets that carry one. -/
theorem isInt_digit {n : Int} (h : 0 ≤ n ∧ n ≤ 2) : IsInt (toString n).toList :=
  isInt_toString ⟨by omega, by omega⟩

theorem legible_number {type : String} {n : Int} (htype : type = "turn" ∨ type = "player")
    (h : 0 ≤ n ∧ n ≤ 2) : Legible ⟨type, "", toString n⟩ := by
  have hnul : '\x00' ∉ (toString n).toList := not_mem_toString '\x00' n (by decide) (by decide)
  have hread : '\x00' ∉ type.toList := by
    rcases htype with rfl | rfl <;> decide
  refine ⟨hread, fun _ => ⟨hread, by simp, hnul⟩, fun _ => isInt_digit h, ?_⟩
  rintro rfl
  simp at htype

theorem legible_writes (h : Server.Writes packet) : packet.Legible := by
  cases h with
  | init id =>
      have hnul : '\x00' ∉ (toString id).toList :=
        not_mem_toString '\x00' id (by decide) (by decide)
      exact legible_control ⟨by simp [Server.initPacket], by simp [Server.initPacket], hnul⟩
        (by simp [Server.initPacket])
  | start => exact legible_control ⟨by decide, by decide, by decide⟩ (by decide)
  | recon => exact legible_control ⟨by decide, by decide, by decide⟩ (by decide)
  | ready => exact legible_control ⟨by decide, by decide, by decide⟩ (by decide)
  | completed => exact legible_control ⟨by decide, by decide, by decide⟩ (by decide)
  | dataSender => exact legible_control ⟨by decide, by decide, by decide⟩ (by decide)

end Legible

end CustomPacket

/-- The numbers that a packet about the unit carries are in the range of `int`. -/
structure GameUnit.Fits (unit : GameUnit) : Prop where
  squadSize : InInt32 unit.squadSize
  health : InInt32 unit.health
  x : InInt32 unit.objectSprite.xPos.val
  y : InInt32 unit.objectSprite.yPos.val

instance (unit : GameUnit) : Decidable unit.Fits :=
  decidable_of_iff (InInt32 unit.squadSize ∧ InInt32 unit.health ∧
    InInt32 unit.objectSprite.xPos.val ∧ InInt32 unit.objectSprite.yPos.val)
    ⟨fun h => ⟨h.1, h.2.1, h.2.2.1, h.2.2.2⟩, fun h => ⟨h.squadSize, h.health, h.x, h.y⟩⟩

namespace Msg

open CustomPacket

/-- All numbers of the message are read as an `int`. -/
def Fits : Msg → Prop
  | .unit _ x y squadSize health =>
      InInt32 x.val ∧ InInt32 y.val ∧ InInt32 squadSize ∧ InInt32 health
  | .endgame victor => InInt32 victor
  | .endturn => True

theorem legible_packet {m : Msg} (h : m.Fits) : m.packet.Legible := by
  have hfree := nulFree_packet m
  refine ⟨hfree.type, fun _ => hfree, by simp, fun _ => ?_⟩
  rw [unitDataDeciper_isOk]
  cases m with
  | unit ref x y squadSize health =>
      obtain ⟨hx, hy, hsquad, hhealth⟩ := h
      rw [unitDataDeciper_of_fields ref.refName.toList (floatText x).toList (floatText y).toList
        (toString squadSize).toList (toString health).toList (by simp [packet, unitText])
        ref.delimiter_not_mem_refName (delimiter_not_mem_floatText x)
        (delimiter_not_mem_floatText y) (delimiter_not_mem_toString squadSize)
        (delimiter_not_mem_toString health)]
      simp only [toInt_floatText, toInt_toString, if_pos hx, if_pos hy, if_pos hsquad,
        if_pos hhealth]
      exact ⟨_, rfl⟩
  | endgame victor =>
      have hvictor : InInt32 victor := h
      have hzero : toInt ['0'] = .ok 0 := by decide +kernel
      rw [unitDataDeciper_of_fields "endgame".toList (toString victor).toList ['0'] ['0'] ['0']
        (by simp [packet, GameScene.endgamePacket]) (by decide) (delimiter_not_mem_toString victor)
        (by decide) (by decide) (by decide)]
      simp only [toInt_toString, hzero, if_pos hvictor]
      exact ⟨_, rfl⟩
  | endturn => exact ⟨_, deciper_endturn⟩

theorem fits_ofUnit {unit : GameUnit} (h : unit.Fits) (ref : UnitRef) : (ofUnit ref unit).Fits :=
  ⟨h.x, h.y, h.squadSize, h.health⟩

end Msg

namespace GameScene

open CustomPacket

variable {scene after : GameScene}

/-- The numbers of all units are in the range of `int`. -/
def InRange (scene : GameScene) : Prop := ∀ ref, (scene.units.get ref).Fits

instance (scene : GameScene) : Decidable scene.InRange :=
  inferInstanceAs (Decidable (∀ ref : UnitRef, (scene.units.get ref).Fits))

/-- The click leaves all numbers of units in the range of `int`. -/
def ClickStays (scene : GameScene) (xpos ypos : Int) : Prop :=
  ∀ undefinedReturn, ∀ after ∈ (scene.clickHandler undefinedReturn xpos ypos).toOption,
    after.InRange

instance (scene : GameScene) (xpos ypos : Int) : Decidable (scene.ClickStays xpos ypos) :=
  inferInstanceAs (Decidable (∀ undefinedReturn : Bool,
    ∀ after ∈ (scene.clickHandler undefinedReturn xpos ypos).toOption, after.InRange))

/-- The packets that end a turn can be read. -/
theorem legible_turnMsgs (h : scene.InRange) (undefinedReturn : Bool) :
    ∀ packet ∈ (scene.turnMsgs undefinedReturn).map Msg.packet, packet.Legible := by
  intro packet hpacket
  obtain ⟨m, hm, rfl⟩ := List.mem_map.mp hpacket
  apply Msg.legible_packet
  simp only [turnMsgs, List.mem_append, List.mem_singleton] at hm
  rcases hm with (hm | hm) | rfl
  · obtain ⟨ref, -, rfl⟩ := List.mem_map.mp hm
    exact Msg.fits_ofUnit (h ref) ref
  · split at hm
    · rw [List.mem_singleton.mp hm]
      simp only [Msg.Fits, victor]
      split <;> decide
    · cases hm
  · trivial

theorem gameTurn_bounds {gameTurn : Int} (h : scene.whichTurn = .ok gameTurn) :
    0 ≤ gameTurn ∧ gameTurn ≤ 2 := by
  unfold whichTurn at h
  split at h
  · rw [← Except.ok.inj h]
    decide
  · rw [← Except.ok.inj h]
    decide
  · cases h

theorem legible_updateComplete : updateCompletePacket.Legible :=
  legible_control ⟨by decide, by decide, by decide⟩ (by decide)

theorem legible_resume : resumePacket.Legible :=
  legible_control ⟨by decide, by decide, by decide⟩ (by decide)

/-- The packets of a snapshot can be read. -/
theorem legible_snapshot (h : scene.InRange) {gameTurn : Int}
    (hturn : 0 ≤ gameTurn ∧ gameTurn ≤ 2) :
    ∀ packet ∈ scene.snapshot gameTurn, packet.Legible := by
  intro packet hpacket
  simp only [snapshot, List.mem_append, List.mem_cons, List.not_mem_nil, or_false] at hpacket
  rcases hpacket with ((rfl | rfl) | hunit) | rfl
  · apply legible_number (Or.inr rfl)
    unfold opponentTeam
    split <;> decide
  · exact legible_number (Or.inl rfl) hturn
  · obtain ⟨ref, -, rfl⟩ := List.mem_map.mp hunit
    exact Msg.legible_packet (Msg.fits_ofUnit (h ref) ref)
  · exact legible_updateComplete

section Turn

theorem applyUnitPacket_turn_ne {packet : CustomPacket} (h : scene.playerTurn ≠ .none)
    (hread : scene.applyUnitPacket packet = .ok after) : after.playerTurn ≠ .none := by
  obtain ⟨received, -, hread⟩ := bind_eq_ok hread
  have hother := Conn.otherTurn_ne_none h
  dsimp only at hread
  split at hread
  · rw [← Except.ok.inj hread]
    split
    · exact hother
    · exact h
  · split at hread
    · rw [← Except.ok.inj hread]
      dsimp only
      split
      · exact hother
      · exact h
    · rw [← Except.ok.inj hread]
      split
      · exact hother
      · exact h

theorem unitNetworkUpdate_turn_ne (h : scene.playerTurn ≠ .none)
    (hdrain : scene.unitNetworkUpdate = .ok after) : after.playerTurn ≠ .none := by
  obtain ⟨drained, hfold, hdrain⟩ := bind_eq_ok hdrain
  rw [← Except.ok.inj hdrain]
  exact foldlM_invariant (fun scene => scene.playerTurn ≠ PlayerTurn.none)
    (fun _ _ _ _ hturn hread => applyUnitPacket_turn_ne hturn hread) h hfold

theorem adoptTurn_turn_ne (h : scene.playerTurn ≠ .none) : scene.adoptTurn.playerTurn ≠ .none := by
  unfold adoptTurn
  split_ifs
  · simp
  · simp
  · exact h

end Turn

/-- A frame keeps a turn. -/
theorem Frame.turn_ne (h : scene.playerTurn ≠ .none) (hframe : scene.Frame after) :
    after.playerTurn ≠ .none := by
  have hbegun : scene.begun.playerTurn ≠ .none := by
    rw [begun_playerTurn]
    exact h
  cases hframe with
  | idle => exact hbegun
  | send => exact hbegun
  | adopt _ drained hdrain =>
      have hadopted : scene.begun.adoptTurn.adoptTeam.playerTurn ≠ .none := by
        unfold adoptTeam
        split_ifs <;> exact adoptTurn_turn_ne hbegun
      have hdrained : drained.playerTurn ≠ .none := unitNetworkUpdate_turn_ne hadopted hdrain
      exact hdrained
  | finished => exact hbegun
  | wait => exact hbegun
  | drain _ _ _ _ hdrain =>
      have hupdated : scene.begun.unitsUpdate.playerTurn ≠ .none := hbegun
      exact unitNetworkUpdate_turn_ne hupdated hdrain

end GameScene

section Fits

theorem fits_of_small {unit : GameUnit} (squadSize health x y : Int)
    (hsquadSize : unit.squadSize = squadSize) (hhealth : unit.health = health)
    (hx : unit.objectSprite.xPos = .cast x) (hy : unit.objectSprite.yPos = .cast y)
    (hsmall : ∀ n ∈ [squadSize, health, x, y], n.natAbs ≤ 2 ^ 24) : unit.Fits := by
  simp only [List.mem_cons, List.not_mem_nil, or_false, forall_eq_or_imp, forall_eq] at hsmall
  obtain ⟨hsquad, hlife, hleft, htop⟩ := hsmall
  refine ⟨?_, ?_, ?_, ?_⟩
  · rw [hsquadSize]
    constructor <;> omega
  · rw [hhealth]
    constructor <;> omega
  · rw [hx, IntFloat.val_cast_of_le hleft]
    constructor <;> omega
  · rw [hy, IntFloat.val_cast_of_le htop]
    constructor <;> omega

theorem fits_initUnits (blank : Sprite) (ref : UnitRef) :
    ((GameScene.initUnits blank).get ref).Fits := by
  cases ref with
  | infantryEnemy => exact fits_of_small 10 20 40 3 rfl rfl rfl rfl (by decide)
  | sniperEnemy => exact fits_of_small 5 10 40 123 rfl rfl rfl rfl (by decide)
  | artilleryEnemy => exact fits_of_small 2 5 40 243 rfl rfl rfl rfl (by decide)
  | tankEnemy => exact fits_of_small 1 100 40 363 rfl rfl rfl rfl (by decide)
  | infantryAlly => exact fits_of_small 10 20 1120 3 rfl rfl rfl rfl (by decide)
  | sniperAlly => exact fits_of_small 5 10 1120 123 rfl rfl rfl rfl (by decide)
  | artilleryAlly => exact fits_of_small 2 5 1120 243 rfl rfl rfl rfl (by decide)
  | tankAlly => exact fits_of_small 1 100 1120 363 rfl rfl rfl rfl (by decide)

theorem GameUnit.Fits.update {unit : GameUnit} (h : unit.Fits) : unit.update.Fits := by
  have hupdated := unit.update_updated
  generalize unit.update = after at hupdated ⊢
  cases hupdated with
  | died =>
      have hgrave : InInt32 (IntFloat.cast (-200)).val := by decide +kernel
      exact { h with x := hgrave, y := hgrave }
  | dead | placed => exact { h with }

/-- Only a click can take the numbers of a unit out of range. -/
theorem fits_invariant :
    UnitInvariant GameScene.ClickStays (fun _ unit => unit.Fits) := by
  constructor
  · exact fits_initUnits
  · exact fun _ unit h => h.update
  · intro _ unit other _ h
    exact ⟨h.squadSize, h.health, h.x, h.y⟩
  · intro _ unit h
    exact { h with }
  · intro scene after undefinedReturn xpos ypos _ hstays hclick ref
    exact hstays undefinedReturn after (by rw [hclick]; rfl) ref

end Fits

namespace Conn

open CustomPacket

/-- In the state that the step leads to, all numbers of units are in range. -/
def StaysInRange (x : Conn) (event : LocalEvent) : Prop :=
  ∀ x' ∈ x.step event, x'.scene.InRange

/-- The client can read all that is on its way to it, and all that it has
written can be read. -/
structure Literate (x : Conn) : Prop where
  units : x.scene.InRange
  turn : x.scene.playerTurn ≠ .none
  inbox : ∀ packet ∈ x.scene.client.recievedQueue ++ x.down, packet.Legible
  queue : ∀ packet ∈ x.scene.client.unitUpdateQueue, IsUnitText packet.msgText.toList
  unhandled : ∀ packet ∈ x.unhandled, packet.Legible

section Literate

variable {x x' : Conn} {event : LocalEvent}

/-- A step of the scene sends what it writes behind the rest. -/
theorem Literate.scene (h : x.Literate) (scene : GameScene) (written : List CustomPacket)
    (hunits : scene.InRange) (hturn : scene.playerTurn ≠ .none)
    (hreceived : scene.client.recievedQueue = x.scene.client.recievedQueue)
    (hqueue : ∀ packet ∈ scene.client.unitUpdateQueue, packet ∈ x.scene.client.unitUpdateQueue)
    (hsending : scene.client.sendingQueue = x.scene.client.sendingQueue ++ written)
    (hwritten : ∀ packet ∈ written, packet.Legible) : Literate { x with scene := scene } := by
  refine ⟨hunits, hturn, ?_, fun packet hpacket => h.queue packet (hqueue packet hpacket), ?_⟩
  · rw [hreceived]
    exact h.inbox
  · intro packet hpacket
    simp only [Conn.unhandled, hsending, ← List.append_assoc, List.mem_append] at hpacket
    rcases hpacket with hpacket | hpacket
    · exact h.unhandled packet (List.mem_append.mpr hpacket)
    · exact hwritten packet hpacket

/-- A step of the scene that leaves the network component alone. -/
theorem Literate.same (h : x.Literate) (scene : GameScene) (hunits : scene.InRange)
    (hturn : scene.playerTurn ≠ .none) (hclient : scene.client = x.scene.client) :
    Literate { x with scene := scene } := by
  apply h.scene scene [] hunits hturn
  · rw [hclient]
  · rw [hclient]
    exact fun _ hpacket => hpacket
  · rw [hclient, List.append_nil]
  · exact fun _ hpacket => by cases hpacket

theorem Literate.frame (h : x.Literate) {scene : GameScene} (hunits : scene.InRange)
    (hframe : x.scene.Frame scene) : Literate { x with scene := scene } := by
  have hturn := hframe.turn_ne h.turn
  rcases hframe.client_cases with hclient | ⟨-, gameTurn, hnumber, hclient⟩ | ⟨-, hclient⟩ |
    ⟨-, hclient⟩
  · exact h.same scene hunits hturn hclient
  · have hbegun : x.scene.begun.InRange := by
      intro ref
      rw [GameScene.begun_units]
      exact h.units ref
    apply h.scene scene (x.scene.begun.snapshot gameTurn) hunits hturn
    · rw [hclient]
      rfl
    · rw [hclient]
      exact fun _ hpacket => hpacket
    · rw [hclient]
      rfl
    · exact GameScene.legible_snapshot hbegun (GameScene.gameTurn_bounds hnumber)
  · apply h.scene scene [GameScene.resumePacket] hunits hturn
    · rw [hclient]
      rfl
    · rw [hclient]
      exact fun _ hpacket => by cases hpacket
    · rw [hclient]
      rfl
    · intro packet hpacket
      rw [List.mem_singleton.mp hpacket]
      exact GameScene.legible_resume
  · apply h.scene scene [] hunits hturn
    · rw [hclient]
    · rw [hclient]
      exact fun _ hpacket => by cases hpacket
    · rw [hclient, List.append_nil]
    · exact fun _ hpacket => by cases hpacket

theorem Literate.click (h : x.Literate) {scene : GameScene} (hunits : scene.InRange)
    (hclick : x.scene.Click scene) : Literate { x with scene := scene } := by
  cases hclick with
  | ignored => exact h
  | ended undefinedReturn =>
      rw [GameScene.endTurn_eq] at hunits ⊢
      exact h.scene _ _ hunits (otherTurn_ne_none h.turn) rfl (fun _ hpacket => hpacket) rfl
        (GameScene.legible_turnMsgs h.units undefinedReturn)
  | moved _ _ _ hmoved =>
      have hturn : scene.playerTurn ≠ .none := by
        rw [hmoved.rest]
        exact h.turn
      exact h.same scene hunits hturn (by rw [hmoved.rest])

theorem Literate.enter (h : x.Literate) {scene : GameScene} (henter : x.scene.Enter scene) :
    Literate { x with scene := scene } := by
  cases henter with
  | ignored => exact h
  | named => exact { h with }
  | chat hopen line hchat =>
      apply h.scene (x.scene.push [line]) [line] h.units h.turn rfl (fun _ hpacket => hpacket) rfl
      intro packet hpacket
      rw [List.mem_singleton.mp hpacket]
      exact legible_chat hchat

theorem Literate.step (h : x.Literate) (hrange : x.StaysInRange event)
    (hstep : x.step event = some x') : x'.Literate := by
  have hunits : x'.scene.InRange := hrange x' hstep
  cases step_local hstep with
  | send packet msg rest hqueue hread =>
      refine { h with unhandled := ?_ }
      intro p hp
      simp only [Conn.unhandled, GameScene.withClient, List.mem_append, List.mem_singleton] at hp
      rcases hp with (hp | rfl) | hp
      · exact h.unhandled p (List.mem_append_left _ hp)
      · exact (h.unhandled packet (by simp [Conn.unhandled, hqueue])).read hread
      · exact h.unhandled p (by simp [Conn.unhandled, hqueue, hp])
  | receive packet rest hdown =>
      refine { h with inbox := ?_ }
      intro p hp
      apply h.inbox p
      simpa [GameScene.withClient, hdown] using hp
  | dispatch packet rest client hqueue hread =>
      have hprocessed := ClientComponent.processRecievedPackets_processed hread
      obtain ⟨hreceived, hsending⟩ := hprocessed.queues
      have hlegible : packet.Legible := h.inbox packet (by simp [hqueue])
      refine ⟨h.units, h.turn, ?_, ?_, ?_⟩
      · intro p hp
        apply h.inbox p
        simp only [GameScene.withClient, hreceived, hqueue, List.mem_append] at hp ⊢
        exact hp.imp_left (List.mem_cons_of_mem packet)
      · intro p hp
        simp only [GameScene.withClient, hprocessed.unitUpdateQueue_eq] at hp
        split at hp
        · rename_i hunit
          rcases List.mem_append.mp hp with hp | hp
          · exact h.queue p hp
          · rw [List.mem_singleton.mp hp]
            exact hlegible.unit hunit
        · exact h.queue p hp
      · intro p hp
        apply h.unhandled p
        simpa only [Conn.unhandled, GameScene.withClient, hsending] using hp
  | frame scene hframe => exact h.frame hunits hframe
  | click scene _ hclick => exact h.click hunits hclick
  | enter scene henter => exact h.enter henter

theorem literate_invariant :
    System.ClientInvariant StaysInRange Legible Literate := by
  constructor
  · exact fun packet hwrites => legible_writes hwrites
  · intro uid blank
    refine ⟨fits_initUnits blank, by simp [Conn.fresh, GameScene.create], ?_, ?_, ?_⟩ <;>
    · intro packet hpacket
      cases hpacket
  · exact fun x inPeerMap h => { h with }
  · intro x packets h hpackets
    refine { h with inbox := ?_ }
    intro packet hpacket
    simp only [← List.append_assoc, List.mem_append] at hpacket
    rcases hpacket with hpacket | hpacket
    · exact h.inbox packet (List.mem_append.mpr hpacket)
    · exact hpackets packet hpacket
  · intro x msg rest h hup
    refine ⟨h.unhandled msg (by simp [Conn.unhandled, hup]), { h with unhandled := ?_ }⟩
    intro packet hpacket
    apply h.unhandled packet
    simp only [Conn.unhandled, hup, List.mem_append] at hpacket ⊢
    exact hpacket.imp_left (List.mem_cons_of_mem msg)
  · exact fun x event x' h hrange hstep => h.step hrange hstep

end Literate

end Conn

section Numbering

/-- A local id, if the packet is one, can be read. -/
def CustomPacket.Numbered (packet : CustomPacket) : Prop :=
  packet.type = "init" → IsInt packet.msgText.toList

namespace Server

theorem numbered_onClientConnect {server : Server} {clients : List Nat} {client uid : Nat}
    {packet : CustomPacket}
    (h : packet ∈ Action.mail (server.onClientConnect clients client).2 uid) :
    packet.Numbered := by
  have hother {sent : CustomPacket} (htype : sent.type ≠ "init") : sent.Numbered :=
    fun h => absurd h htype
  have hassigned : ∀ action ∈ assignClientLocalID clients client,
      ∀ sent, action = .sendTo uid sent → sent.Numbered := by
    intro action haction sent hsent
    rw [List.mem_singleton.mp haction] at hsent
    obtain ⟨-, rfl⟩ := Action.sendTo.inj hsent
    intro _
    apply CustomPacket.isInt_digit
    split <;> decide
  have hstart (index : Nat) (hsent : Action.sendTo uid packet =
      sendToIndex clients index startPacket) : packet.Numbered := by
    unfold sendToIndex at hsent
    split at hsent
    · obtain ⟨-, rfl⟩ := Action.sendTo.inj hsent
      exact hother (by decide)
    · cases hsent
  have haction := Action.mem_mail.mp h
  unfold onClientConnect at haction
  split at haction
  · simp only [sendToAllIf, List.mem_cons, List.mem_map] at haction
    rcases haction with haction | ⟨other, -, haction⟩
    · obtain ⟨-, rfl⟩ := Action.sendTo.inj haction
      exact hother (by decide)
    · obtain ⟨-, rfl⟩ := Action.sendTo.inj haction
      exact hother (by decide)
  · split at haction
    · simp only [List.mem_append, List.mem_cons, List.not_mem_nil, or_false] at haction
      rcases haction with haction | haction | haction
      · exact hassigned _ haction packet rfl
      · exact hstart 0 haction
      · exact hstart 1 haction
    · exact hassigned _ haction packet rfl

/-- Only a connect hands out a local id. -/
theorem numbered_of_not_isControl {packet : CustomPacket}
    (h : Session.isControl packet = false) : packet.Numbered := by
  intro htype
  simp [Session.isControl, htype] at h

end Server

namespace Session

theorem numbered_handle {session after : Session} {event : Event} {actions : List Action}
    (h : session.handle event = some (after, actions)) (uid : Nat) :
    ∀ packet ∈ Action.mail actions uid, packet.Numbered := by
  intro packet hpacket
  cases event with
  | connect =>
      simp only [handle] at h
      split at h
      · obtain ⟨-, rfl⟩ := Prod.mk.inj (Option.some.inj h)
        exact Server.numbered_onClientConnect hpacket
      · cases h
  | disconnect index =>
      simp only [handle] at h
      split at h
      · cases h
      · split at h
        · obtain ⟨-, rfl⟩ := Prod.mk.inj (Option.some.inj h)
          exact Server.numbered_of_not_isControl (quiet_onClientDisconnect _ _ _ packet hpacket)
        · cases h
  | data index msg =>
      simp only [handle] at h
      split at h
      · cases h
      · obtain ⟨-, rfl⟩ := Prod.mk.inj (Option.some.inj h)
        exact Server.numbered_of_not_isControl (quiet_onClientData _ _ _ _ packet hpacket)

/-- The peers of the state in which the callback has run were there before, or
have been sent nothing yet. -/
theorem peers_handle {session after : Session} {event : Event} {actions : List Action}
    (h : session.handle event = some (after, actions)) :
    ∀ peer ∈ after.peers, peer.sent = [] ∨ ∃ before ∈ session.peers, peer.sent = before.sent := by
  intro peer hpeer
  cases event with
  | connect =>
      simp only [handle] at h
      split at h
      · obtain ⟨rfl, -⟩ := Prod.mk.inj (Option.some.inj h)
        simp only [List.mem_append, List.mem_map, List.mem_singleton] at hpeer
        rcases hpeer with ⟨before, hbefore, rfl⟩ | rfl
        · exact Or.inr ⟨before, hbefore, rfl⟩
        · exact Or.inl rfl
      · cases h
  | disconnect index =>
      simp only [handle] at h
      split at h
      · cases h
      · split at h
        · obtain ⟨rfl, -⟩ := Prod.mk.inj (Option.some.inj h)
          exact Or.inr ⟨peer, List.mem_of_mem_eraseIdx hpeer, rfl⟩
        · cases h
  | data index msg =>
      simp only [handle] at h
      split at h
      · cases h
      · obtain ⟨rfl, -⟩ := Prod.mk.inj (Option.some.inj h)
        exact Or.inr ⟨peer, hpeer, rfl⟩

/-- Every local id that a client was ever sent can be read. -/
theorem numbered_step {session after : Session} {event : Event}
    (hall : ∀ peer ∈ session.peers, ∀ packet ∈ peer.sent, packet.Numbered)
    (h : session.step event = some after) :
    ∀ peer ∈ after.peers, ∀ packet ∈ peer.sent, packet.Numbered := by
  obtain ⟨⟨next, actions⟩, hhandle, rfl⟩ := Option.map_eq_some_iff.mp h
  intro peer hpeer packet hpacket
  obtain ⟨before, hbefore, rfl⟩ := List.mem_map.mp hpeer
  rcases List.mem_append.mp hpacket with hold | hnew
  · rcases peers_handle hhandle before hbefore with hempty | ⟨earlier, hearlier, hsame⟩
    · rw [hempty] at hold
      cases hold
    · rw [hsame] at hold
      exact hall earlier hearlier packet hold
  · split at hnew
    · exact numbered_handle hhandle before.uid packet hnew
    · cases hnew

end Session

theorem System.numbered_exec {events : List SystemEvent} {system : System}
    (hrun : exec System.step System.initial events = some system) :
    ∀ x ∈ system.conns, ∀ packet ∈ x.sent, packet.Numbered := by
  obtain ⟨seen, hseen⟩ := System.exec_refines hrun
  intro x hx
  apply invariant_of_step (I := fun session : Session =>
    ∀ peer ∈ session.peers, ∀ packet ∈ peer.sent, packet.Numbered)
    (fun session event after hall hstep => Session.numbered_step hall hstep) hseen
    (fun peer hpeer => by cases hpeer) (System.peer x)
  exact List.mem_map_of_mem hx

end Numbering

namespace GameScene

variable {scene after : GameScene}

theorem whichTurn_isOk (h : scene.playerTurn ≠ .none) :
    ∃ gameTurn, scene.whichTurn = .ok gameTurn := by
  cases hturn : scene.playerTurn with
  | player1 => exact ⟨1, by rw [whichTurn, hturn]⟩
  | player2 => exact ⟨2, by rw [whichTurn, hturn]⟩
  | none => exact absurd hturn h

theorem unitNetworkUpdate_isOk
    (h : ∀ packet ∈ scene.client.unitUpdateQueue, IsUnitText packet.msgText.toList) :
    ∃ after, scene.unitNetworkUpdate = .ok after := by
  obtain ⟨drained, hdrained⟩ := (foldlM_isOk_iff applyUnitPacket_isOk_iff _ scene).mpr h
  exact ⟨_, by rw [unitNetworkUpdate, hdrained]; rfl⟩

theorem play_isOk
    (h : ∀ packet ∈ scene.client.unitUpdateQueue, IsUnitText packet.msgText.toList) :
    ∃ after, scene.play = .ok after := by
  simp only [play]
  split
  · rename_i hfirst
    obtain ⟨drained, hdrained⟩ := @unitNetworkUpdate_isOk scene.unitsUpdate h
    have hteam : drained.assignedTeam = .player2 := by
      rw [unitNetworkUpdate_rest hdrained]
      exact hfirst.2
    refine ⟨drained, ?_⟩
    rw [hdrained]
    exact if_neg (by simp [hteam])
  · simp only [bind, Except.bind]
    split
    · exact @unitNetworkUpdate_isOk scene.unitsUpdate h
    · exact ⟨_, rfl⟩

theorem update_isOk (hturn : scene.playerTurn ≠ .none)
    (h : ∀ packet ∈ scene.client.unitUpdateQueue, IsUnitText packet.msgText.toList) :
    ∃ after, scene.update = .ok after := by
  have hbegun : ∀ packet ∈ scene.begun.client.unitUpdateQueue,
      IsUnitText packet.msgText.toList := by
    rw [begun_client]
    exact h
  change ∃ after, (if scene.begun.client.isLobby || scene.begun.client.isReconnecting then
    if scene.begun.sendsSnapshot then do
      let scene ← scene.begun.updateReconnectee
      return { scene with client := { scene.client with readyToSend := false } }
    else if scene.begun.adoptsSnapshot then scene.begun.adoptSnapshot
    else .ok scene.begun
  else if scene.begun.gameFinished then .ok scene.begun
  else scene.begun.play) = .ok after
  split
  · split
    · obtain ⟨gameTurn, hnumber⟩ := @whichTurn_isOk scene.begun (by rwa [begun_playerTurn])
      simp only [updateReconnectee, hnumber]
      exact ⟨_, rfl⟩
    · split
      · have hadopted : ∀ packet ∈ scene.begun.adoptTurn.adoptTeam.client.unitUpdateQueue,
            IsUnitText packet.msgText.toList := by
          unfold adoptTeam
          split_ifs <;> simpa using hbegun
        obtain ⟨drained, hdrained⟩ := unitNetworkUpdate_isOk hadopted
        simp only [adoptSnapshot, hdrained]
        exact ⟨_, rfl⟩
      · exact ⟨_, rfl⟩
  · split
    · exact ⟨_, rfl⟩
    · exact play_isOk hbegun

variable {undefinedReturn : Bool} {xpos ypos : Int}

/-- An attack of one side gets through and leaves no unit without health. -/
theorem attackSide_isOk (chain : List UnitRef) (h : ∀ ref, (scene.units.get ref).Kept ref) :
    ∃ after, scene.attackSide chain xpos ypos = .ok after ∧
      ∀ ref, (after.units.get ref).Kept ref := by
  cases hfind : chain.find? (scene.canAttack xpos ypos) with
  | none => exact ⟨scene, attackSide_none hfind, h⟩
  | some attacker =>
      obtain ⟨after, hafter⟩ := @attackingOtherUnit_isOk scene attacker xpos ypos
        fun ref _ => (h ref).health.ne'
      exact ⟨after, (attackSide_some hfind).trans hafter, kept_attackingOtherUnit h hafter⟩

theorem clickHandler_isOk (h : ∀ ref, (scene.units.get ref).Kept ref) :
    ∃ after, scene.clickHandler undefinedReturn xpos ypos = .ok after := by
  have hpressed (ref : UnitRef) :
      ((scene.nextTurnPressed undefinedReturn xpos ypos).units.get ref).Kept ref := by
    unfold nextTurnPressed
    split
    · rw [endTurn_eq, Roster.get_map]
      exact { h ref with }
    · exact h ref
  have hplaced (ref : UnitRef) : (((scene.nextTurnPressed undefinedReturn xpos
      ypos).placeUnitAtClick xpos ypos).units.get ref).Kept ref := by
    rw [placeUnitAtClick_get]
    split
    · exact { hpressed ref with }
    · exact hpressed ref
  have hattacked : ∃ after, ((scene.nextTurnPressed undefinedReturn xpos ypos).placeUnitAtClick
      xpos ypos).attackClickedUnit xpos ypos = .ok after := by
    unfold attackClickedUnit
    split
    · obtain ⟨between, hbetween, hkept⟩ := attackSide_isOk enemyChain hplaced
      obtain ⟨after, hafter, -⟩ := attackSide_isOk allyChain hkept
      exact ⟨after, by rw [hbetween]; exact hafter⟩
    · exact ⟨_, rfl⟩
  unfold clickHandler
  split
  · obtain ⟨after, hafter⟩ := hattacked
    refine ⟨after.setSelected xpos ypos, ?_⟩
    dsimp only
    rw [hafter]
    rfl
  · exact ⟨_, rfl⟩

end GameScene

namespace Conn

/-- Nothing stops what the client does next: what it has queued can be encoded
and read, what it has received can be processed, and frames and clicks are
carried out, whatever a click finds where `endgame_check` returns nothing. -/
structure NeverThrows (x : Conn) : Prop where
  send : x.scene.client.sendingQueue ≠ [] → ∃ x', x.step .send = some x'
  dispatch : x.scene.client.recievedQueue ≠ [] → ∃ x', x.step .dispatch = some x'
  frame : ∃ x', x.step .frame = some x'
  click : ∀ undefinedReturn xpos ypos, ∃ x', x.step (.click undefinedReturn xpos ypos) = some x'

variable {x : Conn}

theorem exists_map_toOption {α β : Type} {result : Except Fault α} {f : α → β}
    (h : ∃ a, result = .ok a) : ∃ b, result.toOption.map f = some b := by
  obtain ⟨a, rfl⟩ := h
  exact ⟨f a, rfl⟩

theorem Literate.neverThrows (h : x.Literate) (hkept : ∀ ref, (x.scene.units.get ref).Kept ref)
    (hnumbered : ∀ packet ∈ x.sent, packet.Numbered) : x.NeverThrows := by
  constructor
  · intro hne
    obtain ⟨packet, rest, hqueue⟩ := List.exists_cons_of_ne_nil hne
    have hlegible : packet.Legible := h.unhandled packet (by simp [Conn.unhandled, hqueue])
    obtain ⟨msg, hread, -⟩ := CustomPacket.ofData_data_type hlegible.readable
    simp only [Conn.step, sendFrontOfQueue, hqueue, hread]
    exact ⟨_, rfl⟩
  · intro hne
    obtain ⟨packet, rest, hqueue⟩ := List.exists_cons_of_ne_nil hne
    have hlegible : packet.Legible := h.inbox packet (by simp [hqueue])
    have hnumber : packet.NumberWellFormed := by
      intro htype
      simp only [List.mem_cons, List.not_mem_nil, or_false] at htype
      rcases htype with hinit | hturn | hplayer
      · exact hnumbered packet (by simp [Conn.sent, hqueue]) hinit
      · exact hlegible.number (Or.inl hturn)
      · exact hlegible.number (Or.inr hplayer)
    simp only [Conn.step, Conn.dispatch, hqueue]
    exact exists_map_toOption
      ((ClientComponent.processRecievedPackets_isOk _ packet).mp hnumber)
  · exact exists_map_toOption (GameScene.update_isOk h.turn h.queue)
  · exact fun _ _ _ => exists_map_toOption (GameScene.clickHandler_isOk hkept)

end Conn

theorem along_staysInRange {events : List SystemEvent}
    (h : Along System.step (System.ActsMeet (Conn.ClickMeets GameScene.ClickStays))
      System.initial events) :
    Along System.step (System.ActsMeet Conn.StaysInRange) System.initial events := by
  have hcarries := along_and
    (fun _ _ _ hall hok hstep => fits_invariant.client.step hall hok hstep) h
    (fun conn hconn => by cases hconn)
  apply hcarries.mono
  rintro system event ⟨hok, hall⟩
  apply hok.mono
  intro conn hconn own hown x' hx'
  exact (fits_invariant.carries_step (hall conn hconn) hown hx').units

/-- What a run leaves a client with: packets that can be read, units that have
health, and numbers where numbers are read. -/
theorem literate_exec {events : List SystemEvent} {system : System}
    (hrun : exec System.step System.initial events = some system)
    (hclicks : Along System.step (System.ActsMeet (Conn.ClickMeets GameScene.ClickStays))
      System.initial events) {x : Conn} (hx : x ∈ system.conns) :
    x.Literate ∧ (∀ ref, (x.scene.units.get ref).Kept ref) ∧
      ∀ packet ∈ x.sent, packet.Numbered := by
  have hliterate := Conn.literate_invariant.exec hrun (along_staysInRange hclicks)
  have hanyClick (conn : Conn) (event : LocalEvent) :
      conn.ClickMeets (fun _ _ _ => True) event := by
    cases event <;> trivial
  have hkept := kept_invariant.exec hrun (System.along_actsMeet hanyClick)
  exact ⟨hliterate x hx, (hkept x hx).units, System.numbered_exec hrun x hx⟩

/-- In every run of clients of this program, with players that come and go, no
client is ever stopped by a packet that it has been sent, by a division by zero
or by `whichTurn` ending without a value, as long as no click takes the numbers
of a unit out of the range of `int`. -/
theorem never_throws {events : List SystemEvent} {system : System}
    (hrun : exec System.step System.initial events = some system)
    (hclicks : Along System.step (System.ActsMeet (Conn.ClickMeets GameScene.ClickStays))
      System.initial events) :
    ∀ x ∈ system.conns, x.NeverThrows := by
  intro x hx
  obtain ⟨hliterate, hkept, hnumbered⟩ := literate_exec hrun hclicks hx
  exact hliterate.neverThrows hkept hnumbered

/-- The first player moves the infantry, the second one is replaced, and the
newcomer is given the game. -/
def movedRun : List SystemEvent := movingRun ++ reconnectRun

theorem never_throws_moved : ∃ system a b,
    exec System.step System.initial movedRun = some system ∧
      system.conns = [a, b] ∧ a.NeverThrows ∧ b.NeverThrows := by
  obtain ⟨system, a, b, hrun, hconns, -⟩ :=
    @exists_pair_of_check System.initial movedRun (fun _ _ _ => true) (by decide +kernel)
  have hnever := never_throws hrun (by decide +kernel)
  exact ⟨system, a, b, hrun, hconns, hnever a (by simp [hconns]), hnever b (by simp [hconns])⟩

end NetworkingGame
