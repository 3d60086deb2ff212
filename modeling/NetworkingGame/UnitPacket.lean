import NetworkingGame.GameScene

/-!
The three kinds of `unit` packet that a client writes, and what draining them
does to the scene that reads them: to the turn, to the outcome of the game and
to the board as both players should see it.
-/

namespace NetworkingGame

open Library.Binary32

/-- What a `unit` packet says. -/
inductive Msg
  | unit (ref : UnitRef) (x y : IntFloat) (squadSize health : Int)
  | endgame (victor : Int)
  | endturn
deriving DecidableEq

/-- The board as both players should see it. -/
abbrev Board := Roster GameUnit.View

namespace Msg

def packet : Msg → CustomPacket
  | .unit ref x y squadSize health =>
      ⟨"unit", "", CustomPacket.unitText ref.refName x y squadSize health⟩
  | .endgame victor => GameScene.endgamePacket victor
  | .endturn => GameScene.endturnPacket

@[simp] theorem packet_type (m : Msg) : m.packet.type = "unit" := by
  cases m <;> rfl

def ofUnit (ref : UnitRef) (unit : GameUnit) : Msg :=
  .unit ref unit.objectSprite.xPos unit.objectSprite.yPos unit.squadSize unit.health

@[simp] theorem packet_ofUnit (ref : UnitRef) (unit : GameUnit) :
    (ofUnit ref unit).packet = GameScene.unitPacket ref unit := rfl

theorem nulFree_packet (m : Msg) : m.packet.NulFree := by
  cases m with
  | unit ref x y squadSize health =>
      exact CustomPacket.unitText_nulFree x y squadSize health ref.nul_not_mem_refName
  | endgame victor =>
      have hvictor : '\x00' ∉ victor.repr.toList := by
        simpa using Library.Text.not_mem_toString '\x00' victor (by decide) (by decide)
      refine ⟨by simp [packet, GameScene.endgamePacket], by simp [packet, GameScene.endgamePacket],
        ?_⟩
      simp [packet, GameScene.endgamePacket, hvictor]
  | endturn => exact ⟨by decide, by decide, by decide +kernel⟩

theorem deciper_unit {ref : UnitRef} {x y : IntFloat} {squadSize health : Int}
    {received : CustomPacket.UnitData}
    (h : (unit ref x y squadSize health).packet.unitDataDeciper = .ok received) :
    received = ⟨ref.refName, x.val, y.val, squadSize, health⟩ :=
  CustomPacket.unitDataDeciper_unitText x y squadSize health ref.delimiter_not_mem_refName h

theorem deciper_endgame {victor : Int} {received : CustomPacket.UnitData}
    (h : (endgame victor).packet.unitDataDeciper = .ok received) :
    received = ⟨"endgame", victor, 0, 0, 0⟩ := by
  have hzero : CustomPacket.toInt ['0'] = .ok 0 := by decide +kernel
  rw [CustomPacket.unitDataDeciper_of_fields "endgame".toList (toString victor).toList
    ['0'] ['0'] ['0'] (by simp [packet, GameScene.endgamePacket]) (by decide)
    (CustomPacket.delimiter_not_mem_toString victor) (by decide) (by decide) (by decide)] at h
  simp only [CustomPacket.toInt_toString, hzero] at h
  split_ifs at h
  · exact (Except.ok.inj h).symm
  · cases h

theorem deciper_endturn :
    endturn.packet.unitDataDeciper = .ok ⟨"endturn", 0, 0, 0, 0⟩ := by
  decide +kernel

theorem refName_ne_endturn (ref : UnitRef) : ref.refName ≠ "endturn" := by
  cases ref <;> simp [UnitRef.refName]

theorem refName_ne_endgame (ref : UnitRef) : ref.refName ≠ "endgame" := by
  cases ref <;> simp [UnitRef.refName]

/-- The first field of the packet. -/
def name : Msg → String
  | .unit ref _ _ _ _ => ref.refName
  | .endgame _ => "endgame"
  | .endturn => "endturn"

theorem head_fields (m : Msg) :
    (Library.Text.terminatedFields '&' [] m.packet.msgText.toList).head? =
      some m.name.toList := by
  have hfirst (field rest : List Char) (text : String) (hfield : '&' ∉ field)
      (htext : text.toList = field ++ '&' :: rest) :
      (Library.Text.terminatedFields '&' [] text.toList).head? = some field := by
    rw [htext, Library.Text.terminatedFields_append _ _ _ hfield]
    rfl
  cases m with
  | unit ref x y squadSize health =>
      exact hfirst ref.refName.toList _ _ ref.delimiter_not_mem_refName
        (by simp [packet, CustomPacket.unitText, String.toList_append]; rfl)
  | endgame victor =>
      exact hfirst "endgame".toList _ _ (by decide)
        (by simp [packet, GameScene.endgamePacket, String.toList_append]; rfl)
  | endturn =>
      exact hfirst "endturn".toList _ _ (by decide)
        (by simp [packet, GameScene.endturnPacket]; rfl)

/-- Packets of different kinds differ. -/
theorem name_of_packet_eq {m m' : Msg} (h : m.packet = m'.packet) : m.name = m'.name := by
  have hhead := m.head_fields
  rw [h, m'.head_fields] at hhead
  exact (String.toList_inj.mp (Option.some.inj hhead)).symm

theorem packet_eq_endturn {m : Msg} : m.packet = GameScene.endturnPacket ↔ m = .endturn := by
  constructor
  · intro h
    have hname : m.name = "endturn" := @name_of_packet_eq m .endturn h
    cases m with
    | unit ref => exact absurd hname (refName_ne_endturn ref)
    | endgame victor => simp [name] at hname
    | endturn => rfl
  · rintro rfl
    rfl

theorem packet_eq_endgame {m : Msg} {victor : Int}
    (h : m.packet = GameScene.endgamePacket victor) : ∃ victor', m = .endgame victor' := by
  have hname : m.name = "endgame" := @name_of_packet_eq m (.endgame victor) h
  cases m with
  | unit ref => exact absurd hname (refName_ne_endgame ref)
  | endgame victor' => exact ⟨victor', rfl⟩
  | endturn => simp [name] at hname

/-- Packets that each say something with a property are a list of messages
with the property. -/
theorem exists_list {P : Msg → Prop} {packets : List CustomPacket}
    (h : ∀ packet ∈ packets, ∃ m : Msg, packet = m.packet ∧ P m) :
    ∃ msgs : List Msg, packets = msgs.map packet ∧ ∀ m ∈ msgs, P m := by
  induction packets with
  | nil => exact ⟨[], rfl, by simp⟩
  | cons packet rest ih =>
      obtain ⟨m, rfl, hm⟩ := h packet List.mem_cons_self
      obtain ⟨msgs, rfl, hmsgs⟩ := ih fun p hp => h p (List.mem_cons_of_mem _ hp)
      exact ⟨m :: msgs, rfl, List.forall_mem_cons.mpr ⟨hm, hmsgs⟩⟩

/-- What the message does to a turn, to an outcome and to a board. -/
def onTurn (turn : PlayerTurn) : Msg → PlayerTurn
  | .endturn => GameScene.otherTurn turn
  | _ => turn

def winner (victor : Int) : PlayerTurn := if victor = 1 then .player1 else .player2

def onOutcome (outcome : Bool × PlayerTurn) : Msg → Bool × PlayerTurn
  | .endgame victor => (true, winner victor)
  | _ => outcome

/-- An outcome names the winner of a finished game. -/
def Decided (outcome : Bool × PlayerTurn) : Prop := outcome.1 = true → outcome.2 ≠ .none

theorem decided_foldl {outcome : Bool × PlayerTurn} (h : Decided outcome) (msgs : List Msg) :
    Decided (msgs.foldl onOutcome outcome) := by
  induction msgs generalizing outcome with
  | nil => exact h
  | cons m msgs ih =>
      apply ih
      cases m with
      | unit => exact h
      | endgame victor =>
          intro _
          simp only [onOutcome, winner]
          split <;> simp
      | endturn => exact h

def onBoard (board : Board) : Msg → Board
  | .unit ref x y squadSize health => board.set ref (GameUnit.viewAt squadSize health x y)
  | _ => board

/-- The unit that the message is about. -/
def subject : Msg → Option UnitRef
  | .unit ref _ _ _ _ => some ref
  | .endgame _ => none
  | .endturn => none

/-- What the message says about a unit is so on the board. -/
def Shows (board : Board) : Msg → Prop
  | .unit ref x y squadSize health => board.get ref = GameUnit.viewAt squadSize health x y
  | .endgame _ => True
  | .endturn => True

/-- Messages that show a board bring the units that they are about in line
with it. -/
theorem foldl_onBoard_get {board : Board} {msgs : List Msg} (h : ∀ m ∈ msgs, m.Shows board)
    (start : Board) (ref : UnitRef) :
    (msgs.foldl onBoard start).get ref =
      if some ref ∈ msgs.map subject then board.get ref else start.get ref := by
  induction msgs generalizing start with
  | nil => simp
  | cons m msgs ih =>
      rw [List.foldl_cons, ih fun m' hm' => h m' (List.mem_cons_of_mem m hm')]
      by_cases hlater : some ref ∈ msgs.map subject
      · simp [hlater]
      · have hshows := h m List.mem_cons_self
        cases m with
        | unit other x y squadSize health =>
            by_cases hother : ref = other
            · subst hother
              have hview : board.get ref = GameUnit.viewAt squadSize health x y := hshows
              simp [onBoard, subject, hview]
            · simp [onBoard, subject, hlater, hother, Roster.get_set_ne]
        | endgame victor => simp [onBoard, subject, hlater]
        | endturn => simp [onBoard, subject, hlater]

end Msg

namespace GameScene

/-- What the loop of `unitNetworkUpdate` does with a packet that says `m`. -/
def applyMsg (scene : GameScene) : Msg → GameScene
  | .unit ref x y squadSize health =>
      let unit := scene.units.get ref
      { scene with units := scene.units.set ref { unit with
          objectSprite := { unit.objectSprite with xPos := x, yPos := y }
          squadSize := squadSize
          health := health } }
  | .endgame victor =>
      { scene with winningPlayer := Msg.winner victor, gameFinished := true }
  | .endturn => { scene with playerTurn := otherTurn scene.playerTurn }

def applyAll (scene : GameScene) (msgs : List Msg) : GameScene := msgs.foldl applyMsg scene

def board (scene : GameScene) : Board := scene.units.map GameUnit.view

def outcome (scene : GameScene) : Bool × PlayerTurn := (scene.gameFinished, scene.winningPlayer)

/-- The packets whose text can be read are acted on, and no others. -/
theorem applyUnitPacket_isOk (scene : GameScene) (packet : CustomPacket) :
    (∃ received, packet.unitDataDeciper = .ok received) ↔
      ∃ after, scene.applyUnitPacket packet = .ok after := by
  constructor
  · rintro ⟨received, hread⟩
    simp only [applyUnitPacket, hread, bind, Except.bind]
    split
    · exact ⟨_, rfl⟩
    · split <;> exact ⟨_, rfl⟩
  · rintro ⟨after, h⟩
    obtain ⟨received, hread, -⟩ := bind_eq_ok h
    exact ⟨received, hread⟩

theorem applyUnitPacket_packet {scene after : GameScene} {m : Msg}
    (h : scene.applyUnitPacket m.packet = .ok after) : after = scene.applyMsg m := by
  obtain ⟨received, hread, h⟩ := bind_eq_ok h
  cases m with
  | unit ref x y squadSize health =>
      obtain rfl := Msg.deciper_unit hread
      simp only [Msg.refName_ne_endturn, Msg.refName_ne_endgame, if_false,
        UnitRef.named_refName] at h
      rw [← Except.ok.inj h]
      simp [applyMsg, Sprite.place]
  | endgame victor =>
      obtain rfl := Msg.deciper_endgame hread
      rw [← Except.ok.inj h]
      rfl
  | endturn =>
      obtain rfl := Except.ok.inj (hread.symm.trans Msg.deciper_endturn)
      have hnamed : UnitRef.named "endturn" = none := by decide +kernel
      simp only [hnamed] at h
      rw [← Except.ok.inj h]
      rfl

theorem foldlM_packet {scene after : GameScene} {msgs : List Msg}
    (h : (msgs.map Msg.packet).foldlM applyUnitPacket scene = .ok after) :
    after = scene.applyAll msgs := by
  induction msgs generalizing scene with
  | nil => exact (Except.ok.inj h).symm
  | cons m msgs ih =>
      rw [List.map_cons, List.foldlM_cons] at h
      obtain ⟨next, hfirst, h⟩ := bind_eq_ok h
      obtain rfl := applyUnitPacket_packet hfirst
      exact ih h

/-- Draining a queue of such packets applies them in order. -/
theorem unitNetworkUpdate_packet {scene after : GameScene} {msgs : List Msg}
    (hqueue : scene.client.unitUpdateQueue = msgs.map Msg.packet)
    (h : scene.unitNetworkUpdate = .ok after) :
    after = { scene.applyAll msgs with
      client := { (scene.applyAll msgs).client with unitUpdateQueue := [] } } := by
  obtain ⟨drained, hfold, h⟩ := bind_eq_ok h
  rw [hqueue] at hfold
  obtain rfl := foldlM_packet hfold
  exact (Except.ok.inj h).symm

section ApplyAll

variable (scene : GameScene) (m : Msg) (msgs : List Msg)

@[simp] theorem applyAll_nil : scene.applyAll [] = scene := rfl

@[simp] theorem applyAll_cons : scene.applyAll (m :: msgs) = (scene.applyMsg m).applyAll msgs := rfl

@[simp] theorem applyMsg_client : (scene.applyMsg m).client = scene.client := by
  cases m <;> rfl

@[simp] theorem applyAll_client : (scene.applyAll msgs).client = scene.client := by
  induction msgs generalizing scene with
  | nil => rfl
  | cons m msgs ih => simp [ih]

@[simp] theorem applyAll_assignedTeam :
    (scene.applyAll msgs).assignedTeam = scene.assignedTeam := by
  induction msgs generalizing scene with
  | nil => rfl
  | cons m msgs ih => cases m <;> simp [ih, applyMsg]

@[simp] theorem applyAll_select : (scene.applyAll msgs).select = scene.select := by
  induction msgs generalizing scene with
  | nil => rfl
  | cons m msgs ih => cases m <;> simp [ih, applyMsg]

theorem applyMsg_playerTurn :
    (scene.applyMsg m).playerTurn = m.onTurn scene.playerTurn := by
  cases m <;> rfl

theorem applyAll_playerTurn :
    (scene.applyAll msgs).playerTurn = msgs.foldl Msg.onTurn scene.playerTurn := by
  induction msgs generalizing scene with
  | nil => rfl
  | cons m msgs ih => rw [applyAll_cons, ih, applyMsg_playerTurn, List.foldl_cons]

theorem applyMsg_outcome : (scene.applyMsg m).outcome = m.onOutcome scene.outcome := by
  cases m <;> rfl

theorem applyAll_outcome :
    (scene.applyAll msgs).outcome = msgs.foldl Msg.onOutcome scene.outcome := by
  induction msgs generalizing scene with
  | nil => rfl
  | cons m msgs ih => rw [applyAll_cons, ih, applyMsg_outcome, List.foldl_cons]

theorem applyMsg_board : (scene.applyMsg m).board = m.onBoard scene.board := by
  cases m with
  | unit ref x y squadSize health =>
      ext other
      simp only [board, applyMsg, Msg.onBoard, Roster.get_map, Roster.get_set]
      split <;> rfl
  | endgame victor => rfl
  | endturn => rfl

theorem applyAll_board :
    (scene.applyAll msgs).board = msgs.foldl Msg.onBoard scene.board := by
  induction msgs generalizing scene with
  | nil => rfl
  | cons m msgs ih => rw [applyAll_cons, ih, applyMsg_board, List.foldl_cons]

/-- A drained packet never sets `has_changed`. -/
theorem applyAll_hasChanged (ref : UnitRef) :
    ((scene.applyAll msgs).units.get ref).hasChanged = (scene.units.get ref).hasChanged := by
  induction msgs generalizing scene with
  | nil => rfl
  | cons m msgs ih =>
      rw [applyAll_cons, ih]
      cases m with
      | unit other x y squadSize health =>
          simp only [applyMsg, Roster.get_set]
          split
          · rename_i h
            rw [h]
          · rfl
      | endgame victor => rfl
      | endturn => rfl

end ApplyAll

end GameScene

end NetworkingGame
