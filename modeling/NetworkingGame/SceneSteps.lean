import NetworkingGame.Library.Transition
import NetworkingGame.UnitPacket

/-!
What one frame, one click, one line of chat and one dispatched packet can do
to a client, said once for each. The invariants of the later modules are
derived from these case lists and never unfold the scene again.
-/

namespace NetworkingGame

open Library.Transition

namespace GameScene

/-- The scene once the head of `update` has run. -/
def begun (scene : GameScene) : GameScene :=
  { scene with lastScene := true, sceneFullInit := true }.assignTeam

/-- The scene is in front and neither in the lobby nor in a reconnect. -/
def isOpen (scene : GameScene) : Bool :=
  scene.lastScene && !scene.client.isLobby && !scene.client.isReconnecting

/-- It is the other side's turn, the only time at which packets are drained. -/
def awaits (scene : GameScene) : Prop :=
  (scene.playerTurn = .player1 ∧ scene.assignedTeam = .player2) ∨
    (scene.playerTurn = .player2 ∧ scene.assignedTeam = .player1)

instance (scene : GameScene) : Decidable scene.awaits := inferInstanceAs (Decidable (_ ∨ _))

/-- A frame of the scene empties the queue of unit packets. -/
def Drains (scene : GameScene) : Prop :=
  (scene.client.isLobby || scene.client.isReconnecting) = false ∧ scene.gameFinished = false ∧
    scene.begun.awaits

instance (scene : GameScene) : Decidable scene.Drains :=
  inferInstanceAs (Decidable (_ ∧ _ ∧ _))

def snapshot (scene : GameScene) (gameTurn : Int) : List CustomPacket :=
  [playerPacket scene.opponentTeam, turnPacket gameTurn] ++ scene.allUnits ++
    [updateCompletePacket]

def sendSnapshot (scene : GameScene) (gameTurn : Int) : GameScene :=
  { scene.push (scene.snapshot gameTurn) with
    client := { (scene.push (scene.snapshot gameTurn)).client with readyToSend := false } }

def finishAdoption (scene : GameScene) : GameScene :=
  { scene.unitsUpdate.push [resumePacket] with
    client := { (scene.unitsUpdate.push [resumePacket]).client with updateComplete := false } }

/-- The branches of `update`. -/
inductive Frame (scene : GameScene) : GameScene → Prop
  | idle (closed : (scene.client.isLobby || scene.client.isReconnecting) = true)
      (hsend : scene.sendsSnapshot = false) (hadopt : scene.adoptsSnapshot = false) :
      Frame scene scene.begun
  | send (hsend : scene.sendsSnapshot = true) (gameTurn : Int)
      (hturn : scene.whichTurn = .ok gameTurn) : Frame scene (scene.begun.sendSnapshot gameTurn)
  | adopt (hadopt : scene.adoptsSnapshot = true) (drained : GameScene)
      (hdrain : scene.begun.adoptTurn.adoptTeam.unitNetworkUpdate = .ok drained) :
      Frame scene drained.finishAdoption
  | finished (closed : (scene.client.isLobby || scene.client.isReconnecting) = false)
      (hfinished : scene.gameFinished = true) : Frame scene scene.begun
  | wait (closed : (scene.client.isLobby || scene.client.isReconnecting) = false)
      (hfinished : scene.gameFinished = false) (hwait : ¬ scene.begun.awaits) :
      Frame scene scene.begun.unitsUpdate
  | drain (closed : (scene.client.isLobby || scene.client.isReconnecting) = false)
      (hfinished : scene.gameFinished = false) (hwait : scene.begun.awaits) (after : GameScene)
      (hdrain : scene.begun.unitsUpdate.unitNetworkUpdate = .ok after) : Frame scene after

@[simp] theorem assignTeam_client (scene : GameScene) :
    scene.assignTeam.client = scene.client := by
  simp only [assignTeam]
  split_ifs <;> rfl

@[simp] theorem assignTeam_playerTurn (scene : GameScene) :
    scene.assignTeam.playerTurn = scene.playerTurn := by
  simp only [assignTeam]
  split_ifs <;> rfl

@[simp] theorem assignTeam_units (scene : GameScene) :
    scene.assignTeam.units = scene.units := by
  simp only [assignTeam]
  split_ifs <;> rfl

@[simp] theorem assignTeam_select (scene : GameScene) :
    scene.assignTeam.select = scene.select := by
  simp only [assignTeam]
  split_ifs <;> rfl

@[simp] theorem assignTeam_gameFinished (scene : GameScene) :
    scene.assignTeam.gameFinished = scene.gameFinished := by
  simp only [assignTeam]
  split_ifs <;> rfl

@[simp] theorem assignTeam_winningPlayer (scene : GameScene) :
    scene.assignTeam.winningPlayer = scene.winningPlayer := by
  simp only [assignTeam]
  split_ifs <;> rfl

@[simp] theorem begun_client (scene : GameScene) : scene.begun.client = scene.client := by
  simp [begun]

@[simp] theorem begun_playerTurn (scene : GameScene) :
    scene.begun.playerTurn = scene.playerTurn := by
  simp [begun]

@[simp] theorem begun_units (scene : GameScene) : scene.begun.units = scene.units := by
  simp [begun]

@[simp] theorem begun_select (scene : GameScene) : scene.begun.select = scene.select := by
  simp [begun]

@[simp] theorem begun_gameFinished (scene : GameScene) :
    scene.begun.gameFinished = scene.gameFinished := by
  simp [begun]

@[simp] theorem begun_winningPlayer (scene : GameScene) :
    scene.begun.winningPlayer = scene.winningPlayer := by
  simp [begun]

/-- The part of a scene that draining leaves alone. -/
theorem applyUnitPacket_rest {scene after : GameScene} {packet : CustomPacket}
    (h : scene.applyUnitPacket packet = .ok after) :
    after = { scene with
      playerTurn := after.playerTurn
      winningPlayer := after.winningPlayer
      gameFinished := after.gameFinished
      units := after.units } := by
  obtain ⟨received, -, h⟩ := bind_eq_ok h
  simp only at h
  split at h
  · rw [← Except.ok.inj h]
    split <;> rfl
  · split at h <;> rw [← Except.ok.inj h] <;> split <;> rfl

theorem unitNetworkUpdate_rest {scene after : GameScene}
    (h : scene.unitNetworkUpdate = .ok after) :
    after = { scene with
      client := { scene.client with unitUpdateQueue := [] }
      playerTurn := after.playerTurn
      winningPlayer := after.winningPlayer
      gameFinished := after.gameFinished
      units := after.units } := by
  obtain ⟨drained, hrun, h⟩ := bind_eq_ok h
  have hrest : drained = { scene with
      playerTurn := drained.playerTurn
      winningPlayer := drained.winningPlayer
      gameFinished := drained.gameFinished
      units := drained.units } := by
    refine foldlM_relation (fun before later => later = { before with
      playerTurn := later.playerTurn
      winningPlayer := later.winningPlayer
      gameFinished := later.gameFinished
      units := later.units }) (fun _ => rfl) ?_ ?_ hrun
    · intro first second third hsecond hthird
      rw [hsecond] at hthird
      exact hthird
    · intro packet _ start next hnext
      exact applyUnitPacket_rest hnext
  rw [← Except.ok.inj h, hrest]

/-- Of the two drains of a game in play at most one runs. -/
theorem play_cases {scene after : GameScene} (h : scene.play = .ok after) :
    (¬ scene.awaits ∧ after = scene.unitsUpdate) ∨
      (scene.awaits ∧ scene.unitsUpdate.unitNetworkUpdate = .ok after) := by
  simp only [play] at h
  split at h
  · rename_i hfirst
    right
    refine ⟨Or.inl hfirst, ?_⟩
    obtain ⟨drained, hdrain, h⟩ := bind_eq_ok h
    have hteam : drained.assignedTeam = .player2 := by
      rw [unitNetworkUpdate_rest hdrain]
      exact hfirst.2
    rw [if_neg (by simp [hteam])] at h
    rw [hdrain, ← h]
  · rename_i hfirst
    simp only [bind, Except.bind] at h
    split at h
    · rename_i hsecond
      exact Or.inr ⟨Or.inr hsecond, h⟩
    · rename_i hsecond
      left
      refine ⟨?_, (Except.ok.inj h).symm⟩
      rintro (hwait | hwait)
      · exact hfirst hwait
      · exact hsecond hwait

theorem update_frame {scene after : GameScene} (h : scene.update = .ok after) :
    Frame scene after := by
  have hclient : ({ scene with lastScene := true, sceneFullInit := true }.assignTeam).client =
      scene.client := by simp
  have hsends : ({ scene with lastScene := true, sceneFullInit := true }.assignTeam).sendsSnapshot =
      scene.sendsSnapshot := by simp [sendsSnapshot]
  have hadopts :
      ({ scene with lastScene := true, sceneFullInit := true }.assignTeam).adoptsSnapshot =
        scene.adoptsSnapshot := by simp [adoptsSnapshot, sendsSnapshot]
  simp only [update, hclient, hsends, hadopts] at h
  split at h
  · rename_i closed
    split at h
    · rename_i hsend
      change (scene.begun.updateReconnectee >>= _) = _ at h
      obtain ⟨sent, hsent, h⟩ := bind_eq_ok h
      obtain ⟨gameTurn, hturn, hsent⟩ := bind_eq_ok hsent
      have hbegun : scene.begun.whichTurn = scene.whichTurn := by simp [whichTurn]
      rw [← Except.ok.inj h, ← Except.ok.inj hsent]
      exact .send hsend gameTurn (hbegun.symm.trans hturn)
    · rename_i hsend
      split at h
      · rename_i hadopt
        change scene.begun.adoptSnapshot = _ at h
        obtain ⟨drained, hdrain, h⟩ := bind_eq_ok h
        rw [← Except.ok.inj h]
        exact .adopt hadopt drained hdrain
      · rename_i hadopt
        rw [← Except.ok.inj h]
        exact .idle closed (by simpa using hsend) (by simpa using hadopt)
  · rename_i closed
    have hopen := Bool.eq_false_of_not_eq_true closed
    split at h
    · rename_i hfinished
      rw [← Except.ok.inj h]
      exact .finished hopen (by simpa using hfinished)
    · rename_i hfinished
      have hplaying : scene.gameFinished = false := by simpa using hfinished
      change scene.begun.play = _ at h
      rcases play_cases h with ⟨hwait, rfl⟩ | ⟨hwait, hdrain⟩
      · exact .wait hopen hplaying hwait
      · exact .drain hopen hplaying hwait after hdrain

section FrameClient

/-- The user ID after the `player` packet has been acted on. -/
def adoptedID (client : ClientComponent) : Int :=
  if client.assignedPlayer = 1 then 0
  else if client.assignedPlayer = 2 then 1
  else client.userID

@[simp] theorem adoptTurn_client (scene : GameScene) : scene.adoptTurn.client = scene.client := by
  unfold adoptTurn
  split_ifs <;> rfl

@[simp] theorem adoptTeam_client (scene : GameScene) :
    scene.adoptTeam.client = { scene.client with userID := adoptedID scene.client } := by
  unfold adoptTeam adoptedID
  split_ifs <;> rfl

theorem begun_assignedTeam {scene : GameScene}
    (h : scene.assignedTeam ≠ .none ∨ scene.client.userID = -1) :
    scene.begun.assignedTeam = scene.assignedTeam := by
  unfold begun assignTeam
  rcases h with h | h
  · simp [h]
  · simp [h]

theorem adoptTeam_assignedTeam (scene : GameScene) :
    scene.adoptTeam.assignedTeam =
      if scene.client.assignedPlayer = 1 then .player1
      else if scene.client.assignedPlayer = 2 then .player2
      else scene.assignedTeam := by
  unfold adoptTeam
  split_ifs <;> rfl

@[simp] theorem adoptTurn_assignedTeam (scene : GameScene) :
    scene.adoptTurn.assignedTeam = scene.assignedTeam := by
  unfold adoptTurn
  split_ifs <;> rfl

/-- Only the head of `update` and the update-completed branch touch the team. -/
theorem Frame.assignedTeam {scene after : GameScene} (h : Frame scene after) :
    after.assignedTeam = scene.begun.assignedTeam ∨
      (scene.adoptsSnapshot = true ∧
        after.assignedTeam = scene.begun.adoptTurn.adoptTeam.assignedTeam) := by
  cases h with
  | idle => exact Or.inl rfl
  | send => exact Or.inl rfl
  | adopt hadopt drained hdrain =>
      right
      refine ⟨hadopt, ?_⟩
      rw [unitNetworkUpdate_rest hdrain]
      rfl
  | finished => exact Or.inl rfl
  | wait => exact Or.inl rfl
  | drain _ _ _ _ hdrain =>
      left
      rw [unitNetworkUpdate_rest hdrain]
      rfl

theorem finishAdoption_client {scene drained : GameScene}
    (hdrain : scene.begun.adoptTurn.adoptTeam.unitNetworkUpdate = .ok drained) :
    drained.finishAdoption.client = { scene.client.push [resumePacket] with
      unitUpdateQueue := []
      userID := adoptedID scene.client
      updateComplete := false } := by
  have hclient : drained.client = { scene.client with
      unitUpdateQueue := []
      userID := adoptedID scene.client } := by
    rw [unitNetworkUpdate_rest hdrain]
    simp
  simp [finishAdoption, push, unitsUpdate, ClientComponent.push, hclient]

/-- What a frame does to the network component. -/
theorem Frame.client_cases {scene after : GameScene} (h : Frame scene after) :
    after.client = scene.client ∨
    (scene.sendsSnapshot = true ∧ ∃ gameTurn, scene.whichTurn = .ok gameTurn ∧
      after.client = { scene.client.push (scene.begun.snapshot gameTurn) with
        readyToSend := false }) ∨
    (scene.adoptsSnapshot = true ∧ after.client = { scene.client.push [resumePacket] with
        unitUpdateQueue := []
        userID := adoptedID scene.client
        updateComplete := false }) ∨
    ((scene.client.isLobby || scene.client.isReconnecting) = false ∧
      after.client = { scene.client with unitUpdateQueue := [] }) := by
  cases h with
  | idle => exact Or.inl (begun_client scene)
  | send hsend gameTurn hturn =>
      right; left
      refine ⟨hsend, gameTurn, hturn, ?_⟩
      simp [sendSnapshot, push]
  | adopt hadopt drained hdrain =>
      right; right; left
      exact ⟨hadopt, finishAdoption_client hdrain⟩
  | finished => exact Or.inl (begun_client scene)
  | wait => exact Or.inl (begun_client scene)
  | drain closed hfinished hwait _ hdrain =>
      right; right; right
      refine ⟨closed, ?_⟩
      rw [unitNetworkUpdate_rest hdrain]
      simp [unitsUpdate]

@[simp] theorem unitsUpdate_board (scene : GameScene) :
    scene.unitsUpdate.board = scene.board := by
  ext ref
  simp [board, unitsUpdate]

@[simp] theorem begun_board (scene : GameScene) : scene.begun.board = scene.board := by
  simp [board]

@[simp] theorem begun_outcome (scene : GameScene) : scene.begun.outcome = scene.outcome := by
  simp [outcome]

theorem unitsUpdate_hasChanged (scene : GameScene) (ref : UnitRef) :
    (scene.unitsUpdate.units.get ref).hasChanged = (scene.units.get ref).hasChanged := by
  simp [unitsUpdate]

/-- What draining a queue of unit packets leaves behind. -/
theorem drain_spec {scene after : GameScene} {msgs : List Msg}
    (hqueue : scene.client.unitUpdateQueue = msgs.map Msg.packet)
    (h : scene.unitNetworkUpdate = .ok after) :
    after.client = { scene.client with unitUpdateQueue := [] } ∧
      after.board = msgs.foldl Msg.onBoard scene.board ∧
      (∀ ref, (after.units.get ref).hasChanged = (scene.units.get ref).hasChanged) ∧
      after.select = scene.select ∧
      after.playerTurn = msgs.foldl Msg.onTurn scene.playerTurn ∧
      after.outcome = msgs.foldl Msg.onOutcome scene.outcome ∧
      after.assignedTeam = scene.assignedTeam := by
  rw [unitNetworkUpdate_packet hqueue h]
  refine ⟨by simp, scene.applyAll_board msgs, scene.applyAll_hasChanged msgs, ?_, ?_, ?_, ?_⟩
  · exact scene.applyAll_select msgs
  · exact scene.applyAll_playerTurn msgs
  · exact scene.applyAll_outcome msgs
  · exact scene.applyAll_assignedTeam msgs

@[simp] theorem unitsUpdate_outcome (scene : GameScene) :
    scene.unitsUpdate.outcome = scene.outcome := rfl

@[simp] theorem adoptTurn_outcome (scene : GameScene) :
    scene.adoptTurn.outcome = scene.outcome := by
  unfold adoptTurn
  split_ifs <;> rfl

@[simp] theorem adoptTeam_outcome (scene : GameScene) :
    scene.adoptTeam.outcome = scene.outcome := by
  unfold adoptTeam
  split_ifs <;> rfl

/-- A frame leaves the outcome and the queue alone, or drains the queue, in
the update-completed branch or in a game that is not over. -/
theorem Frame.outcome {scene after : GameScene} (h : Frame scene after) :
    (scene.adoptsSnapshot = false ∧ after.outcome = scene.outcome ∧
      after.client.unitUpdateQueue = scene.client.unitUpdateQueue) ∨
    ∃ start drained : GameScene, start.outcome = scene.outcome ∧
      start.client.unitUpdateQueue = scene.client.unitUpdateQueue ∧
      start.unitNetworkUpdate = .ok drained ∧ after.outcome = drained.outcome ∧
      after.client.unitUpdateQueue = [] ∧
      (scene.adoptsSnapshot = true ∨ scene.gameFinished = false ∧
        (scene.client.isLobby || scene.client.isReconnecting) = false) := by
  have hopen (closed : (scene.client.isLobby || scene.client.isReconnecting) = false) :
      scene.adoptsSnapshot = false := by
    rw [Bool.or_eq_false_iff] at closed
    simp [adoptsSnapshot, closed.2]
  cases h with
  | idle _ _ hadopt => exact Or.inl ⟨hadopt, begun_outcome scene, by simp⟩
  | send hsend =>
      left
      refine ⟨by simp [adoptsSnapshot, hsend], begun_outcome scene, ?_⟩
      simp [sendSnapshot, push, ClientComponent.push]
  | adopt hadopt drained hdrain =>
      right
      refine ⟨_, drained, by simp, by simp, hdrain, rfl, ?_, Or.inl hadopt⟩
      rw [finishAdoption_client hdrain]
  | finished closed => exact Or.inl ⟨hopen closed, begun_outcome scene, by simp⟩
  | wait closed => exact Or.inl ⟨hopen closed, begun_outcome scene, by simp [unitsUpdate]⟩
  | drain closed hfinished _ after hdrain =>
      right
      refine ⟨_, after, by simp, by simp [unitsUpdate], hdrain, rfl, ?_, Or.inr ⟨hfinished, closed⟩⟩
      rw [unitNetworkUpdate_rest hdrain]

theorem Frame.recievedQueue {scene after : GameScene} (h : Frame scene after) :
    after.client.recievedQueue = scene.client.recievedQueue := by
  rcases h.client_cases with h | ⟨-, _, -, h⟩ | ⟨-, h⟩ | ⟨-, h⟩ <;> rw [h] <;> rfl

end FrameClient

section EndTurn

/-- What `nextTurnPressed` writes: the changed units, perhaps the outcome, and
the end of the turn. -/
def changedMsgs (scene : GameScene) : List Msg :=
  (UnitRef.all.filter fun ref => (scene.units.get ref).hasChanged).map fun ref =>
    Msg.ofUnit ref (scene.units.get ref)

def victor (scene : GameScene) : Int := if scene.winningPlayer = .player1 then 1 else 2

def turnMsgs (undefinedReturn : Bool) (scene : GameScene) : List Msg :=
  scene.changedMsgs ++
    (if scene.endgameCheck.1.getD undefinedReturn then [.endgame scene.endgameCheck.2.victor]
      else []) ++ [.endturn]

/-- `endgame_check` reads the team and `is_dead`, and writes two fields. -/
theorem endgameCheck_of_isDead (scene : GameScene) (client : ClientComponent)
    (select : Roster Bool) (units : Roster GameUnit)
    (hdead : ∀ ref, (units.get ref).isDead = (scene.units.get ref).isDead) :
    endgameCheck { scene with client := client, select := select, units := units } =
      (scene.endgameCheck.1, { scene with
        client := client
        select := select
        units := units
        gameFinished := scene.endgameCheck.2.gameFinished
        winningPlayer := scene.endgameCheck.2.winningPlayer }) := by
  have h1 := hdead .infantryAlly
  have h2 := hdead .artilleryAlly
  have h3 := hdead .sniperAlly
  have h4 := hdead .tankAlly
  have h5 := hdead .infantryEnemy
  have h6 := hdead .artilleryEnemy
  have h7 := hdead .sniperEnemy
  have h8 := hdead .tankEnemy
  simp only [Roster.get] at h1 h2 h3 h4 h5 h6 h7 h8
  simp only [endgameCheck, h1, h2, h3, h4, h5, h6, h7, h8]
  cases scene.assignedTeam with
  | none => rfl
  | player1 =>
      simp only
      split <;> rfl
  | player2 =>
      simp only
      split <;> rfl

theorem changedUnits_resetActionPoints (scene : GameScene) (client : ClientComponent)
    (select : Roster Bool) :
    changedUnits { scene with
      client := client
      select := select
      units := scene.units.map GameUnit.resetActionPoints } =
      scene.changedMsgs.map Msg.packet := by
  simp only [changedUnits, changedMsgs, List.map_map, Roster.get_map]
  rfl

theorem push_push (client : ClientComponent) (first second : List CustomPacket) :
    (client.push first).push second = client.push (first ++ second) := by
  simp [ClientComponent.push]

theorem endTurn_eq (undefinedReturn : Bool) (scene : GameScene) :
    scene.endTurn undefinedReturn = { scene with
      client := scene.client.push ((scene.turnMsgs undefinedReturn).map Msg.packet)
      select := .fill false
      units := scene.units.map fun unit => unit.resetActionPoints.clearChanged
      playerTurn := otherTurn scene.playerTurn
      gameFinished := scene.endgameCheck.2.gameFinished
      winningPlayer := scene.endgameCheck.2.winningPlayer } := by
  have hmap : (scene.units.map GameUnit.resetActionPoints).map GameUnit.clearChanged =
      scene.units.map fun unit => unit.resetActionPoints.clearChanged := rfl
  have hdead (ref : UnitRef) : ((scene.units.map fun unit : GameUnit =>
      unit.resetActionPoints.clearChanged).get ref).isDead = (scene.units.get ref).isDead := by
    rw [Roster.get_map]
    rfl
  simp only [endTurn, deselectAllUnits, changedUnits_resetActionPoints, push, hmap,
    endgameCheck_of_isDead scene _ _ _ hdead, turnMsgs]
  split
  · simp [push_push, Msg.packet, victor]
  · simp [push_push, Msg.packet]

/-- `endgame_check` finds its own team to have won, or leaves the scene alone. -/
theorem endgameCheck_cases (scene : GameScene) :
    (scene.endgameCheck = (some true,
        { scene with gameFinished := true, winningPlayer := scene.assignedTeam }) ∧
      scene.assignedTeam ≠ .none) ∨
    (scene.endgameCheck.1 ≠ some true ∧ scene.endgameCheck.2 = scene) := by
  unfold endgameCheck
  cases hteam : scene.assignedTeam with
  | none =>
      right
      simp
  | player1 =>
      simp only
      split
      · left
        simp
      · right
        simp
  | player2 =>
      simp only
      split
      · left
        simp
      · right
        simp

end EndTurn

section Clicks

/-- What a click that does not end the turn can do: move and hurt units, each
of which then has `has_changed` set, spend action points, and select. -/
structure Moved (before after : GameScene) : Prop where
  rest : after = { before with units := after.units, select := after.select }
  unit : ∀ ref, (after.units.get ref).hasChanged = true ∨
    ((after.units.get ref).hasChanged = (before.units.get ref).hasChanged ∧
      (after.units.get ref).view = (before.units.get ref).view)

theorem Moved.refl (scene : GameScene) : Moved scene scene :=
  ⟨rfl, fun _ => Or.inr ⟨rfl, rfl⟩⟩

theorem Moved.trans {first second third : GameScene} (h : Moved first second)
    (h' : Moved second third) : Moved first third := by
  refine ⟨?_, ?_⟩
  · have hrest := h'.rest
    rw [h.rest] at hrest
    exact hrest
  · intro ref
    rcases h'.unit ref with hchanged | ⟨hflag, hview⟩
    · exact Or.inl hchanged
    · rcases h.unit ref with hchanged | ⟨hflag', hview'⟩
      · exact Or.inl (hflag.trans hchanged)
      · exact Or.inr ⟨hflag.trans hflag', hview.trans hview'⟩

theorem moved_select (scene : GameScene) (select : Roster Bool) :
    Moved scene { scene with select := select } :=
  ⟨rfl, fun _ => Or.inr ⟨rfl, rfl⟩⟩

/-- Overwriting a unit with one that is flagged, or that looks the same. -/
theorem moved_set (scene : GameScene) (ref : UnitRef) (unit : GameUnit)
    (h : unit.hasChanged = true ∨ (unit.hasChanged = (scene.units.get ref).hasChanged ∧
      unit.view = (scene.units.get ref).view)) :
    Moved scene { scene with units := scene.units.set ref unit } := by
  refine ⟨rfl, ?_⟩
  intro other
  simp only [Roster.get_set]
  split
  · rename_i hother
    rw [hother]
    exact h
  · exact Or.inr ⟨rfl, rfl⟩

theorem moved_movingUnit (ref : UnitRef) (xpos ypos : Int) (scene : GameScene) :
    Moved scene (scene.movingUnit ref xpos ypos) :=
  moved_set scene ref _ (Or.inl rfl)

theorem moved_moveFirst (chain : List UnitRef) (xpos ypos : Int) (scene : GameScene) :
    Moved scene (scene.moveFirst chain xpos ypos) := by
  unfold moveFirst
  split
  · exact moved_movingUnit _ xpos ypos scene
  · exact Moved.refl scene

theorem moved_placeUnitAtClick (xpos ypos : Int) (scene : GameScene) :
    Moved scene (scene.placeUnitAtClick xpos ypos) := by
  unfold placeUnitAtClick
  split
  · exact Moved.refl scene
  · split
    · exact (moved_moveFirst _ xpos ypos scene).trans (moved_moveFirst _ xpos ypos _)
    · exact Moved.refl scene

theorem moved_attackingOtherUnit {attacker : UnitRef} {xpos ypos : Int}
    {scene after : GameScene} (h : scene.attackingOtherUnit attacker xpos ypos = .ok after) :
    Moved scene after := by
  refine foldlM_relation Moved Moved.refl (fun _ _ _ => Moved.trans) ?_ h
  intro ref _ scene after hstep
  simp only at hstep
  split at hstep
  · obtain ⟨hurt, hdamage, hstep⟩ := bind_eq_ok hstep
    rw [← Except.ok.inj hstep]
    have hchanged := GameUnit.takeDamage_hasChanged hdamage
    have hhurt := moved_set scene ref hurt (Or.inl hchanged)
    exact hhurt.trans (moved_set _ attacker _ (Or.inr ⟨rfl, rfl⟩))
  · rw [← Except.ok.inj hstep]
    exact Moved.refl scene

theorem moved_attackFirst {chain : List UnitRef} {xpos ypos : Int} {scene after : GameScene}
    (h : scene.attackFirst chain xpos ypos = .ok after) : Moved scene after := by
  unfold attackFirst at h
  split at h
  · exact moved_attackingOtherUnit h
  · rw [← Except.ok.inj h]
    exact Moved.refl scene

theorem moved_attackSide {chain : List UnitRef} {xpos ypos : Int} {scene after : GameScene}
    (h : scene.attackSide chain xpos ypos = .ok after) : Moved scene after := by
  unfold attackSide at h
  split at h
  · exact moved_attackFirst h
  · rw [← Except.ok.inj h]
    exact Moved.refl scene

theorem moved_attackClickedUnit {xpos ypos : Int} {scene after : GameScene}
    (h : scene.attackClickedUnit xpos ypos = .ok after) : Moved scene after := by
  unfold attackClickedUnit at h
  split at h
  · obtain ⟨next, hfirst, h⟩ := bind_eq_ok h
    exact (moved_attackSide hfirst).trans (moved_attackSide h)
  · rw [← Except.ok.inj h]
    exact Moved.refl scene

theorem moved_toggleSelect (chain : List UnitRef) (xpos ypos : Int) (scene : GameScene)
    (ref : UnitRef) : Moved scene (toggleSelect chain xpos ypos scene ref) := by
  unfold toggleSelect
  split
  · split
    · exact moved_select scene _
    · exact moved_select scene _
  · exact Moved.refl scene

theorem moved_setSelected (xpos ypos : Int) (scene : GameScene) :
    Moved scene (scene.setSelected xpos ypos) := by
  have hfold (chain refs : List UnitRef) (start : GameScene) :
      Moved start (refs.foldl (toggleSelect chain xpos ypos) start) := by
    induction refs generalizing start with
    | nil => exact Moved.refl start
    | cons ref refs ih => exact (moved_toggleSelect chain xpos ypos start ref).trans (ih _)
  have hside (p : Prop) [Decidable p] (chain refs : List UnitRef) (start : GameScene) :
      Moved start (if p then refs.foldl (toggleSelect chain xpos ypos) start else start) := by
    split
    · exact hfold chain refs start
    · exact Moved.refl start
  exact (hside _ _ _ scene).trans (hside _ _ _ _)

theorem anySelected_fill {scene : GameScene} (h : scene.select = .fill false)
    (chain : List UnitRef) : scene.anySelected chain = false := by
  simp [anySelected, h]

theorem placeUnitAtClick_idle {scene : GameScene} (h : scene.select = .fill false)
    (xpos ypos : Int) : scene.placeUnitAtClick xpos ypos = scene := by
  simp [placeUnitAtClick, anySelected_fill h]

theorem attackClickedUnit_idle {scene : GameScene} (h : scene.select = .fill false)
    (xpos ypos : Int) : scene.attackClickedUnit xpos ypos = .ok scene := by
  simp [attackClickedUnit, attackSide, anySelected_fill h, bind, Except.bind]

theorem setSelected_idle {scene : GameScene}
    (h : scene.playerTurn = scene.assignedTeam → scene.playerTurn = .none) (xpos ypos : Int) :
    scene.setSelected xpos ypos = scene := by
  have hnot (player : PlayerTurn) (hplayer : player ≠ .none) :
      ¬ (scene.assignedTeam = player ∧ scene.playerTurn = player) := by
    rintro ⟨hteam, hturn⟩
    exact hplayer (hturn.symm.trans (h (hturn.trans hteam.symm)))
  simp only [setSelected, if_neg (hnot .player1 (by simp)), if_neg (hnot .player2 (by simp))]

theorem otherTurn_eq_self {turn : PlayerTurn} (h : otherTurn turn = turn) : turn = .none := by
  cases turn with
  | none => rfl
  | player1 => cases h
  | player2 => cases h

/-- The three outcomes of a click. -/
inductive Click (scene : GameScene) : GameScene → Prop
  | ignored : Click scene scene
  | ended (undefinedReturn : Bool) (hopen : scene.isOpen = true)
      (hturn : scene.playerTurn = scene.assignedTeam) :
      Click scene (scene.endTurn undefinedReturn)
  | moved (hopen : scene.isOpen = true) (after : GameScene)
      (hselect : scene.playerTurn = scene.assignedTeam ∨ scene.select ≠ .fill false)
      (hmoved : Moved scene after) : Click scene after

@[simp] theorem push_select (scene : GameScene) (packets : List CustomPacket) :
    (scene.push packets).select = scene.select := rfl

@[simp] theorem push_units (scene : GameScene) (packets : List CustomPacket) :
    (scene.push packets).units = scene.units := rfl

@[simp] theorem push_playerTurn (scene : GameScene) (packets : List CustomPacket) :
    (scene.push packets).playerTurn = scene.playerTurn := rfl

@[simp] theorem push_assignedTeam (scene : GameScene) (packets : List CustomPacket) :
    (scene.push packets).assignedTeam = scene.assignedTeam := rfl

/-- Once the turn has ended, the rest of the click finds nothing selected. -/
theorem afterButton {undefinedReturn : Bool} {scene : GameScene}
    (hturn : scene.playerTurn = scene.assignedTeam) (xpos ypos : Int) :
    (do
      let scene := (scene.endTurn undefinedReturn).placeUnitAtClick xpos ypos
      let scene ← scene.attackClickedUnit xpos ypos
      return scene.setSelected xpos ypos) =
      (.ok (scene.endTurn undefinedReturn) : Except Fault GameScene) := by
  have hselect : (scene.endTurn undefinedReturn).select = .fill false := by rw [endTurn_eq]
  have hnext : (scene.endTurn undefinedReturn).playerTurn =
      (scene.endTurn undefinedReturn).assignedTeam →
      (scene.endTurn undefinedReturn).playerTurn = .none := by
    rw [endTurn_eq]
    intro h
    simp only at h ⊢
    rw [otherTurn_eq_self (h.trans hturn.symm)]
    rfl
  simp only [placeUnitAtClick_idle hselect, attackClickedUnit_idle hselect, bind, Except.bind,
    setSelected_idle hnext]
  rfl

theorem clickHandler_button {undefinedReturn : Bool} {xpos ypos : Int} {scene : GameScene}
    (hopen : scene.isOpen = true) (hturn : scene.playerTurn = scene.assignedTeam)
    (hbutton : mouseOnSprite xpos ypos nextTurnButton = true) :
    scene.clickHandler undefinedReturn xpos ypos = .ok (scene.endTurn undefinedReturn) := by
  unfold clickHandler
  unfold isOpen at hopen
  rw [if_pos hopen, nextTurnPressed, if_pos ⟨hturn, hbutton⟩]
  exact afterButton hturn xpos ypos

theorem clickHandler_click {undefinedReturn : Bool} {xpos ypos : Int} {scene after : GameScene}
    (h : scene.clickHandler undefinedReturn xpos ypos = .ok after) : Click scene after := by
  unfold clickHandler at h
  split at h
  · rename_i hguard
    have hopen : scene.isOpen = true := hguard
    unfold nextTurnPressed at h
    split at h
    · rename_i hbutton
      have hafter := Except.ok.inj (h.symm.trans (afterButton hbutton.1 xpos ypos))
      rw [hafter]
      exact .ended undefinedReturn hopen hbutton.1
    · by_cases hidle : scene.select = .fill false ∧ scene.playerTurn ≠ scene.assignedTeam
      · obtain ⟨hselect, hturn⟩ := hidle
        simp only [placeUnitAtClick_idle hselect, attackClickedUnit_idle hselect, bind,
          Except.bind, setSelected_idle fun h => absurd h hturn] at h
        rw [← Except.ok.inj h]
        exact .ignored
      · refine .moved hopen after ?_ ?_
        · rw [not_and_or, not_not] at hidle
          exact hidle.symm
        · obtain ⟨next, hattack, h⟩ := bind_eq_ok h
          rw [← Except.ok.inj h]
          exact ((moved_placeUnitAtClick xpos ypos scene).trans
            (moved_attackClickedUnit hattack)).trans (moved_setSelected xpos ypos next)
  · rw [← Except.ok.inj h]
    exact .ignored

/-- A line entered names the user or is sent as chat. -/
inductive Enter (scene : GameScene) : GameScene → Prop
  | ignored : Enter scene scene
  | named (hopen : scene.isOpen = true) (username : String) :
      Enter scene { scene with client := { scene.client with username := username } }
  | chat (hopen : scene.isOpen = true) (line : CustomPacket) (hchat : line.type = "chat") :
      Enter scene (scene.push [line])

theorem enterPressed_enter (str : String) (scene : GameScene) :
    Enter scene (scene.enterPressed str) := by
  unfold enterPressed
  split
  · rename_i hguard
    have hopen : scene.isOpen = true := by
      simp only [Bool.and_eq_true] at hguard
      simp [isOpen, hguard]
    unfold processString
    split
    · exact .named hopen _
    · exact .chat hopen _ rfl
  · exact .ignored

theorem Click.recievedQueue {scene after : GameScene} (h : Click scene after) :
    after.client.recievedQueue = scene.client.recievedQueue := by
  cases h with
  | ignored => rfl
  | ended => rw [endTurn_eq]; rfl
  | moved _ _ _ hmoved => rw [hmoved.rest]

theorem Enter.recievedQueue {scene after : GameScene} (h : Enter scene after) :
    after.client.recievedQueue = scene.client.recievedQueue := by
  cases h with
  | ignored => rfl
  | named => rfl
  | chat => rfl

end Clicks

end GameScene

end NetworkingGame
