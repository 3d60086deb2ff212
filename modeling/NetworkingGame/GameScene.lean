import NetworkingGame.ClientNetworking

/-!
The game scene: clicks, the next-turn button, the frame update with its
reconnect branches, and the draining of received unit packets. Drawing, sound,
the bullet animation and the timer of the chat line are left out, and so is
the request to leave the scene, which ends the connection.
-/

namespace NetworkingGame

open Library.Binary32

inductive PlayerTurn
  | none
  | player1
  | player2
deriving DecidableEq, Repr

structure GameScene where
  client : ClientComponent
  lastScene : Bool
  sceneFullInit : Bool
  assignedTeam : PlayerTurn
  winningPlayer : PlayerTurn
  playerTurn : PlayerTurn
  gameFinished : Bool
  select : Roster Bool
  units : Roster GameUnit
deriving DecidableEq

namespace GameScene

/-- `initUnits`: the allies are created like the enemies and then moved over
to the right edge, with `is_enemy` cleared. -/
def initUnits (blank : Sprite) : Roster GameUnit :=
  let enemy (name : UnitName) := GameUnit.createUnit blank (UnitType.find name)
  let toRight (sprite : Sprite) : Sprite := { sprite with xPos := .cast 1120 }
  let ally (name : UnitName) : GameUnit :=
    let unit := enemy name
    { unit with
      isEnemy := false
      objectSprite := toRight unit.objectSprite
      attackSprite := toRight unit.attackSprite
      moveSprite := toRight unit.moveSprite }
  ⟨enemy .infantry, enemy .sniper, enemy .artillery, enemy .tank,
    ally .infantry, ally .sniper, ally .artillery, ally .tank⟩

/-- The constructor, once connected. -/
def create (blank : Sprite) : GameScene where
  client := .fresh
  lastScene := false
  sceneFullInit := false
  assignedTeam := .none
  winningPlayer := .none
  playerTurn := .player1
  gameFinished := false
  select := .fill false
  units := initUnits blank

def nextTurnButton : Sprite := ⟨.cast 1170, .cast 610, .cast 100, .cast 100⟩

def push (scene : GameScene) (packets : List CustomPacket) : GameScene :=
  { scene with client := scene.client.push packets }

def deselectAllUnits (scene : GameScene) : GameScene :=
  { scene with select := .fill false }

/-- True only while all eight flags are set. -/
def isAUnitSelected (scene : GameScene) : Bool :=
  UnitRef.all.all scene.select.get

def whichTurn (scene : GameScene) : Except Fault Int :=
  match scene.playerTurn with
  | .player1 => .ok 1
  | .player2 => .ok 2
  | .none => .error .noReturn

/-- The two branches that toggle `player_turn`. -/
def otherTurn : PlayerTurn → PlayerTurn
  | .player1 => .player2
  | .player2 => .player1
  | .none => .none

/-- The result is `none` where control flows off the end of the function. -/
def endgameCheck (scene : GameScene) : Option Bool × GameScene :=
  match scene.assignedTeam with
  | .player1 =>
      if scene.units.infantryAlly.isDead && scene.units.artilleryAlly.isDead &&
          scene.units.sniperAlly.isDead && scene.units.tankAlly.isDead then
        (some true, { scene with gameFinished := true, winningPlayer := .player1 })
      else (none, scene)
  | .player2 =>
      if scene.units.infantryEnemy.isDead && scene.units.artilleryEnemy.isDead &&
          scene.units.sniperEnemy.isDead && scene.units.tankEnemy.isDead then
        (some true, { scene with gameFinished := true, winningPlayer := .player2 })
      else (none, scene)
  | .none => (some false, scene)

def unitPacket (ref : UnitRef) (unit : GameUnit) : CustomPacket :=
  ⟨"unit", "", CustomPacket.unitText ref.refName unit.objectSprite.xPos unit.objectSprite.yPos
    unit.squadSize unit.health⟩

def endgamePacket (victor : Int) : CustomPacket :=
  ⟨"unit", "", "endgame&" ++ toString victor ++ "&0&0&0&"⟩

def endturnPacket : CustomPacket := ⟨"unit", "", "endturn&0&0&0&0&"⟩

/-- The units whose `has_changed` is set, in the order of `units_vec`. -/
def changedUnits (scene : GameScene) : List CustomPacket :=
  (UnitRef.all.filter fun ref => (scene.units.get ref).hasChanged).map fun ref =>
    unitPacket ref (scene.units.get ref)

/-- `undefinedReturn` is the value that the caller happens to find where
`endgame_check` returns none. -/
def endTurn (undefinedReturn : Bool) (scene : GameScene) : GameScene :=
  let scene := scene.deselectAllUnits
  let scene := { scene with units := scene.units.map GameUnit.resetActionPoints }
  let scene := scene.push scene.changedUnits
  let scene := { scene with units := scene.units.map GameUnit.clearChanged }
  let (ended, scene) := scene.endgameCheck
  let victor := if scene.winningPlayer = .player1 then 1 else 2
  let scene := if ended.getD undefinedReturn then scene.push [endgamePacket victor] else scene
  let scene := scene.push [endturnPacket]
  { scene with playerTurn := otherTurn scene.playerTurn }

def nextTurnPressed (undefinedReturn : Bool) (xpos ypos : Int) (scene : GameScene) : GameScene :=
  if scene.playerTurn = scene.assignedTeam ∧ mouseOnSprite xpos ypos nextTurnButton then
    scene.endTurn undefinedReturn
  else scene

/-- One coordinate of `gridSnapping`: the multiple of 120 at or below
`pos - offset`, and whether the quotient is past `limit`. -/
def gridCell (offset limit pos : Int) : IntFloat × Bool :=
  let current := IntFloat.cast pos - IntFloat.cast offset
  let quotient := Library.Binary32.round (current.val / 120)
  (IntFloat.cast ⌊quotient⌋ * IntFloat.cast 120, limit < quotient)

def gridSnapping (scene : GameScene) (xpos ypos : Int) (sprite : Sprite) : Sprite :=
  let (currentX, overX) := gridCell 40 10 xpos
  let newX :=
    if currentX.val < 0 && scene.isAUnitSelected then 40
    else if overX && scene.isAUnitSelected then 1120
    else (currentX + IntFloat.cast 40).val
  let (currentY, overY) := gridCell 3 5 ypos
  let newY :=
    if currentY.val < 0 && scene.isAUnitSelected then 3
    else if overY then 483
    else (currentY + IntFloat.cast 3).val
  sprite.place newX newY

def movingUnit (ref : UnitRef) (xpos ypos : Int) (scene : GameScene) : GameScene :=
  let unit := scene.units.get ref
  { scene with units := scene.units.set ref { unit.reduceActionPoints 1 with
      objectSprite := scene.gridSnapping xpos ypos unit.objectSprite
      hasChanged := true } }

def spriteOnTarget (scene : GameScene) (xpos ypos : Int) : Bool :=
  UnitRef.all.any fun ref => mouseOnSprite xpos ypos (scene.units.get ref).objectSprite

/-- The order of the `else if` chains over the units of one side. -/
def enemyChain : List UnitRef :=
  [.infantryEnemy, .artilleryEnemy, .tankEnemy, .sniperEnemy]

def allyChain : List UnitRef :=
  [.infantryAlly, .artilleryAlly, .tankAlly, .sniperAlly]

def anySelected (scene : GameScene) (chain : List UnitRef) : Bool :=
  chain.any scene.select.get

def canMove (scene : GameScene) (xpos ypos : Int) (ref : UnitRef) : Bool :=
  mouseOnSprite xpos ypos (scene.units.get ref).moveSprite && scene.select.get ref &&
    0 < (scene.units.get ref).actionPoints && 40 < xpos && xpos < 1200

def moveFirst (chain : List UnitRef) (xpos ypos : Int) (scene : GameScene) : GameScene :=
  match chain.find? (scene.canMove xpos ypos) with
  | some ref => scene.movingUnit ref xpos ypos
  | none => scene

def placeUnitAtClick (xpos ypos : Int) (scene : GameScene) : GameScene :=
  if scene.spriteOnTarget xpos ypos then scene
  else if scene.anySelected enemyChain || scene.anySelected allyChain then
    (scene.moveFirst enemyChain xpos ypos).moveFirst allyChain xpos ypos
  else scene

/-- The loop goes over all units and does not stop at the first hit. -/
def attackingOtherUnit (attacker : UnitRef) (xpos ypos : Int) (scene : GameScene) :
    Except Fault GameScene :=
  UnitRef.all.foldlM (fun scene ref => do
    let unit := scene.units.get ref
    let attackingUnit := scene.units.get attacker
    if mouseOnSprite xpos ypos unit.objectSprite && attackingUnit.isEnemy != unit.isEnemy then
      let hurt ← unit.takeDamage attackingUnit
      let units := scene.units.set ref hurt
      let spent := (units.get attacker).reduceActionPoints 2
      return { scene with units := units.set attacker spent }
    else return scene) scene

def canAttack (scene : GameScene) (xpos ypos : Int) (ref : UnitRef) : Bool :=
  mouseOnSprite xpos ypos (scene.units.get ref).attackSprite && scene.select.get ref &&
    2 ≤ (scene.units.get ref).actionPoints && 40 < xpos && xpos < 1200

def attackFirst (chain : List UnitRef) (xpos ypos : Int) (scene : GameScene) :
    Except Fault GameScene :=
  match chain.find? (scene.canAttack xpos ypos) with
  | some ref => scene.attackingOtherUnit ref xpos ypos
  | none => .ok scene

def attackSide (chain : List UnitRef) (xpos ypos : Int) (scene : GameScene) :
    Except Fault GameScene :=
  if scene.anySelected chain then scene.attackFirst chain xpos ypos else .ok scene

def attackClickedUnit (xpos ypos : Int) (scene : GameScene) : Except Fault GameScene :=
  if scene.spriteOnTarget xpos ypos then do
    let scene ← scene.attackSide enemyChain xpos ypos
    scene.attackSide allyChain xpos ypos
  else .ok scene

/-- One of the four tests of one side: select a unit and deselect the rest of
its side, or deselect it. -/
def toggleSelect (chain : List UnitRef) (xpos ypos : Int) (scene : GameScene) (ref : UnitRef) :
    GameScene :=
  if mouseOnSprite xpos ypos (scene.units.get ref).objectSprite then
    if scene.select.get ref then { scene with select := scene.select.set ref false }
    else { scene with
      select := (chain.foldl (fun select other => select.set other false) scene.select).set
        ref true }
  else scene

def setSelected (xpos ypos : Int) (scene : GameScene) : GameScene :=
  let scene :=
    if scene.assignedTeam = .player1 ∧ scene.playerTurn = .player1 then
      [.infantryEnemy, .tankEnemy, .sniperEnemy, .artilleryEnemy].foldl
        (toggleSelect enemyChain xpos ypos) scene
    else scene
  if scene.assignedTeam = .player2 ∧ scene.playerTurn = .player2 then
    [.infantryAlly, .tankAlly, .sniperAlly, .artilleryAlly].foldl
      (toggleSelect allyChain xpos ypos) scene
  else scene

/-- The handler of a pressed mouse button. -/
def clickHandler (undefinedReturn : Bool) (xpos ypos : Int) (scene : GameScene) :
    Except Fault GameScene :=
  if scene.lastScene && !scene.client.isLobby && !scene.client.isReconnecting then do
    let scene := scene.nextTurnPressed undefinedReturn xpos ypos
    let scene := scene.placeUnitAtClick xpos ypos
    let scene ← scene.attackClickedUnit xpos ypos
    return scene.setSelected xpos ypos
  else .ok scene

/-- The first line entered is the user name; later ones are sent. -/
def processString (str : String) (scene : GameScene) : GameScene :=
  if scene.client.username = "" then
    { scene with client := { scene.client with username := .ofList (str.toList.take 6) } }
  else scene.push [⟨"chat", scene.client.username, str⟩]

/-- `keyHandler` when Enter is pressed on the line `str`. -/
def enterPressed (str : String) (scene : GameScene) : GameScene :=
  if scene.lastScene && !scene.client.isLobby && !scene.client.isReconnecting &&
      scene.sceneFullInit then
    scene.processString str
  else scene

/-- One turn of the loop of `unitNetworkUpdate`, without the `pop`. -/
def applyUnitPacket (scene : GameScene) (packet : CustomPacket) : Except Fault GameScene := do
  let received ← packet.unitDataDeciper
  let scene :=
    if received.unitName = "endturn" then { scene with playerTurn := otherTurn scene.playerTurn }
    else scene
  if received.unitName = "endgame" then
    return { scene with
      winningPlayer := if received.xPos = 1 then .player1 else .player2
      gameFinished := true }
  else
    match UnitRef.named received.unitName with
    | some ref =>
        let unit := scene.units.get ref
        return { scene with units := scene.units.set ref { unit with
          objectSprite := unit.objectSprite.place received.xPos received.yPos
          squadSize := received.squadSize
          health := received.unitHp } }
    | none => return scene

def unitNetworkUpdate (scene : GameScene) : Except Fault GameScene := do
  let scene ← scene.client.unitUpdateQueue.foldlM applyUnitPacket scene
  return { scene with client := { scene.client with unitUpdateQueue := [] } }

def unitsUpdate (scene : GameScene) : GameScene :=
  { scene with units := scene.units.map GameUnit.update }

def playerPacket (opponentTeam : Int) : CustomPacket := ⟨"player", "", toString opponentTeam⟩
def turnPacket (gameTurn : Int) : CustomPacket := ⟨"turn", "", toString gameTurn⟩
def updateCompletePacket : CustomPacket := ⟨"update_complete", "", ""⟩
def resumePacket : CustomPacket := ⟨"resume", "", ""⟩

def allUnits (scene : GameScene) : List CustomPacket :=
  UnitRef.all.map fun ref => unitPacket ref (scene.units.get ref)

/-- The team that `updateReconnectee` names for the opponent. -/
def opponentTeam (scene : GameScene) : Int :=
  if scene.assignedTeam = .player1 then 2 else 1

def updateReconnectee (scene : GameScene) : Except Fault GameScene := do
  let gameTurn ← scene.whichTurn
  return scene.push
    ([playerPacket scene.opponentTeam, turnPacket gameTurn] ++ scene.allUnits ++
      [updateCompletePacket])

/-- The head of `update`: the user ID decides the team, once. -/
def assignTeam (scene : GameScene) : GameScene :=
  if scene.client.userID.tmod 2 = 0 ∧ scene.assignedTeam = .none ∧ scene.client.userID ≠ -1 then
    { scene with assignedTeam := .player1 }
  else if scene.client.userID.tmod 2 ≠ 0 ∧ scene.assignedTeam = .none ∧
      scene.client.userID ≠ -1 then
    { scene with assignedTeam := .player2 }
  else scene

/-- Turn, team and user ID from what the `turn` and `player` packets said. -/
def adoptTurn (scene : GameScene) : GameScene :=
  if scene.client.playerTurn = 1 then { scene with playerTurn := .player1 }
  else if scene.client.playerTurn = 2 then { scene with playerTurn := .player2 }
  else scene

def adoptTeam (scene : GameScene) : GameScene :=
  if scene.client.assignedPlayer = 1 then
    { scene with assignedTeam := .player1, client := { scene.client with userID := 0 } }
  else if scene.client.assignedPlayer = 2 then
    { scene with assignedTeam := .player2, client := { scene.client with userID := 1 } }
  else scene

/-- The condition of the branch that sends the snapshot. -/
def sendsSnapshot (scene : GameScene) : Bool :=
  scene.client.isReconnecting && scene.client.dataSender && scene.client.readyToSend

/-- The condition of the branch that acts on a received snapshot. -/
def adoptsSnapshot (scene : GameScene) : Bool :=
  !scene.sendsSnapshot && (scene.client.isReconnecting && scene.client.updateComplete)

/-- The update-completed branch. -/
def adoptSnapshot (scene : GameScene) : Except Fault GameScene := do
  let scene := scene.adoptTurn.adoptTeam
  let scene ← scene.unitNetworkUpdate
  let scene := scene.unitsUpdate.push [resumePacket]
  return { scene with client := { scene.client with updateComplete := false } }

/-- The branch for a game in play. -/
def play (scene : GameScene) : Except Fault GameScene := do
  let scene := scene.unitsUpdate
  let scene ←
    if scene.playerTurn = .player1 ∧ scene.assignedTeam = .player2 then scene.unitNetworkUpdate
    else .ok scene
  if scene.playerTurn = .player2 ∧ scene.assignedTeam = .player1 then scene.unitNetworkUpdate
  else .ok scene

/-- A frame: `SceneManager::update` marks the scene as the last one and
updates it. -/
def update (scene : GameScene) : Except Fault GameScene :=
  let scene := { scene with lastScene := true, sceneFullInit := true }.assignTeam
  if scene.client.isLobby || scene.client.isReconnecting then
    if scene.sendsSnapshot then do
      let scene ← scene.updateReconnectee
      return { scene with client := { scene.client with readyToSend := false } }
    else if scene.adoptsSnapshot then scene.adoptSnapshot
    else .ok scene
  else if scene.gameFinished then .ok scene
  else scene.play

end GameScene

end NetworkingGame
