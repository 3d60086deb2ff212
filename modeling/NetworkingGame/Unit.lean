import NetworkingGame.CustomPacket

/-!
Sprites, the mouse test, and the units of the board with the data that
`Units.json` gives their types. Sprite coordinates are floats that only ever
store ints. Texture names, sounds and the two health decorations are left
out, as are the move and attack range numbers, which nothing reads.
-/

namespace NetworkingGame

open Library.Binary32

structure Sprite where
  xPos : IntFloat
  yPos : IntFloat
  width : IntFloat
  height : IntFloat
deriving DecidableEq

namespace Sprite

/-- `xPos(x)` and `yPos(y)` with two ints. -/
def place (sprite : Sprite) (x y : Int) : Sprite :=
  { sprite with xPos := .cast x, yPos := .cast y }

/-- `width(w)` and `height(h)` with two ints. -/
def resize (sprite : Sprite) (w h : Int) : Sprite :=
  { sprite with width := .cast w, height := .cast h }

end Sprite

/-- Both edges count as inside. -/
def mouseOnSprite (posX posY : Int) (collidee : Sprite) : Bool :=
  (IntFloat.cast posX ≤ collidee.xPos + collidee.width && collidee.xPos ≤ IntFloat.cast posX) &&
    (IntFloat.cast posY ≤ collidee.yPos + collidee.height && collidee.yPos ≤ IntFloat.cast posY)

inductive UnitName
  | infantry
  | sniper
  | artillery
  | tank
deriving DecidableEq, Repr

structure UnitType where
  unitName : UnitName
  squadSize : Int
  health : Int
  attackRating : Int
  armourRating : Int
  actionPoints : Int
deriving DecidableEq

/-- `UnitType::load` and `UnitType::find` on `Units.json`. -/
def UnitType.find : UnitName → UnitType
  | .infantry => ⟨.infantry, 10, 20, 5, 50, 3⟩
  | .sniper => ⟨.sniper, 5, 10, 15, 30, 2⟩
  | .artillery => ⟨.artillery, 2, 5, 20, 0, 2⟩
  | .tank => ⟨.tank, 1, 100, 15, 75, 3⟩

structure GameUnit where
  unitName : UnitName
  xPos : Int
  yPos : Int
  squadSize : Int
  health : Int
  attack : Int
  armour : Int
  actionPoints : Int
  maxActionPoints : Int
  isEnemy : Bool
  isDead : Bool
  hasChanged : Bool
  objectSprite : Sprite
  attackSprite : Sprite
  moveSprite : Sprite
deriving DecidableEq

namespace GameUnit

/-- Width and height of the attack rectangle, then of the move rectangle. -/
def rangeSize : UnitName → (Int × Int) × (Int × Int)
  | .infantry => ((360, 360), (600, 600))
  | .sniper => ((720, 120), (360, 360))
  | .artillery => ((360, 360), (120, 360))
  | .tank => ((240, 360), (600, 360))

def initialRow : UnitName → Int
  | .infantry => 3
  | .sniper => 123
  | .artillery => 243
  | .tank => 363

/-- `Unit::init`. `blank` is the sprite that the renderer hands out. -/
def init (blank : Sprite) (unit : GameUnit) : GameUnit :=
  let size := rangeSize unit.unitName
  { unit with
    maxActionPoints := unit.actionPoints
    objectSprite := (blank.resize 117 117).place (if unit.isEnemy then 40 else 880)
      (initialRow unit.unitName)
    attackSprite := blank.resize size.1.1 size.1.2
    moveSprite := blank.resize size.2.1 size.2.2 }

/-- `UnitType::createUnit`: every unit is created with `is_enemy` true. -/
def createUnit (blank : Sprite) (type : UnitType) : GameUnit :=
  init blank {
    unitName := type.unitName
    xPos := 40
    yPos := 3
    squadSize := type.squadSize
    health := type.health
    attack := type.attackRating
    armour := type.armourRating
    actionPoints := type.actionPoints
    maxActionPoints := 0
    isEnemy := true
    isDead := false
    hasChanged := false
    objectSprite := blank
    attackSprite := blank
    moveSprite := blank }

/-- Where `Unit::update` puts the move rectangle, relative to the unit. -/
def moveOffset (isEnemy : Bool) (name : UnitName) : Int × Int :=
  match isEnemy, name with
  | true, .infantry => (-240, -240)
  | true, .sniper => (-120, -120)
  | true, .artillery => (0, -120)
  | true, .tank => (-240, -120)
  | false, .infantry => (-240, -240)
  | false, .sniper => (-120, -120)
  | false, .artillery => (0, -120)
  | false, .tank => (-240, -120)

/-- Where `Unit::update` puts the attack rectangle, relative to the unit. -/
def attackOffset (isEnemy : Bool) (name : UnitName) : Int × Int :=
  match isEnemy, name with
  | true, .infantry => (-120, -120)
  | true, .sniper => (0, 0)
  | true, .artillery => (600, -120)
  | true, .tank => (0, -120)
  | false, .infantry => (-120, -120)
  | false, .sniper => (-720, 0)
  | false, .artillery => (-840, -120)
  | false, .tank => (-120, -120)

/-- The second half of `Unit::update`, for a unit that is not dead. -/
def placeSprites (unit : GameUnit) : GameUnit :=
  let move := moveOffset unit.isEnemy unit.unitName
  let attack := attackOffset unit.isEnemy unit.unitName
  { unit with
    objectSprite := unit.objectSprite.place unit.xPos unit.yPos
    moveSprite := unit.moveSprite.place (unit.xPos + move.1) (unit.yPos + move.2)
    attackSprite := unit.attackSprite.place (unit.xPos + attack.1) (unit.yPos + attack.2) }

def update (unit : GameUnit) : GameUnit :=
  let unit := { unit with
    xPos := unit.objectSprite.xPos.val
    yPos := unit.objectSprite.yPos.val }
  if unit.squadSize ≤ 0 ∧ unit.isDead = false then
    { unit with objectSprite := unit.objectSprite.place (-200) (-200), isDead := true }
  else if unit.isDead then unit
  else placeSprites unit

/-- The damage is a float computation on integers; `armour / 100` is an int
division. Dividing by a health of zero is not defined. Ints are unbounded here;
`takeDamageInt32` also says where those of the code overflow. -/
def takeDamage (unit damageDealer : GameUnit) : Except Fault GameUnit :=
  let rawDamage := IntFloat.cast (damageDealer.attack * damageDealer.squadSize)
  let mitigatedDamage := rawDamage * IntFloat.cast (unit.armour.tdiv 100)
  let damageTaken := (rawDamage - mitigatedDamage).val
  if unit.health = 0 then .error .divisionByZero
  else .ok { unit with
    health := unit.health - damageTaken.tmod unit.health
    squadSize := unit.squadSize - damageTaken.tdiv unit.health
    hasChanged := true }

def reduceActionPoints (unit : GameUnit) (reduction : Int) : GameUnit :=
  { unit with actionPoints := unit.actionPoints - reduction }

def resetActionPoints (unit : GameUnit) : GameUnit :=
  { unit with actionPoints := unit.maxActionPoints }

/-- `setChanged(false)`. -/
def clearChanged (unit : GameUnit) : GameUnit :=
  { unit with hasChanged := false }

/-- What both players should agree on: size and health of the squad and, for
a living one, its place on the board. -/
structure View where
  squadSize : Int
  health : Int
  place : Option (IntFloat × IntFloat)
deriving DecidableEq

def viewAt (squadSize health : Int) (x y : IntFloat) : View :=
  ⟨squadSize, health, if 0 < squadSize then some (x, y) else none⟩

def view (unit : GameUnit) : View :=
  viewAt unit.squadSize unit.health unit.objectSprite.xPos unit.objectSprite.yPos

/-- The branches of `update`. A living unit's sprite stays where it is. -/
inductive Updated (unit : GameUnit) : GameUnit → Prop
  | died (hsize : unit.squadSize ≤ 0) (halive : unit.isDead = false) : Updated unit { unit with
      xPos := unit.objectSprite.xPos.val
      yPos := unit.objectSprite.yPos.val
      objectSprite := unit.objectSprite.place (-200) (-200)
      isDead := true }
  | dead (hdead : unit.isDead = true) : Updated unit { unit with
      xPos := unit.objectSprite.xPos.val
      yPos := unit.objectSprite.yPos.val }
  | placed (hsize : 0 < unit.squadSize) (halive : unit.isDead = false) : Updated unit { unit with
      xPos := unit.objectSprite.xPos.val
      yPos := unit.objectSprite.yPos.val
      moveSprite := unit.moveSprite.place
        (unit.objectSprite.xPos.val + (moveOffset unit.isEnemy unit.unitName).1)
        (unit.objectSprite.yPos.val + (moveOffset unit.isEnemy unit.unitName).2)
      attackSprite := unit.attackSprite.place
        (unit.objectSprite.xPos.val + (attackOffset unit.isEnemy unit.unitName).1)
        (unit.objectSprite.yPos.val + (attackOffset unit.isEnemy unit.unitName).2) }

theorem update_updated (unit : GameUnit) : Updated unit unit.update := by
  unfold update
  dsimp only
  split
  · rename_i hdead
    exact .died hdead.1 hdead.2
  · rename_i hkept
    split
    · rename_i hdead
      exact .dead hdead
    · rename_i hdead
      have halive : unit.isDead = false := by simpa using hdead
      have hsize : 0 < unit.squadSize := by
        by_contra hnone
        exact hkept ⟨by omega, halive⟩
      have hplaced := Updated.placed hsize halive
      simpa [placeSprites, Sprite.place] using hplaced

/-- A frame only moves a unit that is dead. -/
@[simp] theorem view_update (unit : GameUnit) : unit.update.view = unit.view := by
  have hupdated := unit.update_updated
  generalize unit.update = after at hupdated ⊢
  cases hupdated with
  | died hsize =>
      simp only [view, viewAt]
      rw [if_neg (by omega), if_neg (by omega)]
  | dead | placed => rfl

@[simp] theorem hasChanged_update (unit : GameUnit) :
    unit.update.hasChanged = unit.hasChanged := by
  have hupdated := unit.update_updated
  generalize unit.update = after at hupdated ⊢
  cases hupdated with
  | died | dead | placed => rfl

@[simp] theorem view_resetActionPoints (unit : GameUnit) :
    unit.resetActionPoints.view = unit.view := rfl

@[simp] theorem view_clearChanged (unit : GameUnit) : unit.clearChanged.view = unit.view := rfl

@[simp] theorem view_reduceActionPoints (unit : GameUnit) (reduction : Int) :
    (unit.reduceActionPoints reduction).view = unit.view := rfl

theorem takeDamage_hasChanged {unit damageDealer hurt : GameUnit}
    (h : unit.takeDamage damageDealer = .ok hurt) : hurt.hasChanged = true := by
  unfold takeDamage at h
  split at h
  · cases h
  · rw [← Except.ok.inj h]

end GameUnit

/-- The eight units, in the order of `units_vec`. -/
inductive UnitRef
  | infantryEnemy
  | sniperEnemy
  | artilleryEnemy
  | tankEnemy
  | infantryAlly
  | sniperAlly
  | artilleryAlly
  | tankAlly
deriving DecidableEq, Repr

namespace UnitRef

def all : List UnitRef :=
  [.infantryEnemy, .sniperEnemy, .artilleryEnemy, .tankEnemy,
    .infantryAlly, .sniperAlly, .artilleryAlly, .tankAlly]

theorem mem_all (ref : UnitRef) : ref ∈ all := by
  cases ref <;> decide

/-- The name that `initUnits` gives the unit; nothing changes it later. -/
def refName : UnitRef → String
  | .infantryEnemy => "infantry_enemy"
  | .sniperEnemy => "sniper_enemy"
  | .artilleryEnemy => "artillery_enemy"
  | .tankEnemy => "tank_enemy"
  | .infantryAlly => "infantry_ally"
  | .sniperAlly => "sniper_ally"
  | .artilleryAlly => "artillery_ally"
  | .tankAlly => "tank_ally"

theorem refName_injective : Function.Injective refName := by
  intro left right h
  cases left <;> cases right <;> first | rfl | simp [refName] at h

theorem delimiter_not_mem_refName (ref : UnitRef) : '&' ∉ ref.refName.toList := by
  cases ref <;> simp [refName]

theorem nul_not_mem_refName (ref : UnitRef) : '\x00' ∉ ref.refName.toList := by
  cases ref <;> simp [refName]

/-- The loop that looks a unit up by its name and stops at the first hit. -/
def named (name : String) : Option UnitRef := all.find? fun ref => name = ref.refName

theorem named_refName (ref : UnitRef) : named ref.refName = some ref := by
  cases ref <;> decide +kernel

end UnitRef

/-- One value for each unit. -/
structure Roster (α : Type) where
  infantryEnemy : α
  sniperEnemy : α
  artilleryEnemy : α
  tankEnemy : α
  infantryAlly : α
  sniperAlly : α
  artilleryAlly : α
  tankAlly : α
deriving DecidableEq

namespace Roster

variable {α β : Type}

def get (roster : Roster α) : UnitRef → α
  | .infantryEnemy => roster.infantryEnemy
  | .sniperEnemy => roster.sniperEnemy
  | .artilleryEnemy => roster.artilleryEnemy
  | .tankEnemy => roster.tankEnemy
  | .infantryAlly => roster.infantryAlly
  | .sniperAlly => roster.sniperAlly
  | .artilleryAlly => roster.artilleryAlly
  | .tankAlly => roster.tankAlly

def set (roster : Roster α) (ref : UnitRef) (a : α) : Roster α :=
  match ref with
  | .infantryEnemy => { roster with infantryEnemy := a }
  | .sniperEnemy => { roster with sniperEnemy := a }
  | .artilleryEnemy => { roster with artilleryEnemy := a }
  | .tankEnemy => { roster with tankEnemy := a }
  | .infantryAlly => { roster with infantryAlly := a }
  | .sniperAlly => { roster with sniperAlly := a }
  | .artilleryAlly => { roster with artilleryAlly := a }
  | .tankAlly => { roster with tankAlly := a }

def map (f : α → β) (roster : Roster α) : Roster β :=
  ⟨f roster.infantryEnemy, f roster.sniperEnemy, f roster.artilleryEnemy, f roster.tankEnemy,
    f roster.infantryAlly, f roster.sniperAlly, f roster.artilleryAlly, f roster.tankAlly⟩

def fill (a : α) : Roster α := ⟨a, a, a, a, a, a, a, a⟩

@[ext] theorem ext {left right : Roster α} (h : ∀ ref, left.get ref = right.get ref) :
    left = right := by
  cases left
  cases right
  have h1 := h .infantryEnemy
  have h2 := h .sniperEnemy
  have h3 := h .artilleryEnemy
  have h4 := h .tankEnemy
  have h5 := h .infantryAlly
  have h6 := h .sniperAlly
  have h7 := h .artilleryAlly
  have h8 := h .tankAlly
  simp only [get] at h1 h2 h3 h4 h5 h6 h7 h8
  subst h1 h2 h3 h4 h5 h6 h7 h8
  rfl

theorem get_set (roster : Roster α) (ref other : UnitRef) (a : α) :
    (roster.set ref a).get other = if other = ref then a else roster.get other := by
  cases ref <;> cases other <;> rfl

@[simp] theorem get_set_self (roster : Roster α) (ref : UnitRef) (a : α) :
    (roster.set ref a).get ref = a := by
  rw [get_set, if_pos rfl]

theorem get_set_ne (roster : Roster α) {ref other : UnitRef} (h : other ≠ ref) (a : α) :
    (roster.set ref a).get other = roster.get other := by
  rw [get_set, if_neg h]

@[simp] theorem get_map (roster : Roster α) (f : α → β) (ref : UnitRef) :
    (roster.map f).get ref = f (roster.get ref) := by
  cases ref <;> rfl

@[simp] theorem get_fill (a : α) (ref : UnitRef) : (fill a).get ref = a := by
  cases ref <;> rfl

end Roster

end NetworkingGame
