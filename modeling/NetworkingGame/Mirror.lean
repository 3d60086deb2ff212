import NetworkingGame.Range

/-!
The ranges of the two sides. Each is a rectangle around the cell of its unit,
and a side's range is the other's seen in a mirror, but for the attack range of
the sniper: the mirrored rectangle would begin one column further right.
-/

namespace NetworkingGame

open Library.Binary32

/-- A rectangle, relative to the top left of the cell of the unit it belongs to. -/
structure Reach where
  left : Int
  top : Int
  width : Int
  height : Int
deriving DecidableEq

namespace Reach

/-- The cell `k` columns to the right of the unit's own and `m` rows below it
lies wholly inside. -/
def Holds (reach : Reach) (k m : Int) : Prop :=
  (reach.left ≤ 120 * k ∧ 120 * k + 120 ≤ reach.left + reach.width) ∧
    reach.top ≤ 120 * m ∧ 120 * m + 120 ≤ reach.top + reach.height

instance (reach : Reach) (k m : Int) : Decidable (reach.Holds k m) :=
  inferInstanceAs (Decidable (_ ∧ _))

/-- The same cells counted to the other side. A rectangle hangs at its left
edge, so its width and the unit's own cell come in. -/
def mirror (reach : Reach) : Reach := { reach with left := 120 - reach.left - reach.width }

theorem holds_mirror (reach : Reach) (k m : Int) :
    reach.mirror.Holds k m ↔ reach.Holds (-k) m := by
  simp only [Holds, mirror]
  constructor
  · rintro ⟨⟨hleft, hright⟩, htop, hbottom⟩
    exact ⟨⟨by omega, by omega⟩, htop, hbottom⟩
  · rintro ⟨⟨hleft, hright⟩, htop, hbottom⟩
    exact ⟨⟨by omega, by omega⟩, htop, hbottom⟩

def ofOffset (offset size : Int × Int) : Reach := ⟨offset.1, offset.2, size.1, size.2⟩

end Reach

namespace GameUnit

def moveReach (isEnemy : Bool) (name : UnitName) : Reach :=
  .ofOffset (moveOffset isEnemy name) (rangeSize name).2

def attackReach (isEnemy : Bool) (name : UnitName) : Reach :=
  .ofOffset (attackOffset isEnemy name) (rangeSize name).1

theorem moveReach_mirror (name : UnitName) :
    moveReach false name = (moveReach true name).mirror := by
  cases name <;> rfl

theorem attackReach_mirror {name : UnitName} (h : name ≠ .sniper) :
    attackReach false name = (attackReach true name).mirror := by
  cases name with
  | sniper => exact absurd rfl h
  | infantry | artillery | tank => rfl

/-- The sniper of player 1 covers its own cell and five to the right of it,
that of player 2 six to the left and not its own. -/
theorem attackReach_sniper_iff (k m : Int) :
    ((attackReach true .sniper).Holds k m ↔ (attackReach false .sniper).Holds (-k) m) ↔
      m ≠ 0 ∨ k ≠ 0 ∧ k ≠ 6 := by
  have hright : (attackReach true .sniper).Holds k m ↔ (0 ≤ k ∧ k ≤ 5) ∧ m = 0 := by
    simp only [attackReach, Reach.ofOffset, attackOffset, rangeSize, Reach.Holds]
    omega
  have hleft : (attackReach false .sniper).Holds (-k) m ↔ (1 ≤ k ∧ k ≤ 6) ∧ m = 0 := by
    simp only [attackReach, Reach.ofOffset, attackOffset, rangeSize, Reach.Holds]
    omega
  rw [hright, hleft]
  omega

/-- The corners of both rectangles are ints that a float holds exactly. -/
structure ExactCorners (unit : GameUnit) : Prop where
  move : (unit.moveRect.xPos.val =
      unit.objectSprite.xPos.val + (moveOffset unit.isEnemy unit.unitName).1) ∧
    unit.moveRect.yPos.val =
      unit.objectSprite.yPos.val + (moveOffset unit.isEnemy unit.unitName).2
  attack : (unit.attackRect.xPos.val =
      unit.objectSprite.xPos.val + (attackOffset unit.isEnemy unit.unitName).1) ∧
    unit.attackRect.yPos.val =
      unit.objectSprite.yPos.val + (attackOffset unit.isEnemy unit.unitName).2

/-- So they are wherever a unit can stand on a screen. -/
theorem exactCorners_of_small {unit : GameUnit}
    (hx : unit.objectSprite.xPos.val.natAbs ≤ 2 ^ 23)
    (hy : unit.objectSprite.yPos.val.natAbs ≤ 2 ^ 23) : unit.ExactCorners := by
  constructor
  · unfold moveRect
    cases unit.isEnemy <;> cases unit.unitName <;> simp only [moveOffset] <;>
      constructor <;> apply val_cast_small <;> omega
  · unfold attackRect
    cases unit.isEnemy <;> cases unit.unitName <;> simp only [attackOffset] <;>
      constructor <;> apply val_cast_small <;> omega

/-- The cell `k` columns to the right of the unit and `m` rows below it lies
wholly inside the rectangle. -/
def CellAt (unit : GameUnit) (rect : Sprite) (k m : Int) : Prop :=
  (rect.xPos.val ≤ unit.objectSprite.xPos.val + 120 * k ∧
      unit.objectSprite.xPos.val + 120 * k + 120 ≤ rect.xPos.val + rect.width.val) ∧
    rect.yPos.val ≤ unit.objectSprite.yPos.val + 120 * m ∧
      unit.objectSprite.yPos.val + 120 * m + 120 ≤ rect.yPos.val + rect.height.val

instance (unit : GameUnit) (rect : Sprite) (k m : Int) : Decidable (unit.CellAt rect k m) :=
  inferInstanceAs (Decidable (_ ∧ _))

section Cells

variable {unit : GameUnit}

theorem cellAt_moveRect (h : unit.ExactCorners) (k m : Int) :
    unit.CellAt unit.moveRect k m ↔ (moveReach unit.isEnemy unit.unitName).Holds k m := by
  obtain ⟨hx, hy⟩ := h.move
  have hwidth : unit.moveRect.width.val = (rangeSize unit.unitName).2.1 := by
    apply val_cast_small
    cases unit.unitName <;> decide
  have hheight : unit.moveRect.height.val = (rangeSize unit.unitName).2.2 := by
    apply val_cast_small
    cases unit.unitName <;> decide
  unfold CellAt
  rw [hx, hy, hwidth, hheight]
  simp only [moveReach, Reach.ofOffset, Reach.Holds]
  omega

theorem cellAt_attackRect (h : unit.ExactCorners) (k m : Int) :
    unit.CellAt unit.attackRect k m ↔ (attackReach unit.isEnemy unit.unitName).Holds k m := by
  obtain ⟨hx, hy⟩ := h.attack
  have hwidth : unit.attackRect.width.val = (rangeSize unit.unitName).1.1 := by
    apply val_cast_small
    cases unit.unitName <;> decide
  have hheight : unit.attackRect.height.val = (rangeSize unit.unitName).1.2 := by
    apply val_cast_small
    cases unit.unitName <;> decide
  unfold CellAt
  rw [hx, hy, hwidth, hheight]
  simp only [attackReach, Reach.ofOffset, Reach.Holds]
  omega

/-- Living units keep their name, their side and their place. -/
theorem update_of_living (halive : unit.update.isDead = false) :
    (unit.update.unitName = unit.unitName ∧ unit.update.isEnemy = unit.isEnemy) ∧
      unit.update.objectSprite = unit.objectSprite := by
  have hupdated := unit.update_updated
  generalize unit.update = after at halive hupdated ⊢
  cases hupdated with
  | died => cases halive
  | dead hdead => cases hdead.symm.trans halive
  | placed => exact ⟨⟨rfl, rfl⟩, rfl⟩

/-- A unit that `update` gives its rectangles: sized by `init`, alive, and
where the corners are exact. -/
structure Placeable (unit : GameUnit) : Prop where
  sized : unit.Sized
  living : unit.update.isDead = false
  corners : unit.ExactCorners

theorem Placeable.corners_update (h : unit.Placeable) : unit.update.ExactCorners := by
  obtain ⟨⟨hname, hside⟩, hsprite⟩ := update_of_living h.living
  have hmove : unit.update.moveRect = unit.moveRect := by
    simp only [moveRect, hname, hside, hsprite]
  have hattack : unit.update.attackRect = unit.attackRect := by
    simp only [attackRect, hname, hside, hsprite]
  constructor
  · rw [hmove, hname, hside, hsprite]
    exact h.corners.move
  · rw [hattack, hname, hside, hsprite]
    exact h.corners.attack

theorem Placeable.cellAt_moveSprite (h : unit.Placeable) (k m : Int) :
    unit.update.CellAt unit.update.moveSprite k m ↔
      (moveReach unit.isEnemy unit.unitName).Holds k m := by
  obtain ⟨⟨hname, hside⟩, -⟩ := update_of_living h.living
  rw [(ranged_update h.sized h.living).move, cellAt_moveRect h.corners_update, hname, hside]

theorem Placeable.cellAt_attackSprite (h : unit.Placeable) (k m : Int) :
    unit.update.CellAt unit.update.attackSprite k m ↔
      (attackReach unit.isEnemy unit.unitName).Holds k m := by
  obtain ⟨⟨hname, hside⟩, -⟩ := update_of_living h.living
  rw [(ranged_update h.sized h.living).attack, cellAt_attackRect h.corners_update, hname, hside]

end Cells

/-- Counted towards the right from one unit and towards the left from the
other, the cell is in both ranges or in neither. -/
structure MirrorAt (first second : GameUnit) (k m : Int) : Prop where
  attack : first.CellAt first.attackSprite k m ↔ second.CellAt second.attackSprite (-k) m
  move : first.CellAt first.moveSprite k m ↔ second.CellAt second.moveSprite (-k) m

/-- Wherever the two units stand, their ranges mirror each other but for the
two ends of the sniper's attack range. -/
theorem mirrorAt_iff {first second : GameUnit} (hfirst : first.isEnemy = true)
    (hsecond : second.isEnemy = false) (hname : second.unitName = first.unitName)
    (hplace : first.Placeable) (hplace' : second.Placeable) (k m : Int) :
    MirrorAt first.update second.update k m ↔
      first.unitName ≠ .sniper ∨ m ≠ 0 ∨ k ≠ 0 ∧ k ≠ 6 := by
  have hattack := hplace.cellAt_attackSprite k m
  have hattack' := hplace'.cellAt_attackSprite (-k) m
  have hmove := hplace.cellAt_moveSprite k m
  have hmove' := hplace'.cellAt_moveSprite (-k) m
  rw [hfirst] at hattack hmove
  rw [hsecond, hname] at hattack' hmove'
  have hmirrored : first.update.CellAt first.update.moveSprite k m ↔
      second.update.CellAt second.update.moveSprite (-k) m := by
    rw [hmove, hmove', moveReach_mirror, Reach.holds_mirror, neg_neg]
  by_cases hsniper : first.unitName = .sniper
  · rw [hsniper] at hattack hattack'
    have hends := attackReach_sniper_iff k m
    rw [← hattack, ← hattack'] at hends
    constructor
    · intro h
      exact .inr (hends.mp h.attack)
    · intro h
      exact ⟨hends.mpr (h.resolve_left (not_not.mpr hsniper)), hmirrored⟩
  · constructor
    · intro _
      exact .inl hsniper
    · intro _
      refine ⟨?_, hmirrored⟩
      rw [hattack, hattack', attackReach_mirror hsniper, Reach.holds_mirror, neg_neg]

/-- The blank sprites of a fresh unit are sized, and it stands on the screen. -/
theorem placeable_initUnits (ref : UnitRef) : ((GameScene.initUnits
    ⟨.cast 0, .cast 0, .cast 0, .cast 0⟩).get ref).Placeable := by
  constructor
  · cases ref <;> exact ⟨⟨rfl, rfl⟩, ⟨rfl, rfl⟩, ⟨rfl, rfl⟩⟩
  · cases ref <;> decide +kernel
  · apply exactCorners_of_small <;> cases ref <;> decide +kernel

theorem mirrorAt_iff_tanks :
    MirrorAt (GameScene.initUnits ⟨.cast 0, .cast 0, .cast 0, .cast 0⟩).tankEnemy.update
      (GameScene.initUnits ⟨.cast 0, .cast 0, .cast 0, .cast 0⟩).tankAlly.update 1 0 := by
  have htank := placeable_initUnits .tankEnemy
  have htank' := placeable_initUnits .tankAlly
  refine (mirrorAt_iff ?_ ?_ ?_ htank htank' 1 0).mpr (.inl ?_) <;> decide

/-- The units after the first frame of a game. -/
def firstFrame : Roster GameUnit :=
  (GameScene.initUnits ⟨.cast 0, .cast 0, .cast 0, .cast 0⟩).map update

/-- The sniper of player 1 covers the cell it stands on and nothing six columns
ahead, the one of player 2 the other way round. -/
theorem snipers_not_mirrored :
    (firstFrame.sniperEnemy.CellAt firstFrame.sniperEnemy.attackSprite 0 0 ∧
        ¬ firstFrame.sniperAlly.CellAt firstFrame.sniperAlly.attackSprite (-0) 0) ∧
      ¬ firstFrame.sniperEnemy.CellAt firstFrame.sniperEnemy.attackSprite 6 0 ∧
        firstFrame.sniperAlly.CellAt firstFrame.sniperAlly.attackSprite (-6) 0 := by
  decide +kernel

end GameUnit

end NetworkingGame
