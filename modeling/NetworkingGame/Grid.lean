import NetworkingGame.Selection

/-!
The board as a grid of 120 by 120 cells. Near the board no float computation
of the scene rounds, so that the mouse test and the snapping of a click to a
cell are integer arithmetic. The sprites are three pixels smaller than the
cells, and the lowest row is where every click below it ends up.
-/

namespace NetworkingGame

open Library.Binary32

/-- All four numbers are small enough for sums of them to be exact. -/
structure Sprite.Bounded (sprite : Sprite) : Prop where
  x : sprite.xPos.val.natAbs ≤ 2 ^ 20
  y : sprite.yPos.val.natAbs ≤ 2 ^ 20
  width : sprite.width.val.natAbs ≤ 2 ^ 20
  height : sprite.height.val.natAbs ≤ 2 ^ 20

/-- The pixel lies on the sprite, both edges included. -/
def Sprite.Covers (sprite : Sprite) (posX posY : Int) : Prop :=
  (sprite.xPos.val ≤ posX ∧ posX ≤ sprite.xPos.val + sprite.width.val) ∧
    sprite.yPos.val ≤ posY ∧ posY ≤ sprite.yPos.val + sprite.height.val

theorem val_cast_small {n : Int} (h : n.natAbs ≤ 2 ^ 24) : (IntFloat.cast n).val = n :=
  IntFloat.val_cast_of_le h

theorem mouseOnSprite_iff {sprite : Sprite} (h : sprite.Bounded) (posX posY : Int) :
    mouseOnSprite posX posY sprite = true ↔ sprite.Covers posX posY := by
  obtain ⟨hx, hy, hw, hh⟩ := h
  have hright : (sprite.xPos + sprite.width).val = sprite.xPos.val + sprite.width.val :=
    IntFloat.val_add (by omega)
  have hbottom : (sprite.yPos + sprite.height).val = sprite.yPos.val + sprite.height.val :=
    IntFloat.val_add (by omega)
  simp only [mouseOnSprite, Bool.and_eq_true, decide_eq_true_eq, IntFloat.le_def, hright, hbottom,
    Sprite.Covers]
  rw [IntFloat.cast_le_iff (by rw [abs_lt]; constructor <;> omega),
    IntFloat.le_cast_iff (by rw [abs_lt]; constructor <;> omega),
    IntFloat.cast_le_iff (by rw [abs_lt]; constructor <;> omega),
    IntFloat.le_cast_iff (by rw [abs_lt]; constructor <;> omega)]
  tauto

namespace GameScene

/-- The column that a click between the guards of a move snaps to. -/
def snapX (xpos : Int) : Int := 40 + 120 * ((xpos - 40) / 120)

/-- The row that a click snaps to; `allSelected` is `isAUnitSelected`. -/
def snapY (allSelected : Bool) (ypos : Int) : Int :=
  if ypos < 3 ∧ allSelected = true then 3
  else if 603 < ypos then 483
  else 3 + 120 * ((ypos - 3) / 120)

theorem val_snapX {xpos : Int} (hx : 40 < xpos) (hx' : xpos < 1200) :
    (IntFloat.cast (snapX xpos)).val = snapX xpos := by
  apply val_cast_small
  unfold snapX
  omega

theorem val_snapY {allSelected : Bool} {ypos : Int} (hy : -2 ^ 15 ≤ ypos) :
    (IntFloat.cast (snapY allSelected ypos)).val = snapY allSelected ypos := by
  apply val_cast_small
  unfold snapY
  split_ifs <;> omega

section Snapping

theorem gridCell_small {offset limit pos : Int} (hoffset : offset.natAbs ≤ 2 ^ 10)
    (hpos : pos.natAbs ≤ 2 ^ 15) (hlimit : limit.natAbs ≤ 2 ^ 10) :
    gridCell offset limit pos =
      (.cast (120 * ((pos - offset) / 120)), decide (limit * 120 < pos - offset)) := by
  have hcurrent : (IntFloat.cast pos - IntFloat.cast offset).val = pos - offset := by
    rw [IntFloat.val_sub] <;> rw [val_cast_small (by omega), val_cast_small (by omega)]
    omega
  have hsmall : |pos - offset| ≤ 2 ^ 16 := by
    rw [abs_le]
    constructor <;> omega
  have hfloor := @floor_round_div (pos - offset) 120 (by decide) (by decide) hsmall
  have hover := @lt_round_div_iff (pos - offset) 120 limit (by decide) (by decide)
    (by rw [abs_le]; constructor <;> omega)
  simp only [Nat.cast_ofNat] at hfloor hover
  simp only [gridCell, hcurrent, hfloor, hover, Prod.mk.injEq, and_true]
  apply IntFloat.ext
  rw [IntFloat.val_mul] <;>
    simp only [val_cast_small (show (120 : Int).natAbs ≤ 2 ^ 24 by decide),
      val_cast_small (show ((pos - offset) / 120).natAbs ≤ 2 ^ 24 by omega)]
  · rw [val_cast_small (by omega), mul_comm]
  · omega

/-- Far below the board the quotient has left the grid, whatever it is. -/
theorem gridCell_below {ypos : Int} (h : 603 < ypos) :
    0 ≤ (gridCell 3 5 ypos).1.val ∧ (gridCell 3 5 ypos).2 = true := by
  have hcast : 604 ≤ (IntFloat.cast ypos).val := IntFloat.le_cast (by norm_num) (by omega)
  have hcurrent : 601 ≤ (IntFloat.cast ypos - IntFloat.cast 3).val := by
    apply IntFloat.le_cast (by norm_num)
    rw [val_cast_small (show (3 : Int).natAbs ≤ 2 ^ 24 by decide)]
    omega
  have hover := @lt_round_div_iff (IntFloat.cast ypos - IntFloat.cast 3).val 120 5 (by decide)
    (by decide) (by norm_num)
  simp only [Nat.cast_ofNat] at hover
  have hquotient := hover.mpr (by omega)
  constructor
  · have hfloor : 5 ≤ ⌊Library.Binary32.round
        ((IntFloat.cast ypos - IntFloat.cast 3).val / 120)⌋ := Int.le_floor.mpr hquotient.le
    apply IntFloat.le_cast (by norm_num)
    have hcell := IntFloat.le_cast (show |(5 : Int)| ≤ 2 ^ 24 by norm_num) hfloor
    rw [val_cast_small (show (120 : Int).natAbs ≤ 2 ^ 24 by decide)]
    omega
  · simpa [gridCell] using hquotient

/-- Where a click that the guards of a move let through puts the sprite. -/
theorem gridSnapping_eq (scene : GameScene) (sprite : Sprite) {xpos ypos : Int}
    (hx : 40 < xpos) (hx' : xpos < 1200) (hy : -2 ^ 15 ≤ ypos) :
    scene.gridSnapping xpos ypos sprite =
      sprite.place (snapX xpos) (snapY scene.isAUnitSelected ypos) := by
  have hcolumn := @gridCell_small 40 10 xpos (by decide) (by omega) (by decide)
  have hcellX : (IntFloat.cast (120 * ((xpos - 40) / 120))).val = 120 * ((xpos - 40) / 120) :=
    val_cast_small (by omega)
  have hnewX : (IntFloat.cast (120 * ((xpos - 40) / 120)) + IntFloat.cast 40).val =
      snapX xpos := by
    rw [IntFloat.val_add] <;> rw [hcellX, val_cast_small (by decide)]
    · rw [snapX]
      ring
    · omega
  have hover : ¬ (10 * 120 : Int) < xpos - 40 := by omega
  have hnonneg : ¬ 120 * ((xpos - 40) / 120) < 0 := by omega
  simp only [gridSnapping, hcolumn, hcellX, hnewX, hover, hnonneg, decide_false, Bool.false_and,
    Bool.false_eq_true, if_false]
  congr 1
  by_cases hbelow : 603 < ypos
  · obtain ⟨hcell, hend⟩ := gridCell_below hbelow
    have hsnap : snapY scene.isAUnitSelected ypos = 483 := by
      rw [snapY, if_neg (by rintro ⟨habove, -⟩; omega), if_pos hbelow]
    simp only [hend, hsnap, not_lt.mpr hcell, decide_false, Bool.false_and, Bool.false_eq_true,
      if_false, if_true]
  · have hrow := @gridCell_small 3 5 ypos (by decide) (by omega) (by decide)
    have hcellY : (IntFloat.cast (120 * ((ypos - 3) / 120))).val = 120 * ((ypos - 3) / 120) :=
      val_cast_small (by omega)
    have hnewY : (IntFloat.cast (120 * ((ypos - 3) / 120)) + IntFloat.cast 3).val =
        3 + 120 * ((ypos - 3) / 120) := by
      rw [IntFloat.val_add] <;> rw [hcellY, val_cast_small (by decide)]
      · ring
      · omega
    have hend : ¬ (5 * 120 : Int) < ypos - 3 := by omega
    have hsign : 120 * ((ypos - 3) / 120) < 0 ↔ ypos < 3 := by omega
    simp only [hrow, hcellY, hnewY, hend, hsign, decide_false, Bool.false_eq_true, if_false, snapY,
      if_neg hbelow, Bool.and_eq_true, decide_eq_true_eq]

end Snapping

end GameScene

end NetworkingGame
