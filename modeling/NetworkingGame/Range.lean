import NetworkingGame.Actions
import NetworkingGame.Grid

/-!
The highlighted ranges. A click is accepted on either edge of a unit's move or
attack rectangle, although the cell that begins at the right or at the bottom
edge lies outside; away from these two edges the cell that a move or an attack
ends in lies inside.
-/

namespace NetworkingGame

open Library.Binary32 Library.Transition

/-- The sprite stands on one of the ten by five cells of the board. -/
def OnGrid (sprite : Sprite) : Prop :=
  ∃ column row : Int, (0 ≤ column ∧ column ≤ 9) ∧ (0 ≤ row ∧ row ≤ 4) ∧
    sprite.xPos.val = 40 + 120 * column ∧ sprite.yPos.val = 3 + 120 * row

/-- The cell of the sprite lies wholly inside the rectangle. -/
def CellInside (sprite rect : Sprite) : Prop :=
  (rect.xPos.val ≤ sprite.xPos.val ∧
      sprite.xPos.val + 120 ≤ rect.xPos.val + rect.width.val) ∧
    rect.yPos.val ≤ sprite.yPos.val ∧
      sprite.yPos.val + 120 ≤ rect.yPos.val + rect.height.val

instance (sprite rect : Sprite) : Decidable (CellInside sprite rect) :=
  inferInstanceAs (Decidable (_ ∧ _))

namespace GameUnit

/-- The move rectangle of a unit that stands where its sprite does. -/
def moveRect (unit : GameUnit) : Sprite :=
  let offset := moveOffset unit.isEnemy unit.unitName
  let size := (rangeSize unit.unitName).2
  ⟨.cast (unit.objectSprite.xPos.val + offset.1), .cast (unit.objectSprite.yPos.val + offset.2),
    .cast size.1, .cast size.2⟩

/-- The attack rectangle of a unit that stands where its sprite does. -/
def attackRect (unit : GameUnit) : Sprite :=
  let offset := attackOffset unit.isEnemy unit.unitName
  let size := (rangeSize unit.unitName).1
  ⟨.cast (unit.objectSprite.xPos.val + offset.1), .cast (unit.objectSprite.yPos.val + offset.2),
    .cast size.1, .cast size.2⟩

/-- The sizes that `init` gives the sprites of a unit. -/
structure Sized (unit : GameUnit) : Prop where
  object : unit.objectSprite.width = .cast 117 ∧ unit.objectSprite.height = .cast 117
  move : unit.moveSprite.width = .cast (rangeSize unit.unitName).2.1 ∧
    unit.moveSprite.height = .cast (rangeSize unit.unitName).2.2
  attack : unit.attackSprite.width = .cast (rangeSize unit.unitName).1.1 ∧
    unit.attackSprite.height = .cast (rangeSize unit.unitName).1.2

/-- The rectangles were last set by `update`. -/
structure Ranged (unit : GameUnit) : Prop where
  object : unit.objectSprite.width = .cast 117 ∧ unit.objectSprite.height = .cast 117
  move : unit.moveSprite = unit.moveRect
  attack : unit.attackSprite = unit.attackRect

theorem sized_init (blank : Sprite) (unit : GameUnit) : (init blank unit).Sized :=
  ⟨⟨rfl, rfl⟩, ⟨rfl, rfl⟩, ⟨rfl, rfl⟩⟩

/-- `update` sets the rectangles of every unit that is not dead. -/
theorem ranged_update {unit : GameUnit} (h : unit.Sized) (halive : unit.update.isDead = false) :
    unit.update.Ranged := by
  have hupdated := unit.update_updated
  generalize unit.update = after at halive hupdated ⊢
  cases hupdated with
  | died => cases halive
  | dead hdead => cases hdead.symm.trans halive
  | placed =>
      obtain ⟨hobject, ⟨hmoveW, hmoveH⟩, ⟨hattackW, hattackH⟩⟩ := h
      refine ⟨hobject, ?_, ?_⟩
      · simp [moveRect, Sprite.place, hmoveW, hmoveH]
      · simp [attackRect, Sprite.place, hattackW, hattackH]

end GameUnit

section Geometry

/-- A rectangle made of whole cells of the grid. -/
structure Aligned (rect : Sprite) : Prop where
  bounded : rect.Bounded
  near : rect.xPos.val.natAbs ≤ 2 ^ 12 ∧ rect.yPos.val.natAbs ≤ 2 ^ 12
  x : (rect.xPos.val - 40) % 120 = 0
  y : (rect.yPos.val - 3) % 120 = 0
  width : 0 < rect.width.val ∧ rect.width.val % 120 = 0
  height : 0 < rect.height.val ∧ rect.height.val % 120 = 0

/-- An offset and a size in whole cells make a rectangle around a unit on the
grid aligned. -/
theorem aligned_of_offset {sprite : Sprite} (hgrid : OnGrid sprite) {offset size : Int × Int}
    (hoffset : offset.1.natAbs ≤ 2 ^ 10 ∧ offset.2.natAbs ≤ 2 ^ 10)
    (hcells : offset.1 % 120 = 0 ∧ offset.2 % 120 = 0)
    (hsize : (0 < size.1 ∧ size.1 ≤ 2 ^ 10) ∧ 0 < size.2 ∧ size.2 ≤ 2 ^ 10)
    (hwhole : size.1 % 120 = 0 ∧ size.2 % 120 = 0) :
    Aligned ⟨.cast (sprite.xPos.val + offset.1), .cast (sprite.yPos.val + offset.2),
      .cast size.1, .cast size.2⟩ := by
  obtain ⟨column, row, ⟨hcolumn, hcolumn'⟩, ⟨hrow, hrow'⟩, hx, hy⟩ := hgrid
  have hxval : (IntFloat.cast (sprite.xPos.val + offset.1)).val = sprite.xPos.val + offset.1 :=
    val_cast_small (by omega)
  have hyval : (IntFloat.cast (sprite.yPos.val + offset.2)).val = sprite.yPos.val + offset.2 :=
    val_cast_small (by omega)
  have hwval : (IntFloat.cast size.1).val = size.1 := val_cast_small (by omega)
  have hhval : (IntFloat.cast size.2).val = size.2 := val_cast_small (by omega)
  constructor
  · constructor
    · rw [hxval]
      omega
    · rw [hyval]
      omega
    · rw [hwval]
      omega
    · rw [hhval]
      omega
  · rw [hxval, hyval]
    constructor <;> omega
  · rw [hxval]
    omega
  · rw [hyval]
    omega
  · rw [hwval]
    constructor <;> omega
  · rw [hhval]
    constructor <;> omega

theorem GameUnit.aligned_moveRect {unit : GameUnit} (hgrid : OnGrid unit.objectSprite) :
    Aligned unit.moveRect := by
  unfold GameUnit.moveRect
  cases unit.isEnemy <;> cases unit.unitName <;>
    exact aligned_of_offset hgrid (by decide) (by decide) (by decide) (by decide)

/-- An offset and a size that reach over the sprite's own cell. -/
theorem cellInside_of_offset {sprite : Sprite} (hgrid : OnGrid sprite) {offset size : Int × Int}
    (hsize : (0 < size.1 ∧ size.1 ≤ 2 ^ 10) ∧ 0 < size.2 ∧ size.2 ≤ 2 ^ 10)
    (hreach : (offset.1 ≤ 0 ∧ 120 ≤ offset.1 + size.1) ∧
      offset.2 ≤ 0 ∧ 120 ≤ offset.2 + size.2) :
    CellInside sprite ⟨.cast (sprite.xPos.val + offset.1), .cast (sprite.yPos.val + offset.2),
      .cast size.1, .cast size.2⟩ := by
  obtain ⟨column, row, ⟨hcolumn, hcolumn'⟩, ⟨hrow, hrow'⟩, hx, hy⟩ := hgrid
  have hxval : (IntFloat.cast (sprite.xPos.val + offset.1)).val = sprite.xPos.val + offset.1 :=
    val_cast_small (by omega)
  have hyval : (IntFloat.cast (sprite.yPos.val + offset.2)).val = sprite.yPos.val + offset.2 :=
    val_cast_small (by omega)
  have hwval : (IntFloat.cast size.1).val = size.1 := val_cast_small (by omega)
  have hhval : (IntFloat.cast size.2).val = size.2 := val_cast_small (by omega)
  unfold CellInside
  rw [hxval, hyval, hwval, hhval]
  refine ⟨⟨?_, ?_⟩, ?_, ?_⟩ <;> omega

/-- A unit stands inside its own move rectangle. -/
theorem GameUnit.cellInside_moveRect {unit : GameUnit} (hgrid : OnGrid unit.objectSprite) :
    CellInside unit.objectSprite unit.moveRect := by
  unfold GameUnit.moveRect
  cases unit.isEnemy <;> cases unit.unitName <;>
    exact cellInside_of_offset hgrid (by decide) (by decide)

theorem GameUnit.aligned_attackRect {unit : GameUnit} (hgrid : OnGrid unit.objectSprite) :
    Aligned unit.attackRect := by
  unfold GameUnit.attackRect
  cases unit.isEnemy <;> cases unit.unitName <;>
    exact aligned_of_offset hgrid (by decide) (by decide) (by decide) (by decide)

/-- A sprite on the grid whose pixel lies on the rectangle: its cell lies inside
unless the pixel is on the right or the bottom edge. -/
theorem cellInside_of_covers {sprite rect : Sprite} {xpos ypos : Int} (hrect : Aligned rect)
    (hgrid : OnGrid sprite)
    (hsize : sprite.width = .cast 117 ∧ sprite.height = .cast 117)
    (hrange : rect.Covers xpos ypos) (hon : sprite.Covers xpos ypos) :
    CellInside sprite rect ↔
      xpos ≠ rect.xPos.val + rect.width.val ∧ ypos ≠ rect.yPos.val + rect.height.val := by
  obtain ⟨column, row, -, -, hx, hy⟩ := hgrid
  obtain ⟨⟨hleft, hright⟩, htop, hbottom⟩ := hrange
  obtain ⟨⟨hsleft, hsright⟩, hstop, hsbottom⟩ := hon
  have hw : sprite.width.val = 117 := by
    rw [hsize.1]
    exact val_cast_small (by decide)
  have hh : sprite.height.val = 117 := by
    rw [hsize.2]
    exact val_cast_small (by decide)
  have hrx := hrect.x
  have hry := hrect.y
  have hrw := hrect.width.2
  have hrh := hrect.height.2
  unfold CellInside
  constructor
  · rintro ⟨⟨hin, hin'⟩, hin'', hin'''⟩
    constructor <;> omega
  · rintro ⟨hne, hne'⟩
    refine ⟨⟨?_, ?_⟩, ?_, ?_⟩ <;> omega

end Geometry

namespace GameScene

/-- The move and the attack that a click makes a unit do end in cells inside
the highlighted rectangle. -/
structure RangeRespected (scene : GameScene) (ref : UnitRef) (xpos ypos : Int) : Prop where
  move : scene.AcceptsMove ref xpos ypos →
    CellInside ((scene.placeUnitAtClick xpos ypos).units.get ref).objectSprite
      (scene.units.get ref).moveSprite
  attack : scene.AcceptsAttack ref xpos ypos → ∀ target ∈ scene.targets ref xpos ypos,
    OnGrid (scene.units.get target).objectSprite →
    CellInside (scene.units.get target).objectSprite (scene.units.get ref).attackSprite

section Ranges

variable {scene : GameScene} {ref : UnitRef} {xpos ypos : Int}

/-- A move ends inside the rectangle unless the click is on its right edge or,
above the rows that are clamped, on its bottom edge. -/
theorem cellInside_of_acceptsMove (hgrid : OnGrid (scene.units.get ref).objectSprite)
    (hranged : (scene.units.get ref).Ranged) (haccept : scene.AcceptsMove ref xpos ypos) :
    CellInside ((scene.placeUnitAtClick xpos ypos).units.get ref).objectSprite
        (scene.units.get ref).moveSprite ↔
      xpos ≠ (scene.units.get ref).moveSprite.xPos.val +
          (scene.units.get ref).moveSprite.width.val ∧
        (ypos ≠ (scene.units.get ref).moveSprite.yPos.val +
          (scene.units.get ref).moveSprite.height.val ∨ 603 < ypos) := by
  have hrect : Aligned (scene.units.get ref).moveSprite := by
    rw [hranged.move]
    exact GameUnit.aligned_moveRect hgrid
  obtain ⟨-, -, hx, hx', hrange⟩ := select_of_canMove haccept.canMove
  obtain ⟨⟨hleft, hright⟩, htop, hbottom⟩ := (mouseOnSprite_iff hrect.bounded xpos ypos).mp hrange
  have hown : CellInside (scene.units.get ref).objectSprite (scene.units.get ref).moveSprite := by
    rw [hranged.move]
    exact GameUnit.cellInside_moveRect hgrid
  obtain ⟨⟨-, -⟩, htop', hbottom'⟩ := hown
  obtain ⟨column, row, -, ⟨hrow, hrow'⟩, -, hy⟩ := hgrid
  have hnear := hrect.near
  have hypos : -2 ^ 15 ≤ ypos := by omega
  rw [placeUnitAtClick_get, if_pos haccept]
  simp only [GameUnit.moved, gridSnapping_eq scene _ hx hx' hypos, Sprite.place, CellInside,
    val_snapX hx hx', val_snapY hypos]
  have hrx := hrect.x
  have hry := hrect.y
  have hrw := hrect.width.2
  have hrh := hrect.height.2
  unfold snapX snapY
  split_ifs with hfirst hlast
  · -- clamped to the first row, which only happens with all eight flags set
    omega
  · -- clamped to the last row
    omega
  · omega

/-- An attack damages a unit whose cell lies inside the rectangle unless the
click is on its right or its bottom edge. -/
theorem cellInside_of_acceptsAttack (hgrid : OnGrid (scene.units.get ref).objectSprite)
    (hranged : (scene.units.get ref).Ranged) (haccept : scene.AcceptsAttack ref xpos ypos)
    {target : UnitRef} (hsize : (scene.units.get target).objectSprite.width = .cast 117 ∧
      (scene.units.get target).objectSprite.height = .cast 117)
    (htarget : target ∈ scene.targets ref xpos ypos)
    (hstands : OnGrid (scene.units.get target).objectSprite) :
    CellInside (scene.units.get target).objectSprite (scene.units.get ref).attackSprite ↔
      xpos ≠ (scene.units.get ref).attackSprite.xPos.val +
          (scene.units.get ref).attackSprite.width.val ∧
        ypos ≠ (scene.units.get ref).attackSprite.yPos.val +
          (scene.units.get ref).attackSprite.height.val := by
  have hrect : Aligned (scene.units.get ref).attackSprite := by
    rw [hranged.attack]
    exact GameUnit.aligned_attackRect hgrid
  obtain ⟨-, -, -, -, hrange⟩ := select_of_canAttack haccept.canAttack
  have hhit := (List.mem_filter.mp htarget).2
  simp only [hits, Bool.and_eq_true] at hhit
  have hbounded : (scene.units.get target).objectSprite.Bounded := by
    obtain ⟨column, row, ⟨hcolumn, hcolumn'⟩, ⟨hrow, hrow'⟩, hx, hy⟩ := hstands
    have hval : (IntFloat.cast 117).val = 117 := val_cast_small (by decide)
    constructor
    · omega
    · omega
    · rw [hsize.1, hval]
      decide
    · rw [hsize.2, hval]
      decide
  apply cellInside_of_covers hrect hstands hsize
  · exact (mouseOnSprite_iff hrect.bounded xpos ypos).mp hrange
  · exact (mouseOnSprite_iff hbounded xpos ypos).mp hhit.1

/-- A unit on the grid with fresh rectangles keeps to its ranges exactly where
no accepted click is on the far edge of the rectangle it was accepted by. -/
theorem rangeRespected_iff (hgrid : OnGrid (scene.units.get ref).objectSprite)
    (hranged : (scene.units.get ref).Ranged)
    (hsize : ∀ target, (scene.units.get target).objectSprite.width = .cast 117 ∧
      (scene.units.get target).objectSprite.height = .cast 117) :
    scene.RangeRespected ref xpos ypos ↔
      (scene.AcceptsMove ref xpos ypos →
        xpos ≠ (scene.units.get ref).moveSprite.xPos.val +
            (scene.units.get ref).moveSprite.width.val ∧
          (ypos ≠ (scene.units.get ref).moveSprite.yPos.val +
            (scene.units.get ref).moveSprite.height.val ∨ 603 < ypos)) ∧
      (scene.AcceptsAttack ref xpos ypos → ∀ target ∈ scene.targets ref xpos ypos,
        OnGrid (scene.units.get target).objectSprite →
        xpos ≠ (scene.units.get ref).attackSprite.xPos.val +
            (scene.units.get ref).attackSprite.width.val ∧
          ypos ≠ (scene.units.get ref).attackSprite.yPos.val +
            (scene.units.get ref).attackSprite.height.val) := by
  constructor
  · intro h
    constructor
    · intro haccept
      exact (cellInside_of_acceptsMove hgrid hranged haccept).mp (h.move haccept)
    · intro haccept target htarget hstands
      exact (cellInside_of_acceptsAttack hgrid hranged haccept (hsize target) htarget hstands).mp
        (h.attack haccept target htarget hstands)
  · rintro ⟨hmove, hattack⟩
    constructor
    · intro haccept
      exact (cellInside_of_acceptsMove hgrid hranged haccept).mpr (hmove haccept)
    · intro haccept target htarget hstands
      exact (cellInside_of_acceptsAttack hgrid hranged haccept (hsize target) htarget hstands).mpr
        (hattack haccept target htarget hstands)

/-- After the first frame, with the infantry selected. -/
def selectingScene : GameScene :=
  { (create ⟨.cast 0, .cast 0, .cast 0, .cast 0⟩).unitsUpdate with
    select := (Roster.fill false).set .infantryEnemy true }

theorem rangeRespected_iff_selecting :
    selectingScene.AcceptsMove .infantryEnemy 300 100 ∧
      selectingScene.RangeRespected .infantryEnemy 300 100 := by
  have hattack : ¬ selectingScene.AcceptsAttack .infantryEnemy 300 100 := by decide +kernel
  refine ⟨by decide +kernel, (rangeRespected_iff ?_ ?_ ?_).mpr ?_⟩
  · exact ⟨0, 0, by decide +kernel⟩
  · exact @GameUnit.ranged_update (initUnits ⟨.cast 0, .cast 0, .cast 0, .cast 0⟩).infantryEnemy
      (GameUnit.sized_init _ _) (by decide +kernel)
  · intro target
    cases target <;> decide +kernel
  · exact ⟨fun _ => by decide +kernel, fun haccept => absurd haccept hattack⟩

/-- The infantry starts at the top left, so that its move rectangle ends at
400, where the cell to the right of it begins. -/
theorem not_rangeRespected_edge : ∃ scene,
    exec playStep (create ⟨.cast 0, .cast 0, .cast 0, .cast 0⟩) selectingRun = some scene ∧
      scene.AcceptsMove .infantryEnemy 400 100 ∧
        ¬ scene.RangeRespected .infantryEnemy 400 100 := by
  have hcheck : ((exec playStep (create ⟨.cast 0, .cast 0, .cast 0, .cast 0⟩)
      selectingRun).any fun scene => decide (scene.AcceptsMove .infantryEnemy 400 100 ∧
        ¬ CellInside ((scene.placeUnitAtClick 400 100).units.get .infantryEnemy).objectSprite
          (scene.units.get .infantryEnemy).moveSprite)) = true := by
    decide +kernel
  obtain ⟨scene, hrun, hscene⟩ := (Option.any_eq_true _ _).mp hcheck
  obtain ⟨haccept, hout⟩ := of_decide_eq_true hscene
  exact ⟨scene, hrun, haccept, fun h => hout (h.move haccept)⟩

end Ranges

end GameScene

end NetworkingGame
