import NetworkingGame.Clients
import NetworkingGame.Range
import NetworkingGame.TurnSafety

/-!
Where the units of a run stand: on one of the fifty cells of the board, or,
once dead, parked off the screen. A move leaves the board only by a click above
the first row or on the one row of pixels that ends the last.
-/

namespace NetworkingGame

open Library.Binary32 Library.Transition

/-- The place where `Unit::update` puts the sprite of a dead unit. -/
def Parked (sprite : Sprite) : Prop := sprite.xPos.val = -200 ∧ sprite.yPos.val = -200

namespace GameUnit

/-- A sprite of the usual size on the board, unless the unit is dead and
parked. -/
structure Standing (unit : GameUnit) : Prop where
  width : unit.objectSprite.width = .cast 117
  height : unit.objectSprite.height = .cast 117
  place : OnGrid unit.objectSprite ∨ (Parked unit.objectSprite ∧ unit.squadSize ≤ 0)

end GameUnit

theorem bounded_of_size {sprite : Sprite}
    (hsize : sprite.width = .cast 117 ∧ sprite.height = .cast 117)
    (hx : sprite.xPos.val.natAbs ≤ 2 ^ 20) (hy : sprite.yPos.val.natAbs ≤ 2 ^ 20) :
    sprite.Bounded := by
  have hval : (IntFloat.cast 117).val = 117 := val_cast_small (by decide)
  constructor
  · exact hx
  · exact hy
  · rw [hsize.1, hval]
    decide
  · rw [hsize.2, hval]
    decide

/-- No click on the board lies on a parked sprite. -/
theorem Parked.not_mouseOnSprite {sprite : Sprite} (h : Parked sprite)
    (hsize : sprite.width = .cast 117 ∧ sprite.height = .cast 117) {xpos ypos : Int}
    (hx : 0 ≤ xpos) : mouseOnSprite xpos ypos sprite = false := by
  obtain ⟨hleft, htop⟩ := h
  have hwidth : sprite.width.val = 117 := by
    rw [hsize.1]
    exact val_cast_small (by decide)
  apply Bool.eq_false_of_not_eq_true
  rw [mouseOnSprite_iff (bounded_of_size hsize (by omega) (by omega))]
  rintro ⟨⟨-, hright⟩, -⟩
  omega

namespace GameScene

/-- A click that is accepted as a move is neither above the first row nor on
the pixels that end the last one. -/
def MovesOnBoard (scene : GameScene) (xpos ypos : Int) : Prop :=
  scene.isOpen = true → ∀ ref, scene.AcceptsMove ref xpos ypos → 3 ≤ ypos ∧ ypos ≠ 603

instance (scene : GameScene) (xpos ypos : Int) : Decidable (scene.MovesOnBoard xpos ypos) :=
  inferInstanceAs (Decidable (_ → ∀ _ : UnitRef, _ → _))

section Moves

variable {scene : GameScene} {ref : UnitRef} {xpos ypos : Int}

theorem onGrid_gridSnapping (sprite : Sprite) (hx : 40 < xpos) (hx' : xpos < 1200)
    (hy : 3 ≤ ypos) (hy' : ypos ≠ 603) : OnGrid (scene.gridSnapping xpos ypos sprite) := by
  have hsnapY := @val_snapY scene.isAUnitSelected ypos (by omega)
  rw [gridSnapping_eq scene sprite hx hx' (by omega)]
  by_cases hbelow : 603 < ypos
  · refine ⟨(xpos - 40) / 120, 4, by omega, by omega, ?_, ?_⟩
    · exact val_snapX hx hx'
    · rw [Sprite.place, hsnapY, snapY, if_neg (by omega), if_pos hbelow]
      rfl
  · refine ⟨(xpos - 40) / 120, (ypos - 3) / 120, by omega, by omega, ?_, ?_⟩
    · exact val_snapX hx hx'
    · rw [Sprite.place, hsnapY, snapY, if_neg (by omega), if_neg hbelow]

/-- With fewer than eight units selected the condition is exact. -/
theorem onGrid_placeUnitAtClick_iff (haccept : scene.AcceptsMove ref xpos ypos)
    (hy : 0 ≤ ypos) (hsome : scene.isAUnitSelected = false) :
    OnGrid ((scene.placeUnitAtClick xpos ypos).units.get ref).objectSprite ↔
      3 ≤ ypos ∧ ypos ≠ 603 := by
  obtain ⟨-, -, hx, hx', -⟩ := select_of_canMove haccept.canMove
  rw [placeUnitAtClick_get, if_pos haccept]
  constructor
  · rintro ⟨column, row, -, ⟨hrow, hrow'⟩, -, hplace⟩
    have hbelow : -2 ^ 15 ≤ ypos := by omega
    have hsnapY := @val_snapY false ypos hbelow
    simp only [snapY, Bool.false_eq_true, and_false, if_false] at hsnapY
    simp only [GameUnit.moved, gridSnapping_eq scene _ hx hx' hbelow, Sprite.place, hsome,
      hsnapY, snapY, Bool.false_eq_true, and_false, if_false] at hplace
    split_ifs at hplace with hlast
    · constructor <;> omega
    · constructor <;> omega
  · rintro ⟨hy, hy'⟩
    exact onGrid_gridSnapping _ hx hx' hy hy'

end Moves

section Steps

variable {xpos ypos : Int}

/-- Attacks hurt no unit that is parked. -/
theorem standing_attackingOtherUnit {scene next : GameScene} {attacker : UnitRef}
    (hunits : ∀ ref, (scene.units.get ref).Standing)
    (hcan : scene.canAttack xpos ypos attacker = true)
    (hnext : scene.attackingOtherUnit attacker xpos ypos = .ok next) (ref : UnitRef) :
    (next.units.get ref).Standing := by
  obtain ⟨hhit, hmiss, hspent⟩ := attackingOtherUnit_get hnext
  obtain ⟨-, -, hx, -⟩ := select_of_canAttack hcan
  have hstanding := hunits ref
  by_cases hattacker : ref = attacker
  · rw [hattacker, hspent]
    exact { hunits attacker with }
  · cases hhits : scene.hits attacker xpos ypos ref with
    | false =>
        rw [hmiss ref hattacker hhits]
        exact hstanding
    | true =>
        have hon := (Bool.and_eq_true_iff.mp hhits).1
        have hgrid : OnGrid (scene.units.get ref).objectSprite := by
          rcases hstanding.place with hgrid | ⟨hparked, -⟩
          · exact hgrid
          · rw [hparked.not_mouseOnSprite ⟨hstanding.width, hstanding.height⟩ (by omega)] at hon
            cases hon
        rw [GameUnit.takeDamage_rest (hhit ref hhits)]
        exact ⟨hstanding.width, hstanding.height, Or.inl hgrid⟩

theorem standing_update {unit : GameUnit} (h : unit.Standing) : unit.update.Standing := by
  have hparked : (IntFloat.cast (-200)).val = -200 := val_cast_small (by decide)
  have hupdated := unit.update_updated
  generalize unit.update = after at hupdated ⊢
  cases hupdated with
  | died hsize => exact ⟨h.width, h.height, Or.inr ⟨⟨hparked, hparked⟩, hsize⟩⟩
  | dead | placed => exact { h with }

theorem onGrid_cell {sprite : Sprite} (column row : Int) (hcolumn : 0 ≤ column ∧ column ≤ 9)
    (hrow : 0 ≤ row ∧ row ≤ 4) (hx : sprite.xPos = .cast (40 + 120 * column))
    (hy : sprite.yPos = .cast (3 + 120 * row)) : OnGrid sprite := by
  refine ⟨column, row, hcolumn, hrow, ?_, ?_⟩
  · rw [hx]
    exact val_cast_small (by omega)
  · rw [hy]
    exact val_cast_small (by omega)

theorem onGrid_initUnits (blank : Sprite) (ref : UnitRef) :
    OnGrid ((initUnits blank).get ref).objectSprite := by
  cases ref with
  | infantryEnemy => exact onGrid_cell 0 0 (by decide) (by decide) rfl rfl
  | sniperEnemy => exact onGrid_cell 0 1 (by decide) (by decide) rfl rfl
  | artilleryEnemy => exact onGrid_cell 0 2 (by decide) (by decide) rfl rfl
  | tankEnemy => exact onGrid_cell 0 3 (by decide) (by decide) rfl rfl
  | infantryAlly => exact onGrid_cell 9 0 (by decide) (by decide) rfl rfl
  | sniperAlly => exact onGrid_cell 9 1 (by decide) (by decide) rfl rfl
  | artilleryAlly => exact onGrid_cell 9 2 (by decide) (by decide) rfl rfl
  | tankAlly => exact onGrid_cell 9 3 (by decide) (by decide) rfl rfl

theorem standing_invariant :
    UnitInvariant MovesOnBoard (fun _ unit => unit.Standing) := by
  constructor
  · intro blank ref
    refine ⟨?_, ?_, Or.inl (onGrid_initUnits blank ref)⟩
    · cases ref <;> rfl
    · cases ref <;> rfl
  · exact fun ref unit h => standing_update h
  · intro ref unit other hunit hother
    exact ⟨hunit.width, hunit.height, hother.place⟩
  · intro ref unit h
    exact { h with }
  · intro scene after undefinedReturn xpos ypos hunits hok hclick
    apply clickHandler_units _ _ _ hunits hclick
    · intro ref unit h
      exact { h with }
    · intro hopen ref haccept hunit
      obtain ⟨-, -, hx, hx', -⟩ := select_of_canMove haccept.canMove
      obtain ⟨hy, hy'⟩ := hok hopen ref haccept
      refine ⟨?_, ?_, Or.inl (onGrid_gridSnapping _ hx hx' hy hy')⟩
      · exact hunit.width
      · exact hunit.height
    · intro scene next attacker hunits hcan hnext
      exact standing_attackingOtherUnit hunits hcan hnext

end Steps

end GameScene

/-- In a run whose accepted moves are clicks on the board, every living unit
of every client stands on the board; and of the moves that a state accepts it
is only these that lead to the board. -/
theorem living_onGrid {events : List SystemEvent} {system : System}
    (hrun : exec System.step System.initial events = some system)
    (hmoves : Along System.step (System.ActsMeet (Conn.ClickMeets GameScene.MovesOnBoard))
      System.initial events) :
    ∀ conn ∈ system.conns,
      (∀ ref, 0 < (conn.scene.units.get ref).squadSize →
        OnGrid (conn.scene.units.get ref).objectSprite) ∧
      ∀ ref xpos ypos, conn.scene.AcceptsMove ref xpos ypos → 0 ≤ ypos →
        conn.scene.isAUnitSelected = false →
        (OnGrid ((conn.scene.placeUnitAtClick xpos ypos).units.get ref).objectSprite ↔
          3 ≤ ypos ∧ ypos ≠ 603) := by
  intro conn hconn
  constructor
  · intro ref hliving
    rcases (GameScene.standing_invariant.exec hrun hmoves conn hconn).units ref |>.place with
      hgrid | ⟨-, hdead⟩
    · exact hgrid
    · omega
  · intro ref xpos ypos haccept hy hsome
    exact GameScene.onGrid_placeUnitAtClick_iff haccept hy hsome

theorem living_onGrid_moving : ∃ system a b,
    exec System.step System.initial movingRun = some system ∧ system.conns = [a, b] ∧
      (a.scene.units.get .infantryEnemy).hasChanged = true ∧
        OnGrid (a.scene.units.get .infantryEnemy).objectSprite := by
  obtain ⟨system, a, b, hrun, hconns, hcheck⟩ :=
    @exists_pair_of_check System.initial movingRun (fun _ a _ =>
      (a.scene.units.get .infantryEnemy).hasChanged &&
        decide (0 < (a.scene.units.get .infantryEnemy).squadSize)) (by decide +kernel)
  rw [Bool.and_eq_true, decide_eq_true_eq] at hcheck
  refine ⟨system, a, b, hrun, hconns, hcheck.1, ?_⟩
  exact (living_onGrid hrun (by decide +kernel) a (by simp [hconns])).1 _ hcheck.2

/-- A click one row of pixels above the board puts the infantry above it. -/
theorem not_onGrid_above : ∃ system a b,
    exec System.step System.initial
      (openingRun ++ [.act 0 (.click false 50 10), .act 0 (.click false 200 1)]) = some system ∧
      system.conns = [a, b] ∧ 0 < (a.scene.units.get .infantryEnemy).squadSize ∧
        ¬ OnGrid (a.scene.units.get .infantryEnemy).objectSprite := by
  obtain ⟨system, a, b, hrun, hconns, hcheck⟩ :=
    @exists_pair_of_check System.initial
      (openingRun ++ [.act 0 (.click false 50 10), .act 0 (.click false 200 1)]) (fun _ a _ =>
      decide (0 < (a.scene.units.get .infantryEnemy).squadSize ∧
        (a.scene.units.get .infantryEnemy).objectSprite.yPos.val = -117)) (by decide +kernel)
  obtain ⟨hliving, hplace⟩ := of_decide_eq_true hcheck
  refine ⟨system, a, b, hrun, hconns, hliving, ?_⟩
  rintro ⟨column, row, -, ⟨hrow, -⟩, -, hy⟩
  omega

end NetworkingGame
