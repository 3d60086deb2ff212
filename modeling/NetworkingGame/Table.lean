import Mathlib.Logic.Relation
import NetworkingGame.SceneSteps
import NetworkingGame.Selection
import NetworkingGame.TurnSafety

/-!
The game as two people would play it on one table. They take turns; whoever has
the turn moves units of the own side and strikes units of the other side for
action points, which are full again after the turn. Nothing here knows of
clients or packets.
-/

namespace NetworkingGame

open Library.Binary32

/-- What `Units.json` says about a unit. -/
def UnitRef.type : UnitRef → UnitType
  | .infantryEnemy | .infantryAlly => .find .infantry
  | .sniperEnemy | .sniperAlly => .find .sniper
  | .artilleryEnemy | .artilleryAlly => .find .artillery
  | .tankEnemy | .tankAlly => .find .tank

/-- `shown` is the board as it was when the turn began. -/
structure Table where
  turn : PlayerTurn
  board : Board
  shown : Board
  points : Roster Int

namespace Table

/-- The points of all units at the start of a turn. -/
def fullPoints : Roster Int := (GameScene.initUnits blankSprite).map GameUnit.maxActionPoints

def opening : Table where
  turn := .player1
  board := (GameScene.create blankSprite).board
  shown := (GameScene.create blankSprite).board
  points := fullPoints

/-- The damage that a squad of this size deals, as the float it is kept in. -/
def damage (attacker : UnitRef) (squadSize : Int) : Int :=
  (IntFloat.cast (attacker.type.attackRating * squadSize)).val

/-- A squad before and after a blow. Nobody is moved by one; a squad that has
nobody left has no place. -/
structure Hit (damage : Int) (before after : GameUnit.View) : Prop where
  squadSize : after.squadSize = before.squadSize - damage.tdiv before.health
  health : after.health = before.health - damage.tmod before.health
  place : 0 < before.squadSize → 0 < after.squadSize → after.place = before.place

/-- What the player who has the turn may do: move a unit into one of the ten
columns, strike, or pass. A strike is paid for once for each squad that it
hits. -/
inductive Play (table : Table) : Table → Prop
  | move (ref : UnitRef) (x y : IntFloat) (hown : ref.team = table.turn)
      (hpoints : 1 ≤ table.points.get ref)
      (hcolumn : ∃ column : Int, (0 ≤ column ∧ column ≤ 9) ∧ x.val = 40 + 120 * column) :
      Play table { table with
        board := table.board.set ref (GameUnit.viewAt (table.board.get ref).squadSize
          (table.board.get ref).health x y)
        points := table.points.set ref (table.points.get ref - 1) }
  | strike (attacker : UnitRef) (targets : List UnitRef) (board : Board)
      (hown : attacker.team = table.turn) (hpoints : 2 ≤ table.points.get attacker)
      (hopposing : ∀ target ∈ targets, target.team ≠ table.turn)
      (hhit : ∀ target ∈ targets, Hit (damage attacker (table.board.get attacker).squadSize)
        (table.board.get target) (board.get target))
      (hmiss : ∀ ref, ref ∉ targets → board.get ref = table.board.get ref) :
      Play table { table with
        board := board
        points := table.points.set attacker
          (table.points.get attacker - 2 * targets.length) }
  | pass : Play table {
      turn := GameScene.otherTurn table.turn
      board := table.board
      shown := table.board
      points := fullPoints }

/-- The game from the opening on. -/
abbrev Plays : Table → Table → Prop := Relation.ReflTransGen Play

section Rules

variable {table after : Table}

/-- What holds of every table. Within a turn the strength of the own units is
what it was when the turn began, and whoever has acted has had the points. -/
structure Fair (table : Table) : Prop where
  turn : table.turn ≠ .none
  own : ∀ ref, ref.team = table.turn →
    (table.board.get ref).squadSize = (table.shown.get ref).squadSize ∧
      (table.board.get ref).health = (table.shown.get ref).health
  points : ∀ ref, table.points.get ref ≤ fullPoints.get ref
  rested : ∀ ref, ref.team ≠ table.turn → table.points.get ref = fullPoints.get ref
  health : ∀ ref, 1 ≤ (table.board.get ref).health

theorem fair_opening : Fair opening := by
  refine ⟨by decide, fun _ _ => ⟨rfl, rfl⟩, fun _ => le_refl _, fun _ _ => rfl, ?_⟩
  intro ref
  cases ref <;> decide +kernel

theorem Hit.health_pos {damage : Int} {before after : GameUnit.View} (h : Hit damage before after)
    (hhealth : 1 ≤ before.health) : 1 ≤ after.health := by
  have hless := Int.tmod_lt_of_pos damage (by omega : 0 < before.health)
  rw [h.health]
  omega

theorem Fair.move (h : Fair table) {ref : UnitRef} (x y : IntFloat)
    (hown : ref.team = table.turn) :
    Fair { table with
      board := table.board.set ref (GameUnit.viewAt (table.board.get ref).squadSize
        (table.board.get ref).health x y)
      points := table.points.set ref (table.points.get ref - 1) } := by
  refine ⟨h.turn, ?_, ?_, ?_, ?_⟩
  · intro other hother
    rw [Roster.get_set]
    split
    · rename_i heq
      rw [heq]
      exact h.own ref hown
    · exact h.own other hother
  · intro other
    rw [Roster.get_set]
    split
    · rename_i heq
      have hpoints := h.points ref
      rw [heq]
      omega
    · exact h.points other
  · intro other hother
    have hne : other ≠ ref := by
      rintro rfl
      exact hother hown
    rw [Roster.get_set_ne _ hne]
    exact h.rested other hother
  · intro other
    rw [Roster.get_set]
    split
    · exact h.health ref
    · exact h.health other

theorem Fair.strike (h : Fair table) {attacker : UnitRef} {targets : List UnitRef} {board : Board}
    (hown : attacker.team = table.turn)
    (hopposing : ∀ target ∈ targets, target.team ≠ table.turn)
    (hhit : ∀ target ∈ targets, Hit (damage attacker (table.board.get attacker).squadSize)
      (table.board.get target) (board.get target))
    (hmiss : ∀ ref, ref ∉ targets → board.get ref = table.board.get ref) :
    Fair { table with
      board := board
      points := table.points.set attacker (table.points.get attacker - 2 * targets.length) } := by
  refine ⟨h.turn, ?_, ?_, ?_, ?_⟩
  · intro other hother
    rw [hmiss other fun hmem => hopposing other hmem hother]
    exact h.own other hother
  · intro other
    rw [Roster.get_set]
    split
    · rename_i heq
      have hpoints := h.points attacker
      rw [heq]
      omega
    · exact h.points other
  · intro other hother
    have hne : other ≠ attacker := by
      rintro rfl
      exact hother hown
    rw [Roster.get_set_ne _ hne]
    exact h.rested other hother
  · intro other
    by_cases hmem : other ∈ targets
    · exact (hhit other hmem).health_pos (h.health other)
    · rw [hmiss other hmem]
      exact h.health other

theorem Fair.play (h : Fair table) (hplay : Play table after) : Fair after := by
  cases hplay with
  | move ref x y hown => exact h.move x y hown
  | strike attacker targets board hown hpoints hopposing hhit hmiss =>
      exact h.strike hown hopposing hhit hmiss
  | pass =>
      exact ⟨Conn.otherTurn_ne_none h.turn, fun _ _ => ⟨rfl, rfl⟩, fun _ => le_refl _,
        fun _ _ => rfl, h.health⟩

theorem fair_of_plays (h : Plays opening table) : Fair table := by
  induction h with
  | refl => exact fair_opening
  | tail _ hplay ih => exact ih.play hplay

end Rules

end Table

end NetworkingGame
