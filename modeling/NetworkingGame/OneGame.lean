import NetworkingGame.Casualties
import NetworkingGame.Damage
import NetworkingGame.LobbyRules
import NetworkingGame.Table

/-!
Two clients in a started game play one game on one table. The client that has
the turn, or has just passed it on, has the board of the table; the other one
has the board as it was when the turn began, and reads itself up to it before
it can act. So each click is one play of the player whose turn it is, whatever
the packets are doing.
-/

namespace NetworkingGame

open Library.Transition Library.Binary32

/-- What never changes about a unit of its type, and its health. -/
structure GameUnit.Stocked (ref : UnitRef) (unit : GameUnit) : Prop where
  kept : unit.Kept ref
  attack : unit.attack = ref.type.attackRating
  maxActionPoints : unit.maxActionPoints = Table.fullPoints.get ref

theorem stocked_initUnits (blank : Sprite) (ref : UnitRef) :
    ((GameScene.initUnits blank).get ref).Stocked ref := by
  refine ⟨GameUnit.kept_initUnits blank ref, ?_, ?_⟩
  · cases ref <;> rfl
  · cases ref <;> rfl

theorem stocked_invariant :
    UnitInvariant (fun _ _ _ => True) (fun ref unit => unit.Stocked ref) := by
  have hkept := kept_invariant
  constructor
  · exact stocked_initUnits
  · intro ref unit h
    have hupdated := unit.update_updated
    have hafter := h.kept.update
    generalize unit.update = after at hupdated hafter ⊢
    cases hupdated with
    | died | dead | placed => exact ⟨hafter, h.attack, h.maxActionPoints⟩
  · exact fun ref unit other hunit hother =>
      ⟨hkept.copied ref unit other hunit.kept hother.kept, hunit.attack, hunit.maxActionPoints⟩
  · exact fun ref unit h => ⟨hkept.ended ref unit h.kept, h.attack, h.maxActionPoints⟩
  · intro scene after undefinedReturn xpos ypos hunits _ hclick
    apply GameScene.clickHandler_units _ _ _ hunits hclick
    · exact fun ref unit h => ⟨hkept.ended ref unit h.kept, h.attack, h.maxActionPoints⟩
    · exact fun _ ref _ h => ⟨{ h.kept with }, h.attack, h.maxActionPoints⟩
    · intro scene next attacker hunits _ hnext ref
      have hnextKept :=
        kept_attackingOtherUnit (fun ref => (hunits ref).kept) hnext ref
      obtain ⟨hhit, hmiss, hspent⟩ := GameScene.attackingOtherUnit_get hnext
      by_cases hattacker : ref = attacker
      · subst hattacker
        rw [hspent] at hnextKept ⊢
        exact ⟨hnextKept, (hunits ref).attack, (hunits ref).maxActionPoints⟩
      · cases hhits : scene.hits attacker xpos ypos ref with
        | false =>
            rw [hmiss ref hattacker hhits]
            exact hunits ref
        | true =>
            have hrest := GameUnit.takeDamage_rest (hhit ref hhits)
            rw [hrest] at hnextKept ⊢
            exact ⟨hnextKept, (hunits ref).attack, (hunits ref).maxActionPoints⟩

namespace GameScene

section Points

variable {scene after : GameScene}

/-- The action points of every unit are the same. -/
def SamePoints (scene after : GameScene) : Prop :=
  ∀ ref, (after.units.get ref).actionPoints = (scene.units.get ref).actionPoints

theorem applyUnitPacket_points {packet : CustomPacket}
    (h : scene.applyUnitPacket packet = .ok after) : SamePoints scene after := by
  obtain ⟨received, -, h⟩ := bind_eq_ok h
  intro other
  dsimp only at h
  split at h
  · rw [← Except.ok.inj h]
    split <;> rfl
  · split at h
    · rename_i ref _
      rw [← Except.ok.inj h]
      simp only [Roster.get_set]
      split
      · rename_i heq
        rw [heq]
        split <;> rfl
      · split <;> rfl
    · rw [← Except.ok.inj h]
      split <;> rfl

theorem unitNetworkUpdate_points (h : scene.unitNetworkUpdate = .ok after) :
    SamePoints scene after := by
  obtain ⟨drained, hfold, h⟩ := bind_eq_ok h
  have hdrained : SamePoints scene drained :=
    foldlM_relation SamePoints (fun _ _ => rfl)
      (fun _ _ _ hfirst hsecond ref => (hsecond ref).trans (hfirst ref))
      (fun _ _ _ _ hround => applyUnitPacket_points hround) hfold
  rw [← Except.ok.inj h]
  exact hdrained

theorem unitsUpdate_points (scene : GameScene) : SamePoints scene scene.unitsUpdate := by
  intro ref
  rw [unitsUpdate, Roster.get_map]
  have hupdated := (scene.units.get ref).update_updated
  generalize (scene.units.get ref).update = after at hupdated ⊢
  cases hupdated with
  | died | dead | placed => rfl

theorem Frame.points (h : Frame scene after) : SamePoints scene after := by
  have hbegun : SamePoints scene scene.begun := by
    intro ref
    rw [begun_units]
  cases h with
  | idle => exact hbegun
  | send => exact hbegun
  | adopt _ drained hdrain =>
      intro ref
      have hadopted : scene.begun.adoptTurn.adoptTeam.units = scene.units := by
        rw [UnitInvariant.adopt_units, begun_units]
      have hdrained := unitNetworkUpdate_points hdrain ref
      rw [hadopted] at hdrained
      exact (unitsUpdate_points drained ref).trans hdrained
  | finished => exact hbegun
  | wait => exact fun ref => (unitsUpdate_points scene.begun ref).trans (hbegun ref)
  | drain _ _ _ _ hdrain =>
      exact fun ref => (unitNetworkUpdate_points hdrain ref).trans
        ((unitsUpdate_points scene.begun ref).trans (hbegun ref))

end Points

section Plays

variable {scene after : GameScene} {table : Table} {xpos ypos : Int} {undefinedReturn : Bool}

/-- The scene of the client that has the turn shows the table. -/
structure Shows (scene : GameScene) (table : Table) : Prop where
  turn : scene.playerTurn = table.turn
  board : scene.board = table.board
  points : ∀ ref, (scene.units.get ref).actionPoints = table.points.get ref

theorem Shows.view (h : scene.Shows table) (ref : UnitRef) :
    (scene.units.get ref).view = table.board.get ref := by
  rw [← h.board, GameScene.board, Roster.get_map]

theorem Shows.squadSize (h : scene.Shows table) (ref : UnitRef) :
    (table.board.get ref).squadSize = (scene.units.get ref).squadSize := by
  rw [← h.view]
  rfl

theorem Shows.health (h : scene.Shows table) (ref : UnitRef) :
    (table.board.get ref).health = (scene.units.get ref).health := by
  rw [← h.view]
  rfl

theorem xPos_gridSnapping (sprite : Sprite) (hx : 40 < xpos) (hx' : xpos < 1200) :
    (scene.gridSnapping xpos ypos sprite).xPos = .cast (snapX xpos) := by
  have hcolumn := @gridCell_small 40 10 xpos (by decide) (by omega) (by decide)
  have hcell : (IntFloat.cast (120 * ((xpos - 40) / 120))).val = 120 * ((xpos - 40) / 120) :=
    val_cast_small (by omega)
  have hnew : (IntFloat.cast (120 * ((xpos - 40) / 120)) + IntFloat.cast 40).val =
      snapX xpos := by
    rw [IntFloat.val_add] <;> rw [hcell, val_cast_small (by decide)]
    · rw [snapX]
      ring
    · omega
  have hover : ¬ (10 * 120 : Int) < xpos - 40 := by omega
  have hnonneg : ¬ 120 * ((xpos - 40) / 120) < 0 := by omega
  simp only [gridSnapping, hcolumn, hcell, hnew, hover, hnonneg, decide_false, Bool.false_and,
    Bool.false_eq_true, if_false]
  rfl

/-- A blow is the one of the table. -/
theorem hit_of_takeDamage {unit damageDealer hurt : GameUnit} {ref attacker : UnitRef}
    (hunit : unit.Stocked ref) (hdealer : damageDealer.Stocked attacker)
    (h : unit.takeDamage damageDealer = .ok hurt) :
    Table.Hit (Table.damage attacker damageDealer.squadSize) unit.view hurt.view := by
  have htaken := @GameUnit.damageTaken_of_tdiv unit damageDealer .binary32 hunit.kept.armour
  have hrest := GameUnit.takeDamage_rest h
  rw [← GameUnit.takeDamageBy_binary32] at h
  simp only [GameUnit.takeDamageBy, if_neg hunit.kept.health.ne', htaken, Except.ok.injEq] at h
  have hdamage : Rounding.binary32.store damageDealer.rawDamage =
      Table.damage attacker damageDealer.squadSize := by
    rw [Table.damage, GameUnit.rawDamage, hdealer.attack]
    rfl
  rw [hdamage] at h
  constructor
  · rw [← h]
    rfl
  · rw [← h]
    rfl
  · intro hbefore hafter
    have hsprite : hurt.objectSprite = unit.objectSprite := by rw [hrest]
    change 0 < unit.squadSize at hbefore
    change 0 < hurt.squadSize at hafter
    simp only [GameUnit.view, GameUnit.viewAt, if_pos hbefore, if_pos hafter, hsprite]

/-- A move of the code is one on the table. -/
theorem Shows.moved (h : scene.Shows table) (hdisciplined : scene.Disciplined) {ref : UnitRef}
    (haccept : scene.AcceptsMove ref xpos ypos) :
    ∃ next, Table.Play table next ∧ (scene.placeUnitAtClick xpos ypos).Shows next ∧
      next.turn = table.turn ∧ next.shown = table.shown := by
  obtain ⟨hselected, hpoints, hx, hx', -⟩ := select_of_canMove haccept.canMove
  have hown : ref.team = table.turn := by
    rw [hdisciplined.own ref hselected, ← hdisciplined.turn ref hselected, h.turn]
  have honly (other : UnitRef) (hother : other ≠ ref) : ¬ scene.AcceptsMove other xpos ypos :=
    fun haccept' => hother
      (hdisciplined.single _ _ (select_of_canMove haccept'.canMove).1 hselected)
  let sprite := scene.gridSnapping xpos ypos (scene.units.get ref).objectSprite
  refine ⟨_, .move ref sprite.xPos sprite.yPos hown ?_ ?_, ⟨?_, ?_, ?_⟩, rfl, rfl⟩
  · rw [← h.points ref]
    exact hpoints
  · refine ⟨(xpos - 40) / 120, by omega, ?_⟩
    simp only [sprite]
    rw [xPos_gridSnapping _ hx hx', val_snapX hx hx']
    rfl
  · rw [onlyUnits_placeUnitAtClick xpos ypos scene]
    exact h.turn
  · ext other
    simp only [GameScene.board, Roster.get_map]
    rw [placeUnitAtClick_get, Roster.get_set]
    by_cases hother : other = ref
    · rw [if_pos hother, hother, if_pos haccept, h.squadSize, h.health]
      rfl
    · rw [if_neg hother, if_neg (honly other hother), h.view]
  · intro other
    rw [placeUnitAtClick_get, Roster.get_set]
    by_cases hother : other = ref
    · rw [if_pos hother, hother, if_pos haccept, ← h.points ref]
      rfl
    · rw [if_neg hother, if_neg (honly other hother), h.points]

/-- An attack of the code is a strike on the table at all opposing units under
the click. -/
theorem Shows.attacked (h : scene.Shows table) (hdisciplined : scene.Disciplined)
    (hstocked : ∀ ref, (scene.units.get ref).Stocked ref) {attacker : UnitRef} {next : GameScene}
    (haccept : scene.AcceptsAttack attacker xpos ypos)
    (hnext : scene.attackingOtherUnit attacker xpos ypos = .ok next) :
    ∃ struck, Table.Play table struck ∧ next.Shows struck ∧
      struck.turn = table.turn ∧ struck.shown = table.shown := by
  obtain ⟨hselected, hpoints, -⟩ := select_of_canAttack haccept.canAttack
  have hown : attacker.team = table.turn := by
    rw [hdisciplined.own attacker hselected, ← hdisciplined.turn attacker hselected, h.turn]
  obtain ⟨hhit, hmiss, hspent⟩ := attackingOtherUnit_get hnext
  have htarget (ref : UnitRef) : ref ∈ scene.targets attacker xpos ypos ↔
      scene.hits attacker xpos ypos ref = true := by
    simp [targets, UnitRef.mem_all]
  have hkept (ref : UnitRef) : (scene.units.get ref).Kept ref := (hstocked ref).kept
  refine ⟨_, .strike attacker (scene.targets attacker xpos ypos) next.board hown ?_ ?_ ?_ ?_,
    ⟨?_, rfl, ?_⟩, rfl, rfl⟩
  · rw [← h.points attacker]
    exact hpoints
  · intro target hmem
    rw [← hown]
    exact opposing_of_hits hkept ((htarget target).mp hmem)
  · intro target hmem
    rw [h.squadSize, ← h.view, GameScene.board, Roster.get_map]
    exact hit_of_takeDamage (hstocked target) (hstocked attacker)
      (hhit target ((htarget target).mp hmem))
  · intro ref hmem
    have hhits : scene.hits attacker xpos ypos ref = false := by
      rw [htarget] at hmem
      simpa using hmem
    rw [← h.view, GameScene.board, Roster.get_map]
    by_cases hattacker : ref = attacker
    · rw [hattacker, hspent]
      rfl
    · rw [hmiss ref hattacker hhits]
  · rw [onlyUnits_attackingOtherUnit hnext]
    exact h.turn
  · intro ref
    rw [Roster.get_set]
    by_cases hattacker : ref = attacker
    · rw [if_pos hattacker, hattacker, hspent, ← h.points attacker]
      rfl
    · rw [if_neg hattacker, ← h.points ref]
      cases hhits : scene.hits attacker xpos ypos ref with
      | true => rw [GameUnit.takeDamage_rest (hhit ref hhits)]
      | false => rw [hmiss ref hattacker hhits]

/-- The end of a turn of the code is a pass on the table. -/
theorem Shows.ended (h : scene.Shows table)
    (hstocked : ∀ ref, (scene.units.get ref).Stocked ref) (undefinedReturn : Bool) :
    (scene.endTurn undefinedReturn).Shows {
      turn := otherTurn table.turn
      board := table.board
      shown := table.board
      points := Table.fullPoints } := by
  rw [endTurn_eq]
  refine ⟨by rw [← h.turn], ?_, ?_⟩
  · ext ref
    simp only [GameScene.board, Roster.get_map, GameUnit.view_clearChanged,
      GameUnit.view_resetActionPoints]
    exact h.view ref
  · intro ref
    rw [Roster.get_map, ← (hstocked ref).maxActionPoints]
    rfl

theorem Shows.selected (h : scene.Shows table) (xpos ypos : Int) :
    (scene.setSelected xpos ypos).Shows table := by
  rw [setSelected_rest]
  exact ⟨h.turn, h.board, h.points⟩

/-- A click of the player who has the turn is nothing or one play. The board
that the turn began with stays, unless the turn is passed on. -/
theorem Shows.click (h : scene.Shows table) (hdisciplined : scene.Disciplined)
    (hstocked : ∀ ref, (scene.units.get ref).Stocked ref)
    (hclick : scene.clickHandler undefinedReturn xpos ypos = .ok after) :
    ∃ next, Table.Plays table next ∧ after.Shows next ∧
      ((next.turn = table.turn ∧ next.shown = table.shown) ∨
        (next.turn = otherTurn table.turn ∧ next.shown = next.board ∧
          next.points = Table.fullPoints)) := by
  cases hdisciplined.chosen.handled hclick with
  | closed => exact ⟨table, .refl, h, Or.inl ⟨rfl, rfl⟩⟩
  | ended undefinedReturn =>
      exact ⟨_, .single .pass, h.ended hstocked undefinedReturn, Or.inr ⟨rfl, rfl, rfl⟩⟩
  | moved ref _ _ haccept =>
      obtain ⟨next, hplay, hshows, hsame⟩ := h.moved hdisciplined haccept
      exact ⟨next, .single hplay, hshows.selected xpos ypos, Or.inl hsame⟩
  | attacked attacker next _ _ haccept hnext =>
      obtain ⟨struck, hplay, hshows, hsame⟩ := h.attacked hdisciplined hstocked haccept hnext
      exact ⟨struck, .single hplay, hshows.selected xpos ypos, Or.inl hsame⟩
  | selected => exact ⟨table, .refl, h.selected xpos ypos, Or.inl ⟨rfl, rfl⟩⟩

end Plays

/-- All points are those of the start of a turn. -/
def Rested (scene : GameScene) : Prop :=
  ∀ ref, (scene.units.get ref).actionPoints = Table.fullPoints.get ref

theorem rested_create (blank : Sprite) : (create blank).Rested := by
  intro ref
  cases ref <;> rfl

theorem Rested.congr {scene after : GameScene} (h : scene.Rested)
    (hpoints : SamePoints scene after) : after.Rested :=
  fun ref => (hpoints ref).trans (h ref)

theorem Shows.congr {scene after : GameScene} {table : Table} (h : scene.Shows table)
    (hturn : after.playerTurn = scene.playerTurn) (hboard : after.board = scene.board)
    (hpoints : SamePoints scene after) : after.Shows table :=
  ⟨hturn.trans h.turn, hboard.trans h.board, fun ref => (hpoints ref).trans (h.points ref)⟩

end GameScene

namespace Conn

/-- What the two clients of a game show of the table when `x` has the turn, or
has passed it on. -/
inductive Shown (label : PlayerTurn) (table : Table) (x y : Conn) : Prop
  | holds (h : Holds label x y) (shows : x.scene.Shows table)
      (board : y.scene.board = table.shown) (rested : y.scene.Rested)
  | passes (h : Passes label x y) (shows : x.scene.Shows table)
      (shown : table.shown = table.board) (points : table.points = Table.fullPoints)
      (rested : y.scene.Rested)

section Steps

variable {label : PlayerTurn} {table : Table} {x y x' y' : Conn} {event : LocalEvent}

theorem points_local (h : x.Local false x') : GameScene.SamePoints x.scene x'.scene := by
  cases h with
  | send | receive | dispatch => exact fun _ => rfl
  | frame scene hframe => exact hframe.points
  | click scene hclicks => cases hclicks
  | enter scene henter =>
      cases henter with
      | ignored | named | chat => exact fun _ => rfl

/-- A step of one side is a click, or leaves the points as they are. -/
theorem Side.step_points (hlabel : label ≠ .none) (hside : Side label x)
    (hstep : x.step event = some x') :
    (∃ undefinedReturn xpos ypos scene,
      x.scene.clickHandler undefinedReturn xpos ypos = .ok scene ∧
        x' = { x with scene := scene }) ∨
    (GameScene.SamePoints x.scene x'.scene ∧ (Quiet x x' ∨ Drained x x')) := by
  rcases step_cases hstep with ⟨undefinedReturn, xpos, ypos, scene, -, hclick, rfl⟩ | hlocal
  · exact Or.inl ⟨undefinedReturn, xpos, ypos, scene, hclick, rfl⟩
  · cases hside.sideStep hlabel hstep with
    | clicked undefinedReturn xpos ypos scene hclick =>
        exact Or.inl ⟨undefinedReturn, xpos, ypos, scene, hclick, rfl⟩
    | drained _ hdrained => exact Or.inr ⟨points_local hlocal, Or.inr hdrained⟩
    | quiet _ _ hquiet => exact Or.inr ⟨points_local hlocal, Or.inl hquiet⟩

theorem Shown.quiet (hlabel : label ≠ .none) (h : Shown label table x y) (hquiet : Quiet x x')
    (hpoints : GameScene.SamePoints x.scene x'.scene) : Shown label table x' y := by
  have hother := label_ne_otherTurn hlabel
  cases h with
  | holds h shows board rested =>
      rcases h.act hlabel hquiet.effect with hnext | hnext
      · exact .holds hnext (shows.congr hquiet.turn hquiet.board hpoints) board rested
      · have hturn := hnext.turnSender
        rw [hquiet.turn, h.turnHolder] at hturn
        exact absurd hturn hother
  | passes h shows shown points rested =>
      exact .passes (h.send hlabel hquiet.effect) (shows.congr hquiet.turn hquiet.board hpoints)
        shown points rested

/-- The player who has the turn clicks, and what is played shows. -/
theorem Holds.clicked (hlabel : label ≠ .none) (hside : Side label x)
    (hdisciplined : x.scene.Disciplined) (hstocked : ∀ ref, (x.scene.units.get ref).Stocked ref)
    (h : Holds label x y) (shows : x.scene.Shows table) (board : y.scene.board = table.shown)
    (rested : y.scene.Rested) {undefinedReturn : Bool} {xpos ypos : Int} {scene : GameScene}
    (hclick : x.scene.clickHandler undefinedReturn xpos ypos = .ok scene) :
    ∃ next, Table.Plays table next ∧ Shown label next { x with scene := scene } y := by
  obtain ⟨next, hplays, hshows, hchange⟩ := shows.click hdisciplined hstocked hclick
  obtain ⟨-, heffect⟩ := hside.click (GameScene.clickHandler_click hclick)
  have hturn : table.turn = label := shows.turn.symm.trans h.turnHolder
  refine ⟨next, hplays, ?_⟩
  rcases h.act hlabel heffect with hnext | hnext
  · have hstays : next.turn = label := hshows.turn.symm.trans hnext.turnHolder
    rcases hchange with ⟨-, hshown⟩ | ⟨hpassed, -⟩
    · exact .holds hnext hshows (board.trans hshown.symm) rested
    · rw [hstays, hturn] at hpassed
      exact absurd hpassed (label_ne_otherTurn hlabel)
  · have hpasses : next.turn = GameScene.otherTurn label :=
      hshows.turn.symm.trans hnext.turnSender
    rcases hchange with ⟨hstays, -⟩ | ⟨-, hshown, hpoints⟩
    · rw [hpasses, hturn] at hstays
      exact absurd hstays.symm (label_ne_otherTurn hlabel)
    · exact .passes hnext hshows hshown hpoints rested

/-- A step of the client that shows the table. -/
theorem Shown.act (hlabel : label ≠ .none) (hside : Side label x)
    (hdisciplined : x.scene.Disciplined) (hstocked : ∀ ref, (x.scene.units.get ref).Stocked ref)
    (h : Shown label table x y) (hstep : x.step event = some x') :
    ∃ next, Table.Plays table next ∧ Shown label next x' y := by
  have hother := label_ne_otherTurn hlabel
  rcases hside.step_points hlabel hstep with
    ⟨undefinedReturn, xpos, ypos, scene, hclick, rfl⟩ | ⟨hpoints, hquiet | hdrained⟩
  · cases h with
    | holds h shows board rested =>
        exact h.clicked hlabel hside hdisciplined hstocked shows board rested hclick
    | passes h shows shown points rested =>
        have hturn : x.scene.playerTurn ≠ label := by
          rw [h.turnSender]
          exact hother.symm
        obtain rfl := hside.click_waiting hturn h.selectSender (GameScene.clickHandler_click hclick)
        exact ⟨table, .refl, .passes h shows shown points rested⟩
  · exact ⟨table, .refl, h.quiet hlabel hquiet hpoints⟩
  · refine ⟨table, .refl, ?_⟩
    cases h with
    | holds h =>
        have hturn := hdrained.awaits hlabel hside
        rw [h.turnHolder] at hturn
        exact absurd hturn hother
    | passes h shows shown points rested =>
        have hquiet := hdrained.quiet (eq_nil_of_transit h.toSender hdrained.incoming).1
        exact Shown.quiet hlabel (.passes h shows shown points rested) hquiet hpoints

/-- The client that the turn is on its way to has read all of it. -/
theorem Passes.shown (h : Passes label x y) (shows : x.scene.Shows table)
    (shown : table.shown = table.board) (points : table.points = Table.fullPoints)
    (rested : y'.scene.Rested) (hdrained : Drained y y')
    (hnext : Holds (GameScene.otherTurn label) y' x) :
    Shown (GameScene.otherTurn label) table y' x := by
  have hboard : y'.scene.board = x.scene.board := by
    ext ref
    rw [hnext.board ref]
    rw [hdrained.flags ref]
    exact h.flagsReader ref
  refine .holds hnext ⟨?_, hboard.trans shows.board, ?_⟩ ?_ ?_
  · rw [hnext.turnHolder, ← shows.turn, h.turnSender]
  · intro ref
    rw [points]
    exact rested ref
  · rw [shown]
    exact shows.board
  · intro ref
    rw [shows.points ref, points]

/-- A step of the other client. -/
theorem Shown.wait (hlabel : label ≠ .none) (hside : Side (GameScene.otherTurn label) y)
    (h : Shown label table x y) (hstep : y.step event = some y') :
    Shown label table x y' ∨ Shown (GameScene.otherTurn label) table y' x := by
  have hother := label_ne_otherTurn hlabel
  have hnone := otherTurn_ne_none hlabel
  have hholds (h : Holds label x y) (shows : x.scene.Shows table)
      (board : y.scene.board = table.shown) (rested : y.scene.Rested) (hquiet : Quiet y y')
      (hpoints : GameScene.SamePoints y.scene y'.scene) : Shown label table x y' :=
    .holds (h.wait hlabel hquiet.effect) shows (hquiet.board.trans board) (rested.congr hpoints)
  rcases hside.step_points hnone hstep with
    ⟨undefinedReturn, xpos, ypos, scene, hclick, rfl⟩ | ⟨hpoints, hquiet | hdrained⟩
  · left
    have hidle : y.scene.playerTurn = label ∧ y.scene.select = .fill false := by
      cases h with
      | holds h => exact ⟨h.turnOther, h.selectOther⟩
      | passes h => exact ⟨h.turnReader, h.selectReader⟩
    have hturn : y.scene.playerTurn ≠ GameScene.otherTurn label := by
      rw [hidle.1]
      exact hother
    obtain rfl := hside.click_waiting hturn hidle.2 (GameScene.clickHandler_click hclick)
    exact h
  · left
    cases h with
    | holds h shows board rested => exact hholds h shows board rested hquiet hpoints
    | passes h shows shown points rested =>
        rcases h.read hlabel hquiet.effect with hnext | hnext
        · exact .passes hnext shows shown points (rested.congr hpoints)
        · have hturn := hnext.turnHolder
          rw [hquiet.turn, h.turnReader] at hturn
          exact absurd hturn hother
  · cases h with
    | holds h shows board rested =>
        have hquiet := hdrained.quiet (eq_nil_of_transit h.toOther hdrained.incoming).1
        exact Or.inl (hholds h shows board rested hquiet hpoints)
    | passes h shows shown points rested =>
        rcases h.drain hdrained.incoming hdrained.outgoing hdrained.flags hdrained.select
          hdrained.read with hnext | hnext
        · exact Or.inl (.passes hnext shows shown points (rested.congr hpoints))
        · exact Or.inr (h.shown shows shown points (rested.congr hpoints) hdrained hnext)

theorem Shown.congr (h : Shown label table x y) (hx : x'.scene = x.scene)
    (hy : y'.scene = y.scene) (hto : transit x' y' = transit x y)
    (hfrom : transit y' x' = transit y x) : Shown label table x' y' := by
  cases h with
  | holds h shows board rested =>
      rw [← hx] at shows
      rw [← hy] at board rested
      exact .holds (h.congr hx hy hto hfrom) shows board rested
  | passes h shows shown points rested =>
      rw [← hx] at shows
      rw [← hy] at rested
      exact .passes (h.congr hx hy hto hfrom) shows shown points rested

end Steps

/-- Two clients that show the table, unless they are on the same side. -/
structure AtTable (label other : PlayerTurn) (table : Table) (x y : Conn) : Prop where
  first : x.scene.Disciplined
  second : y.scene.Disciplined
  shown : other = GameScene.otherTurn label → Shown label table x y ∨ Shown other table y x

/-- The units of the client are what `Units.json` makes of them. -/
abbrev Equipped (x : Conn) : Prop := x.Carries fun ref unit => unit.Stocked ref

theorem equipped_invariant :
    System.ClientInvariant (fun x event => x.ClickMeets (fun _ _ _ => True) event)
      (fun packet => packet.Tells fun ref unit => unit.Stocked ref) Equipped :=
  stocked_invariant.client

section Tables

variable {label other : PlayerTurn} {table : Table} {x y x' y' : Conn}

theorem AtTable.start {nextUid : Nat} (h : Lobby nextUid x) (hrested : x.scene.Rested)
    (blank : Sprite) :
    AtTable .player1 other .opening { x with down := x.down ++ [Server.startPacket] }
      { fresh nextUid blank with
        down := [Server.initPacket (idOf other), Server.startPacket] } := by
  have hduel := @Lobby.duel nextUid x h blank other
  refine ⟨GameScene.disciplined_of_idle h.select, GameScene.disciplined_of_idle rfl, ?_⟩
  rintro rfl
  left
  cases hduel.phase rfl with
  | holds hholds =>
      exact .holds hholds ⟨h.turn, h.board blankSprite, hrested⟩ rfl
        (GameScene.rested_create blank)
  | passes hpasses =>
      have hturn : x.scene.playerTurn = .player2 := hpasses.turnSender
      rw [h.turn] at hturn
      cases hturn
  | otherHolds hholds =>
      have hturn : x.scene.playerTurn = .player2 := hholds.turnOther
      rw [h.turn] at hturn
      cases hturn
  | otherPasses hpasses =>
      have hturn : x.scene.playerTurn = .player2 := hpasses.turnReader
      rw [h.turn] at hturn
      cases hturn

theorem AtTable.swap (h : AtTable label other table x y) : AtTable other label table y x := by
  refine ⟨h.second, h.first, ?_⟩
  rintro rfl
  exact (h.shown (otherTurn_otherTurn other).symm).symm

theorem AtTable.act (hlabel : label ≠ .none) (hother : other ≠ .none)
    (hduel : Duel label other x y) (hequipped : x.Equipped) (h : AtTable label other table x y)
    {event : LocalEvent} (hstep : x.step event = some x') :
    ∃ next, Table.Plays table next ∧ AtTable label other next x' y := by
  have hdisciplined := disciplined_step h.first hduel.sideX.notReconnecting hstep
  by_cases hopposite : other = GameScene.otherTurn label
  · subst hopposite
    rcases h.shown rfl with hshown | hshown
    · obtain ⟨next, hplays, hnext⟩ :=
        hshown.act hlabel hduel.sideX h.first hequipped.units hstep
      exact ⟨next, hplays, hdisciplined, h.second, fun _ => Or.inl hnext⟩
    · have hside : Side (GameScene.otherTurn (GameScene.otherTurn label)) x := by
        rw [otherTurn_otherTurn]
        exact hduel.sideX
      have hwait := hshown.wait hother hside hstep
      rw [otherTurn_otherTurn] at hwait
      exact ⟨table, .refl, hdisciplined, h.second, fun _ => hwait.symm⟩
  · exact ⟨table, .refl, hdisciplined, h.second, fun heq => absurd heq hopposite⟩

theorem AtTable.serve (hduel : Duel label other x y) (h : AtTable label other table x y)
    (hserve : Serve x y x' y') : AtTable label other table x' y' := by
  obtain ⟨-, -, ⟨hx, hy⟩, hto, hfrom⟩ := hduel.sideX.serve hduel.sideY hduel.uid hserve
  refine ⟨by rw [hx]; exact h.first, by rw [hy]; exact h.second, ?_⟩
  intro hother
  exact (h.shown hother).imp (fun hshown => hshown.congr hx hy hto hfrom)
    (fun hshown => hshown.congr hy hx hfrom hto)

/-- Whatever the two do, they show what has become of a table. -/
theorem table_rules (table : Table) :
    PairRules (fun x event => x.ClickMeets (fun _ _ _ => True) event) Equipped
      (fun label other x y => ∃ next, Table.Plays table next ∧ AtTable label other next x y) := by
  constructor
  · rintro label other x y ⟨next, hplays, h⟩
    exact ⟨next, hplays, h.swap⟩
  · rintro label other x y event x' hlabel hother hduel hequipped - ⟨next, hplays, h⟩ - hstep
    obtain ⟨later, hlater, h⟩ := h.act hlabel hother hduel hequipped hstep
    exact ⟨later, hplays.trans hlater, h⟩
  · rintro label other x y x' y' hduel ⟨next, hplays, h⟩ hserve
    exact ⟨next, hplays, h.serve hduel hserve⟩

theorem opening_rules :
    LobbyRules (fun x event => x.ClickMeets (fun _ _ _ => True) event) Equipped
      (fun x => x.scene.Rested)
      (fun label other x y => ∃ table, Table.Plays .opening table ∧
        AtTable label other table x y) := by
  refine { table_rules .opening with opened := ?_, waits := ?_, started := ?_ }
  · exact fun uid blank => GameScene.rested_create blank
  · intro nextUid x event x' hlobby _ hrested _ hstep ref
    obtain ⟨-, -, -, -, -, hunits⟩ := hlobby.local (step_local hstep)
    rw [hunits]
    exact hrested ref
  · exact fun nextUid x blank other hlobby _ hrested _ =>
      ⟨.opening, .refl, .start hlobby hrested blank⟩

end Tables

/-- What the clients of the two players show is this table. -/
def OnTable (table : Table) (a b : Conn) : Prop :=
  Shown .player1 table a b ∨ Shown .player2 table b a

end Conn

/-- Any click will do. -/
theorem along_anyClick (system : System) (events : List SystemEvent) :
    Along System.step (System.ActsMeet fun x event => x.ClickMeets (fun _ _ _ => True) event)
      system events := by
  apply System.along_actsMeet
  intro conn event
  cases event <;> trivial

/-- Started clients are at a table. -/
theorem StartedPair.atTable {system : System} {a b : Conn} (h : StartedPair system a b) :
    ∃ table, Table.Plays .opening table ∧ Conn.AtTable .player1 .player2 table a b := by
  obtain ⟨events, hrun⟩ := h.run
  exact (lobbied_exec Conn.opening_rules Conn.equipped_invariant hrun
    (along_anyClick _ _)).started h

theorem StartedPair.onTable {system : System} {a b : Conn} (h : StartedPair system a b) :
    ∃ table, Table.Plays .opening table ∧ Conn.OnTable table a b := by
  obtain ⟨table, hplays, htable⟩ := h.atTable
  exact ⟨table, hplays, htable.shown rfl⟩

/-- The two clients of a started game always show one table, which fair plays
have led to from the opening; and however the game goes on, more plays lead
from that table to the one that they show then. -/
theorem one_game {system : System} {a b : Conn} (h : StartedPair system a b) :
    ∃ table, Table.Plays .opening table ∧ table.Fair ∧ Conn.OnTable table a b ∧
      ∀ rest later, (∀ event ∈ rest, event.stays = true) →
        exec System.step system rest = some later →
        ∃ a' b' next, later.conns = [a', b'] ∧ Table.Plays table next ∧
          Conn.OnTable next a' b' := by
  obtain ⟨hduel, -, -⟩ := h.duel
  obtain ⟨events, hrun⟩ := h.run
  have hequipped := Conn.equipped_invariant.exec hrun (along_anyClick _ _)
  obtain ⟨table, hplays, htable⟩ := h.atTable
  refine ⟨table, hplays, Table.fair_of_plays hplays, htable.shown rfl, ?_⟩
  intro rest later hstays hrest
  obtain ⟨server, conns⟩ := system
  obtain rfl : conns = [a, b] := h.conns
  obtain ⟨a', b', rfl, next, hnext, hshown⟩ :=
    (Conn.table_rules table).run Conn.equipped_invariant (by simp) hduel hequipped
      ⟨table, .refl, htable⟩ hstays (along_anyClick _ _) hrest
  exact ⟨a', b', next, rfl, hnext, hshown.shown rfl⟩

theorem one_game_moving : ∃ system a b, system.conns = [a, b] ∧
    exec System.step System.initial movingRun = some system ∧
      ∃ table, Table.Plays .opening table ∧ Conn.OnTable table a b := by
  obtain ⟨system, a, b, hrun, hconns, hcheck⟩ :=
    @exists_pair_of_check System.initial movingRun (fun _ a b => startedCheck a b)
      (by decide +kernel)
  obtain ⟨table, hplays, -, hshown, -⟩ := one_game (startedPair_of_check hrun hconns hcheck)
  exact ⟨system, a, b, hconns, hrun, table, hplays, hshown⟩

end NetworkingGame
