import NetworkingGame.Placement

/-!
One action per click, and what it costs. The phases of a click share the click
but not a budget: an attack is made on every opposing unit under the click and
paid for each of them, so that a click is one action exactly if there is one
such unit at most.
-/

namespace NetworkingGame

open Library.Transition

namespace GameScene

/-- At most one unit is selected, and it is the client's own. -/
structure Chosen (scene : GameScene) : Prop where
  single : ∀ ref ref', scene.select.get ref = true → scene.select.get ref' = true → ref = ref'
  own : ∀ ref, scene.select.get ref = true → ref.team = scene.assignedTeam

/-- The squad is as it was, and may have as many action points as before. -/
structure SameSquad (before after : GameUnit) : Prop where
  squadSize : after.squadSize = before.squadSize
  health : after.health = before.health
  maxActionPoints : after.maxActionPoints = before.maxActionPoints

/-- The unit stands where it stood. -/
structure SamePlace (before after : GameUnit) : Prop where
  objectSprite : after.objectSprite = before.objectSprite
  xPos : after.xPos = before.xPos
  yPos : after.yPos = before.yPos

/-- What a click may do: nothing to the units; the end of the turn, which gives
every unit its action points back and changes no place and no squad; one move of
an own unit for one point; or one attack of an own unit on one opposing unit for
two points, which hurts that one where it stands. -/
inductive Action (scene after : GameScene) : Prop
  | nothing (hunits : after.units = scene.units)
      (hturn : after.playerTurn = scene.playerTurn) : Action scene after
  | ended (hhas : scene.playerTurn = scene.assignedTeam)
      (hsquads : ∀ ref, SameSquad (scene.units.get ref) (after.units.get ref))
      (hplaces : ∀ ref, SamePlace (scene.units.get ref) (after.units.get ref))
      (hreset : ∀ ref, (after.units.get ref).actionPoints = (scene.units.get ref).maxActionPoints)
      (hturn : after.playerTurn = otherTurn scene.playerTurn) : Action scene after
  | moved (ref : UnitRef)
      (hown : ref.team = scene.assignedTeam) (hpoints : 1 ≤ (scene.units.get ref).actionPoints)
      (hspent : (after.units.get ref).actionPoints = (scene.units.get ref).actionPoints - 1)
      (hplaced : ∃ xPos yPos, (after.units.get ref).objectSprite =
        (scene.units.get ref).objectSprite.place xPos yPos)
      (hsquad : SameSquad (scene.units.get ref) (after.units.get ref))
      (hothers : ∀ other, other ≠ ref → after.units.get other = scene.units.get other)
      (hturn : after.playerTurn = scene.playerTurn) : Action scene after
  | attacked (attacker target : UnitRef)
      (hown : attacker.team = scene.assignedTeam) (hopposing : target.team ≠ attacker.team)
      (hpoints : 2 ≤ (scene.units.get attacker).actionPoints)
      (hspent : (after.units.get attacker).actionPoints =
        (scene.units.get attacker).actionPoints - 2)
      (hsquad : SameSquad (scene.units.get attacker) (after.units.get attacker))
      (hplaces : ∀ ref, SamePlace (scene.units.get ref) (after.units.get ref))
      (hdamage : (scene.units.get target).takeDamage (scene.units.get attacker) =
        .ok (after.units.get target))
      (hkept : (after.units.get target).actionPoints = (scene.units.get target).actionPoints ∧
        (after.units.get target).maxActionPoints = (scene.units.get target).maxActionPoints)
      (hothers : ∀ other, other ≠ attacker → other ≠ target →
        after.units.get other = scene.units.get other)
      (hturn : after.playerTurn = scene.playerTurn) : Action scene after

/-- The click is handled, as one action at most. -/
def OneAction (scene : GameScene) (undefinedReturn : Bool) (xpos ypos : Int) : Prop :=
  ∃ after, scene.clickHandler undefinedReturn xpos ypos = .ok after ∧ scene.Action after

/-- The click is on the button of the player whose turn it is. -/
def EndsTurn (scene : GameScene) (xpos ypos : Int) : Prop :=
  scene.playerTurn = scene.assignedTeam ∧ mouseOnSprite xpos ypos nextTurnButton = true

/-- A click that is accepted as an attack has one opposing unit under it at
most. -/
def SingleTarget (scene : GameScene) (xpos ypos : Int) : Prop :=
  scene.isOpen = true → ¬ scene.EndsTurn xpos ypos → ∀ attacker,
    scene.AcceptsAttack attacker xpos ypos →
    (scene.targets attacker xpos ypos).length ≤ 1

section Clicks

variable {scene after : GameScene} {xpos ypos : Int} {undefinedReturn : Bool}

/-- The click as its phases, when it does not end the turn. -/
theorem clickHandler_phases (hopen : scene.isOpen = true) (hstays : ¬ scene.EndsTurn xpos ypos) :
    scene.clickHandler undefinedReturn xpos ypos =
      ((scene.placeUnitAtClick xpos ypos).attackClickedUnit xpos ypos).map
        (setSelected xpos ypos) := by
  unfold isOpen at hopen
  unfold EndsTurn at hstays
  rw [clickHandler, if_pos hopen]
  simp only [nextTurnPressed, if_neg hstays]
  cases (scene.placeUnitAtClick xpos ypos).attackClickedUnit xpos ypos <;> rfl

/-- After a move there is nobody under the click but the unit that moved. -/
theorem targets_placeUnitAtClick {ref : UnitRef} (hchosen : scene.Chosen)
    (haccept : scene.AcceptsMove ref xpos ypos) :
    (scene.placeUnitAtClick xpos ypos).targets ref xpos ypos = [] := by
  apply List.filter_eq_nil_iff.mpr
  intro target _ hhits
  have hne := ne_of_hits hhits
  have hstays : ¬ scene.AcceptsMove target xpos ypos := by
    intro hother
    exact hne (hchosen.single _ _ (select_of_canMove hother.canMove).1
      (select_of_canMove haccept.canMove).1)
  simp only [hits, placeUnitAtClick_get, if_neg hstays, Bool.and_eq_true] at hhits
  have hclear := haccept.1
  rw [spriteOnTarget, List.any_eq_false] at hclear
  exact hclear target (UnitRef.mem_all target) hhits.1

theorem select_placeUnitAtClick :
    (scene.placeUnitAtClick xpos ypos).select = scene.select := by
  rw [onlyUnits_placeUnitAtClick xpos ypos scene]

/-- The unit that has moved finds nobody to attack. -/
theorem attackClickedUnit_of_acceptsMove {ref : UnitRef} (hchosen : scene.Chosen)
    (haccept : scene.AcceptsMove ref xpos ypos) :
    (scene.placeUnitAtClick xpos ypos).attackClickedUnit xpos ypos =
      .ok (scene.placeUnitAtClick xpos ypos) := by
  have hselected := (select_of_canMove haccept.canMove).1
  have hsingle := hchosen.single
  rw [← @select_placeUnitAtClick scene xpos ypos] at hsingle
  rcases @attackClickedUnit_cases _ xpos ypos hsingle with ⟨attacker, hattacker, hattack⟩ |
    ⟨-, hattack⟩
  · have hselect := (select_of_canAttack hattacker.canAttack).1
    rw [select_placeUnitAtClick] at hselect
    obtain rfl := hchosen.single _ _ hselect hselected
    rw [hattack]
    exact attackingOtherUnit_miss (targets_placeUnitAtClick hchosen haccept)
  · exact hattack

/-- What a click makes of a scene in which one unit at most is selected. -/
inductive Handled (scene : GameScene) (xpos ypos : Int) : GameScene → Prop
  | closed (hclosed : scene.isOpen = false) : Handled scene xpos ypos scene
  | ended (undefinedReturn : Bool) (hopen : scene.isOpen = true)
      (hends : scene.EndsTurn xpos ypos) : Handled scene xpos ypos (scene.endTurn undefinedReturn)
  | moved (ref : UnitRef) (hopen : scene.isOpen = true) (hstays : ¬ scene.EndsTurn xpos ypos)
      (haccept : scene.AcceptsMove ref xpos ypos) :
      Handled scene xpos ypos ((scene.placeUnitAtClick xpos ypos).setSelected xpos ypos)
  | attacked (attacker : UnitRef) (next : GameScene) (hopen : scene.isOpen = true)
      (hstays : ¬ scene.EndsTurn xpos ypos) (haccept : scene.AcceptsAttack attacker xpos ypos)
      (hnext : scene.attackingOtherUnit attacker xpos ypos = .ok next) :
      Handled scene xpos ypos (next.setSelected xpos ypos)
  | selected (hopen : scene.isOpen = true) (hstays : ¬ scene.EndsTurn xpos ypos)
      (hmove : ∀ ref, ¬ scene.AcceptsMove ref xpos ypos)
      (hattack : ∀ ref, ¬ scene.AcceptsAttack ref xpos ypos) :
      Handled scene xpos ypos (scene.setSelected xpos ypos)

theorem Chosen.handled (hchosen : scene.Chosen)
    (h : scene.clickHandler undefinedReturn xpos ypos = .ok after) :
    scene.Handled xpos ypos after := by
  by_cases hopen : scene.isOpen = true
  · by_cases hends : scene.EndsTurn xpos ypos
    · obtain rfl := Except.ok.inj (h.symm.trans (clickHandler_button hopen hends.1 hends.2))
      exact .ended undefinedReturn hopen hends
    · rw [clickHandler_phases hopen hends] at h
      by_cases hmoves : ∃ ref, scene.AcceptsMove ref xpos ypos
      · obtain ⟨ref, haccept⟩ := hmoves
        rw [attackClickedUnit_of_acceptsMove hchosen haccept] at h
        obtain rfl := Except.ok.inj h
        exact .moved ref hopen hends haccept
      · have hmove := not_exists.mp hmoves
        rw [placeUnitAtClick_eq_self hmove] at h
        rcases @attackClickedUnit_cases scene xpos ypos hchosen.single with
          ⟨attacker, haccept, hattack⟩ | ⟨hnone, hattack⟩
        · rw [hattack] at h
          obtain ⟨next, hnext, h⟩ := bind_eq_ok h
          obtain rfl := Except.ok.inj h
          exact .attacked attacker next hopen hends haccept hnext
        · rw [hattack] at h
          obtain rfl := Except.ok.inj h
          exact .selected hopen hends hmove hnone
  · have hclosed := Bool.eq_false_of_not_eq_true hopen
    unfold isOpen at hopen
    rw [clickHandler, if_neg hopen] at h
    obtain rfl := Except.ok.inj h
    exact .closed hclosed

/-- A move is all that a click does besides selecting. -/
theorem oneAction_of_acceptsMove {ref : UnitRef} (hchosen : scene.Chosen)
    (hopen : scene.isOpen = true) (hstays : ¬ scene.EndsTurn xpos ypos)
    (haccept : scene.AcceptsMove ref xpos ypos) :
    scene.OneAction undefinedReturn xpos ypos := by
  obtain ⟨hselected, hpoints, -⟩ := select_of_canMove haccept.canMove
  have hattack := attackClickedUnit_of_acceptsMove hchosen haccept
  refine ⟨_, by rw [clickHandler_phases hopen hstays, hattack]; rfl, ?_⟩
  have hrest := setSelected_rest xpos ypos (scene.placeUnitAtClick xpos ypos)
  have honly := onlyUnits_placeUnitAtClick xpos ypos scene
  have hmoved : (((scene.placeUnitAtClick xpos ypos).setSelected xpos ypos).units.get ref) =
      (scene.units.get ref).moved
        (scene.gridSnapping xpos ypos (scene.units.get ref).objectSprite) := by
    rw [hrest]
    exact (placeUnitAtClick_get scene ref xpos ypos).trans (if_pos haccept)
  refine .moved ref (hchosen.own ref hselected) hpoints ?_ ?_ ?_ ?_ ?_
  · rw [hmoved]
    rfl
  · rw [hmoved]
    exact ⟨_, _, rfl⟩
  · rw [hmoved]
    exact ⟨rfl, rfl, rfl⟩
  · intro other hother
    rw [hrest]
    apply (placeUnitAtClick_get scene other xpos ypos).trans
    rw [if_neg]
    intro haccept'
    exact hother (hchosen.single _ _ (select_of_canMove haccept'.canMove).1 hselected)
  · rw [hrest, honly]

theorem opposing_of_hits {attacker target : UnitRef}
    (hkept : ∀ ref, (scene.units.get ref).Kept ref)
    (h : scene.hits attacker xpos ypos target = true) : target.team ≠ attacker.team := by
  intro hteam
  simp [hits, (hkept attacker).isEnemy, (hkept target).isEnemy, hteam] at h

/-- An attack on one unit is one action, and one on nobody is none. -/
theorem oneAction_of_acceptsAttack {attacker : UnitRef} (hchosen : scene.Chosen)
    (hkept : ∀ ref, (scene.units.get ref).Kept ref) (hopen : scene.isOpen = true)
    (hstays : ¬ scene.EndsTurn xpos ypos) (hmove : scene.placeUnitAtClick xpos ypos = scene)
    (haccept : scene.AcceptsAttack attacker xpos ypos)
    (hattack : scene.attackClickedUnit xpos ypos = scene.attackingOtherUnit attacker xpos ypos)
    (hsingle : (scene.targets attacker xpos ypos).length ≤ 1) :
    scene.OneAction undefinedReturn xpos ypos := by
  obtain ⟨next, hnext⟩ := attackingOtherUnit_isOk fun target _ =>
    (hkept target).health.ne'
  have honly := onlyUnits_attackClickedUnit (hattack.trans hnext)
  have hrest := setSelected_rest xpos ypos next
  have hturn : (next.setSelected xpos ypos).playerTurn = scene.playerTurn := by
    rw [hrest, honly]
  obtain ⟨hselected, hpoints, -⟩ := select_of_canAttack haccept.canAttack
  obtain ⟨hhit, hmiss, hspent⟩ := attackingOtherUnit_get hnext
  refine ⟨next.setSelected xpos ypos, ?_, ?_⟩
  · rw [clickHandler_phases hopen hstays, hmove, hattack, hnext]
    rfl
  · cases htargets : scene.targets attacker xpos ypos with
    | nil =>
        obtain rfl := Except.ok.inj (hnext.symm.trans (attackingOtherUnit_miss htargets))
        apply Action.nothing _ hturn
        rw [hrest]
    | cons target rest =>
        have hrest' : rest = [] := by
          rw [htargets, List.length_cons] at hsingle
          exact List.eq_nil_of_length_eq_zero (by omega)
        subst hrest'
        have hhits : scene.hits attacker xpos ypos target = true := by
          have hmem : target ∈ scene.targets attacker xpos ypos := by simp [htargets]
          exact (List.mem_filter.mp hmem).2
        have hunits : (next.setSelected xpos ypos).units = next.units := by rw [hrest]
        have hpaid : next.units.get attacker =
            (scene.units.get attacker).reduceActionPoints 2 := by
          rw [hspent, htargets]
          rfl
        have hdamage := hhit target hhits
        have hhurt := GameUnit.takeDamage_rest hdamage
        have hothers : ∀ other, other ≠ attacker → other ≠ target →
            next.units.get other = scene.units.get other := by
          intro other hattacker htarget
          apply hmiss other hattacker
          apply Bool.eq_false_of_not_eq_true
          intro hother
          have hmem : other ∈ scene.targets attacker xpos ypos :=
            List.mem_filter.mpr ⟨UnitRef.mem_all other, hother⟩
          rw [htargets, List.mem_singleton] at hmem
          exact htarget hmem
        have hplaces (ref : UnitRef) : SamePlace (scene.units.get ref) (next.units.get ref) := by
          by_cases hattacker : ref = attacker
          · rw [hattacker, hpaid]
            exact ⟨rfl, rfl, rfl⟩
          · by_cases htarget : ref = target
            · rw [htarget, hhurt]
              exact ⟨rfl, rfl, rfl⟩
            · rw [hothers ref hattacker htarget]
              exact ⟨rfl, rfl, rfl⟩
        refine .attacked attacker target (hchosen.own attacker hselected)
          (opposing_of_hits hkept hhits) hpoints ?_ ?_ ?_ ?_ ?_ ?_ hturn
        · rw [hunits, hpaid]
          rfl
        · rw [hunits, hpaid]
          exact ⟨rfl, rfl, rfl⟩
        · rw [hunits]
          exact hplaces
        · rw [hunits]
          exact hdamage
        · rw [hunits, hhurt]
          exact ⟨rfl, rfl⟩
        · rw [hunits]
          exact hothers

/-- What one action takes from a unit, as long as the turn stays. -/
theorem Action.actionPoints (h : scene.Action after) (hturn : after.playerTurn = scene.playerTurn)
    (hteam : scene.assignedTeam ≠ .none) (ref : UnitRef) :
    (scene.units.get ref).actionPoints - 2 ≤ (after.units.get ref).actionPoints := by
  cases h with
  | nothing hunits =>
      rw [hunits]
      omega
  | ended hhas _ _ _ hother =>
      rw [hother] at hturn
      exact absurd (hhas.symm.trans (otherTurn_eq_self hturn)) hteam
  | moved mover _ _ hspent _ _ hothers =>
      by_cases href : ref = mover
      · rw [href]
        omega
      · rw [hothers ref href]
        omega
  | attacked attacker target _ _ _ hspent _ _ _ hkept hothers =>
      by_cases hattacker : ref = attacker
      · rw [hattacker]
        omega
      · by_cases htarget : ref = target
        · rw [htarget]
          omega
        · rw [hothers ref hattacker htarget]
          omega

/-- A second target would be paid for as well. -/
theorem single_of_oneAction {attacker : UnitRef} (hteam : scene.assignedTeam ≠ .none)
    (hopen : scene.isOpen = true) (hstays : ¬ scene.EndsTurn xpos ypos)
    (hmove : scene.placeUnitAtClick xpos ypos = scene)
    (hattack : scene.attackClickedUnit xpos ypos = scene.attackingOtherUnit attacker xpos ypos)
    (h : scene.OneAction undefinedReturn xpos ypos) :
    (scene.targets attacker xpos ypos).length ≤ 1 := by
  obtain ⟨after, hclick, haction⟩ := h
  rw [clickHandler_phases hopen hstays, hmove, hattack] at hclick
  obtain ⟨next, hnext, hclick⟩ := bind_eq_ok hclick
  obtain rfl := Except.ok.inj hclick
  have hrest := setSelected_rest xpos ypos next
  have hturn : (next.setSelected xpos ypos).playerTurn = scene.playerTurn := by
    rw [hrest, onlyUnits_attackClickedUnit (hattack.trans hnext)]
  have hpoints := haction.actionPoints hturn hteam attacker
  rw [hrest] at hpoints
  simp only [(attackingOtherUnit_get hnext).2.2, GameUnit.reduceActionPoints] at hpoints
  omega

theorem action_endTurn (hhas : scene.playerTurn = scene.assignedTeam) :
    scene.Action (scene.endTurn undefinedReturn) := by
  have hunit (ref : UnitRef) : (scene.endTurn undefinedReturn).units.get ref =
      (scene.units.get ref).resetActionPoints.clearChanged := by
    rw [endTurn_eq]
    exact Roster.get_map ..
  refine .ended hhas ?_ ?_ ?_ ?_
  · intro ref
    rw [hunit]
    exact ⟨rfl, rfl, rfl⟩
  · intro ref
    rw [hunit]
    exact ⟨rfl, rfl, rfl⟩
  · intro ref
    rw [hunit]
    rfl
  · rw [endTurn_eq]

/-- A click is one action at most exactly if it has a single target. -/
theorem oneAction_iff (hchosen : scene.Chosen)
    (hkept : ∀ ref, (scene.units.get ref).Kept ref) :
    scene.OneAction undefinedReturn xpos ypos ↔ scene.SingleTarget xpos ypos := by
  by_cases hopen : scene.isOpen = true
  · by_cases hends : scene.EndsTurn xpos ypos
    · apply iff_of_true
      · exact ⟨_, clickHandler_button hopen hends.1 hends.2, action_endTurn hends.1⟩
      · exact fun _ hstays => absurd hends hstays
    · by_cases hmoves : ∃ ref, scene.AcceptsMove ref xpos ypos
      · obtain ⟨ref, haccept⟩ := hmoves
        apply iff_of_true (oneAction_of_acceptsMove hchosen hopen hends haccept)
        intro _ _ attacker hattack
        exact absurd (haccept.1.symm.trans hattack.1) (by simp)
      · have hmove := placeUnitAtClick_eq_self (not_exists.mp hmoves)
        rcases @attackClickedUnit_cases scene xpos ypos hchosen.single with
          ⟨attacker, haccept, hattack⟩ | ⟨hnone, hattack⟩
        · constructor
          · intro h _ _ attacker' haccept'
            obtain rfl := hchosen.single _ _ (select_of_canAttack haccept'.canAttack).1
              (select_of_canAttack haccept.canAttack).1
            have hteam : scene.assignedTeam ≠ .none := by
              rw [← hchosen.own _ (select_of_canAttack haccept.canAttack).1]
              exact team_ne_none _
            exact single_of_oneAction hteam hopen hends hmove hattack h
          · intro h
            exact oneAction_of_acceptsAttack hchosen hkept hopen hends hmove haccept hattack
              (h hopen hends attacker haccept)
        · apply iff_of_true
          · refine ⟨scene.setSelected xpos ypos, ?_, .nothing ?_ ?_⟩
            · rw [clickHandler_phases hopen hends, hmove, hattack]
              rfl
            · rw [setSelected_rest]
            · rw [setSelected_rest]
          · exact fun _ _ attacker haccept => absurd haccept (hnone attacker)
  · apply iff_of_true
    · refine ⟨scene, ?_, .nothing rfl rfl⟩
      unfold isOpen at hopen
      rw [clickHandler, if_neg hopen]
    · exact fun h => absurd h hopen

end Clicks

section Points

/-- The action points are in range. -/
def Paid (unit : GameUnit) : Prop :=
  0 ≤ unit.actionPoints ∧ unit.actionPoints ≤ unit.maxActionPoints

/-- One unit of the client's own at most is selected, and the click has a
single target at most. -/
def OneAtATime (scene : GameScene) (xpos ypos : Int) : Prop :=
  scene.Chosen ∧ scene.SingleTarget xpos ypos

/-- One action keeps the points of every unit in range. -/
theorem Action.paid {scene after : GameScene} (h : scene.Action after)
    (hkept : ∀ ref, (scene.units.get ref).Kept ref) (hpaid : ∀ ref, Paid (scene.units.get ref))
    (ref : UnitRef) : Paid (after.units.get ref) := by
  have hbefore := hpaid ref
  cases h with
  | nothing hunits =>
      rw [hunits]
      exact hbefore
  | ended _ hsquads _ hreset =>
      rw [Paid, hreset, (hsquads ref).maxActionPoints]
      exact ⟨(hkept ref).maxActionPoints, le_refl _⟩
  | moved mover _ hpoints hspent _ hsquad hothers =>
      by_cases href : ref = mover
      · subst href
        rw [Paid, hspent, hsquad.maxActionPoints]
        unfold Paid at hbefore
        omega
      · rw [hothers ref href]
        exact hbefore
  | attacked attacker target _ _ hpoints hspent hsquad _ _ hpoints' hothers =>
      by_cases hattacker : ref = attacker
      · subst hattacker
        rw [Paid, hspent, hsquad.maxActionPoints]
        unfold Paid at hbefore
        omega
      · by_cases htarget : ref = target
        · subst htarget
          rw [Paid, hpoints'.1, hpoints'.2]
          exact hbefore
        · rw [hothers ref hattacker htarget]
          exact hbefore

theorem paid_initUnits (blank : Sprite) (ref : UnitRef) : Paid ((initUnits blank).get ref) := by
  cases ref <;> constructor <;>
    simp [initUnits, Roster.get, GameUnit.createUnit, GameUnit.init, UnitType.find]

theorem paid_update {unit : GameUnit} (h : Paid unit) : Paid unit.update := by
  have hupdated := unit.update_updated
  generalize unit.update = after at hupdated ⊢
  cases hupdated with
  | died | dead | placed => exact h

theorem paid_invariant :
    UnitInvariant OneAtATime (fun ref unit => unit.Kept ref ∧ Paid unit) := by
  have hkept := kept_invariant
  constructor
  · exact fun blank ref => ⟨hkept.init blank ref, paid_initUnits blank ref⟩
  · exact fun ref unit h => ⟨hkept.update ref unit h.1, paid_update h.2⟩
  · exact fun ref unit other hunit hother =>
      ⟨hkept.copied ref unit other hunit.1 hother.1, hunit.2⟩
  · exact fun ref unit h => ⟨hkept.ended ref unit h.1, h.1.maxActionPoints, le_refl _⟩
  · intro scene after undefinedReturn xpos ypos hunits hok hclick ref
    have hkepts (ref : UnitRef) := (hunits ref).1
    refine ⟨hkept.click _ _ _ _ _ hkepts trivial hclick ref, ?_⟩
    obtain ⟨after', hclick', haction⟩ := (oneAction_iff hok.1 hkepts).mpr hok.2
    obtain rfl := Except.ok.inj (hclick.symm.trans hclick')
    exact haction.paid hkepts (fun ref => (hunits ref).2) ref

end Points

end GameScene

namespace Conn

/-- The client has been told to take part in a reconnect. -/
def ToldReconnect (x : Conn) : Prop :=
  ∃ packet ∈ x.sent, packet.type = "reconnect" ∨ packet.type = "data_sender"

instance (x : Conn) : Decidable x.ToldReconnect :=
  inferInstanceAs (Decidable (∃ packet ∈ x.sent, _))

section Discipline

/-- Either side of a game in which the client never hears of a reconnect. -/
def Undisturbed (x : Conn) : Prop :=
  x.ToldReconnect ∨ (x.scene.Disciplined ∧ x.scene.client.isReconnecting = false)

theorem ToldReconnect.of_subset {x x' : Conn} (h : x.ToldReconnect)
    (hsent : ∀ packet ∈ x.sent, packet ∈ x'.sent) : x'.ToldReconnect := by
  obtain ⟨packet, hpacket, htype⟩ := h
  exact ⟨packet, hsent packet hpacket, htype⟩

/-- A client that is in no reconnect keeps its discipline. -/
theorem disciplined_step {x x' : Conn} {event : LocalEvent} (h : x.scene.Disciplined)
    (hopen : x.scene.client.isReconnecting = false) (hstep : x.step event = some x') :
    x'.scene.Disciplined := by
  rcases step_cases hstep with ⟨undefinedReturn, xpos, ypos, scene, -, hclick, rfl⟩ | hlocal
  · exact h.clickHandler hclick
  · cases hlocal with
    | send => exact h.congr rfl rfl rfl
    | receive => exact h.congr rfl rfl rfl
    | dispatch => exact h.congr rfl rfl rfl
    | frame scene hframe => exact h.frame hopen hframe
    | click scene hclicks => cases hclicks
    | enter scene henter => exact h.enter henter

theorem Undisturbed.step {x x' : Conn} {event : LocalEvent} (h : x.Undisturbed)
    (hstep : x.step event = some x') : x'.Undisturbed := by
  have hsent : x'.sent = x.sent := congrArg Peer.sent (System.peer_local (step_local hstep))
  by_cases htold : x.ToldReconnect
  · exact Or.inl (htold.of_subset fun packet hpacket => by rw [hsent]; exact hpacket)
  · obtain ⟨hdisciplined, hopen⟩ := h.resolve_left htold
    refine Or.inr ⟨disciplined_step hdisciplined hopen hstep, ?_⟩
    cases step_local hstep with
    | send => exact hopen
    | receive => exact hopen
    | dispatch packet rest client hqueue hread =>
        have hprocessed := ClientComponent.processRecievedPackets_processed hread
        have hmem : packet ∈ x.sent := by simp [Conn.sent, hqueue]
        have hfirst : packet.type ≠ "reconnect" := fun h => htold ⟨packet, hmem, Or.inl h⟩
        have hsecond : packet.type ≠ "data_sender" := fun h => htold ⟨packet, hmem, Or.inr h⟩
        simpa [GameScene.withClient, hprocessed.isReconnecting_eq, hfirst, hsecond] using hopen
    | frame scene hframe =>
        rw [hframe.isReconnecting]
        exact hopen
    | click scene _ hclick =>
        rw [hclick.isReconnecting]
        exact hopen
    | enter scene henter =>
        rw [henter.isReconnecting]
        exact hopen

theorem undisturbed_invariant :
    System.ClientInvariant (fun _ _ => True) (fun _ => True) Undisturbed := by
  constructor
  · exact fun _ _ => trivial
  · exact fun uid blank => Or.inr ⟨GameScene.disciplined_of_idle rfl, rfl⟩
  · intro x inPeerMap h
    exact h
  · intro x packets h _
    rcases h with htold | h
    · left
      apply htold.of_subset
      intro packet hpacket
      simp only [sent, List.mem_append] at hpacket ⊢
      tauto
    · exact Or.inr h
  · intro x msg rest h _
    exact ⟨trivial, h⟩
  · exact fun x event x' h _ hstep => h.step hstep

end Discipline

end Conn

/-- In every reachable state: a click of a client that has one unit of its own
selected at most is one action at most exactly if it has a single target; a
client that never heard of a reconnect is such a client; and over a run of such
clicks the action points stay in range. -/
theorem one_action {events : List SystemEvent} {system : System}
    (hrun : exec System.step System.initial events = some system) {conn : Conn}
    (hconn : conn ∈ system.conns) :
    (conn.scene.Chosen → ∀ undefinedReturn xpos ypos,
      (conn.scene.OneAction undefinedReturn xpos ypos ↔ conn.scene.SingleTarget xpos ypos)) ∧
    (¬ conn.ToldReconnect → conn.scene.Chosen) ∧
    (Along System.step (System.ActsMeet (Conn.ClickMeets GameScene.OneAtATime)) System.initial
      events → ∀ ref, GameScene.Paid (conn.scene.units.get ref)) := by
  refine ⟨?_, ?_, ?_⟩
  · intro hchosen undefinedReturn xpos ypos
    apply GameScene.oneAction_iff hchosen
    exact (kept_invariant.exec hrun (System.along_actsMeet fun _ event => by
      cases event <;> trivial) conn hconn).units
  · intro htold
    have hundisturbed := Conn.undisturbed_invariant.exec hrun
      (System.along_actsMeet fun _ _ => trivial) conn hconn
    have hdisciplined := (hundisturbed.resolve_left htold).1
    exact ⟨hdisciplined.single, hdisciplined.own⟩
  · intro halong ref
    exact ((GameScene.paid_invariant.exec hrun halong conn hconn).units ref).2

/-- The first player selects the infantry, and may then move it. -/
theorem one_action_selecting : ∃ system a b,
    exec System.step System.initial (openingRun ++ [.act 0 (.click false 50 10)]) = some system ∧
      system.conns = [a, b] ∧ a.scene.AcceptsMove .infantryEnemy 300 100 ∧
        a.scene.OneAction false 300 100 := by
  obtain ⟨system, a, b, hrun, hconns, hcheck⟩ :=
    @exists_pair_of_check System.initial (openingRun ++ [.act 0 (.click false 50 10)])
      (fun _ a _ => decide (a.scene.AcceptsMove .infantryEnemy 300 100 ∧ ¬ a.ToldReconnect ∧
        ∀ attacker, ¬ a.scene.AcceptsAttack attacker 300 100)) (by decide +kernel)
  obtain ⟨haccept, htold, hattack⟩ := of_decide_eq_true hcheck
  have hclick := one_action hrun (show a ∈ system.conns by simp [hconns])
  refine ⟨system, a, b, hrun, hconns, haccept, ?_⟩
  rw [hclick.1 (hclick.2.1 htold)]
  exact fun _ _ attacker h => absurd h (hattack attacker)

/-- The second player moves the infantry two columns to the left, and then the
tank with a click between the sprite of the infantry and the next cell. -/
def overlapRun : List SystemEvent :=
  openingRun ++ [.act 0 (.click false 1200 650)] ++ exchange 0 1 ++
    [.act 1 (.click false 1130 10), .act 1 (.click false 900 260),
      .act 1 (.click false 1130 370), .act 1 (.click false 998 300)]

/-- The turn passes back, and the artillery of the first player attacks the
two units that stand on one cell. -/
theorem not_oneAction_overlap : ∃ system a b,
    exec System.step System.initial (overlapRun ++ [.act 1 (.click false 1200 650)] ++
      exchange 1 3 ++ [.act 0 (.click false 50 250)]) = some system ∧ system.conns = [a, b] ∧
        ¬ a.scene.OneAction false 900 300 ∧
        ∃ scene, a.scene.clickHandler false 900 300 = .ok scene ∧
          (scene.units.get .artilleryEnemy).actionPoints = -2 := by
  obtain ⟨system, a, b, hrun, hconns, hcheck⟩ :=
    @exists_pair_of_check System.initial (overlapRun ++ [.act 1 (.click false 1200 650)] ++
      exchange 1 3 ++ [.act 0 (.click false 50 250)])
      (fun _ a _ => decide (a.scene.assignedTeam = .player1 ∧ a.scene.playerTurn = .player1 ∧
        (a.scene.units.get .artilleryEnemy).actionPoints = 2) &&
        (a.scene.clickHandler false 900 300).toOption.any fun scene =>
          scene.playerTurn = .player1 ∧ (scene.units.get .artilleryEnemy).actionPoints = -2)
      (by decide +kernel)
  rw [Bool.and_eq_true, decide_eq_true_eq] at hcheck
  obtain ⟨⟨hteam, hturn, hbefore⟩, hclick⟩ := hcheck
  obtain ⟨scene, hscene, hafter⟩ := (Option.any_eq_true _ _).mp hclick
  obtain ⟨hturn', hpoints⟩ := of_decide_eq_true hafter
  have hscene := Conn.toOption_eq_some hscene
  refine ⟨system, a, b, hrun, hconns, ?_, scene, hscene, hpoints⟩
  rintro ⟨scene', hscene', haction⟩
  obtain rfl := Except.ok.inj (hscene.symm.trans hscene')
  have hleast := haction.actionPoints (hturn'.trans hturn.symm) (by simp [hteam]) .artilleryEnemy
  omega

end NetworkingGame
