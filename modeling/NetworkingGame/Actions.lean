import Mathlib.Data.List.Find
import NetworkingGame.Selection

/-!
What the move phase and the attack phase of a click do to the units. A move
touches the one unit that the click is accepted for; an attack hurts every
opposing unit under the click, and is paid for once for each of them.
-/

namespace NetworkingGame

namespace GameUnit

/-- A unit that has spent a point on a move. -/
def moved (unit : GameUnit) (sprite : Sprite) : GameUnit :=
  { unit.reduceActionPoints 1 with objectSprite := sprite, hasChanged := true }

section Damage

variable {unit damageDealer hurt : GameUnit}

theorem takeDamage_isOk (unit damageDealer : GameUnit) :
    (∃ hurt, unit.takeDamage damageDealer = .ok hurt) ↔ unit.health ≠ 0 := by
  unfold takeDamage
  by_cases hhealth : unit.health = 0
  · simp [hhealth]
  · simp [hhealth]

/-- Damage changes the squad, its health and the flag. -/
theorem takeDamage_rest (h : unit.takeDamage damageDealer = .ok hurt) :
    hurt = { unit with
      squadSize := hurt.squadSize, health := hurt.health, hasChanged := true } := by
  unfold takeDamage at h
  split at h
  · cases h
  · rw [← Except.ok.inj h]

/-- Damage depends on the strength and the size of the dealer alone. -/
theorem takeDamage_congr {damageDealer' : GameUnit}
    (hattack : damageDealer'.attack = damageDealer.attack)
    (hsquad : damageDealer'.squadSize = damageDealer.squadSize) :
    unit.takeDamage damageDealer' = unit.takeDamage damageDealer := by
  simp only [takeDamage, hattack, hsquad]

end Damage

end GameUnit

namespace GameScene

/-- The `else if` chain that a unit is tested in. -/
def sideChain (ref : UnitRef) : List UnitRef :=
  if ref.team = .player1 then enemyChain else allyChain

/-- `placeUnitAtClick` moves the unit. -/
def AcceptsMove (scene : GameScene) (ref : UnitRef) (xpos ypos : Int) : Prop :=
  scene.spriteOnTarget xpos ypos = false ∧
    (sideChain ref).find? (scene.canMove xpos ypos) = some ref

/-- `attackClickedUnit` lets the unit attack. -/
def AcceptsAttack (scene : GameScene) (ref : UnitRef) (xpos ypos : Int) : Prop :=
  scene.spriteOnTarget xpos ypos = true ∧
    (sideChain ref).find? (scene.canAttack xpos ypos) = some ref

/-- An attack of `attacker` with this click damages `target`. -/
def hits (scene : GameScene) (attacker : UnitRef) (xpos ypos : Int) (target : UnitRef) : Bool :=
  mouseOnSprite xpos ypos (scene.units.get target).objectSprite &&
    (scene.units.get attacker).isEnemy != (scene.units.get target).isEnemy

/-- The opposing units under the click. -/
def targets (scene : GameScene) (attacker : UnitRef) (xpos ypos : Int) : List UnitRef :=
  UnitRef.all.filter (scene.hits attacker xpos ypos)

instance (scene : GameScene) (ref : UnitRef) (xpos ypos : Int) :
    Decidable (scene.AcceptsMove ref xpos ypos) := inferInstanceAs (Decidable (_ ∧ _))

instance (scene : GameScene) (ref : UnitRef) (xpos ypos : Int) :
    Decidable (scene.AcceptsAttack ref xpos ypos) := inferInstanceAs (Decidable (_ ∧ _))

instance {P : UnitRef → Prop} [∀ ref, Decidable (P ref)] : Decidable (∀ ref, P ref) :=
  decidable_of_iff (∀ ref ∈ UnitRef.all, P ref)
    ⟨fun h ref => h ref (UnitRef.mem_all ref), fun h ref _ => h ref⟩

section Chains

theorem sideChain_of_enemy {ref : UnitRef} (h : ref ∈ enemyChain) :
    sideChain ref = enemyChain := by
  rw [sideChain, if_pos ((mem_enemyChain ref).mp h)]

theorem sideChain_of_ally {ref : UnitRef} (h : ref ∈ allyChain) : sideChain ref = allyChain := by
  rw [sideChain, if_neg]
  rw [(mem_allyChain ref).mp h]
  simp

theorem mem_chains (ref : UnitRef) : ref ∈ enemyChain ∨ ref ∈ allyChain := by
  cases ref <;> decide

theorem not_mem_both {ref : UnitRef} (h : ref ∈ enemyChain) : ref ∉ allyChain := by
  intro hally
  have henemy := (mem_enemyChain ref).mp h
  rw [(mem_allyChain ref).mp hally] at henemy
  cases henemy

theorem select_of_canMove {scene : GameScene} {ref : UnitRef} {xpos ypos : Int}
    (h : scene.canMove xpos ypos ref = true) :
    scene.select.get ref = true ∧ 0 < (scene.units.get ref).actionPoints ∧ 40 < xpos ∧
      xpos < 1200 ∧ mouseOnSprite xpos ypos (scene.units.get ref).moveSprite = true := by
  simp only [canMove, Bool.and_eq_true, decide_eq_true_eq] at h
  exact ⟨h.1.1.1.2, h.1.1.2, h.1.2, h.2, h.1.1.1.1⟩

theorem select_of_canAttack {scene : GameScene} {ref : UnitRef} {xpos ypos : Int}
    (h : scene.canAttack xpos ypos ref = true) :
    scene.select.get ref = true ∧ 2 ≤ (scene.units.get ref).actionPoints ∧ 40 < xpos ∧
      xpos < 1200 ∧ mouseOnSprite xpos ypos (scene.units.get ref).attackSprite = true := by
  simp only [canAttack, Bool.and_eq_true, decide_eq_true_eq] at h
  exact ⟨h.1.1.1.2, h.1.1.2, h.1.2, h.2, h.1.1.1.1⟩

theorem AcceptsMove.canMove {scene : GameScene} {ref : UnitRef} {xpos ypos : Int}
    (h : scene.AcceptsMove ref xpos ypos) : scene.canMove xpos ypos ref = true :=
  List.find?_some h.2

theorem AcceptsAttack.canAttack {scene : GameScene} {ref : UnitRef} {xpos ypos : Int}
    (h : scene.AcceptsAttack ref xpos ypos) : scene.canAttack xpos ypos ref = true :=
  List.find?_some h.2

end Chains

section Moves

variable {scene : GameScene} {xpos ypos : Int}

theorem movingUnit_get (scene : GameScene) (ref other : UnitRef) (xpos ypos : Int) :
    (scene.movingUnit ref xpos ypos).units.get other =
      if other = ref then (scene.units.get ref).moved
        (scene.gridSnapping xpos ypos (scene.units.get ref).objectSprite)
      else scene.units.get other := by
  rw [movingUnit, Roster.get_set]
  rfl

theorem moveFirst_get (chain : List UnitRef) (scene : GameScene) (ref : UnitRef)
    (xpos ypos : Int) :
    (scene.moveFirst chain xpos ypos).units.get ref =
      if chain.find? (scene.canMove xpos ypos) = some ref then (scene.units.get ref).moved
        (scene.gridSnapping xpos ypos (scene.units.get ref).objectSprite)
      else scene.units.get ref := by
  unfold moveFirst
  cases hfind : chain.find? (scene.canMove xpos ypos) with
  | none => simp
  | some mover =>
      simp only [movingUnit_get, Option.some.injEq]
      by_cases heq : ref = mover
      · rw [if_pos heq, if_pos heq.symm, heq]
      · rw [if_neg heq, if_neg (Ne.symm heq)]

theorem find?_eq_none_of_idle {chain : List UnitRef} (h : scene.anySelected chain = false) :
    chain.find? (scene.canMove xpos ypos) = none := by
  apply List.find?_eq_none.mpr
  intro ref href hmove
  have hselected := (select_of_canMove hmove).1
  simp only [anySelected, List.any_eq_false] at h
  exact h ref href hselected

/-- What the move phase does to each unit. -/
theorem placeUnitAtClick_get (scene : GameScene) (ref : UnitRef) (xpos ypos : Int) :
    (scene.placeUnitAtClick xpos ypos).units.get ref =
      if scene.AcceptsMove ref xpos ypos then (scene.units.get ref).moved
        (scene.gridSnapping xpos ypos (scene.units.get ref).objectSprite)
      else scene.units.get ref := by
  unfold placeUnitAtClick AcceptsMove
  by_cases htarget : scene.spriteOnTarget xpos ypos = true
  · simp [htarget]
  have hclear : scene.spriteOnTarget xpos ypos = false := Bool.eq_false_of_not_eq_true htarget
  simp only [hclear, Bool.false_eq_true, if_false, true_and]
  by_cases hnone : (scene.anySelected enemyChain || scene.anySelected allyChain) = true
  · rw [if_pos hnone]
    have honly := onlyUnits_moveFirst enemyChain xpos ypos scene
    have hsnap (sprite : Sprite) : (scene.moveFirst enemyChain xpos ypos).gridSnapping xpos ypos
        sprite = scene.gridSnapping xpos ypos sprite := by
      rw [honly]
      rfl
    have hfar (ally : UnitRef) (hally : ally ∈ allyChain) :
        (scene.moveFirst enemyChain xpos ypos).units.get ally = scene.units.get ally := by
      rw [moveFirst_get, if_neg]
      intro hfind
      exact not_mem_both (List.mem_of_find?_eq_some hfind) hally
    have hsame : allyChain.find? ((scene.moveFirst enemyChain xpos ypos).canMove xpos ypos) =
        allyChain.find? (scene.canMove xpos ypos) := by
      apply List.find?_congr
      intro ally hally
      have hselect : (scene.moveFirst enemyChain xpos ypos).select = scene.select := by
        rw [honly]
      simp only [canMove, hfar ally hally, hselect]
    rw [moveFirst_get, hsame, hsnap]
    rcases mem_chains ref with href | href
    · rw [if_neg fun hfind => not_mem_both href (List.mem_of_find?_eq_some hfind),
        moveFirst_get, sideChain_of_enemy href]
    · rw [hfar ref href, sideChain_of_ally href]
  · have hidle := Bool.eq_false_of_not_eq_true hnone
    rw [Bool.or_eq_false_iff] at hidle
    rw [if_neg hnone]
    rcases mem_chains ref with href | href
    · simp [sideChain_of_enemy href, find?_eq_none_of_idle hidle.1]
    · simp [sideChain_of_ally href, find?_eq_none_of_idle hidle.2]

/-- A click that is no move leaves the units where they are. -/
theorem placeUnitAtClick_eq_self (h : ∀ ref, ¬ scene.AcceptsMove ref xpos ypos) :
    scene.placeUnitAtClick xpos ypos = scene := by
  have hunits : (scene.placeUnitAtClick xpos ypos).units = scene.units := by
    ext ref
    rw [placeUnitAtClick_get, if_neg (h ref)]
  rw [onlyUnits_placeUnitAtClick xpos ypos scene, hunits]

end Moves

section Attacks

variable {scene after : GameScene} {attacker : UnitRef} {xpos ypos : Int}

/-- One turn of the loop of `attackingOtherUnit`. -/
def strike (attacker : UnitRef) (xpos ypos : Int) (scene : GameScene) (ref : UnitRef) :
    Except Fault GameScene := do
  let unit := scene.units.get ref
  let attackingUnit := scene.units.get attacker
  if mouseOnSprite xpos ypos unit.objectSprite && attackingUnit.isEnemy != unit.isEnemy then
    let hurt ← unit.takeDamage attackingUnit
    let units := scene.units.set ref hurt
    let spent := (units.get attacker).reduceActionPoints 2
    return { scene with units := units.set attacker spent }
  else return scene

theorem attackingOtherUnit_eq (scene : GameScene) (attacker : UnitRef) (xpos ypos : Int) :
    scene.attackingOtherUnit attacker xpos ypos =
      UnitRef.all.foldlM (strike attacker xpos ypos) scene := rfl

theorem ne_of_hits {target : UnitRef} (h : scene.hits attacker xpos ypos target = true) :
    target ≠ attacker := by
  rintro rfl
  simp [hits] at h

/-- What a hit does to each unit. -/
theorem strike_hit {target : UnitRef} (h : scene.hits attacker xpos ypos target = true)
    (hstep : scene.strike attacker xpos ypos target = .ok after) :
    (scene.units.get target).takeDamage (scene.units.get attacker) =
        .ok (after.units.get target) ∧
      after.units.get attacker = (scene.units.get attacker).reduceActionPoints 2 ∧
      ∀ ref, ref ≠ target → ref ≠ attacker → after.units.get ref = scene.units.get ref := by
  have hne := ne_of_hits h
  simp only [hits] at h
  simp only [strike, h, if_true] at hstep
  obtain ⟨hurt, hdamage, hstep⟩ := bind_eq_ok hstep
  rw [← Except.ok.inj hstep]
  refine ⟨?_, ?_, ?_⟩
  · rw [hdamage, Roster.get_set_ne _ hne, Roster.get_set_self]
  · rw [Roster.get_set_self, Roster.get_set_ne _ hne.symm]
  · intro ref htarget hattacker
    rw [Roster.get_set_ne _ hattacker, Roster.get_set_ne _ htarget]

theorem strike_miss {target : UnitRef} (h : scene.hits attacker xpos ypos target = false) :
    scene.strike attacker xpos ypos target = .ok scene := by
  simp only [hits] at h
  simp only [strike, h, Bool.false_eq_true, if_false]
  rfl

/-- Hits do not move sprites, so that they do not change who else is hit. -/
theorem hits_congr {next : GameScene} {target : UnitRef}
    (hattacker : (next.units.get attacker).isEnemy = (scene.units.get attacker).isEnemy)
    (htarget : next.units.get target = scene.units.get target) :
    next.hits attacker xpos ypos target = scene.hits attacker xpos ypos target := by
  simp only [hits, hattacker, htarget]

/-- What the loop over some of the units does to each unit: those hit are
damaged, the attacker pays for each of them, and the others stay as they are. -/
structure Struck (attacker : UnitRef) (xpos ypos : Int) (refs : List UnitRef)
    (scene after : GameScene) : Prop where
  hit : ∀ ref ∈ refs, scene.hits attacker xpos ypos ref = true →
    (scene.units.get ref).takeDamage (scene.units.get attacker) = .ok (after.units.get ref)
  miss : ∀ ref, ref ≠ attacker → (ref ∉ refs ∨ scene.hits attacker xpos ypos ref = false) →
    after.units.get ref = scene.units.get ref
  spent : after.units.get attacker = (scene.units.get attacker).reduceActionPoints
    (2 * (refs.filter (scene.hits attacker xpos ypos)).length)

theorem struck_nil (scene : GameScene) : Struck attacker xpos ypos [] scene scene := by
  constructor
  · intro ref href
    cases href
  · intro ref _ _
    rfl
  · simp [GameUnit.reduceActionPoints]

theorem Struck.cons_miss {target : UnitRef} {refs : List UnitRef}
    (hfirst : scene.hits attacker xpos ypos target = false)
    (h : Struck attacker xpos ypos refs scene after) :
    Struck attacker xpos ypos (target :: refs) scene after := by
  constructor
  · intro ref href hhits
    rcases List.mem_cons.mp href with rfl | href
    · rw [hfirst] at hhits
      cases hhits
    · exact h.hit ref href hhits
  · intro ref hne hout
    apply h.miss ref hne
    exact hout.imp_left fun hnew href => hnew (List.mem_cons_of_mem _ href)
  · rw [h.spent, List.filter_cons_of_neg (by simp [hfirst])]

theorem Struck.cons_hit {target : UnitRef} {refs : List UnitRef} {next : GameScene}
    (hfresh : target ∉ refs) (hfirst : scene.hits attacker xpos ypos target = true)
    (hstep : scene.strike attacker xpos ypos target = .ok next)
    (h : Struck attacker xpos ypos refs next after) :
    Struck attacker xpos ypos (target :: refs) scene after := by
  obtain ⟨hdamage, hattacker, hothers⟩ := strike_hit hfirst hstep
  have hne := ne_of_hits hfirst
  have hkind : (next.units.get attacker).isEnemy = (scene.units.get attacker).isEnemy := by
    rw [hattacker]
    rfl
  have hsame (ref : UnitRef) (href : ref ∈ refs) (hself : ref ≠ attacker) :
      next.units.get ref = scene.units.get ref := by
    apply hothers ref _ hself
    rintro rfl
    exact hfresh href
  have hlater (ref : UnitRef) (href : ref ∈ refs) :
      next.hits attacker xpos ypos ref = scene.hits attacker xpos ypos ref := by
    by_cases hself : ref = attacker
    · subst hself
      simp [hits]
    · exact hits_congr hkind (hsame ref href hself)
  constructor
  · intro ref href hhits
    rcases List.mem_cons.mp href with rfl | href
    · rw [hdamage, h.miss ref hne (Or.inl hfresh)]
    · rw [← h.hit ref href (by rw [hlater ref href, hhits]), hsame ref href (ne_of_hits hhits)]
      apply GameUnit.takeDamage_congr
      · rw [hattacker]
        rfl
      · rw [hattacker]
        rfl
  · intro ref hself hout
    have htarget : ref ≠ target := by
      rintro rfl
      rcases hout with hout | hout
      · exact hout List.mem_cons_self
      · rw [hfirst] at hout
        cases hout
    have hkept := hothers ref htarget hself
    rw [← hkept]
    apply h.miss ref hself
    rcases hout with hout | hout
    · exact Or.inl fun href => hout (List.mem_cons_of_mem _ href)
    · right
      rw [hits_congr hkind hkept, hout]
  · have hfilter : refs.filter (next.hits attacker xpos ypos) =
        refs.filter (scene.hits attacker xpos ypos) := List.filter_congr hlater
    rw [h.spent, hfilter, hattacker, List.filter_cons_of_pos hfirst, List.length_cons]
    simp only [GameUnit.reduceActionPoints]
    congr 1
    push_cast
    ring

theorem strikes_struck {refs : List UnitRef} (hnodup : refs.Nodup)
    (h : refs.foldlM (strike attacker xpos ypos) scene = .ok after) :
    Struck attacker xpos ypos refs scene after := by
  induction refs generalizing scene with
  | nil =>
      rw [← Except.ok.inj h]
      exact struck_nil scene
  | cons target refs ih =>
      obtain ⟨hfresh, hnodup⟩ := List.nodup_cons.mp hnodup
      rw [List.foldlM_cons] at h
      obtain ⟨next, hstep, h⟩ := bind_eq_ok h
      cases hfirst : scene.hits attacker xpos ypos target with
      | false =>
          obtain rfl := Except.ok.inj ((strike_miss hfirst).symm.trans hstep)
          exact (ih hnodup h).cons_miss hfirst
      | true => exact (ih hnodup h).cons_hit hfresh hfirst hstep

theorem nodup_all : UnitRef.all.Nodup := by decide

/-- What an attack does to each unit: those hit are damaged, the attacker pays
for each of them, and the others stay as they are. -/
theorem attackingOtherUnit_get (h : scene.attackingOtherUnit attacker xpos ypos = .ok after) :
    (∀ ref, scene.hits attacker xpos ypos ref = true →
      (scene.units.get ref).takeDamage (scene.units.get attacker) = .ok (after.units.get ref)) ∧
    (∀ ref, ref ≠ attacker → scene.hits attacker xpos ypos ref = false →
      after.units.get ref = scene.units.get ref) ∧
    after.units.get attacker = (scene.units.get attacker).reduceActionPoints
      (2 * (scene.targets attacker xpos ypos).length) := by
  rw [attackingOtherUnit_eq] at h
  have hstruck := strikes_struck nodup_all h
  refine ⟨?_, ?_, hstruck.spent⟩
  · intro ref
    exact hstruck.hit ref (UnitRef.mem_all ref)
  · intro ref hne hout
    exact hstruck.miss ref hne (Or.inr hout)

/-- An attack that hits nobody changes nothing. -/
theorem attackingOtherUnit_miss (h : scene.targets attacker xpos ypos = []) :
    scene.attackingOtherUnit attacker xpos ypos = .ok scene := by
  have hnone (ref : UnitRef) : scene.hits attacker xpos ypos ref = false := by
    have hout := List.filter_eq_nil_iff.mp h ref (UnitRef.mem_all ref)
    simpa using hout
  have hfold (refs : List UnitRef) :
      refs.foldlM (strike attacker xpos ypos) scene = .ok scene := by
    induction refs with
    | nil => rfl
    | cons ref refs ih =>
        rw [List.foldlM_cons, strike_miss (hnone ref)]
        exact ih
  rw [attackingOtherUnit_eq]
  exact hfold UnitRef.all

theorem attackSide_none {chain : List UnitRef}
    (h : chain.find? (scene.canAttack xpos ypos) = none) :
    scene.attackSide chain xpos ypos = .ok scene := by
  unfold attackSide attackFirst
  rw [h]
  split <;> rfl

theorem attackSide_some {chain : List UnitRef}
    (h : chain.find? (scene.canAttack xpos ypos) = some attacker) :
    scene.attackSide chain xpos ypos = scene.attackingOtherUnit attacker xpos ypos := by
  have hselected : scene.anySelected chain = true := by
    rw [anySelected, List.any_eq_true]
    exact ⟨attacker, List.mem_of_find?_eq_some h,
      (select_of_canAttack (List.find?_some h)).1⟩
  rw [attackSide, if_pos hselected, attackFirst, h]

/-- With one unit selected at most, one attack is the most a click makes. -/
theorem attackClickedUnit_cases
    (hsingle : ∀ ref ref',
      scene.select.get ref = true → scene.select.get ref' = true → ref = ref') :
    (∃ attacker, scene.AcceptsAttack attacker xpos ypos ∧
      scene.attackClickedUnit xpos ypos = scene.attackingOtherUnit attacker xpos ypos) ∨
    ((∀ attacker, ¬ scene.AcceptsAttack attacker xpos ypos) ∧
      scene.attackClickedUnit xpos ypos = .ok scene) := by
  by_cases htarget : scene.spriteOnTarget xpos ypos = true
  · have hsame {next : GameScene} (honly : OnlyUnits scene next) (ref other : UnitRef)
        (href : scene.select.get ref = true) (hother : next.canAttack xpos ypos other = true) :
        other = ref := by
      apply hsingle other ref _ href
      have hselect := (select_of_canAttack hother).1
      rw [honly] at hselect
      exact hselect
    simp only [GameScene.attackClickedUnit, if_pos htarget]
    cases henemy : enemyChain.find? (scene.canAttack xpos ypos) with
    | some attacker =>
        left
        have hmem := List.mem_of_find?_eq_some henemy
        refine ⟨attacker, ⟨htarget, by rw [sideChain_of_enemy hmem, henemy]⟩, ?_⟩
        rw [attackSide_some henemy]
        cases hattack : scene.attackingOtherUnit attacker xpos ypos with
        | error fault => rfl
        | ok next =>
            have honly : OnlyUnits scene next := by
              have hside : scene.attackSide enemyChain xpos ypos = .ok next := by
                rw [attackSide_some henemy, hattack]
              exact onlyUnits_attackSide hside
            have hnone : allyChain.find? (next.canAttack xpos ypos) = none := by
              apply List.find?_eq_none.mpr
              intro ally hally hcan
              have hselect := (select_of_canAttack (List.find?_some henemy)).1
              obtain rfl := hsame honly attacker ally hselect hcan
              exact not_mem_both hmem hally
            exact attackSide_none hnone
    | none =>
        rw [attackSide_none henemy]
        change _ ∨ (_ ∧ scene.attackSide allyChain xpos ypos = _)
        cases hally : allyChain.find? (scene.canAttack xpos ypos) with
        | some attacker =>
            left
            have hmem := List.mem_of_find?_eq_some hally
            exact ⟨attacker, ⟨htarget, by rw [sideChain_of_ally hmem, hally]⟩,
              attackSide_some hally⟩
        | none =>
            right
            refine ⟨?_, attackSide_none hally⟩
            rintro attacker ⟨-, hfind⟩
            rcases mem_chains attacker with hmem | hmem
            · rw [sideChain_of_enemy hmem, henemy] at hfind
              cases hfind
            · rw [sideChain_of_ally hmem, hally] at hfind
              cases hfind
  · right
    refine ⟨fun attacker haccept => htarget haccept.1, ?_⟩
    simp only [GameScene.attackClickedUnit, if_neg htarget]

/-- Only a unit with a health of zero stands in the way of an attack. -/
theorem strikes_isOk {refs : List UnitRef} (hnodup : refs.Nodup)
    (hhealth : ∀ ref ∈ refs, scene.hits attacker xpos ypos ref = true →
      (scene.units.get ref).health ≠ 0) :
    ∃ after, refs.foldlM (strike attacker xpos ypos) scene = .ok after := by
  induction refs generalizing scene with
  | nil => exact ⟨scene, rfl⟩
  | cons target refs ih =>
      obtain ⟨hfresh, hnodup⟩ := List.nodup_cons.mp hnodup
      rw [List.foldlM_cons]
      cases hfirst : scene.hits attacker xpos ypos target with
      | false =>
          rw [strike_miss hfirst]
          exact ih hnodup fun ref href => hhealth ref (List.mem_cons_of_mem _ href)
      | true =>
          obtain ⟨hurt, hdamage⟩ := (GameUnit.takeDamage_isOk _ (scene.units.get attacker)).mpr
            (hhealth target List.mem_cons_self hfirst)
          have hstep : ∃ next, scene.strike attacker xpos ypos target = .ok next := by
            simp only [hits] at hfirst
            simp only [strike, hfirst, if_true, hdamage]
            exact ⟨_, rfl⟩
          obtain ⟨next, hstep⟩ := hstep
          obtain ⟨-, hattacker, hothers⟩ := strike_hit hfirst hstep
          rw [hstep]
          apply ih hnodup
          intro ref href hhits
          have hself := ne_of_hits hhits
          have hsame : next.units.get ref = scene.units.get ref := by
            apply hothers ref _ hself
            rintro rfl
            exact hfresh href
          have hkind : (next.units.get attacker).isEnemy = (scene.units.get attacker).isEnemy := by
            rw [hattacker]
            rfl
          rw [hits_congr hkind hsame] at hhits
          rw [hsame]
          exact hhealth ref (List.mem_cons_of_mem _ href) hhits

theorem attackingOtherUnit_isOk
    (hhealth : ∀ ref ∈ scene.targets attacker xpos ypos, (scene.units.get ref).health ≠ 0) :
    ∃ after, scene.attackingOtherUnit attacker xpos ypos = .ok after := by
  rw [attackingOtherUnit_eq]
  apply strikes_isOk nodup_all
  intro ref _ hhits
  exact hhealth ref (List.mem_filter.mpr ⟨UnitRef.mem_all ref, hhits⟩)

/-- One side makes one attack at most. -/
theorem attackSide_cases {chain : List UnitRef}
    (h : scene.attackSide chain xpos ypos = .ok after) :
    after = scene ∨ ∃ attacker, scene.canAttack xpos ypos attacker = true ∧
      scene.attackingOtherUnit attacker xpos ypos = .ok after := by
  cases hfind : chain.find? (scene.canAttack xpos ypos) with
  | none =>
      rw [attackSide_none hfind] at h
      exact Or.inl (Except.ok.inj h).symm
  | some attacker =>
      rw [attackSide_some hfind] at h
      exact Or.inr ⟨attacker, List.find?_some hfind, h⟩

end Attacks

section Clicks

theorem setSelected_rest (xpos ypos : Int) (scene : GameScene) :
    scene.setSelected xpos ypos =
      { scene with select := (scene.setSelected xpos ypos).select } := by
  have hside (p : Prop) [Decidable p] (chain refs : List UnitRef) (scene : GameScene) :
      (if p then refs.foldl (toggleSelect chain xpos ypos) scene else scene) = { scene with
        select := (if p then refs.foldl (toggleSelect chain xpos ypos) scene
          else scene).select } := by
    split
    · exact toggles_rest chain refs xpos ypos scene
    · rfl
  unfold setSelected
  rw [hside, hside]

/-- A property of the single units that the end of a turn, a move and an
attack keep is kept by every click. -/
theorem clickHandler_units {U : UnitRef → GameUnit → Prop} {scene after : GameScene}
    {undefinedReturn : Bool} {xpos ypos : Int}
    (hended : ∀ ref unit, U ref unit → U ref unit.resetActionPoints.clearChanged)
    (hmove : scene.isOpen = true → ∀ ref, scene.AcceptsMove ref xpos ypos →
      U ref (scene.units.get ref) → U ref ((scene.units.get ref).moved
        (scene.gridSnapping xpos ypos (scene.units.get ref).objectSprite)))
    (hattack : ∀ (scene next : GameScene) attacker, (∀ ref, U ref (scene.units.get ref)) →
      scene.canAttack xpos ypos attacker = true →
      scene.attackingOtherUnit attacker xpos ypos = .ok next → ∀ ref, U ref (next.units.get ref))
    (hunits : ∀ ref, U ref (scene.units.get ref))
    (h : scene.clickHandler undefinedReturn xpos ypos = .ok after) (ref : UnitRef) :
    U ref (after.units.get ref) := by
  unfold clickHandler at h
  split at h
  · rename_i hopen
    unfold nextTurnPressed at h
    split at h
    · rename_i hbutton
      rw [← Except.ok.inj ((afterButton hbutton.1 xpos ypos).symm.trans h), endTurn_eq]
      simpa using hended ref _ (hunits ref)
    · have hmoved (ref : UnitRef) : U ref ((scene.placeUnitAtClick xpos ypos).units.get ref) := by
        rw [placeUnitAtClick_get]
        split
        · exact hmove hopen ref ‹_› (hunits ref)
        · exact hunits ref
      have hside {scene next : GameScene} {chain : List UnitRef}
          (hunits : ∀ ref, U ref (scene.units.get ref))
          (hnext : scene.attackSide chain xpos ypos = .ok next) (ref : UnitRef) :
          U ref (next.units.get ref) := by
        rcases attackSide_cases hnext with rfl | ⟨attacker, hcan, hnext⟩
        · exact hunits ref
        · exact hattack scene next attacker hunits hcan hnext ref
      obtain ⟨next, hnext, h⟩ := bind_eq_ok h
      rw [← Except.ok.inj h, setSelected_rest]
      unfold attackClickedUnit at hnext
      split at hnext
      · obtain ⟨first, hfirst, hnext⟩ := bind_eq_ok hnext
        exact hside (hside hmoved hfirst) hnext ref
      · rw [← Except.ok.inj hnext]
        exact hmoved ref
  · rw [← Except.ok.inj h]
    exact hunits ref

end Clicks

end GameScene

end NetworkingGame
