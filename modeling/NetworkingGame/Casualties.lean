import NetworkingGame.ActionPoints
import NetworkingGame.Damage
import NetworkingGame.DuelRules

/-!
Units with nobody left. No guard of a move or an attack asks whether a unit is
dead: it is only that a frame parks it where no click reaches it. A kill that
has arrived with a turn is on the board before that frame, and the unit can be
selected until then.
-/

namespace NetworkingGame

open Library.Binary32 Library.Transition

namespace GameScene

/-- A click calls `movingUnit` or `attackingOtherUnit` for the unit, on the
scene `during`. -/
inductive Acts (scene : GameScene) (undefinedReturn : Bool) (xpos ypos : Int) (ref : UnitRef) :
    GameScene → Prop
  | moves (hopen : scene.isOpen = true)
      (haccept : (scene.nextTurnPressed undefinedReturn xpos ypos).AcceptsMove ref xpos ypos) :
      Acts scene undefinedReturn xpos ypos ref (scene.nextTurnPressed undefinedReturn xpos ypos)
  | attacksFirst (during : GameScene) (hopen : scene.isOpen = true)
      (hduring : during =
        (scene.nextTurnPressed undefinedReturn xpos ypos).placeUnitAtClick xpos ypos)
      (htarget : during.spriteOnTarget xpos ypos = true)
      (hfind : enemyChain.find? (during.canAttack xpos ypos) = some ref) :
      Acts scene undefinedReturn xpos ypos ref during
  | attacksSecond (first during : GameScene) (hopen : scene.isOpen = true)
      (hfirst : first =
        (scene.nextTurnPressed undefinedReturn xpos ypos).placeUnitAtClick xpos ypos)
      (htarget : first.spriteOnTarget xpos ypos = true)
      (hduring : first.attackSide enemyChain xpos ypos = .ok during)
      (hfind : allyChain.find? (during.canAttack xpos ypos) = some ref) :
      Acts scene undefinedReturn xpos ypos ref during

/-- In the player's turn, the click is not on a unit of the player's own that
has nobody left. -/
def SparesFallen (scene : GameScene) (xpos ypos : Int) : Prop :=
  scene.isOpen = true → scene.playerTurn = scene.assignedTeam → ∀ ref,
    ref.team = scene.assignedTeam →
    mouseOnSprite xpos ypos (scene.units.get ref).objectSprite = true →
    0 < (scene.units.get ref).squadSize

instance (scene : GameScene) (xpos ypos : Int) : Decidable (scene.SparesFallen xpos ypos) :=
  inferInstanceAs (Decidable (_ → _ → ∀ _ : UnitRef, _ → _ → _))

/-- A unit that is selected has somebody left. -/
structure Mustered (scene : GameScene) : Prop where
  disciplined : scene.Disciplined
  living : ∀ ref, scene.select.get ref = true → 0 < (scene.units.get ref).squadSize

section Selecting

variable {scene : GameScene} {xpos ypos : Int} {ref : UnitRef}

theorem select_toggleSelect {chain : List UnitRef} {other : UnitRef}
    (h : (toggleSelect chain xpos ypos scene other).select.get ref = true) :
    scene.select.get ref = true ∨
      (ref = other ∧ mouseOnSprite xpos ypos (scene.units.get ref).objectSprite = true) := by
  unfold toggleSelect at h
  split at h
  · rename_i hon
    by_cases heq : ref = other
    · subst heq
      exact Or.inr ⟨rfl, hon⟩
    · left
      split at h
      · simpa [Roster.get_set_ne _ heq] using h
      · simp only [Roster.get_set_ne _ heq, get_foldl_clear] at h
        split at h
        · cases h
        · exact h
  · exact Or.inl h

theorem select_toggles {chain refs : List UnitRef}
    (h : (refs.foldl (toggleSelect chain xpos ypos) scene).select.get ref = true) :
    scene.select.get ref = true ∨
      (ref ∈ refs ∧ mouseOnSprite xpos ypos (scene.units.get ref).objectSprite = true) := by
  induction refs generalizing scene with
  | nil => exact Or.inl h
  | cons other refs ih =>
      have hunits : (toggleSelect chain xpos ypos scene other).units = scene.units := by
        have hrest := toggles_rest chain [other] xpos ypos scene
        rw [List.foldl_cons, List.foldl_nil] at hrest
        rw [hrest]
      rcases ih h with hbefore | ⟨hmem, hon⟩
      · rcases select_toggleSelect hbefore with hbefore | ⟨rfl, hon⟩
        · exact Or.inl hbefore
        · exact Or.inr ⟨List.mem_cons_self, hon⟩
      · rw [hunits] at hon
        exact Or.inr ⟨List.mem_cons_of_mem other hmem, hon⟩

/-- A flag that is set after a click was set before, or is one of the player's
own units under it. -/
theorem select_setSelected (h : (scene.setSelected xpos ypos).select.get ref = true) :
    scene.select.get ref = true ∨ (scene.playerTurn = scene.assignedTeam ∧
      ref.team = scene.assignedTeam ∧
      mouseOnSprite xpos ypos (scene.units.get ref).objectSprite = true) := by
  have hrefs (ref : UnitRef) (hmem : ref ∈ [.infantryEnemy, .tankEnemy, .sniperEnemy,
      .artilleryEnemy]) : ref.team = .player1 := by
    cases ref <;> simp [UnitRef.team] at hmem ⊢
  have hrefs' (ref : UnitRef) (hmem : ref ∈ [.infantryAlly, .tankAlly, .sniperAlly,
      .artilleryAlly]) : ref.team = .player2 := by
    cases ref <;> simp [UnitRef.team] at hmem ⊢
  unfold setSelected at h
  by_cases hfirst : scene.assignedTeam = .player1 ∧ scene.playerTurn = .player1
  · rw [if_pos hfirst] at h
    have hrest := toggles_rest enemyChain
      [.infantryEnemy, .tankEnemy, .sniperEnemy, .artilleryEnemy] xpos ypos scene
    rw [if_neg (by rw [hrest]; simp [hfirst.1])] at h
    rcases select_toggles h with h | ⟨hmem, hon⟩
    · exact Or.inl h
    · exact Or.inr ⟨hfirst.2.trans hfirst.1.symm, (hrefs ref hmem).trans hfirst.1.symm, hon⟩
  · rw [if_neg hfirst] at h
    dsimp only at h
    split at h
    · rename_i hsecond
      rcases select_toggles h with h | ⟨hmem, hon⟩
      · exact Or.inl h
      · exact Or.inr ⟨hsecond.2.trans hsecond.1.symm, (hrefs' ref hmem).trans hsecond.1.symm, hon⟩
    · exact Or.inl h

end Selecting

section Acting

variable {scene during : GameScene} {undefinedReturn : Bool} {xpos ypos : Int} {ref : UnitRef}

theorem placeUnitAtClick_squadSize (scene : GameScene) (ref : UnitRef) (xpos ypos : Int) :
    ((scene.placeUnitAtClick xpos ypos).units.get ref).squadSize =
      (scene.units.get ref).squadSize := by
  rw [placeUnitAtClick_get]
  split <;> rfl

theorem Acts.pressed (h : scene.Acts undefinedReturn xpos ypos ref during) :
    (scene.nextTurnPressed undefinedReturn xpos ypos).select.get ref = true := by
  cases h with
  | moves _ haccept => exact (select_of_canMove haccept.canMove).1
  | attacksFirst _ _ hduring _ hfind =>
      have hselect := (select_of_canAttack (List.find?_some hfind)).1
      rw [hduring, select_placeUnitAtClick] at hselect
      exact hselect
  | attacksSecond first _ _ hfirst _ hduring hfind =>
      have hselect := (select_of_canAttack (List.find?_some hfind)).1
      rw [onlyUnits_attackSide hduring, hfirst] at hselect
      rw [← @select_placeUnitAtClick _ xpos ypos]
      exact hselect

/-- Who acts is selected, and has lost nobody in the course of the click. -/
theorem Acts.selected (hchosen : scene.Chosen)
    (h : scene.Acts undefinedReturn xpos ypos ref during) :
    scene.select.get ref = true ∧
      (during.units.get ref).squadSize = (scene.units.get ref).squadSize := by
  have hselect := h.pressed
  by_cases hends : scene.playerTurn = scene.assignedTeam ∧ mouseOnSprite xpos ypos nextTurnButton
  · rw [nextTurnPressed, if_pos hends, endTurn_eq, Roster.get_fill] at hselect
    cases hselect
  · have hpressed : scene.nextTurnPressed undefinedReturn xpos ypos = scene := by
      rw [nextTurnPressed, if_neg hends]
    rw [hpressed] at hselect
    refine ⟨hselect, ?_⟩
    cases h with
    | moves => rw [hpressed]
    | attacksFirst _ _ hduring =>
        rw [hduring, hpressed]
        exact placeUnitAtClick_squadSize scene ref xpos ypos
    | attacksSecond first _ _ hfirst _ hduring =>
        rw [hpressed] at hfirst
        rw [← placeUnitAtClick_squadSize scene ref xpos ypos, ← hfirst]
        rcases attackSide_cases hduring with rfl | ⟨attacker, hcan, hattack⟩
        · rfl
        · have hattacker := (select_of_canAttack hcan).1
          rw [hfirst, select_placeUnitAtClick] at hattacker
          obtain rfl := hchosen.single _ _ hattacker hselect
          rw [(attackingOtherUnit_get hattack).2.2]
          rfl

end Acting

section Declining

variable {scene after : GameScene} {undefinedReturn : Bool} {xpos ypos : Int}

/-- Blows of a unit with somebody left only ever make a squad smaller. -/
theorem takeDamage_squadSize {unit damageDealer hurt : GameUnit}
    (h : unit.takeDamage damageDealer = .ok hurt) (hhealth : 0 < unit.health)
    (harmour : unit.armour.tdiv 100 = 0) (hattack : 0 ≤ damageDealer.attack)
    (hsquad : 0 ≤ damageDealer.squadSize) : hurt.squadSize ≤ unit.squadSize := by
  have hraw : 0 ≤ damageDealer.rawDamage := mul_nonneg hattack hsquad
  have hdamage : 0 ≤ unit.damageTaken .binary32 damageDealer := by
    rw [GameUnit.damageTaken_of_tdiv _ harmour]
    exact GameUnit.store_nonneg hraw
  have hhealth' : 1 ≤ unit.health := by omega
  have htaken := GameUnit.takeDamageBy_eq hhealth' hdamage
  rw [GameUnit.takeDamageBy_binary32, h] at htaken
  rw [Except.ok.inj htaken]
  exact (unit.squad hhealth').size_hit_le hdamage

theorem attackingOtherUnit_squadSize {attacker : UnitRef}
    (hkept : ∀ ref, (scene.units.get ref).Kept ref)
    (hsquad : 0 ≤ (scene.units.get attacker).squadSize)
    (h : scene.attackingOtherUnit attacker xpos ypos = .ok after) (ref : UnitRef) :
    (after.units.get ref).squadSize ≤ (scene.units.get ref).squadSize := by
  obtain ⟨hhit, hmiss, hspent⟩ := attackingOtherUnit_get h
  by_cases hattacker : ref = attacker
  · rw [hattacker, hspent]
    exact le_refl _
  · cases hhits : scene.hits attacker xpos ypos ref with
    | false =>
        rw [hmiss ref hattacker hhits]
    | true =>
        exact takeDamage_squadSize (hhit ref hhits) (hkept ref).health (hkept ref).armour
          (hkept attacker).attack hsquad

/-- An attack leaves the squads of the attacker's side alone. -/
theorem attackingOtherUnit_own {attacker : UnitRef}
    (hkept : ∀ ref, (scene.units.get ref).Kept ref)
    (h : scene.attackingOtherUnit attacker xpos ypos = .ok after) {ref : UnitRef}
    (hteam : ref.team = attacker.team) :
    (after.units.get ref).squadSize = (scene.units.get ref).squadSize ∧
      (after.units.get ref).objectSprite = (scene.units.get ref).objectSprite := by
  obtain ⟨-, hmiss, hspent⟩ := attackingOtherUnit_get h
  by_cases hattacker : ref = attacker
  · rw [hattacker, hspent]
    exact ⟨rfl, rfl⟩
  · rw [hmiss ref hattacker]
    · exact ⟨rfl, rfl⟩
    · apply Bool.eq_false_of_not_eq_true
      intro hhits
      exact opposing_of_hits hkept hhits hteam

theorem Disciplined.chosen (h : scene.Disciplined) : scene.Chosen := ⟨h.single, h.own⟩

/-- A click makes no squad larger. -/
theorem Mustered.squadSize (h : scene.Mustered) (hkept : ∀ ref, (scene.units.get ref).Kept ref)
    (hclick : scene.clickHandler undefinedReturn xpos ypos = .ok after) (ref : UnitRef) :
    (after.units.get ref).squadSize ≤ (scene.units.get ref).squadSize := by
  cases h.disciplined.chosen.handled hclick with
  | closed => exact le_refl _
  | ended undefinedReturn =>
      rw [endTurn_eq]
      simp [GameUnit.resetActionPoints, GameUnit.clearChanged]
  | moved =>
      rw [setSelected_rest]
      exact (placeUnitAtClick_squadSize scene ref xpos ypos).le
  | attacked attacker next _ _ haccept hnext =>
      rw [setSelected_rest]
      have hliving := h.living attacker (select_of_canAttack haccept.canAttack).1
      exact attackingOtherUnit_squadSize hkept hliving.le hnext ref
  | selected =>
      rw [setSelected_rest]

/-- A click that spares the fallen selects none of them. -/
theorem Mustered.click (h : scene.Mustered) (hkept : ∀ ref, (scene.units.get ref).Kept ref)
    (hspares : scene.SparesFallen xpos ypos)
    (hclick : scene.clickHandler undefinedReturn xpos ypos = .ok after) : after.Mustered := by
  refine ⟨h.disciplined.clickHandler hclick, ?_⟩
  intro ref hselected
  -- what a unit that is selected once the click has been handled was before
  have hearlier {next : GameScene} (honly : OnlyUnits scene next)
      (hnext : (next.setSelected xpos ypos).select.get ref = true) :
      scene.select.get ref = true ∨ (scene.playerTurn = scene.assignedTeam ∧
        ref.team = scene.assignedTeam ∧
        mouseOnSprite xpos ypos (next.units.get ref).objectSprite = true) := by
    rcases select_setSelected hnext with hselect | ⟨hturn, hteam, hon⟩
    · rw [honly] at hselect
      exact Or.inl hselect
    · rw [honly] at hturn hteam
      exact Or.inr ⟨hturn, hteam, hon⟩
  cases h.disciplined.chosen.handled hclick with
  | closed => exact h.living ref hselected
  | ended undefinedReturn =>
      rw [endTurn_eq, Roster.get_fill] at hselected
      cases hselected
  | moved mover hopen _ haccept =>
      have hliving : 0 < (scene.units.get ref).squadSize := by
        rcases hearlier (onlyUnits_placeUnitAtClick xpos ypos scene) hselected with
          hselect | ⟨hturn, hteam, hon⟩
        · exact h.living ref hselect
        · rw [placeUnitAtClick_get] at hon
          split at hon
          · rename_i haccept'
            exact h.living ref (select_of_canMove haccept'.canMove).1
          · exact hspares hopen hturn ref hteam hon
      rw [setSelected_rest]
      change 0 < ((scene.placeUnitAtClick xpos ypos).units.get ref).squadSize
      rw [placeUnitAtClick_squadSize]
      exact hliving
  | attacked attacker next hopen _ haccept hnext =>
      have hselect := (select_of_canAttack haccept.canAttack).1
      have hown := h.disciplined.own attacker hselect
      have honly := onlyUnits_attackingOtherUnit hnext
      have hteam : ref.team = attacker.team := by
        rcases hearlier honly hselected with hselect | ⟨-, hteam, -⟩
        · rw [hown, h.disciplined.own ref hselect]
        · rw [hown, hteam]
      obtain ⟨hsame, hsprite⟩ := attackingOtherUnit_own hkept hnext hteam
      rw [setSelected_rest]
      change 0 < (next.units.get ref).squadSize
      rw [hsame]
      rcases hearlier honly hselected with hselect | ⟨hturn, hteam, hon⟩
      · exact h.living ref hselect
      · rw [hsprite] at hon
        exact hspares hopen hturn ref hteam hon
  | selected hopen =>
      rw [setSelected_rest]
      have honly : OnlyUnits scene scene := rfl
      rcases hearlier honly hselected with hselect | ⟨hturn, hteam, hon⟩
      · exact h.living ref hselect
      · exact hspares hopen hturn ref hteam hon

end Declining

end GameScene

/-- No squad is larger afterwards. -/
def Board.Declines (before after : Board) : Prop :=
  ∀ ref, (after.get ref).squadSize ≤ (before.get ref).squadSize

namespace Conn

/-- A click that spares the fallen, in a scene whose units are kept. -/
def Spares (x : Conn) (event : LocalEvent) : Prop :=
  x.ClickMeets GameScene.SparesFallen event ∧ ∀ ref, (x.scene.units.get ref).Kept ref

section Steps

variable {label : PlayerTurn} {x x' : Conn} {event : LocalEvent}

theorem board_squadSize (scene : GameScene) (ref : UnitRef) :
    (scene.board.get ref).squadSize = (scene.units.get ref).squadSize := by
  simp [GameScene.board, GameUnit.view, GameUnit.viewAt]

/-- Squads only change in the hands of the other player while nobody is
selected. -/
theorem mustered_step (hlabel : label ≠ .none) (hside : Side label x) (h : x.scene.Mustered)
    (hspares : x.Spares event) (hstep : x.step event = some x') : x'.scene.Mustered := by
  have hdisciplined := disciplined_step h.disciplined hside.notReconnecting hstep
  refine ⟨hdisciplined, ?_⟩
  intro ref hselected
  cases hside.sideStep hlabel hstep with
  | clicked undefinedReturn xpos ypos scene hclick =>
      exact (h.click hspares.2 hspares.1 hclick).living ref hselected
  | drained _ hdrained =>
      rw [hdrained.select] at hselected
      have hturn := h.disciplined.turn ref hselected
      rw [hdrained.awaits hlabel hside] at hturn
      rcases hside.team with hteam | hteam
      · rw [hteam] at hturn
        exact absurd hturn (otherTurn_ne_none hlabel)
      · rw [hteam] at hturn
        exact absurd hturn.symm (label_ne_otherTurn hlabel)
  | quiet _ _ hquiet =>
      rw [hquiet.select] at hselected
      rw [← board_squadSize, hquiet.board, board_squadSize]
      exact h.living ref hselected

/-- The squads that the holder of the turn sees are never larger than those
that the other player sees. -/
theorem decline_rules : BoardRules Spares GameScene.Mustered
    (fun holder other => Board.Declines other holder) Board.Declines := by
  constructor
  · intro blank
    refine ⟨GameScene.disciplined_of_idle rfl, ?_⟩
    intro ref hselected
    simp [GameScene.create] at hselected
  · exact fun blank ref => le_refl _
  · exact fun board ref => le_refl _
  · exact fun first second third h h' ref => (h' ref).trans (h ref)
  · exact fun label x event x' hlabel hside h hspares hstep =>
      mustered_step hlabel hside h hspares hstep
  · intro x undefinedReturn xpos ypos scene other h hspares hclick hless
    have hclicked : Board.Declines x.scene.board scene.board := by
      intro ref
      rw [board_squadSize, board_squadSize]
      exact h.squadSize hspares.2 hclick ref
    exact ⟨fun ref => (hclicked ref).trans (hless ref), hclicked⟩
  · intro board x x' msgs _ _ _ _ hshows hless
    have hread (ref : UnitRef) := Msg.foldl_onBoard_get hshows x.scene.board ref
    constructor
    · intro ref
      rw [hread ref]
      split
      · exact le_refl _
      · exact hless ref
    · intro ref
      rw [hread ref]
      split
      · exact hless ref
      · exact le_refl _

end Steps

end Conn

theorem kept_along {events : List SystemEvent} {Ok : Conn → LocalEvent → Prop}
    (h : Along System.step (System.ActsMeet Ok) System.initial events) :
    Along System.step (System.ActsMeet fun conn event =>
      Ok conn event ∧ ∀ ref, (conn.scene.units.get ref).Kept ref) System.initial events := by
  have hcarries : Along System.step (fun system event => System.ActsMeet Ok system event ∧
      ∀ conn ∈ system.conns, conn.Carries fun ref unit => unit.Kept ref) System.initial events := by
    apply along_and _ h
    · intro conn hconn
      cases hconn
    · intro system event after hall hok hstep
      apply kept_invariant.client.step hall _ hstep
      apply hok.mono
      intro conn _ own _
      cases own <;> trivial
  apply hcarries.mono
  rintro system event ⟨hok, hall⟩
  apply hok.mono
  intro conn hconn own hown
  exact ⟨hown, (hall conn hconn).units⟩

/-- In a run whose clicks spare the fallen, no unit with nobody left is ever
moved or lets attack, and on either client a unit that has nobody left has
nobody left for the rest of the game. -/
theorem fallen_rest {played rest : List SystemEvent} {system later : System} {a b a' b' : Conn}
    (hplayed : exec System.step System.initial played = some system)
    (hrest : exec System.step system rest = some later) (hconns : system.conns = [a, b])
    (hstays : ∀ event ∈ rest, event.stays = true) (hstarted : StartedPair later a' b')
    (hspares : Along System.step (System.ActsMeet (Conn.ClickMeets GameScene.SparesFallen))
      System.initial (played ++ rest)) :
    (∀ conn ∈ later.conns, ∀ undefinedReturn xpos ypos ref during,
      conn.scene.Acts undefinedReturn xpos ypos ref during →
        0 < (during.units.get ref).squadSize) ∧
    (∀ ref, (a.scene.units.get ref).squadSize ≤ 0 → (a'.scene.units.get ref).squadSize ≤ 0) ∧
    ∀ ref, (b.scene.units.get ref).squadSize ≤ 0 → (b'.scene.units.get ref).squadSize ≤ 0 := by
  obtain ⟨hmatch, hfirst, hsecond⟩ :=
    match_rest Conn.decline_rules hplayed hrest hconns hstays hstarted (kept_along hspares)
  refine ⟨?_, ?_, ?_⟩
  · intro conn hconn undefinedReturn xpos ypos ref during hacts
    have hmustered : conn.scene.Mustered := by
      rw [hstarted.conns] at hconn
      simp only [List.mem_cons, List.not_mem_nil, or_false] at hconn
      rcases hconn with rfl | rfl
      · exact hmatch.first
      · exact hmatch.second
    obtain ⟨hselected, hsame⟩ := hacts.selected hmustered.disciplined.chosen
    rw [hsame]
    exact hmustered.living ref hselected
  · intro ref hfallen
    have hless := hfirst ref
    rw [Conn.board_squadSize, Conn.board_squadSize] at hless
    exact hless.trans hfallen
  · intro ref hfallen
    have hless := hsecond ref
    rw [Conn.board_squadSize, Conn.board_squadSize] at hless
    exact hless.trans hfallen

/-- The first player brings the infantry up to the snipers in two turns, and
passes the turn on in the frame of the kill. -/
def killRun : List SystemEvent :=
  openingRun ++ [.act 0 (.click false 50 10), .act 0 (.click false 398 130), .act 0 .frame,
    .act 0 (.click false 638 130), .act 0 .frame, .act 0 (.click false 878 130),
    .act 0 (.click false 1200 650)] ++ exchange 0 2 ++
  [.act 1 (.click false 1200 650)] ++ exchange 1 1 ++
  [.act 0 (.click false 770 130), .act 0 (.click false 1118 130), .act 0 .frame,
    .act 0 (.click false 1130 130), .act 0 (.click false 1200 650)] ++ exchange 0 3

/-- The second player draws a frame before clicking where the snipers were. -/
def buryRun : List SystemEvent :=
  [.act 1 .frame, .act 1 (.click false 1130 130), .act 1 (.click false 1200 650)]

theorem fallen_rest_buried : ∃ system later a b a' b',
    exec System.step System.initial killRun = some system ∧ system.conns = [a, b] ∧
      exec System.step system buryRun = some later ∧ later.conns = [a', b'] ∧
      (b.scene.units.get .sniperAlly).squadSize = 0 ∧
        (b'.scene.units.get .sniperAlly).squadSize ≤ 0 := by
  obtain ⟨system, a, b, hrun, hconns, hfallen⟩ :=
    @exists_pair_of_check System.initial killRun
      (fun _ _ b => decide ((b.scene.units.get .sniperAlly).squadSize = 0)) (by decide +kernel)
  obtain ⟨later, a', b', hrun', hconns', hstarted⟩ :=
    @exists_pair_of_check System.initial (killRun ++ buryRun) (fun _ a b => startedCheck a b)
      (by decide +kernel)
  obtain ⟨middle, hmiddle, hrest⟩ := (exec_append _ _ _ _).mp hrun'
  obtain rfl := Option.some.inj (hmiddle.symm.trans hrun)
  have hzero := of_decide_eq_true hfallen
  refine ⟨middle, later, a, b, a', b', hrun, hconns, hrest, hconns', hzero, ?_⟩
  exact (fallen_rest hrun hrest hconns (by decide)
    (startedPair_of_check hrun' hconns' hstarted) (by decide +kernel)).2.2 .sniperAlly hzero.le

/-- Without that frame the second player selects the snipers, and may move
them. -/
theorem fallen_moves : ∃ system a b during,
    exec System.step System.initial (killRun ++ [.act 1 (.click false 1130 130)]) = some system ∧
      StartedPair system a b ∧ b.scene.Acts false 1010 20 .sniperAlly during ∧
        (during.units.get .sniperAlly).squadSize ≤ 0 := by
  obtain ⟨system, a, b, hrun, hconns, hcheck⟩ :=
    @exists_pair_of_check System.initial (killRun ++ [.act 1 (.click false 1130 130)])
      (fun _ a b => startedCheck a b && decide (b.scene.isOpen = true ∧
        (b.scene.nextTurnPressed false 1010 20).AcceptsMove .sniperAlly 1010 20 ∧
        ((b.scene.nextTurnPressed false 1010 20).units.get .sniperAlly).squadSize ≤ 0))
      (by decide +kernel)
  rw [Bool.and_eq_true, decide_eq_true_eq] at hcheck
  obtain ⟨hstarted, hopen, haccept, hfallen⟩ := hcheck
  exact ⟨system, a, b, _, hrun, startedPair_of_check hrun hconns hstarted,
    .moves hopen haccept, hfallen⟩

end NetworkingGame
