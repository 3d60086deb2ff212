import NetworkingGame.Casualties

/-!
Who stands where. A move asks whether the pixel that was clicked lies on a
sprite, and goes to the cell of the pixel: the two differ in the gaps between
the sprites and below the board, where all rows are the last one. A turn that
is read in parts may also put a unit where another one has not left yet.
-/

namespace NetworkingGame

open Library.Binary32 Library.Transition

namespace GameUnit

def SamePlace (unit other : GameUnit) : Prop :=
  unit.objectSprite.xPos = other.objectSprite.xPos ∧
    unit.objectSprite.yPos = other.objectSprite.yPos

instance (unit other : GameUnit) : Decidable (unit.SamePlace other) :=
  inferInstanceAs (Decidable (_ ∧ _))

end GameUnit

/-- The pixel belongs to the cell of the sprite: the sprite and the gap to the
next one, and for the last row all that is below. -/
def Sprite.InCell (sprite : Sprite) (xpos ypos : Int) : Prop :=
  (sprite.xPos.val ≤ xpos ∧ xpos < sprite.xPos.val + 120) ∧
    ((sprite.yPos.val ≤ ypos ∧ ypos < sprite.yPos.val + 120 ∧ ypos ≤ 603) ∨
      (sprite.yPos.val = 483 ∧ 603 < ypos))

instance (sprite : Sprite) (xpos ypos : Int) : Decidable (sprite.InCell xpos ypos) :=
  inferInstanceAs (Decidable ((_ ∧ _) ∧ (_ ∨ _)))

namespace GameScene

/-- No two units with somebody left have the same place. -/
def Apart (scene : GameScene) : Prop :=
  ∀ ref other, ref ≠ other → 0 < (scene.units.get ref).squadSize →
    0 < (scene.units.get other).squadSize →
    ¬ (scene.units.get ref).SamePlace (scene.units.get other)

/-- A click that moves a unit with somebody left is not in the cell of another
one. -/
def MovesApart (scene : GameScene) (xpos ypos : Int) : Prop :=
  scene.isOpen = true → ¬ scene.EndsTurn xpos ypos → ∀ ref, scene.AcceptsMove ref xpos ypos →
    0 < (scene.units.get ref).squadSize → ∀ other, other ≠ ref →
    0 < (scene.units.get other).squadSize →
    ¬ (scene.units.get other).objectSprite.InCell xpos ypos

/-- An attack of a unit with less than nobody left, whose blows make squads
larger, hits no unit with nobody left that shares its place with another. -/
def StrikesApart (scene : GameScene) (xpos ypos : Int) : Prop :=
  scene.isOpen = true → ¬ scene.EndsTurn xpos ypos → ∀ attacker,
    scene.AcceptsAttack attacker xpos ypos → (scene.units.get attacker).squadSize < 0 →
    ∀ target, scene.hits attacker xpos ypos target = true →
    (scene.units.get target).squadSize ≤ 0 → ∀ other, other ≠ target →
    ¬ (scene.units.get target).SamePlace (scene.units.get other)

/-- What the packets in the queue say. -/
def readings (scene : GameScene) : List CustomPacket.UnitData :=
  scene.client.unitUpdateQueue.filterMap fun packet => packet.unitDataDeciper.toOption

/-- A frame that reads a part of a turn puts no unit where another one stands
that this part says nothing about. -/
def DrainsApart (scene : GameScene) : Prop :=
  scene.Drains → ∀ other, 0 < (scene.units.get other).squadSize →
    (∀ received ∈ scene.readings, received.unitName ≠ other.refName) →
    ∀ received ∈ scene.readings, 0 < received.squadSize →
    ¬ (IntFloat.cast received.xPos = (scene.units.get other).objectSprite.xPos ∧
      IntFloat.cast received.yPos = (scene.units.get other).objectSprite.yPos)

instance (scene : GameScene) : Decidable scene.Apart :=
  inferInstanceAs (Decidable (∀ _ _ : UnitRef, _ → _ → _ → _))

instance (scene : GameScene) (xpos ypos : Int) : Decidable (scene.EndsTurn xpos ypos) :=
  inferInstanceAs (Decidable (_ ∧ _))

instance (scene : GameScene) (xpos ypos : Int) : Decidable (scene.MovesApart xpos ypos) :=
  inferInstanceAs (Decidable (_ → _ → ∀ _ : UnitRef, _ → _ → ∀ _ : UnitRef, _ → _ → _))

instance (scene : GameScene) (xpos ypos : Int) : Decidable (scene.StrikesApart xpos ypos) :=
  inferInstanceAs (Decidable (_ → _ → ∀ _ : UnitRef, _ → _ → ∀ _ : UnitRef, _ → _ →
    ∀ _ : UnitRef, _ → _))

instance (scene : GameScene) : Decidable scene.DrainsApart :=
  inferInstanceAs (Decidable (_ → ∀ _ : UnitRef, _ → _ → _))

section Clicks

variable {scene after : GameScene} {undefinedReturn : Bool} {xpos ypos : Int}

theorem Apart.congr (h : scene.Apart)
    (hsquad : ∀ ref, (after.units.get ref).squadSize = (scene.units.get ref).squadSize)
    (hsprite : ∀ ref,
      (after.units.get ref).objectSprite = (scene.units.get ref).objectSprite) : after.Apart := by
  intro ref other hne href hother
  rw [hsquad] at href hother
  unfold GameUnit.SamePlace
  rw [hsprite ref, hsprite other]
  exact h ref other hne href hother

theorem Disciplined.isAUnitSelected (h : scene.Disciplined) : scene.isAUnitSelected = false := by
  apply Bool.eq_false_of_not_eq_true
  intro hall
  rw [GameScene.isAUnitSelected, List.all_eq_true] at hall
  have hfirst := hall .infantryEnemy (UnitRef.mem_all _)
  have hsecond := hall .sniperEnemy (UnitRef.mem_all _)
  cases h.single _ _ hfirst hsecond

/-- A sprite that a click snaps to is in the cell of whoever stands there. -/
theorem inCell_of_snapped {sprite : Sprite} (hx : 40 < xpos) (hx' : xpos < 1200)
    (hy : 0 ≤ ypos) (hplaceX : sprite.xPos = .cast (snapX xpos))
    (hplaceY : sprite.yPos = .cast (snapY false ypos)) : sprite.InCell xpos ypos := by
  have hsnapX : sprite.xPos.val = snapX xpos := by rw [hplaceX, val_snapX hx hx']
  have hsnapY : sprite.yPos.val = snapY false ypos := by rw [hplaceY, val_snapY (by omega)]
  unfold snapX at hsnapX
  simp only [snapY, Bool.false_eq_true, and_false, if_false] at hsnapY
  constructor
  · constructor <;> omega
  · split at hsnapY
    · right
      constructor <;> omega
    · left
      refine ⟨?_, ?_, ?_⟩ <;> omega

/-- A move that keeps out of the cells of the others ends up apart from them. -/
theorem Apart.moved (h : scene.Apart) (hdisciplined : scene.Disciplined) {ref : UnitRef}
    (hy : 0 ≤ ypos) (haccept : scene.AcceptsMove ref xpos ypos)
    (hcell : 0 < (scene.units.get ref).squadSize → ∀ other, other ≠ ref →
      0 < (scene.units.get other).squadSize →
      ¬ (scene.units.get other).objectSprite.InCell xpos ypos) :
    (scene.placeUnitAtClick xpos ypos).Apart := by
  obtain ⟨hselected, -, hx, hx', -⟩ := select_of_canMove haccept.canMove
  have hstays (other : UnitRef) (hne : other ≠ ref) :
      (scene.placeUnitAtClick xpos ypos).units.get other = scene.units.get other := by
    rw [placeUnitAtClick_get, if_neg]
    intro hother
    exact hne (hdisciplined.single _ _ (select_of_canMove hother.canMove).1 hselected)
  have hmoved : ((scene.placeUnitAtClick xpos ypos).units.get ref).objectSprite =
      (scene.units.get ref).objectSprite.place (snapX xpos) (snapY false ypos) := by
    rw [placeUnitAtClick_get, if_pos haccept, ← hdisciplined.isAUnitSelected]
    exact gridSnapping_eq scene _ hx hx' (by omega)
  -- the unit that has moved against one that has not
  have hclear (other : UnitRef) (hne : other ≠ ref) (href : 0 < (scene.units.get ref).squadSize)
      (hother : 0 < (scene.units.get other).squadSize) :
      ¬ ((scene.placeUnitAtClick xpos ypos).units.get ref).SamePlace (scene.units.get other) := by
    rintro ⟨hplaceX, hplaceY⟩
    rw [hmoved] at hplaceX hplaceY
    exact hcell href other hne hother
      (inCell_of_snapped hx hx' hy hplaceX.symm hplaceY.symm)
  intro first second hne hfirst hsecond
  rw [placeUnitAtClick_squadSize] at hfirst hsecond
  by_cases hmover : first = ref
  · subst hmover
    rw [hstays second hne.symm]
    exact hclear second hne.symm hfirst hsecond
  · rw [hstays first hmover]
    by_cases hmover' : second = ref
    · subst hmover'
      rintro ⟨hplaceX, hplaceY⟩
      exact hclear first hmover hsecond hfirst ⟨hplaceX.symm, hplaceY.symm⟩
    · rw [hstays second hmover']
      exact h first second hne hfirst hsecond

theorem attackingOtherUnit_objectSprite {attacker : UnitRef}
    (h : scene.attackingOtherUnit attacker xpos ypos = .ok after) (ref : UnitRef) :
    (after.units.get ref).objectSprite = (scene.units.get ref).objectSprite := by
  obtain ⟨hhit, hmiss, hspent⟩ := attackingOtherUnit_get h
  by_cases hattacker : ref = attacker
  · rw [hattacker, hspent]
    rfl
  · cases hhits : scene.hits attacker xpos ypos ref with
    | false => rw [hmiss ref hattacker hhits]
    | true => rw [GameUnit.takeDamage_rest (hhit ref hhits)]

/-- Only a blow that makes squads larger brings a unit back. -/
theorem revived_of_attack {attacker : UnitRef} (hkept : ∀ ref, (scene.units.get ref).Kept ref)
    (h : scene.attackingOtherUnit attacker xpos ypos = .ok after) {ref : UnitRef}
    (hfallen : (scene.units.get ref).squadSize ≤ 0)
    (hliving : 0 < (after.units.get ref).squadSize) :
    (scene.units.get attacker).squadSize < 0 ∧ scene.hits attacker xpos ypos ref = true := by
  constructor
  · by_contra hsquad
    have hless := attackingOtherUnit_squadSize hkept (by omega) h ref
    omega
  · obtain ⟨-, hmiss, hspent⟩ := attackingOtherUnit_get h
    by_contra hhits
    have hsame : (after.units.get ref).squadSize = (scene.units.get ref).squadSize := by
      by_cases hattacker : ref = attacker
      · rw [hattacker, hspent]
        rfl
      · rw [hmiss ref hattacker (Bool.eq_false_of_not_eq_true hhits)]
    omega

theorem Apart.attacked (h : scene.Apart) {attacker : UnitRef}
    (hkept : ∀ ref, (scene.units.get ref).Kept ref)
    (hnext : scene.attackingOtherUnit attacker xpos ypos = .ok after)
    (hstrikes : (scene.units.get attacker).squadSize < 0 →
      ∀ target, scene.hits attacker xpos ypos target = true →
      (scene.units.get target).squadSize ≤ 0 → ∀ other, other ≠ target →
      ¬ (scene.units.get target).SamePlace (scene.units.get other)) : after.Apart := by
  have hsprite := attackingOtherUnit_objectSprite hnext
  intro first second hne hfirst hsecond
  unfold GameUnit.SamePlace
  rw [hsprite first, hsprite second]
  by_cases hbefore : 0 < (scene.units.get first).squadSize
  · by_cases hbefore' : 0 < (scene.units.get second).squadSize
    · exact h first second hne hbefore hbefore'
    · obtain ⟨hsquad, hhits⟩ := revived_of_attack hkept hnext (by omega) hsecond
      rintro ⟨hplaceX, hplaceY⟩
      exact hstrikes hsquad second hhits (by omega) first hne ⟨hplaceX.symm, hplaceY.symm⟩
  · obtain ⟨hsquad, hhits⟩ := revived_of_attack hkept hnext (by omega) hfirst
    exact hstrikes hsquad first hhits (by omega) second hne.symm

/-- A click keeps the units apart. -/
theorem Apart.click (h : scene.Apart) (hdisciplined : scene.Disciplined)
    (hkept : ∀ ref, (scene.units.get ref).Kept ref) (hy : 0 ≤ ypos)
    (hmoves : scene.MovesApart xpos ypos) (hstrikes : scene.StrikesApart xpos ypos)
    (hclick : scene.clickHandler undefinedReturn xpos ypos = .ok after) : after.Apart := by
  have hselects {next : GameScene} (hnext : next.Apart) :
      (next.setSelected xpos ypos).Apart := by
    rw [setSelected_rest]
    exact hnext.congr (fun _ => rfl) fun _ => rfl
  cases hdisciplined.chosen.handled hclick with
  | closed => exact h
  | ended undefinedReturn =>
      rw [endTurn_eq]
      apply h.congr
      · intro ref
        simp [GameUnit.resetActionPoints, GameUnit.clearChanged]
      · intro ref
        simp [GameUnit.resetActionPoints, GameUnit.clearChanged]
  | moved ref hopen hstays haccept =>
      apply hselects
      exact h.moved hdisciplined hy haccept (hmoves hopen hstays ref haccept)
  | attacked attacker next hopen hstays haccept hnext =>
      apply hselects
      exact h.attacked hkept hnext (hstrikes hopen hstays attacker haccept)
  | selected => exact hselects h

end Clicks

end GameScene

/-- No place is given to two living units. -/
def Board.Apart (board : Board) : Prop :=
  ∀ ref other, ref ≠ other → ∀ place, (board.get ref).place = some place →
    (board.get other).place ≠ some place

section Boards

variable {scene : GameScene}

theorem place_board_iff (ref : UnitRef) (x y : IntFloat) :
    (scene.board.get ref).place = some (x, y) ↔ 0 < (scene.units.get ref).squadSize ∧
      (scene.units.get ref).objectSprite.xPos = x ∧
      (scene.units.get ref).objectSprite.yPos = y := by
  simp [GameScene.board, GameUnit.view, GameUnit.viewAt]

theorem apart_board_iff : Board.Apart scene.board ↔ scene.Apart := by
  constructor
  · rintro h ref other hne href hother ⟨hx, hy⟩
    apply h ref other hne (_, _)
    · exact (place_board_iff ref _ _).mpr ⟨href, rfl, rfl⟩
    · exact (place_board_iff other _ _).mpr ⟨hother, hx.symm, hy.symm⟩
  · rintro h ref other hne ⟨x, y⟩ href hother
    obtain ⟨hliving, hx, hy⟩ := (place_board_iff ref x y).mp href
    obtain ⟨hliving', hx', hy'⟩ := (place_board_iff other x y).mp hother
    exact h ref other hne hliving hliving' ⟨hx.trans hx'.symm, hy.trans hy'.symm⟩

end Boards

namespace Conn

/-- What the steps of a client have to meet for its units to stay apart. -/
def KeepsApart (x : Conn) : LocalEvent → Prop
  | .click _ xpos ypos => x.scene.MovesApart xpos ypos ∧ x.scene.StrikesApart xpos ypos
  | .frame => x.scene.DrainsApart
  | _ => True

instance (x : Conn) (event : LocalEvent) : Decidable (x.KeepsApart event) :=
  match event with
  | .click _ _ _ => inferInstanceAs (Decidable (_ ∧ _))
  | .frame => inferInstanceAs (Decidable x.scene.DrainsApart)
  | .send => .isTrue trivial
  | .receive => .isTrue trivial
  | .dispatch => .isTrue trivial
  | .enter _ => .isTrue trivial

/-- A click inside the window. -/
def InWindow (_ : GameScene) (xpos ypos : Int) : Prop := 0 ≤ xpos ∧ 0 ≤ ypos

instance (scene : GameScene) (xpos ypos : Int) : Decidable (InWindow scene xpos ypos) :=
  inferInstanceAs (Decidable (_ ∧ _))

section Frames

variable {x x' : Conn}

/-- A frame that gets through has been able to read its queue. -/
theorem readable_of_frame (hstep : x.step .frame = some x') (hdrains : x.scene.Drains) :
    ∀ packet ∈ x.scene.client.unitUpdateQueue,
      ∃ received, packet.unitDataDeciper = .ok received := by
  obtain ⟨hopen, hplaying, hawaits⟩ := hdrains
  obtain ⟨scene, hscene, -⟩ := Option.map_eq_some_iff.mp hstep
  cases GameScene.update_frame (toOption_eq_some hscene) with
  | idle closed => exact absurd (closed.symm.trans hopen) (by simp)
  | send hsend =>
      rw [Bool.or_eq_false_iff] at hopen
      simp [GameScene.sendsSnapshot, hopen.2] at hsend
  | adopt hadopt =>
      rw [Bool.or_eq_false_iff] at hopen
      simp [GameScene.adoptsSnapshot, hopen.2] at hadopt
  | finished _ hfinished => exact absurd (hfinished.symm.trans hplaying) (by simp)
  | wait _ _ hwait => exact absurd hawaits hwait
  | drain _ _ _ after hdrain =>
      have hclient : x.scene.begun.unitsUpdate.client = x.scene.client := by
        simp [GameScene.unitsUpdate]
      obtain ⟨drained, hfold, -⟩ := bind_eq_ok hdrain
      rw [hclient] at hfold
      exact (foldlM_isOk_iff GameScene.applyUnitPacket_isOk _ _).mp ⟨drained, hfold⟩

/-- What is read about a unit in the queue. -/
theorem mem_readings {msgs : List Msg} (hstep : x.step .frame = some x')
    (hdrains : x.scene.Drains)
    (hqueue : x.scene.client.unitUpdateQueue = msgs.map Msg.packet) {ref : UnitRef}
    {placeX placeY : IntFloat} {squadSize health : Int}
    (hmem : Msg.unit ref placeX placeY squadSize health ∈ msgs) :
    ⟨ref.refName, placeX.val, placeY.val, squadSize, health⟩ ∈ x.scene.readings := by
  have hpacket : (Msg.unit ref placeX placeY squadSize health).packet ∈
      x.scene.client.unitUpdateQueue := by
    rw [hqueue]
    exact List.mem_map_of_mem hmem
  obtain ⟨received, hread⟩ := readable_of_frame hstep hdrains _ hpacket
  apply List.mem_filterMap.mpr
  refine ⟨_, hpacket, ?_⟩
  rw [hread, Msg.deciper_unit hread]
  rfl

/-- Nothing is read about a unit that no message is about. -/
theorem ne_of_mem_readings {msgs : List Msg}
    (hqueue : x.scene.client.unitUpdateQueue = msgs.map Msg.packet) {other : UnitRef}
    (hother : some other ∉ msgs.map Msg.subject) {received : CustomPacket.UnitData}
    (hmem : received ∈ x.scene.readings) : received.unitName ≠ other.refName := by
  obtain ⟨packet, hpacket, hread⟩ := List.mem_filterMap.mp hmem
  rw [hqueue] at hpacket
  obtain ⟨m, hm, rfl⟩ := List.mem_map.mp hpacket
  have hread := toOption_eq_some hread
  intro hname
  cases m with
  | unit ref placeX placeY squadSize health =>
      rw [Msg.deciper_unit hread] at hname
      obtain rfl := UnitRef.refName_injective hname
      exact hother (List.mem_map.mpr ⟨_, hm, rfl⟩)
  | endgame victor =>
      rw [Msg.deciper_endgame hread] at hname
      exact Msg.refName_ne_endgame other hname.symm
  | endturn =>
      obtain rfl := Except.ok.inj (hread.symm.trans Msg.deciper_endturn)
      exact Msg.refName_ne_endturn other hname.symm

/-- A part of a turn that puts no unit on another keeps the units apart. -/
theorem apart_drain {board : Board} {msgs : List Msg} (hboard : board.Apart)
    (h : x.scene.Apart) (hstep : x.step .frame = some x') (hdrains : x.scene.Drains)
    (hqueue : x.scene.client.unitUpdateQueue = msgs.map Msg.packet)
    (hshows : ∀ m ∈ msgs, m.Shows board) (hmeets : x.scene.DrainsApart) :
    Board.Apart (msgs.foldl Msg.onBoard x.scene.board) := by
  have hread (ref : UnitRef) := Msg.foldl_onBoard_get hshows x.scene.board ref
  -- a unit that the part is about against one that it is not about
  have hmixed (ref other : UnitRef) (href : some ref ∈ msgs.map Msg.subject)
      (hother : some other ∉ msgs.map Msg.subject) (placeX placeY : IntFloat)
      (hplace : (board.get ref).place = some (placeX, placeY))
      (hplace' : (x.scene.board.get other).place = some (placeX, placeY)) : False := by
    obtain ⟨m, hm, hsubject⟩ := List.mem_map.mp href
    cases m with
    | unit ref' toldX toldY squadSize health =>
        obtain rfl := Option.some.inj hsubject
        have hview : board.get ref' = GameUnit.viewAt squadSize health toldX toldY :=
          hshows _ hm
        simp only [hview, GameUnit.viewAt, Option.ite_none_right_eq_some, Option.some.injEq,
          Prod.mk.injEq] at hplace
        obtain ⟨hliving, rfl, rfl⟩ := hplace
        obtain ⟨hliving', hx, hy⟩ := (place_board_iff other toldX toldY).mp hplace'
        apply hmeets hdrains other hliving' (fun _ => ne_of_mem_readings hqueue hother) _
          (mem_readings hstep hdrains hqueue hm) hliving
        simp [hx, hy]
    | endgame victor => cases hsubject
    | endturn => cases hsubject
  rintro ref other hne ⟨placeX, placeY⟩ hplace hplace'
  rw [hread] at hplace hplace'
  split at hplace
  · rename_i href
    split at hplace'
    · exact hboard ref other hne _ hplace hplace'
    · rename_i hother
      exact hmixed ref other href hother placeX placeY hplace hplace'
  · rename_i href
    split at hplace'
    · rename_i hother
      exact hmixed other ref hother href placeX placeY hplace' hplace
    · exact apart_board_iff.mpr h ref other hne _ hplace hplace'

end Frames

/-- Both boards have their units apart. -/
theorem apart_rules :
    BoardRules (fun x event => (x.ClickMeets InWindow event ∧ x.KeepsApart event) ∧
        ∀ ref, (x.scene.units.get ref).Kept ref)
      GameScene.Disciplined (fun holder other => Board.Apart holder ∧ Board.Apart other)
      (fun _ _ => True) := by
  constructor
  · exact fun blank => GameScene.disciplined_of_idle rfl
  · intro blank
    have hstart : (GameScene.create blankSprite).Apart := by decide +kernel
    rw [board_create blank blankSprite]
    exact ⟨apart_board_iff.mpr hstart, apart_board_iff.mpr hstart⟩
  · exact fun board => trivial
  · exact fun first second third _ _ => trivial
  · exact fun label x event x' _ hside h _ hstep => disciplined_step h hside.notReconnecting hstep
  · rintro x undefinedReturn xpos ypos scene other h ⟨⟨hwindow, hmoves, hstrikes⟩, hkept⟩ hclick
      ⟨hholder, hother⟩
    have hbefore := apart_board_iff.mp hholder
    have hafter := hbefore.click h hkept hwindow.2 hmoves hstrikes hclick
    exact ⟨⟨apart_board_iff.mpr hafter, hother⟩, trivial⟩
  · rintro board x x' msgs ⟨⟨-, hmeets⟩, -⟩ hstep hdrains hqueue hshows ⟨hboard, hother⟩
    exact ⟨⟨hboard, apart_drain hboard (apart_board_iff.mp hother) hstep hdrains hqueue hshows
      hmeets⟩, trivial⟩

end Conn

/-- In a run of clicks inside the window that keeps out of the cells of other
units, brings nobody back onto an occupied place and reads no turn in parts
that put one unit on another, no two living units of either player have the
same place. -/
theorem living_apart {events : List SystemEvent} {system : System} {a b : Conn}
    (hrun : exec System.step System.initial events = some system)
    (hstarted : StartedPair system a b)
    (hwindow : Along System.step (System.ActsMeet (Conn.ClickMeets Conn.InWindow))
      System.initial events)
    (hmeets : Along System.step (System.ActsMeet Conn.KeepsApart) System.initial events) :
    a.scene.Apart ∧ b.scene.Apart := by
  have hboth : Along System.step (System.ActsMeet fun x event =>
      x.ClickMeets Conn.InWindow event ∧ x.KeepsApart event) System.initial events := by
    apply (hwindow.and hmeets).mono
    rintro system event ⟨hwindow, hmeets⟩
    exact hwindow.and hmeets
  obtain ⟨-, hphase⟩ := (matched_exec Conn.apart_rules hrun (kept_along hboth)).started hstarted
  simp only [← apart_board_iff]
  cases hphase with
  | holds _ boards => exact boards
  | passes _ _ boards => exact boards
  | otherHolds _ boards => exact boards.symm
  | otherPasses _ _ boards => exact boards.symm

/-- The first player moves the infantry, and the second reads of it. -/
theorem living_apart_moving : ∃ system a b,
    exec System.step System.initial (movingRun ++ [.act 0 (.click false 1200 650)] ++
      exchange 0 2) = some system ∧ system.conns = [a, b] ∧
      (b.scene.units.get .infantryEnemy).objectSprite.xPos.val = 280 ∧ b.scene.Apart := by
  obtain ⟨system, a, b, hrun, hconns, hcheck⟩ :=
    @exists_pair_of_check System.initial (movingRun ++ [.act 0 (.click false 1200 650)] ++
      exchange 0 2) (fun _ a b => startedCheck a b &&
        decide ((b.scene.units.get .infantryEnemy).objectSprite.xPos.val = 280))
      (by decide +kernel)
  rw [Bool.and_eq_true, decide_eq_true_eq] at hcheck
  refine ⟨system, a, b, hrun, hconns, hcheck.2, ?_⟩
  exact (living_apart hrun (startedPair_of_check hrun hconns hcheck.1) (by decide +kernel)
    (by decide +kernel)).2

/-- A click between the sprite of the infantry and the next cell puts the tank
on the infantry. -/
theorem not_apart_overlap : ∃ system a b,
    exec System.step System.initial overlapRun = some system ∧ StartedPair system a b ∧
      0 < (b.scene.units.get .infantryAlly).squadSize ∧
      0 < (b.scene.units.get .tankAlly).squadSize ∧
      (b.scene.units.get .infantryAlly).SamePlace (b.scene.units.get .tankAlly) := by
  obtain ⟨system, a, b, hrun, hconns, hcheck⟩ :=
    @exists_pair_of_check System.initial overlapRun (fun _ a b => startedCheck a b &&
      decide (0 < (b.scene.units.get .infantryAlly).squadSize ∧
        0 < (b.scene.units.get .tankAlly).squadSize ∧
        (b.scene.units.get .infantryAlly).SamePlace (b.scene.units.get .tankAlly)))
      (by decide +kernel)
  rw [Bool.and_eq_true, decide_eq_true_eq] at hcheck
  exact ⟨system, a, b, hrun, startedPair_of_check hrun hconns hcheck.1, hcheck.2⟩

end NetworkingGame
