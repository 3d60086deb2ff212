import NetworkingGame.System

/-!
The eight selection flags. Neither moving nor attacking asks whose turn it is;
what keeps a player from acting out of turn is that a flag is only ever set on
a unit of the player's own side, while it is that side's turn, and that the
flags are cleared before the turn is passed on.
-/

namespace NetworkingGame

open Library.Transition

/-- The side that a unit fights for. -/
def UnitRef.team : UnitRef → PlayerTurn
  | .infantryEnemy | .sniperEnemy | .artilleryEnemy | .tankEnemy => .player1
  | .infantryAlly | .sniperAlly | .artilleryAlly | .tankAlly => .player2

/-- What happens to a client's scene: the player's clicks and lines of chat,
frames, the packets that its network thread dispatches and the ones that it
sends off. -/
inductive PlayEvent
  | click (undefinedReturn : Bool) (xpos ypos : Int)
  | enter (str : String)
  | frame
  | deliver (msg : CustomPacket)
  | sent

namespace GameScene

/-- One event of a game in which nobody reconnects. -/
def playStep (scene : GameScene) : PlayEvent → Option GameScene
  | .click undefinedReturn xpos ypos => (scene.clickHandler undefinedReturn xpos ypos).toOption
  | .enter str => some (scene.enterPressed str)
  | .frame => scene.update.toOption
  | .deliver msg =>
      if msg.type = "reconnect" ∨ msg.type = "data_sender" then none
      else (scene.client.processRecievedPackets msg).toOption.map scene.withClient
  | .sent =>
      some (scene.withClient
        { scene.client with sendingQueue := scene.client.sendingQueue.tail })

/-- At most one flag is set, and only on a unit of the client's own side while
that side has the turn. -/
structure Disciplined (scene : GameScene) : Prop where
  single : ∀ ref ref', scene.select.get ref = true → scene.select.get ref' = true → ref = ref'
  own : ∀ ref, scene.select.get ref = true → ref.team = scene.assignedTeam
  turn : ∀ ref, scene.select.get ref = true → scene.playerTurn = scene.assignedTeam

section Flags

theorem team_ne_none (ref : UnitRef) : ref.team ≠ .none := by
  cases ref <;> simp [UnitRef.team]

theorem mem_enemyChain (ref : UnitRef) : ref ∈ enemyChain ↔ ref.team = .player1 := by
  cases ref <;> simp [enemyChain, UnitRef.team]

theorem mem_allyChain (ref : UnitRef) : ref ∈ allyChain ↔ ref.team = .player2 := by
  cases ref <;> simp [allyChain, UnitRef.team]

theorem select_eq_fill {scene : GameScene} (h : ∀ ref, scene.select.get ref ≠ true) :
    scene.select = .fill false := by
  ext ref
  simpa using h ref

theorem get_foldl_clear (chain : List UnitRef) (select : Roster Bool) (ref : UnitRef) :
    (chain.foldl (fun select other => select.set other false) select).get ref =
      if ref ∈ chain then false else select.get ref := by
  induction chain generalizing select with
  | nil => simp
  | cons other chain ih =>
      rw [List.foldl_cons, ih, Roster.get_set]
      by_cases hmem : ref ∈ chain
      · simp [hmem]
      · by_cases heq : ref = other
        · simp [heq]
        · simp [hmem, heq]

/-- At most one flag of the chain is set and none outside it. -/
structure Single (chain : List UnitRef) (select : Roster Bool) : Prop where
  mem : ∀ ref, select.get ref = true → ref ∈ chain
  unique : ∀ ref ref', select.get ref = true → select.get ref' = true → ref = ref'

theorem Single.clear {chain : List UnitRef} {select : Roster Bool} (h : Single chain select)
    (ref : UnitRef) : Single chain (select.set ref false) := by
  have hold (other : UnitRef) (hother : (select.set ref false).get other = true) :
      select.get other = true := by
    rw [Roster.get_set] at hother
    split at hother
    · cases hother
    · exact hother
  constructor
  · intro other hother
    exact h.mem other (hold other hother)
  · intro other other' hother hother'
    exact h.unique other other' (hold other hother) (hold other' hother')

theorem Single.choose {chain : List UnitRef} {select : Roster Bool} (h : Single chain select)
    {ref : UnitRef} (href : ref ∈ chain) :
    Single chain
      ((chain.foldl (fun select other => select.set other false) select).set ref true) := by
  have honly (other : UnitRef)
      (hother : ((chain.foldl (fun select other => select.set other false) select).set ref
        true).get other = true) : other = ref := by
    rw [Roster.get_set] at hother
    split at hother
    · assumption
    · rw [get_foldl_clear] at hother
      split at hother
      · cases hother
      · exact absurd (h.mem other hother) ‹_›
  constructor
  · intro other hother
    rw [honly other hother]
    exact href
  · intro other other' hother hother'
    rw [honly other hother, honly other' hother']

theorem Single.toggle {chain : List UnitRef} {scene : GameScene} (h : Single chain scene.select)
    (xpos ypos : Int) {ref : UnitRef} (href : ref ∈ chain) :
    Single chain (toggleSelect chain xpos ypos scene ref).select := by
  unfold toggleSelect
  split
  · split
    · exact h.clear ref
    · exact h.choose href
  · exact h

/-- The four tests of one side run one after the other on the same click. -/
theorem Single.toggles {chain refs : List UnitRef} {scene : GameScene}
    (h : Single chain scene.select) (xpos ypos : Int) (hrefs : ∀ ref ∈ refs, ref ∈ chain) :
    Single chain (refs.foldl (toggleSelect chain xpos ypos) scene).select := by
  induction refs generalizing scene with
  | nil => exact h
  | cons ref refs ih =>
      rw [List.foldl_cons]
      apply ih (h.toggle xpos ypos (hrefs ref (by simp)))
      intro other hother
      exact hrefs other (by simp [hother])

theorem toggles_rest (chain refs : List UnitRef) (xpos ypos : Int) (scene : GameScene) :
    refs.foldl (toggleSelect chain xpos ypos) scene = { scene with
      select := (refs.foldl (toggleSelect chain xpos ypos) scene).select } := by
  induction refs generalizing scene with
  | nil => rfl
  | cons ref refs ih =>
      have hstep : toggleSelect chain xpos ypos scene ref = { scene with
          select := (toggleSelect chain xpos ypos scene ref).select } := by
        unfold toggleSelect
        split_ifs <;> rfl
      rw [List.foldl_cons, ih, hstep]

end Flags

section Steps

variable {scene after : GameScene}

theorem disciplined_of_idle (h : scene.select = .fill false) : scene.Disciplined := by
  have hnone (ref : UnitRef) : scene.select.get ref ≠ true := by
    rw [h]
    simp
  exact ⟨fun ref _ href => absurd href (hnone ref), fun ref href => absurd href (hnone ref),
    fun ref href => absurd href (hnone ref)⟩

/-- Discipline is about the flags, the turn and the team. -/
theorem Disciplined.congr (h : scene.Disciplined) (hselect : after.select = scene.select)
    (hturn : after.playerTurn = scene.playerTurn)
    (hteam : after.assignedTeam = scene.assignedTeam) : after.Disciplined := by
  constructor
  · rw [hselect]
    exact h.single
  · rw [hselect, hteam]
    exact h.own
  · rw [hselect, hturn, hteam]
    exact h.turn

theorem Disciplined.idle_of_turn (h : scene.Disciplined)
    (hturn : scene.playerTurn ≠ scene.assignedTeam) : scene.select = .fill false := by
  apply select_eq_fill
  intro ref href
  exact hturn (h.turn ref href)

/-- The flags of one side, once its units have been tested against a click. -/
theorem disciplined_toggles {chain refs : List UnitRef} {team : PlayerTurn} (xpos ypos : Int)
    (h : scene.Disciplined) (hteam : scene.assignedTeam = team) (hturn : scene.playerTurn = team)
    (hchain : ∀ ref, ref ∈ chain ↔ ref.team = team) (hrefs : ∀ ref ∈ refs, ref ∈ chain) :
    (refs.foldl (toggleSelect chain xpos ypos) scene).Disciplined := by
  have hsingle : Single chain scene.select := by
    constructor
    · intro ref href
      rw [hchain, h.own ref href, hteam]
    · exact h.single
  have hafter := hsingle.toggles xpos ypos hrefs
  have hrest := toggles_rest chain refs xpos ypos scene
  have hteam' : (refs.foldl (toggleSelect chain xpos ypos) scene).assignedTeam = team := by
    rw [hrest]
    exact hteam
  have hturn' : (refs.foldl (toggleSelect chain xpos ypos) scene).playerTurn = team := by
    rw [hrest]
    exact hturn
  constructor
  · exact hafter.unique
  · intro ref href
    rw [hteam', (hchain ref).mp (hafter.mem ref href)]
  · intro ref _
    rw [hturn', hteam']

theorem Disciplined.setSelected (h : scene.Disciplined) (xpos ypos : Int) :
    (scene.setSelected xpos ypos).Disciplined := by
  unfold GameScene.setSelected
  by_cases hfirst : scene.assignedTeam = .player1 ∧ scene.playerTurn = .player1
  · rw [if_pos hfirst]
    have hside := @disciplined_toggles scene enemyChain
      [.infantryEnemy, .tankEnemy, .sniperEnemy, .artilleryEnemy] .player1 xpos ypos h hfirst.1
      hfirst.2 mem_enemyChain (by decide)
    have hrest := toggles_rest enemyChain
      [.infantryEnemy, .tankEnemy, .sniperEnemy, .artilleryEnemy] xpos ypos scene
    rw [if_neg]
    · exact hside
    · rw [hrest]
      simp [hfirst.1]
  · rw [if_neg hfirst]
    dsimp only
    split
    · rename_i hsecond
      exact disciplined_toggles xpos ypos h hsecond.1 hsecond.2 mem_allyChain (by decide)
    · exact h

/-- The move and attack phases of a click only touch units. -/
def OnlyUnits (before after : GameScene) : Prop := after = { before with units := after.units }

theorem OnlyUnits.trans {first second third : GameScene} (h : OnlyUnits first second)
    (h' : OnlyUnits second third) : OnlyUnits first third := by
  unfold OnlyUnits at h h' ⊢
  rw [h] at h'
  exact h'

theorem onlyUnits_moveFirst (chain : List UnitRef) (xpos ypos : Int) (scene : GameScene) :
    OnlyUnits scene (scene.moveFirst chain xpos ypos) := by
  unfold moveFirst
  split <;> rfl

theorem onlyUnits_placeUnitAtClick (xpos ypos : Int) (scene : GameScene) :
    OnlyUnits scene (scene.placeUnitAtClick xpos ypos) := by
  unfold placeUnitAtClick
  split_ifs
  · rfl
  · exact (onlyUnits_moveFirst enemyChain xpos ypos scene).trans
      (onlyUnits_moveFirst allyChain xpos ypos _)
  · rfl

theorem onlyUnits_attackingOtherUnit {attacker : UnitRef} {xpos ypos : Int}
    (h : scene.attackingOtherUnit attacker xpos ypos = .ok after) : OnlyUnits scene after := by
  refine foldlM_relation OnlyUnits (fun _ => rfl) (fun _ _ _ => OnlyUnits.trans) ?_ h
  intro ref _ scene after hstep
  simp only at hstep
  split at hstep
  · obtain ⟨hurt, -, hstep⟩ := bind_eq_ok hstep
    rw [← Except.ok.inj hstep]
    rfl
  · rw [← Except.ok.inj hstep]
    rfl

theorem onlyUnits_attackSide {chain : List UnitRef} {xpos ypos : Int}
    (h : scene.attackSide chain xpos ypos = .ok after) : OnlyUnits scene after := by
  unfold attackSide attackFirst at h
  split at h
  · split at h
    · exact onlyUnits_attackingOtherUnit h
    · rw [← Except.ok.inj h]
      rfl
  · rw [← Except.ok.inj h]
    rfl

theorem onlyUnits_attackClickedUnit {xpos ypos : Int}
    (h : scene.attackClickedUnit xpos ypos = .ok after) : OnlyUnits scene after := by
  unfold attackClickedUnit at h
  split at h
  · obtain ⟨next, hnext, h⟩ := bind_eq_ok h
    exact (onlyUnits_attackSide hnext).trans (onlyUnits_attackSide h)
  · rw [← Except.ok.inj h]
    rfl

theorem Disciplined.onlyUnits (h : scene.Disciplined) (hunits : OnlyUnits scene after) :
    after.Disciplined := by
  apply h.congr <;> rw [hunits]

theorem Disciplined.clickHandler (h : scene.Disciplined) {undefinedReturn : Bool}
    {xpos ypos : Int} (hclick : scene.clickHandler undefinedReturn xpos ypos = .ok after) :
    after.Disciplined := by
  unfold GameScene.clickHandler at hclick
  split at hclick
  · unfold nextTurnPressed at hclick
    split at hclick
    · rename_i hbutton
      have hended := Except.ok.inj (hclick.symm.trans (afterButton hbutton.1 xpos ypos))
      apply disciplined_of_idle
      rw [hended, endTurn_eq]
    · obtain ⟨next, hattack, hclick⟩ := bind_eq_ok hclick
      rw [← Except.ok.inj hclick]
      have hmove := h.onlyUnits (onlyUnits_placeUnitAtClick xpos ypos scene)
      exact (hmove.onlyUnits (onlyUnits_attackClickedUnit hattack)).setSelected xpos ypos
  · rw [← Except.ok.inj hclick]
    exact h

/-- A click out of turn changes nothing at all. -/
theorem Disciplined.clickHandler_waiting (h : scene.Disciplined)
    (hturn : scene.playerTurn ≠ scene.assignedTeam) (undefinedReturn : Bool) (xpos ypos : Int) :
    scene.clickHandler undefinedReturn xpos ypos = .ok scene := by
  have hidle := h.idle_of_turn hturn
  unfold GameScene.clickHandler
  split
  · rw [nextTurnPressed, if_neg (by simp [hturn])]
    simp only [placeUnitAtClick_idle hidle, attackClickedUnit_idle hidle, bind, Except.bind,
      setSelected_idle fun heq => absurd heq hturn]
    rfl
  · rfl

theorem Disciplined.begun (h : scene.Disciplined) : scene.begun.Disciplined := by
  by_cases hteam : scene.assignedTeam = .none
  · apply disciplined_of_idle
    rw [begun_select]
    apply select_eq_fill
    intro ref href
    exact team_ne_none ref ((h.own ref href).trans hteam)
  · exact h.congr (by simp) (by simp) (begun_assignedTeam (Or.inl hteam))

theorem Disciplined.frame (h : scene.Disciplined) (hopen : scene.client.isReconnecting = false)
    (hframe : scene.Frame after) : after.Disciplined := by
  cases hframe with
  | idle => exact h.begun
  | send hsend => simp [sendsSnapshot, hopen] at hsend
  | adopt hadopt => simp [adoptsSnapshot, hopen] at hadopt
  | finished => exact h.begun
  | wait => exact h.begun.congr rfl rfl rfl
  | drain closed hfinished hwait after hdrain =>
      have hturn : scene.begun.playerTurn ≠ scene.begun.assignedTeam := by
        rcases hwait with ⟨hturn, hteam⟩ | ⟨hturn, hteam⟩ <;> rw [hturn, hteam] <;> simp
      apply disciplined_of_idle
      rw [unitNetworkUpdate_rest hdrain]
      exact h.begun.idle_of_turn hturn

theorem Disciplined.enter (h : scene.Disciplined) (henter : scene.Enter after) :
    after.Disciplined := by
  cases henter with
  | ignored => exact h
  | named => exact h.congr rfl rfl rfl
  | chat => exact h.congr rfl rfl rfl

end Steps

section Runs

variable {scene after : GameScene}

theorem Enter.isReconnecting (h : scene.Enter after) :
    after.client.isReconnecting = scene.client.isReconnecting := by
  cases h <;> rfl

theorem Click.isReconnecting (h : scene.Click after) :
    after.client.isReconnecting = scene.client.isReconnecting := by
  cases h with
  | ignored => rfl
  | ended => rw [endTurn_eq]; rfl
  | moved _ _ _ hmoved => rw [hmoved.rest]

theorem Frame.isReconnecting (h : scene.Frame after) :
    after.client.isReconnecting = scene.client.isReconnecting := by
  rcases h.client_cases with h | ⟨-, _, -, h⟩ | ⟨-, h⟩ | ⟨-, h⟩ <;> rw [h] <;> rfl

theorem playStep_isReconnecting {event : PlayEvent} (hopen : scene.client.isReconnecting = false)
    (hstep : scene.playStep event = some after) : after.client.isReconnecting = false := by
  cases event with
  | click undefinedReturn xpos ypos =>
      have hclick := clickHandler_click (Conn.toOption_eq_some hstep)
      rw [hclick.isReconnecting]
      exact hopen
  | enter str =>
      obtain rfl := Option.some.inj hstep
      rw [(enterPressed_enter str scene).isReconnecting]
      exact hopen
  | frame =>
      have hframe := update_frame (Conn.toOption_eq_some hstep)
      rw [hframe.isReconnecting]
      exact hopen
  | deliver msg =>
      simp only [playStep] at hstep
      split at hstep
      · cases hstep
      · rename_i htype
        obtain ⟨client, hclient, rfl⟩ := Option.map_eq_some_iff.mp hstep
        have hprocessed := ClientComponent.processRecievedPackets_processed
          (Conn.toOption_eq_some hclient)
        rw [not_or] at htype
        simpa [withClient, hprocessed.isReconnecting_eq, htype.1, htype.2] using hopen
  | sent =>
      obtain rfl := Option.some.inj hstep
      exact hopen

theorem Disciplined.playStep {event : PlayEvent} (h : scene.Disciplined)
    (hopen : scene.client.isReconnecting = false) (hstep : scene.playStep event = some after) :
    after.Disciplined := by
  cases event with
  | click undefinedReturn xpos ypos => exact h.clickHandler (Conn.toOption_eq_some hstep)
  | enter str =>
      obtain rfl := Option.some.inj hstep
      exact h.enter (enterPressed_enter str scene)
  | frame => exact h.frame hopen (update_frame (Conn.toOption_eq_some hstep))
  | deliver msg =>
      simp only [GameScene.playStep] at hstep
      split at hstep
      · cases hstep
      · obtain ⟨client, -, rfl⟩ := Option.map_eq_some_iff.mp hstep
        exact h.congr rfl rfl rfl
  | sent =>
      obtain rfl := Option.some.inj hstep
      exact h.congr rfl rfl rfl

theorem disciplined_exec {blank : Sprite} {events : List PlayEvent}
    (hrun : exec playStep (create blank) events = some scene) : scene.Disciplined := by
  have hinvariant := @invariant_of_step _ _ playStep
    (fun scene => scene.Disciplined ∧ scene.client.isReconnecting = false)
    (by
      rintro scene event after ⟨hdisciplined, hopen⟩ hstep
      exact ⟨hdisciplined.playStep hopen hstep, playStep_isReconnecting hopen hstep⟩)
    (create blank) scene events hrun ⟨disciplined_of_idle rfl, rfl⟩
  exact hinvariant.1

/-- However a game without reconnects goes on, at most one unit is selected,
it is one of the client's own and it is the client's turn; out of turn a click
leaves the whole client as it is. -/
theorem selection_discipline {blank : Sprite} {events : List PlayEvent}
    (hrun : exec playStep (create blank) events = some scene) :
    (∀ ref ref', scene.select.get ref = true → scene.select.get ref' = true → ref = ref') ∧
      (∀ ref, scene.select.get ref = true →
        scene.playerTurn = scene.assignedTeam ∧ ref.team = scene.assignedTeam) ∧
      (scene.playerTurn ≠ scene.assignedTeam → ∀ undefinedReturn xpos ypos,
        scene.clickHandler undefinedReturn xpos ypos = .ok scene) := by
  have h := disciplined_exec hrun
  refine ⟨h.single, ?_, h.clickHandler_waiting⟩
  intro ref href
  exact ⟨h.turn ref href, h.own ref href⟩

/-- The lobby hands out the first seat, the game starts, and the player clicks
on the infantry. -/
def selectingRun : List PlayEvent :=
  [.deliver (Server.initPacket 0), .deliver Server.startPacket, .frame, .click false 50 10]

theorem selection_discipline_selecting : ∃ scene,
    exec playStep (create ⟨.cast 0, .cast 0, .cast 0, .cast 0⟩) selectingRun = some scene ∧
      scene.select.get .infantryEnemy = true ∧ scene.playerTurn = scene.assignedTeam := by
  have hcheck : ((exec playStep (create ⟨.cast 0, .cast 0, .cast 0, .cast 0⟩)
      selectingRun).any fun scene => scene.select.get .infantryEnemy) = true := by
    decide +kernel
  obtain ⟨scene, hrun, hselected⟩ := (Option.any_eq_true _ _).mp hcheck
  exact ⟨scene, hrun, hselected, ((selection_discipline hrun).2.1 _ hselected).1⟩

end Runs

end GameScene

end NetworkingGame
