import NetworkingGame.TurnSafety

/-!
The end of a game, for the player who clicks the next-turn button. The check
for it has no return statement while an opposing unit lives, and it reads
`is_dead`, which lags behind the size of the squad until the next frame.
-/

namespace NetworkingGame

open Library.Transition

namespace GameScene

/-- The units of the other team, in the order in which `endgame_check` reads
them. -/
def opposing : PlayerTurn → List UnitRef
  | .player1 => [.infantryAlly, .artilleryAlly, .sniperAlly, .tankAlly]
  | .player2 => [.infantryEnemy, .artilleryEnemy, .sniperEnemy, .tankEnemy]
  | .none => []

def Dead (scene : GameScene) (ref : UnitRef) : Prop := (scene.units.get ref).isDead = true

def Wiped (scene : GameScene) (ref : UnitRef) : Prop := (scene.units.get ref).squadSize ≤ 0

def teamNumber (team : PlayerTurn) : Int := if team = .player1 then 1 else 2

theorem endgameCheck_dead {scene : GameScene} (hteam : scene.assignedTeam ≠ .none)
    (h : ∀ ref ∈ opposing scene.assignedTeam, scene.Dead ref) :
    scene.endgameCheck = (some true, { scene with
      gameFinished := true
      winningPlayer := scene.assignedTeam }) := by
  unfold endgameCheck
  cases hassigned : scene.assignedTeam with
  | none => exact absurd hassigned hteam
  | player1 =>
      simp only [hassigned, opposing, Dead, List.forall_mem_cons, Roster.get] at h
      simp [h]
  | player2 =>
      simp only [hassigned, opposing, Dead, List.forall_mem_cons, Roster.get] at h
      simp [h]

theorem endgameCheck_alive {scene : GameScene} (hteam : scene.assignedTeam ≠ .none)
    (h : ¬ ∀ ref ∈ opposing scene.assignedTeam, scene.Dead ref) :
    scene.endgameCheck = (none, scene) := by
  unfold endgameCheck
  cases hassigned : scene.assignedTeam with
  | none => exact absurd hassigned hteam
  | player1 =>
      simp only [hassigned, opposing, Dead, List.forall_mem_cons, Roster.get] at h
      simp only
      rw [if_neg]
      intro hall
      apply h
      simpa [and_assoc] using hall
  | player2 =>
      simp only [hassigned, opposing, Dead, List.forall_mem_cons, Roster.get] at h
      simp only
      rw [if_neg]
      intro hall
      apply h
      simpa [and_assoc] using hall

end GameScene

namespace Conn

open GameScene

/-- Each `endgame` among the packets names the team. -/
def Names (team : PlayerTurn) (packets : List CustomPacket) : Prop :=
  ∀ victor, endgamePacket victor ∈ packets →
    endgamePacket victor = endgamePacket (teamNumber team)

/-- The outcome of the game once `x`, whose team is `label`, has found the
other side wiped out. -/
structure Won (label : PlayerTurn) (x y : Conn) : Prop where
  sideX : Side label x
  sideY : Side (otherTurn label) y
  uid : x.uid ≠ y.uid
  finished : x.scene.outcome = (true, label)
  turn : x.scene.playerTurn = otherTurn label
  select : x.scene.select = .fill false
  victors : Names label (transit x y)

theorem Won.winner (hlabel : label ≠ .none) {clicks : Bool} {x y x' : Conn}
    (h : Won label x y) (hstep : x.Local clicks x') : Won label x' y := by
  obtain ⟨hside, heffect⟩ := h.sideX.step hlabel hstep
  have huid : x'.uid = x.uid := congrArg Peer.uid (System.peer_local hstep)
  have hother : label ≠ otherTurn label := label_ne_otherTurn hlabel
  cases heffect with
  | quiet incoming outgoing board flags select turn outcome =>
      refine ⟨hside, h.sideY, by rw [huid]; exact h.uid, outcome.trans h.finished,
        turn.trans h.turn, select.trans h.select, ?_⟩
      rw [transit, outgoing]
      exact h.victors
  | drained hwait hplaying =>
      have hfinished : x.scene.gameFinished = true := congrArg Prod.fst h.finished
      exact absurd (hplaying.symm.trans hfinished) (by simp)
  | ended undefinedReturn hturn =>
      exact absurd (hturn.symm.trans h.turn) hother
  | moved hselect =>
      rcases hselect with hturn | hselect
      · exact absurd (hturn.symm.trans h.turn) hother
      · exact absurd h.select hselect

theorem Won.loser (hlabel : label ≠ .none) {clicks : Bool} {x y y' : Conn}
    (h : Won label x y) (hstep : y.Local clicks y') : Won label x y' := by
  obtain ⟨hside, heffect⟩ := h.sideY.step (otherTurn_ne_none hlabel) hstep
  have huid : y'.uid = y.uid := congrArg Peer.uid (System.peer_local hstep)
  have hvictors (hsub : ∀ packet ∈ y'.incoming, packet ∈ y.incoming) :
      Names label (transit x y') := by
    intro victor hmem
    apply h.victors victor
    simp only [transit, List.mem_append] at hmem ⊢
    exact hmem.imp_left (hsub _)
  refine ⟨h.sideX, hside, by rw [huid]; exact h.uid, h.finished, h.turn, h.select,
    hvictors ?_⟩
  cases heffect with
  | quiet incoming => simp [incoming]
  | drained _ _ incoming =>
      intro packet hpacket
      rw [incoming]
      exact List.mem_append_right _ hpacket
  | ended _ _ _ incoming => simp [incoming]
  | moved _ incoming => simp [incoming]

theorem Won.congr {x y x' y' : Conn} (h : Won label x y)
    (hx : Side label x') (hy : Side (otherTurn label) y') (huid : x'.uid ≠ y'.uid)
    (hscene : x'.scene = x.scene) (hto : transit x' y' = transit x y) : Won label x' y' := by
  refine ⟨hx, hy, huid, ?_, ?_, ?_, ?_⟩
  · rw [hscene]
    exact h.finished
  · rw [hscene]
    exact h.turn
  · rw [hscene]
    exact h.select
  · rw [hto]
    exact h.victors

theorem Won.step (hlabel : label ≠ .none) {clicks : Bool} {x y x' y' : Conn}
    (h : Won label x y) (hstep : PairStep clicks x y x' y') : Won label x' y' := by
  cases hstep with
  | left _ hlocal => exact h.winner hlabel hlocal
  | right _ hlocal => exact h.loser hlabel hlocal
  | serveLeft _ _ hserve =>
      obtain ⟨⟨hx, hy⟩, ⟨huidx, huidy⟩, ⟨hscene, -⟩, hto, -⟩ :=
        h.sideX.serve h.sideY h.uid hserve
      exact h.congr hx hy (by rw [huidx, huidy]; exact h.uid) hscene hto
  | serveRight _ _ hserve =>
      obtain ⟨⟨hy, hx⟩, ⟨huidy, huidx⟩, ⟨-, hscene⟩, -, hto⟩ :=
        h.sideY.serve h.sideX h.uid.symm hserve
      exact h.congr hx hy (by rw [huidx, huidy]; exact h.uid) hscene hto

theorem winner_teamNumber (hlabel : label ≠ .none) : Msg.winner (teamNumber label) = label := by
  cases label with
  | none => exact absurd rfl hlabel
  | player1 => rfl
  | player2 => rfl

/-- The packets can be read as messages whose `endgame`s name the team. -/
theorem Names.msgs {team : PlayerTurn} {packets : List CustomPacket} (h : Names team packets)
    (hmsgs : ∀ packet ∈ packets, ∃ m : Msg, packet = m.packet) :
    ∃ msgs : List Msg, packets = msgs.map Msg.packet ∧
      ∀ victor, Msg.endgame victor ∈ msgs → victor = teamNumber team := by
  induction packets with
  | nil => exact ⟨[], rfl, by simp⟩
  | cons packet rest ih =>
      obtain ⟨msgs, hrest, hvictors⟩ := ih (fun victor hv => h victor (by simp [hv]))
        (fun p hp => hmsgs p (by simp [hp]))
      obtain ⟨m, rfl⟩ := hmsgs packet (by simp)
      cases m with
      | unit ref x y squadSize health =>
          refine ⟨.unit ref x y squadSize health :: msgs, by rw [hrest]; rfl, ?_⟩
          intro victor hmem
          exact hvictors victor (by simpa using hmem)
      | endgame victor =>
          refine ⟨.endgame (teamNumber team) :: msgs, ?_, ?_⟩
          · rw [hrest, List.map_cons]
            congr 1
            exact h victor (by simp [Msg.packet])
          · intro victor' hmem
            rcases List.mem_cons.mp hmem with hmem | hmem
            · exact Msg.endgame.inj hmem
            · exact hvictors victor' hmem
      | endturn =>
          refine ⟨.endturn :: msgs, by rw [hrest]; rfl, ?_⟩
          intro victor hmem
          exact hvictors victor (by simpa using hmem)

theorem foldl_onOutcome {team : PlayerTurn} (hteam : team ≠ .none) {msgs : List Msg}
    (hvictors : ∀ victor, Msg.endgame victor ∈ msgs → victor = teamNumber team)
    (outcome : Bool × PlayerTurn)
    (h : (∃ victor, Msg.endgame victor ∈ msgs) ∨ outcome = (true, team)) :
    msgs.foldl Msg.onOutcome outcome = (true, team) := by
  induction msgs generalizing outcome with
  | nil =>
      rcases h with ⟨victor, h⟩ | h
      · cases h
      · exact h
  | cons m msgs ih =>
      rw [List.foldl_cons]
      apply ih (fun victor hv => hvictors victor (by simp [hv]))
      cases m with
      | endgame victor =>
          right
          rw [Msg.onOutcome, hvictors victor (by simp), winner_teamNumber hteam]
      | unit ref x y squadSize health =>
          refine h.imp_left ?_
          rintro ⟨victor, hv⟩
          exact ⟨victor, by simpa using hv⟩
      | endturn =>
          refine h.imp_left ?_
          rintro ⟨victor, hv⟩
          exact ⟨victor, by simpa using hv⟩

/-- Once the loser drains an `endgame`, both know the same winner. -/
theorem Won.drained (hlabel : label ≠ .none) {x y : Conn} (h : Won label x y)
    {scene : GameScene} (hframe : y.scene.Frame scene)
    (hqueue : ∃ victor, endgamePacket victor ∈ y.scene.client.unitUpdateQueue)
    (hdrained : scene.client.unitUpdateQueue = []) : scene.outcome = (true, label) := by
  obtain ⟨victor, hvictor⟩ := hqueue
  have hsame (hclient : scene.client = y.scene.client) : scene.outcome = (true, label) := by
    rw [← hclient, hdrained] at hvictor
    cases hvictor
  cases hframe with
  | idle => exact hsame (by simp)
  | send hsend => exact absurd (hsend.symm.trans h.sideY.closed_send) (by simp)
  | adopt hadopt => exact absurd (hadopt.symm.trans h.sideY.closed_adopt) (by simp)
  | finished => exact hsame (by simp)
  | wait => exact hsame (by simp [unitsUpdate])
  | drain closed hfinished hwait _ hdrain =>
      have hnames : Names label y.scene.client.unitUpdateQueue := by
        intro victor' hmem
        apply h.victors victor'
        have hunit : isUnit (endgamePacket victor') = true := rfl
        simp only [transit, Conn.incoming, List.mem_append, List.mem_filter]
        exact Or.inl ⟨Or.inl (Or.inl hmem), hunit⟩
      obtain ⟨msgs, hmsgs, hvictors⟩ := hnames.msgs h.sideY.queue
      have hbegun : y.scene.begun.unitsUpdate.client.unitUpdateQueue = msgs.map Msg.packet := by
        rw [← hmsgs]
        simp [unitsUpdate]
      obtain ⟨-, -, -, -, -, houtcome, -⟩ := drain_spec hbegun hdrain
      rw [houtcome]
      apply foldl_onOutcome hlabel hvictors
      left
      rw [hmsgs] at hvictor
      obtain ⟨m, hm, hpacket⟩ := List.mem_map.mp hvictor
      obtain ⟨victor', rfl⟩ := Msg.packet_eq_endgame hpacket
      exact ⟨victor', hm⟩

/-- What the click writes when all opposing units are dead. -/
theorem turnMsgs_dead (hlabel : label ≠ .none) {scene : GameScene}
    (hteam : scene.assignedTeam = label) (hdead : ∀ ref ∈ opposing label, scene.Dead ref)
    (undefinedReturn : Bool) :
    scene.turnMsgs undefinedReturn =
      scene.changedMsgs ++ [.endgame (teamNumber label), .endturn] := by
  subst hteam
  rw [turnMsgs, endgameCheck_dead hlabel hdead]
  simp [victor, teamNumber]

theorem endgame_not_mem_changedMsgs (scene : GameScene) (victor : Int) :
    endgamePacket victor ∉ scene.changedMsgs.map Msg.packet := by
  intro hmem
  obtain ⟨m, hm, hpacket⟩ := List.mem_map.mp hmem
  obtain ⟨victor', rfl⟩ := Msg.packet_eq_endgame hpacket
  obtain ⟨ref, -, href⟩ := List.mem_map.mp hm
  cases href

theorem names_turnMsgs_dead (scene : GameScene) (team : PlayerTurn) :
    Names team
      ((scene.changedMsgs ++ [Msg.endgame (teamNumber team), .endturn]).map Msg.packet) := by
  intro victor hmem
  rw [List.map_append, List.mem_append] at hmem
  rcases hmem with hmem | hmem
  · exact absurd hmem (endgame_not_mem_changedMsgs scene victor)
  · simp only [List.map_cons, List.map_nil, List.mem_cons, List.not_mem_nil, or_false] at hmem
    rcases hmem with hmem | hmem
    · exact hmem
    · have hname := @Msg.name_of_packet_eq (.endgame victor) .endturn hmem
      simp [Msg.name] at hname

/-- A click that finds all opposing units dead settles the game. -/
theorem Holds.won (hlabel : label ≠ .none) {x y : Conn} (h : Holds label x y)
    (hx : Side label x) (hy : Side (otherTurn label) y) (huid : x.uid ≠ y.uid)
    (hteam : x.scene.assignedTeam = label)
    (hdead : ∀ ref ∈ opposing label, x.scene.Dead ref)
    (undefinedReturn : Bool) (hopen : x.scene.isOpen = true) :
    Won label { x with scene := x.scene.endTurn undefinedReturn } y := by
  have hturn : x.scene.playerTurn = x.scene.assignedTeam := h.turnHolder.trans hteam.symm
  obtain ⟨hside, heffect⟩ := hx.click (.ended undefinedReturn hopen hturn)
  have hcheck := endgameCheck_dead (hteam ▸ hlabel) (hteam ▸ hdead)
  have hmsgs := turnMsgs_dead hlabel hteam hdead undefinedReturn
  have hunits := filter_isUnit_packets (x.scene.turnMsgs undefinedReturn)
  refine ⟨hside, hy, huid, ?_, ?_, ?_, ?_⟩
  · simp only [endTurn_eq, outcome, hcheck, hteam]
  · simp only [endTurn_eq, h.turnHolder]
  · simp only [endTurn_eq]
  · have hempty : y.incoming = [] ∧ x.outgoing = [] := List.append_eq_nil_iff.mp h.toOther
    have htransit : transit { x with scene := x.scene.endTurn undefinedReturn } y =
        (x.scene.turnMsgs undefinedReturn).map Msg.packet := by
      have hout := hempty.2
      simp only [Conn.outgoing, Conn.unhandled] at hout
      simp only [transit, hempty.1, List.nil_append, Conn.outgoing, Conn.unhandled, endTurn_eq,
        ClientComponent.push]
      rw [← List.append_assoc, List.filter_append, hout, hunits]
      rfl
    rw [htransit, hmsgs]
    exact names_turnMsgs_dead x.scene label

end Conn

section Click

open GameScene

/-- The packets that a step has added to the sending queue. -/
def Conn.written (before after : Conn) : List CustomPacket :=
  after.scene.client.sendingQueue.drop before.scene.client.sendingQueue.length

/-- Whenever the opponent's frame drains an `endgame`, both clients have
finished with the same winner. -/
def Agreed (after : System) (clicker opponent : Nat) : Prop :=
  ∀ events later drained w y w' y', (∀ event ∈ events, event.stays = true) →
    exec System.step after events = some later →
    System.step later (.act opponent .frame) = some drained →
    later.conns[clicker]? = some w → later.conns[opponent]? = some y →
    drained.conns[clicker]? = some w' → drained.conns[opponent]? = some y' →
    (∃ victor, endgamePacket victor ∈ y.scene.client.unitUpdateQueue) →
    y'.scene.client.unitUpdateQueue = [] →
    w'.scene.gameFinished = true ∧ y'.scene.gameFinished = true ∧
      w'.scene.winningPlayer = y'.scene.winningPlayer

/-- The end of the game is detected exactly: the check returns a value, an
`endgame` is queued just when the other team has nobody left, it names the
clicker's team right before `endturn`, and the opponent comes to agree. -/
structure EndDetected (x x' : Conn) (after : System) (clicker opponent : Nat) : Prop where
  defined : x.scene.endgameCheck.1 ≠ none
  queued : (∃ victor, endgamePacket victor ∈ x.written x') ↔
    ∀ ref ∈ opposing x.scene.assignedTeam, x.scene.Wiped ref
  named : ∀ victor, endgamePacket victor ∈ x.written x' →
    endgamePacket victor = endgamePacket (teamNumber x.scene.assignedTeam) ∧
      ∃ changes, endgamePacket victor ∉ changes ∧
        x.written x' = changes ++ [endgamePacket victor, endturnPacket]
  agreed : Agreed after clicker opponent

/-- The two sides of a started pair, seen from either of them. -/
theorem StartedPair.sides {system : System} {a b x : Conn} (h : StartedPair system a b)
    {clicker opponent : Nat} (hx : system.conns[clicker]? = some x)
    (hopponent : opponent + clicker = 1) :
    ∃ y label, label ≠ PlayerTurn.none ∧ x.scene.assignedTeam = label ∧
      Conn.Duel label (otherTurn label) x y ∧
      ((clicker = 0 ∧ opponent = 1 ∧ system.conns = [x, y]) ∨
        (clicker = 1 ∧ opponent = 0 ∧ system.conns = [y, x])) := by
  obtain ⟨hduel, hteamA, hteamB⟩ := h.duel
  rw [h.conns] at hx ⊢
  have hcases : (clicker = 0 ∧ opponent = 1) ∨ (clicker = 1 ∧ opponent = 0) := by omega
  rcases hcases with ⟨rfl, rfl⟩ | ⟨rfl, rfl⟩
  · obtain rfl : a = x := by simpa using hx
    exact ⟨b, .player1, by simp, hteamA, hduel, Or.inl ⟨rfl, rfl, rfl⟩⟩
  · obtain rfl : b = x := by simpa using hx
    exact ⟨a, .player2, by simp, hteamB, hduel.swap, Or.inr ⟨rfl, rfl, rfl⟩⟩

theorem Conn.Duel.holds {label : PlayerTurn} (hlabel : label ≠ .none) {x y : Conn}
    (h : Duel label (otherTurn label) x y) (hturn : x.scene.playerTurn = label) :
    Holds label x y := by
  have hother : label ≠ otherTurn label := label_ne_otherTurn hlabel
  cases h.phase rfl with
  | holds h => exact h
  | passes h => exact absurd (hturn.symm.trans h.turnSender) hother
  | otherHolds h => exact absurd (hturn.symm.trans h.turnOther) hother
  | otherPasses h => exact absurd (hturn.symm.trans h.turnReader) hother

/-- Once the game is settled the opponent can only come to agree. -/
theorem agreed_of_won {label : PlayerTurn} (hlabel : label ≠ .none) {server : Server}
    {x y : Conn} (h : Conn.Won label x y) :
    Agreed ⟨server, [x, y]⟩ 0 1 ∧ Agreed ⟨server, [y, x]⟩ 1 0 := by
  have hdrain {w y y' : Conn} (hwon : Conn.Won label w y)
      (hstep : y.step .frame = some y')
      (hqueue : ∃ victor, endgamePacket victor ∈ y.scene.client.unitUpdateQueue)
      (hempty : y'.scene.client.unitUpdateQueue = []) :
      w.scene.gameFinished = true ∧ y'.scene.gameFinished = true ∧
        w.scene.winningPlayer = y'.scene.winningPlayer := by
    simp only [Conn.step, Option.map_eq_some_iff] at hstep
    obtain ⟨scene, hscene, rfl⟩ := hstep
    have hframe := update_frame (Conn.toOption_eq_some hscene)
    have houtcome := hwon.drained hlabel hframe hqueue hempty
    have hfinished := hwon.finished
    simp only [outcome, Prod.mk.injEq] at houtcome hfinished
    exact ⟨hfinished.1, houtcome.1, hfinished.2.trans houtcome.2.symm⟩
  constructor
  · intro events later drained w y1 w' y1' hstay hrun hframe hw hy hw' hy' hqueue hempty
    obtain ⟨x2, y2, rfl, hwon⟩ := System.pair_invariant
      (fun _ _ _ _ hI (hstep : Conn.PairStep true _ _ _ _) => hI.step hlabel hstep)
      (fun event he => ⟨hstay event he, fun _ => rfl⟩) hrun h
    obtain rfl : x2 = w := by simpa using hw
    obtain rfl : y2 = y1 := by simpa using hy
    simp only [System.step, List.getElem?_cons_succ, List.getElem?_cons_zero,
      Option.map_eq_some_iff] at hframe
    obtain ⟨y3, hstep, rfl⟩ := hframe
    obtain rfl : x2 = w' := by simpa using hw'
    obtain rfl : y3 = y1' := by simpa using hy'
    exact hdrain hwon hstep hqueue hempty
  · intro events later drained w y1 w' y1' hstay hrun hframe hw hy hw' hy' hqueue hempty
    obtain ⟨y2, x2, rfl, hwon⟩ := System.pair_invariant
      (fun _ _ _ _ hI (hstep : Conn.PairStep true _ _ _ _) =>
        Conn.Won.step hlabel hI hstep.swap)
      (fun event he => ⟨hstay event he, fun _ => rfl⟩) hrun h
    obtain rfl : x2 = w := by simpa using hw
    obtain rfl : y2 = y1 := by simpa using hy
    simp only [System.step, List.getElem?_cons_zero, Option.map_eq_some_iff] at hframe
    obtain ⟨y3, hstep, rfl⟩ := hframe
    obtain rfl : x2 = w' := by simpa using hw'
    obtain rfl : y3 = y1' := by simpa using hy'
    exact hdrain hwon hstep hqueue hempty

theorem Conn.step_button {x : Conn} (hopen : x.scene.isOpen = true) (hturn : x.HasTurn)
    {undefinedReturn : Bool} {xpos ypos : Int}
    (hbutton : mouseOnSprite xpos ypos nextTurnButton = true) :
    x.step (.click undefinedReturn xpos ypos) =
      some { x with scene := x.scene.endTurn undefinedReturn } := by
  simp only [Conn.step, clickHandler_button hopen hturn hbutton]
  rfl

theorem Conn.written_endTurn (x : Conn) (undefinedReturn : Bool) :
    x.written { x with scene := x.scene.endTurn undefinedReturn } =
      (x.scene.turnMsgs undefinedReturn).map Msg.packet := by
  simp [Conn.written, endTurn_eq, ClientComponent.push]

theorem Conn.written_endTurn_dead {x : Conn} (hteam : x.scene.assignedTeam ≠ .none)
    (hdead : ∀ ref ∈ opposing x.scene.assignedTeam, x.scene.Dead ref) (undefinedReturn : Bool) :
    x.written { x with scene := x.scene.endTurn undefinedReturn } =
      x.scene.changedMsgs.map Msg.packet ++
        [endgamePacket (teamNumber x.scene.assignedTeam), endturnPacket] := by
  rw [Conn.written_endTurn, Conn.turnMsgs_dead hteam rfl hdead, List.map_append]
  rfl

/-- After a step of its own that settles the game, the opponent of a client can
only come to agree. -/
theorem agreed_of_act {label : PlayerTurn} (hlabel : label ≠ .none) {system after : System}
    {x y moved x' : Conn} {clicker opponent : Nat} {event : LocalEvent}
    (hplaces : (clicker = 0 ∧ opponent = 1 ∧ system.conns = [x, y]) ∨
      (clicker = 1 ∧ opponent = 0 ∧ system.conns = [y, x]))
    (hmoved : x.step event = some moved)
    (hstep : system.step (.act clicker event) = some after)
    (hx' : after.conns[clicker]? = some x') :
    x' = moved ∧ (Conn.Won label moved y → Agreed after clicker opponent) := by
  cases system with
  | mk server conns =>
      rcases hplaces with ⟨rfl, rfl, hconns⟩ | ⟨rfl, rfl, hconns⟩
      · simp only at hconns
        subst hconns
        simp only [System.step, List.getElem?_cons_zero, hmoved, Option.map_some,
          Option.some.injEq] at hstep
        subst hstep
        obtain rfl : moved = x' := by simpa using hx'
        exact ⟨rfl, fun hwon => (agreed_of_won hlabel hwon).1⟩
      · simp only at hconns
        subst hconns
        simp only [System.step, List.getElem?_cons_succ, List.getElem?_cons_zero, hmoved,
          Option.map_some, Option.some.injEq] at hstep
        subst hstep
        obtain rfl : moved = x' := by simpa using hx'
        exact ⟨rfl, fun hwon => (agreed_of_won hlabel hwon).2⟩

/-- The end of the game is detected exactly when every opposing unit has both
been found dead by a frame and still has nobody left. -/
theorem endDetected_iff {system after : System} {a b x x' : Conn} (h : StartedPair system a b)
    {clicker opponent : Nat} (hx : system.conns[clicker]? = some x)
    (hopponent : opponent + clicker = 1) (hopen : x.scene.isOpen = true) (hturn : x.HasTurn)
    {undefinedReturn : Bool} {xpos ypos : Int}
    (hbutton : mouseOnSprite xpos ypos nextTurnButton = true)
    (hstep : system.step (.act clicker (.click undefinedReturn xpos ypos)) = some after)
    (hx' : after.conns[clicker]? = some x') :
    EndDetected x x' after clicker opponent ↔
      ∀ ref ∈ opposing x.scene.assignedTeam, x.scene.Dead ref ∧ x.scene.Wiped ref := by
  obtain ⟨y, label, hlabel, hteam, hduel, hplaces⟩ := h.sides hx hopponent
  have hholds := hduel.holds hlabel (hturn.trans hteam)
  have hplays : x.scene.assignedTeam ≠ .none := hteam ▸ hlabel
  obtain ⟨rfl, hagreed⟩ :=
    agreed_of_act hlabel hplaces (Conn.step_button hopen hturn hbutton) hstep hx'
  constructor
  · intro hdetected
    have hdead : ∀ ref ∈ opposing x.scene.assignedTeam, x.scene.Dead ref := by
      by_contra halive
      apply hdetected.defined
      rw [endgameCheck_alive hplays halive]
    have hwiped := hdetected.queued.mp ⟨teamNumber x.scene.assignedTeam, by
      rw [Conn.written_endTurn_dead hplays hdead]
      simp⟩
    intro ref href
    exact ⟨hdead ref href, hwiped ref href⟩
  · intro hall
    have hdead : ∀ ref ∈ opposing x.scene.assignedTeam, x.scene.Dead ref :=
      fun ref href => (hall ref href).1
    have hwritten := Conn.written_endTurn_dead hplays hdead undefinedReturn
    constructor
    · rw [endgameCheck_dead hplays hdead]
      simp
    · refine ⟨fun _ ref href => (hall ref href).2, fun _ => ?_⟩
      exact ⟨teamNumber x.scene.assignedTeam, by rw [hwritten]; simp⟩
    · intro victor hmem
      have hname : endgamePacket victor = endgamePacket (teamNumber x.scene.assignedTeam) := by
        rw [Conn.written_endTurn, Conn.turnMsgs_dead hplays rfl hdead] at hmem
        exact Conn.names_turnMsgs_dead x.scene x.scene.assignedTeam victor hmem
      refine ⟨hname, x.scene.changedMsgs.map Msg.packet,
        Conn.endgame_not_mem_changedMsgs x.scene victor, ?_⟩
      rw [hwritten, hname]
    · apply hagreed
      exact hholds.won hlabel hduel.sideX hduel.sideY hduel.uid hteam
        (by rw [← hteam]; exact hdead) undefinedReturn hopen

/-- What the two checks below ask of the first client. -/
def buttonCheck (system : System) (a b : Conn) : Bool :=
  startedCheck a b && (a.scene.isOpen && decide (a.scene.playerTurn = a.scene.assignedTeam) &&
    ((system.step (.act 0 (.click true 1200 650))).any fun after => after.conns.length = 2))

theorem exists_click {system : System} {a b : Conn} (h : buttonCheck system a b = true) :
    startedCheck a b = true ∧ a.scene.isOpen = true ∧ a.HasTurn ∧
      ∃ after x', system.step (.act 0 (.click true 1200 650)) = some after ∧
        after.conns[0]? = some x' := by
  simp only [buttonCheck, Bool.and_eq_true, decide_eq_true_eq, Option.any_eq_true] at h
  obtain ⟨hstarted, ⟨hopen, hturn⟩, after, hstep, hlength⟩ := h
  have hx' : 0 < after.conns.length := by omega
  exact ⟨hstarted, hopen, hturn, after, _, hstep, List.getElem?_eq_getElem hx'⟩

def clickAt (index : Nat) (xpos ypos : Int) : SystemEvent := .act index (.click false xpos ypos)

/-- A client's next packets go out and are handled by the server. -/
def relay (index count : Nat) : List SystemEvent :=
  List.replicate count (.act index .send) ++ List.replicate count (.serve index)

/-- The first player's sniper walks up, the second player gathers its units in
one square, and two shots of the sniper, which hit all four, end the game. -/
def winningRun : List SystemEvent :=
  [clickAt 0 100 200, clickAt 0 280 243, clickAt 0 280 243, .act 0 .frame, clickAt 0 520 243,
    .act 0 .frame, clickAt 0 1200 650] ++ relay 0 2 ++ arrive 1 2 ++ [.act 1 .frame] ++
  [clickAt 1 1150 50, clickAt 1 1150 361, clickAt 1 1150 200, clickAt 1 1150 361,
    clickAt 1 1150 400, clickAt 1 1150 361, clickAt 1 1200 650] ++ relay 1 4 ++ arrive 0 4 ++
  [.act 0 .frame, clickAt 0 550 300, clickAt 0 1150 300, clickAt 0 1200 650] ++ relay 0 5 ++
  arrive 1 5 ++ [.act 1 .frame, clickAt 1 1200 650] ++ relay 1 1 ++ arrive 0 1 ++
  [.act 0 .frame, clickAt 0 550 300, clickAt 0 1150 300, .act 0 .frame, clickAt 0 1200 650]

/-- All units of the second player are gone, which the last frame has seen. -/
theorem endDetected_iff_won : ∃ system a b after x',
    exec System.step System.initial (openingRun ++ winningRun.dropLast) = some system ∧
      system.conns = [a, b] ∧ system.step (.act 0 (.click true 1200 650)) = some after ∧
      after.conns[0]? = some x' ∧ EndDetected a x' after 0 1 := by
  obtain ⟨system, a, b, hrun, hconns, hcheck⟩ :=
    @exists_pair_of_check System.initial (openingRun ++ winningRun.dropLast)
      (fun system a b => buttonCheck system a b && decide (∀ ref ∈ opposing a.scene.assignedTeam,
        (a.scene.units.get ref).isDead = true ∧ (a.scene.units.get ref).squadSize ≤ 0))
      (by decide +kernel)
  rw [Bool.and_eq_true, decide_eq_true_eq] at hcheck
  obtain ⟨hstarted, hopen, hturn, after, x', hstep, hx'⟩ := exists_click hcheck.1
  exact ⟨system, a, b, after, x', hrun, hconns, hstep, hx',
    (endDetected_iff (startedPair_of_check hrun hconns hstarted) (by rw [hconns]; rfl) rfl hopen
      hturn (by decide +kernel) hstep hx').mpr hcheck.2⟩

/-- Right after the opening the first player clicks the button: the check
leaves the function without a value. -/
theorem not_endDetected_opening : ∃ system a b after x',
    exec System.step System.initial openingRun = some system ∧ system.conns = [a, b] ∧
      StartedPair system a b ∧ a.HasTurn ∧ a.scene.isOpen = true ∧
      mouseOnSprite 1200 650 nextTurnButton = true ∧
      system.step (.act 0 (.click true 1200 650)) = some after ∧
      after.conns[0]? = some x' ∧ ¬ EndDetected a x' after 0 1 := by
  obtain ⟨system, a, b, hrun, hconns, hcheck⟩ :=
    @exists_pair_of_check System.initial openingRun (fun system a b =>
      buttonCheck system a b && decide (a.scene.endgameCheck.1 = none)) (by decide +kernel)
  simp only [Bool.and_eq_true, decide_eq_true_eq] at hcheck
  obtain ⟨hstarted, hopen, hturn, after, x', hstep, hx'⟩ := exists_click hcheck.1
  refine ⟨system, a, b, after, x', hrun, hconns, startedPair_of_check hrun hconns hstarted,
    hturn, hopen, by decide +kernel, hstep, hx', ?_⟩
  intro hdetected
  exact hdetected.defined hcheck.2

end Click

end NetworkingGame
