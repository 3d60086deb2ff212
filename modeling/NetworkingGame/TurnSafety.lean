import NetworkingGame.Stage

/-!
What two players can rely on in a game that nobody has left: the turn is in
one place, the boards agree whenever nothing is in transit, and when exactly
the end of the game is detected.
-/

namespace NetworkingGame

open Library.Transition

def OppositeTeams (first second : PlayerTurn) : Prop :=
  (first = .player1 ∧ second = .player2) ∨ (first = .player2 ∧ second = .player1)

instance (first second : PlayerTurn) : Decidable (OppositeTeams first second) :=
  inferInstanceAs (Decidable (_ ∨ _))

/-- A reachable state in which two clients of opposite teams have both
received `start`; none of the two has left since then. -/
structure StartedPair (system : System) (a b : Conn) : Prop where
  run : ∃ events, exec System.step System.initial events = some system
  conns : system.conns = [a, b]
  startFirst : Server.startPacket ∈ a.dispatched
  startSecond : Server.startPacket ∈ b.dispatched
  opposite : OppositeTeams a.scene.assignedTeam b.scene.assignedTeam

theorem StartedPair.duel {system : System} {a b : Conn} (h : StartedPair system a b) :
    Conn.Duel .player1 .player2 a b ∧ a.scene.assignedTeam = .player1 ∧
      b.scene.assignedTeam = .player2 := by
  obtain ⟨⟨events, hrun⟩, hconns, hfirst, hsecond, hopposite⟩ := h
  cases stage_exec hrun with
  | empty => cases hconns
  | waiting => cases hconns
  | alone => cases hconns
  | joined active hstart =>
      obtain ⟨rfl, rfl, -⟩ := by simpa using hconns
      exact absurd (by simp [Conn.sent, hsecond]) hstart
  | duel active other hother hduel =>
      obtain ⟨rfl, rfl, -⟩ := by simpa using hconns
      rcases hduel.sideX.team with hteam | hteam
      · rcases hopposite with ⟨h, -⟩ | ⟨h, -⟩ <;> rw [hteam] at h <;> cases h
      · rcases hopposite with ⟨-, hteam'⟩ | ⟨h, -⟩
        · rcases hduel.sideY.team with h | h
          · rw [hteam'] at h
            cases h
          · rw [hteam'] at h
            rw [← h] at hduel
            exact ⟨hduel, hteam, hteam'⟩
        · rw [hteam] at h
          cases h

section Opening

def blankSprite : Sprite := ⟨.cast 0, .cast 0, .cast 0, .cast 0⟩

/-- A client takes in the next packets that are on the network for it. -/
def arrive (index count : Nat) : List SystemEvent :=
  List.replicate count (.act index .receive) ++ List.replicate count (.act index .dispatch)

/-- The next packets of a client are sent and relayed, and the other client
takes them in and draws a frame. -/
def exchange (index count : Nat) : List SystemEvent :=
  List.replicate count (.act index .send) ++ List.replicate count (.serve index) ++
    arrive (1 - index) count ++ [.act (1 - index) .frame]

/-- Two clients connect, take in `init` and `start`, and draw a frame. -/
def openingRun : List SystemEvent :=
  [.connect blankSprite, .connect blankSprite] ++ arrive 0 2 ++ arrive 1 2 ++
    [.act 0 .frame, .act 1 .frame]

/-- The first player selects the infantry and moves it two columns to the
right. -/
def movingRun : List SystemEvent :=
  openingRun ++ [.act 0 (.click false 50 10), .act 0 (.click false 300 100)]

/-- Then it ends the turn, and nothing of that has been sent yet. -/
def pressedRun : List SystemEvent := movingRun ++ [.act 0 (.click false 1200 650)]

/-- A check on the two clients, which fails unless there are two. -/
def System.onPair (system : System) (check : Conn → Conn → Bool) : Bool :=
  match system.conns with
  | [a, b] => check a b
  | _ => false

theorem System.onPair_eq_true {system : System} {check : Conn → Conn → Bool}
    (h : system.onPair check = true) :
    ∃ a b, system.conns = [a, b] ∧ check a b = true := by
  unfold onPair at h
  split at h
  · rename_i a b hconns
    exact ⟨a, b, hconns, h⟩
  · cases h

/-- A check on the pair at the end of a run, as a proposition. -/
theorem exists_pair_of_check {start : System} {events : List SystemEvent}
    {check : System → Conn → Conn → Bool}
    (h : ((exec System.step start events).any fun system =>
      system.onPair (check system)) = true) :
    ∃ system a b, exec System.step start events = some system ∧
      system.conns = [a, b] ∧ check system a b = true := by
  obtain ⟨system, hrun, hcheck⟩ := (Option.any_eq_true _ _).mp h
  obtain ⟨a, b, hconns, hcheck⟩ := System.onPair_eq_true hcheck
  exact ⟨system, a, b, hrun, hconns, hcheck⟩

def startedCheck (a b : Conn) : Bool :=
  Server.startPacket ∈ a.dispatched && Server.startPacket ∈ b.dispatched &&
    OppositeTeams a.scene.assignedTeam b.scene.assignedTeam

theorem startedPair_of_check {events : List SystemEvent} {system : System} {a b : Conn}
    (hrun : exec System.step System.initial events = some system)
    (hconns : system.conns = [a, b]) (h : startedCheck a b = true) : StartedPair system a b := by
  simp only [startedCheck, Bool.and_eq_true, decide_eq_true_eq] at h
  exact ⟨⟨events, hrun⟩, hconns, h.1.1, h.1.2, h.2⟩

end Opening

section Token

/-- All packets on their way from `x` to `y`: in the queues of either client
and on the network. -/
def Conn.inTransit (x y : Conn) : List CustomPacket :=
  y.scene.client.unitUpdateQueue ++ y.scene.client.recievedQueue ++ y.down ++ x.up ++
    x.scene.client.sendingQueue

def Conn.endturns (x y : Conn) : Nat := (x.inTransit y).count GameScene.endturnPacket

def Conn.HasTurn (x : Conn) : Prop := x.scene.playerTurn = x.scene.assignedTeam

/-- The turn is with one of the two, or a single `endturn` is on its way to
the one whose turn the other already sees. -/
inductive TurnToken (x y : Conn) : Prop
  | first (hx : x.HasTurn) (hy : ¬ y.HasTurn) (hto : x.endturns y = 0) (hfrom : y.endturns x = 0)
  | second (hx : ¬ x.HasTurn) (hy : y.HasTurn) (hto : x.endturns y = 0)
      (hfrom : y.endturns x = 0)
  | toSecond (hx : ¬ x.HasTurn) (hy : ¬ y.HasTurn) (hto : x.endturns y = 1)
      (hfrom : y.endturns x = 0) (hnext : x.scene.playerTurn = y.scene.assignedTeam)
  | toFirst (hx : ¬ x.HasTurn) (hy : ¬ y.HasTurn) (hto : x.endturns y = 0)
      (hfrom : y.endturns x = 1) (hnext : y.scene.playerTurn = x.scene.assignedTeam)

theorem endturns_eq (x y : Conn) :
    x.endturns y = (x.transit y).count GameScene.endturnPacket := by
  have hunit : Conn.isUnit GameScene.endturnPacket = true := rfl
  have hfilter : x.transit y = (x.inTransit y).filter Conn.isUnit := by
    simp [Conn.transit, Conn.incoming, Conn.outgoing, Conn.unhandled, Conn.inTransit]
  rw [hfilter, List.count_filter hunit, Conn.endturns]

theorem endturns_nil {x y : Conn} (h : x.transit y = []) : x.endturns y = 0 := by
  rw [endturns_eq, h]
  rfl

theorem endturns_one {x y : Conn} {body : List Msg} (hbody : Msg.endturn ∉ body)
    (h : x.transit y = (body ++ [Msg.endturn]).map Msg.packet) : x.endturns y = 1 := by
  have hnone : (body.map Msg.packet).count GameScene.endturnPacket = 0 := by
    rw [List.count_eq_zero]
    intro hmem
    obtain ⟨m, hm, hpacket⟩ := List.mem_map.mp hmem
    rw [Msg.packet_eq_endturn.mp hpacket] at hm
    exact hbody hm
  rw [endturns_eq, h, List.map_append, List.count_append, hnone]
  rfl

/-- The turn is neither lost nor doubled: in every reachable state exactly one
player has it, or exactly one `endturn` is on its way to the next player. -/
theorem turn_conserved {system : System} {a b : Conn} (h : StartedPair system a b) :
    TurnToken a b := by
  obtain ⟨hduel, hteamA, hteamB⟩ := h.duel
  cases hduel.phase rfl with
  | holds h =>
      refine .first ?_ ?_ (endturns_nil h.toOther) (endturns_nil h.toHolder)
      · rw [Conn.HasTurn, h.turnHolder, hteamA]
      · rw [Conn.HasTurn, h.turnOther, hteamB]
        simp
  | otherHolds h =>
      refine .second ?_ ?_ (endturns_nil h.toHolder) (endturns_nil h.toOther)
      · rw [Conn.HasTurn, h.turnOther, hteamA]
        simp [GameScene.otherTurn]
      · rw [Conn.HasTurn, h.turnHolder, hteamB]
        rfl
  | passes h =>
      obtain ⟨body, htransit, hbody, -⟩ := h.toReader
      refine .toSecond ?_ ?_ (endturns_one hbody htransit) (endturns_nil h.toSender) ?_
      · rw [Conn.HasTurn, h.turnSender, hteamA]
        simp [GameScene.otherTurn]
      · rw [Conn.HasTurn, h.turnReader, hteamB]
        simp
      · rw [h.turnSender, hteamB]
        rfl
  | otherPasses h =>
      obtain ⟨body, htransit, hbody, -⟩ := h.toReader
      refine .toFirst ?_ ?_ (endturns_nil h.toSender) (endturns_one hbody htransit) ?_
      · rw [Conn.HasTurn, h.turnReader, hteamA]
        simp [GameScene.otherTurn]
      · rw [Conn.HasTurn, h.turnSender, hteamB]
        simp [GameScene.otherTurn]
      · rw [h.turnSender, hteamA]
        rfl

/-- While the `endturn` waits in the queue, nobody has the turn. -/
theorem turn_conserved_pressed : ∃ system a b,
    exec System.step System.initial pressedRun = some system ∧ system.conns = [a, b] ∧
      ¬ a.HasTurn ∧ ¬ b.HasTurn ∧ a.endturns b = 1 ∧ TurnToken a b := by
  obtain ⟨system, a, b, hrun, hconns, hcheck⟩ :=
    @exists_pair_of_check System.initial pressedRun (fun _ a b => startedCheck a b &&
      decide (a.scene.playerTurn ≠ a.scene.assignedTeam ∧
        b.scene.playerTurn ≠ b.scene.assignedTeam ∧ a.endturns b = 1))
      (by decide +kernel)
  rw [Bool.and_eq_true, decide_eq_true_eq] at hcheck
  obtain ⟨hstarted, hfirst, hsecond, hone⟩ := hcheck
  exact ⟨system, a, b, hrun, hconns, hfirst, hsecond, hone,
    turn_conserved (startedPair_of_check hrun hconns hstarted)⟩

end Token

section Boards

/-- Nothing is queued or in flight in either direction. -/
def Settled (x y : Conn) : Prop := x.inTransit y = [] ∧ y.inTransit x = []

instance (x y : Conn) : Decidable (Settled x y) := inferInstanceAs (Decidable (_ ∧ _))

/-- The two copies of a unit agree on size and health and, if anybody is left
of the squad, on its place. -/
def SameUnit (first second : GameUnit) : Prop :=
  first.squadSize = second.squadSize ∧ first.health = second.health ∧
    (0 < first.squadSize → first.objectSprite.xPos = second.objectSprite.xPos ∧
      first.objectSprite.yPos = second.objectSprite.yPos)

theorem sameUnit_of_view {first second : GameUnit} (h : first.view = second.view) :
    SameUnit first second := by
  have hsize : first.squadSize = second.squadSize := congrArg GameUnit.View.squadSize h
  have hhealth : first.health = second.health := congrArg GameUnit.View.health h
  have hplace := congrArg GameUnit.View.place h
  refine ⟨hsize, hhealth, ?_⟩
  intro hpos
  simp only [GameUnit.view, GameUnit.viewAt, if_pos hpos, if_pos (hsize ▸ hpos),
    Option.some.injEq, Prod.mk.injEq] at hplace
  exact hplace

theorem transit_of_settled {x y : Conn} (h : x.inTransit y = []) : x.transit y = [] := by
  have hfilter : x.transit y = (x.inTransit y).filter Conn.isUnit := by
    simp [Conn.transit, Conn.incoming, Conn.outgoing, Conn.unhandled, Conn.inTransit]
  rw [hfilter, h]
  rfl

/-- Whenever nothing is in transit, the two boards agree on every unit that
neither client has changed since it last told the other. -/
theorem boards_agree {system : System} {a b : Conn} (h : StartedPair system a b)
    (hsettled : Settled a b) (ref : UnitRef)
    (hfirst : (a.scene.units.get ref).hasChanged = false)
    (hsecond : (b.scene.units.get ref).hasChanged = false) :
    SameUnit (a.scene.units.get ref) (b.scene.units.get ref) := by
  obtain ⟨hduel, -, -⟩ := h.duel
  have hto := transit_of_settled hsettled.1
  have hfrom := transit_of_settled hsettled.2
  apply sameUnit_of_view
  cases hduel.phase rfl with
  | holds h => simpa [GameScene.board] using h.board ref hfirst
  | otherHolds h => simpa [GameScene.board] using (h.board ref hsecond).symm
  | passes h =>
      obtain ⟨body, htransit, -⟩ := h.toReader
      rw [hto] at htransit
      simp at htransit
  | otherPasses h =>
      obtain ⟨body, htransit, -⟩ := h.toReader
      rw [hfrom] at htransit
      simp at htransit

/-- The infantry has moved, and the second client has taken that in. -/
theorem boards_agree_moved : ∃ system a b,
    exec System.step System.initial (pressedRun ++ exchange 0 2) = some system ∧
      system.conns = [a, b] ∧
      (a.scene.units.get .infantryEnemy).objectSprite.xPos = .cast 280 ∧
      SameUnit (a.scene.units.get .infantryEnemy) (b.scene.units.get .infantryEnemy) := by
  obtain ⟨system, a, b, hrun, hconns, hcheck⟩ :=
    @exists_pair_of_check System.initial (pressedRun ++ exchange 0 2) (fun _ a b =>
      startedCheck a b && decide (Settled a b ∧
        (a.scene.units.get .infantryEnemy).hasChanged = false ∧
        (b.scene.units.get .infantryEnemy).hasChanged = false ∧
        (a.scene.units.get .infantryEnemy).objectSprite.xPos = .cast 280))
      (by decide +kernel)
  rw [Bool.and_eq_true, decide_eq_true_eq] at hcheck
  obtain ⟨hstarted, hsettled, hfirst, hsecond, hplace⟩ := hcheck
  exact ⟨system, a, b, hrun, hconns, hplace,
    boards_agree (startedPair_of_check hrun hconns hstarted) hsettled .infantryEnemy hfirst
      hsecond⟩

end Boards

end NetworkingGame
