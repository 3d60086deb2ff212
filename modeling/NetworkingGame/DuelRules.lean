import NetworkingGame.Clients
import NetworkingGame.TurnSafety

/-!
Rules for what two players keep over a whole game. Their boards differ by what
the holder of the turn has done and, while a turn is on its way, by the part of
it that is yet to be read; all that is on its way shows the board of its sender.
A relation between the two boards that the clicks of the holder keep, and that
reading a part of a turn keeps, therefore holds throughout.
-/

namespace NetworkingGame

open Library.Transition

namespace Conn

/-- Every unit packet on its way from `x` to `y` shows the board of `x`. -/
def Faithful (x y : Conn) : Prop :=
  ∀ packet ∈ transit x y, ∃ m : Msg, packet = m.packet ∧ m.Shows x.scene.board

/-- The phases of a duel, and a relation between the board of the client that
holds the turn or has passed it on, and the board of the other. -/
inductive BoardPhase (A : Board → Board → Prop) (label : PlayerTurn) (x y : Conn) : Prop
  | holds (h : Holds label x y) (boards : A x.scene.board y.scene.board)
  | passes (h : Passes label x y) (told : Faithful x y) (boards : A x.scene.board y.scene.board)
  | otherHolds (h : Holds (GameScene.otherTurn label) y x) (boards : A y.scene.board x.scene.board)
  | otherPasses (h : Passes (GameScene.otherTurn label) y x) (told : Faithful y x)
      (boards : A y.scene.board x.scene.board)

/-- What keeps a property `I` of either scene and a relation `A` between the
two boards over the steps that meet `Ok`. Along the way a client's board only
changes as `R` says. -/
structure BoardRules (Ok : Conn → LocalEvent → Prop) (I : GameScene → Prop)
    (A R : Board → Board → Prop) : Prop where
  create : ∀ blank, I (.create blank)
  start : ∀ blank, A (GameScene.create blank).board (GameScene.create blank).board
  refl : ∀ board, R board board
  trans : ∀ first second third, R first second → R second third → R first third
  act : ∀ label x event x', label ≠ .none → Side label x → I x.scene → Ok x event →
    x.step event = some x' → I x'.scene
  click : ∀ x undefinedReturn xpos ypos scene other, I x.scene →
    Ok x (.click undefinedReturn xpos ypos) →
    x.scene.clickHandler undefinedReturn xpos ypos = .ok scene → A x.scene.board other →
    A scene.board other ∧ R x.scene.board scene.board
  drain : ∀ board x x' (msgs : List Msg), Ok x .frame → x.step .frame = some x' → x.scene.Drains →
    x.scene.client.unitUpdateQueue = msgs.map Msg.packet → (∀ m ∈ msgs, m.Shows board) →
    A board x.scene.board → A board (msgs.foldl Msg.onBoard x.scene.board) ∧
      R x.scene.board (msgs.foldl Msg.onBoard x.scene.board)

section Phases

variable {A : Board → Board → Prop} {label : PlayerTurn} {x y x' y' : Conn}

theorem BoardPhase.swap (h : BoardPhase A label x y) :
    BoardPhase A (GameScene.otherTurn label) y x := by
  cases h with
  | holds h boards =>
      apply BoardPhase.otherHolds _ boards
      rw [otherTurn_otherTurn]
      exact h
  | passes h told boards =>
      apply BoardPhase.otherPasses _ told boards
      rw [otherTurn_otherTurn]
      exact h
  | otherHolds h boards => exact .holds h boards
  | otherPasses h told boards => exact .passes h told boards

theorem Faithful.congr (h : Faithful x y) (hsubset : ∀ packet ∈ transit x' y', packet ∈ transit x y)
    (hboard : x'.scene.board = x.scene.board) : Faithful x' y' := by
  intro packet hpacket
  rw [hboard]
  exact h packet (hsubset packet hpacket)

/-- A step that nobody notices stays in the phase. -/
theorem BoardPhase.quiet (hlabel : label ≠ .none) (h : BoardPhase A label x y)
    (hquiet : Quiet x x') : BoardPhase A label x' y := by
  have hother := label_ne_otherTurn hlabel
  have hnone := otherTurn_ne_none hlabel
  have hto : transit x' y = transit x y := by
    rw [transit, hquiet.outgoing]
    rfl
  have hfrom : transit y x' = transit y x := by
    rw [transit, hquiet.incoming]
    rfl
  cases h with
  | holds h boards =>
      rw [← hquiet.board] at boards
      rcases h.act hlabel hquiet.effect with hnext | hnext
      · exact .holds hnext boards
      · have hturn := hnext.turnSender
        rw [hquiet.turn, h.turnHolder] at hturn
        exact absurd hturn hother
  | passes h told boards =>
      rw [← hquiet.board] at boards
      apply BoardPhase.passes (h.send hlabel hquiet.effect) _ boards
      apply told.congr _ hquiet.board
      intro packet hpacket
      rw [← hto]
      exact hpacket
  | otherHolds h boards =>
      rw [← hquiet.board] at boards
      exact .otherHolds (h.wait hnone hquiet.effect) boards
  | otherPasses h told boards =>
      rw [← hquiet.board] at boards
      rcases h.read hnone hquiet.effect with hnext | hnext
      · apply BoardPhase.otherPasses hnext _ boards
        apply told.congr _ rfl
        intro packet hpacket
        rw [← hfrom]
        exact hpacket
      · have hturn := hnext.turnHolder
        rw [hquiet.turn, h.turnReader, otherTurn_otherTurn] at hturn
        exact absurd hturn.symm hother

/-- The phases only look at the scenes and at what is in transit. -/
theorem BoardPhase.congr (h : BoardPhase A label x y) (hx : x'.scene = x.scene)
    (hy : y'.scene = y.scene) (hto : transit x' y' = transit x y)
    (hfrom : transit y' x' = transit y x) : BoardPhase A label x' y' := by
  have hsubset {x y x' y' : Conn} (hto : transit x' y' = transit x y) :
      ∀ packet ∈ transit x' y', packet ∈ transit x y := by
    intro packet hpacket
    rw [← hto]
    exact hpacket
  have hboardX : x'.scene.board = x.scene.board := by rw [hx]
  have hboardY : y'.scene.board = y.scene.board := by rw [hy]
  cases h with
  | holds h boards =>
      rw [← hboardX, ← hboardY] at boards
      exact .holds (h.congr hx hy hto hfrom) boards
  | passes h told boards =>
      rw [← hboardX, ← hboardY] at boards
      exact .passes (h.congr hx hy hto hfrom) (told.congr (hsubset hto) hboardX) boards
  | otherHolds h boards =>
      rw [← hboardX, ← hboardY] at boards
      exact .otherHolds (h.congr hy hx hfrom hto) boards
  | otherPasses h told boards =>
      rw [← hboardX, ← hboardY] at boards
      exact .otherPasses (h.congr hy hx hfrom hto) (told.congr (hsubset hfrom) hboardY) boards

end Phases

section Steps

variable {Ok : Conn → LocalEvent → Prop} {I : GameScene → Prop} {A R : Board → Board → Prop}
  {label : PlayerTurn} {x y x' : Conn}

/-- A frame that finds the queue empty is one that nobody notices. -/
theorem Drained.quiet (h : Drained x x') (hqueue : x.scene.client.unitUpdateQueue = []) :
    Quiet x x' := by
  obtain ⟨hboard, hturn, houtcome⟩ := h.read [] hqueue
  have hincoming := h.incoming
  rw [hqueue] at hincoming
  exact ⟨hincoming.symm, h.outgoing, hboard, h.flags, h.select, hturn, houtcome⟩

/-- Clicks out of turn change nothing. -/
theorem Side.click_waiting (hside : Side label x) (hturn : x.scene.playerTurn ≠ label)
    (hselect : x.scene.select = .fill false) {scene : GameScene}
    (hclick : x.scene.Click scene) : scene = x.scene := by
  have hother : x.scene.playerTurn ≠ x.scene.assignedTeam := by
    intro heq
    rcases hside.team with hteam | hteam
    · exact hside.turn (heq.trans hteam)
    · exact hturn (heq.trans hteam)
  cases hclick with
  | ignored => rfl
  | ended _ _ heq => exact absurd heq hother
  | moved _ _ hselected =>
      rcases hselected with heq | hselected
      · exact absurd heq hother
      · exact absurd hselect hselected

theorem shows_turnMsgs {undefinedReturn : Bool} {scene : GameScene} {m : Msg}
    (h : m ∈ scene.turnMsgs undefinedReturn) : m.Shows scene.board := by
  simp only [GameScene.turnMsgs, List.mem_append, List.mem_singleton] at h
  rcases h with (h | h) | rfl
  · exact shows_changedMsgs h
  · split at h
    · rw [List.mem_singleton.mp h]
      trivial
    · cases h
  · trivial

/-- The turn that a client passes on shows its board. -/
theorem Holds.faithful (hlabel : label ≠ .none) (h : Holds label x y)
    (heffect : Effect label x x') (hnext : Passes label x' y) : Faithful x' y := by
  have hother := label_ne_otherTurn hlabel
  have hpassed := hnext.turnSender
  cases heffect with
  | quiet _ _ _ _ _ turn =>
      rw [turn, h.turnHolder] at hpassed
      exact absurd hpassed hother
  | drained hwait =>
      rw [h.turnHolder] at hwait
      exact absurd hwait hother
  | ended undefinedReturn hturn hteam incoming outgoing scene =>
      have hempty : y.incoming ++ x.outgoing = [] := h.toOther
      have hboard : x'.scene.board = x.scene.board := by
        rw [scene, GameScene.endTurn_eq]
        ext ref
        simp [GameScene.board]
      intro packet hpacket
      rw [transit, outgoing, ← List.append_assoc, hempty, List.nil_append] at hpacket
      obtain ⟨m, hm, rfl⟩ := List.mem_map.mp hpacket
      refine ⟨m, rfl, ?_⟩
      rw [hboard]
      exact shows_turnMsgs hm
  | moved _ _ _ hmoved =>
      rw [hmoved.rest] at hpassed
      exact absurd (h.turnHolder.symm.trans hpassed) hother

/-- The holder of the turn clicks. -/
theorem BoardRules.clicked (hrules : BoardRules Ok I A R) (hlabel : label ≠ .none)
    (hside : Side label x) (h : Holds label x y) (boards : A x.scene.board y.scene.board)
    (hI : I x.scene) {undefinedReturn : Bool} {xpos ypos : Int} {scene : GameScene}
    (hok : Ok x (.click undefinedReturn xpos ypos))
    (hclick : x.scene.clickHandler undefinedReturn xpos ypos = .ok scene) :
    BoardPhase A label { x with scene := scene } y ∧ R x.scene.board scene.board := by
  obtain ⟨hboards, hchange⟩ :=
    hrules.click x undefinedReturn xpos ypos scene _ hI hok hclick boards
  obtain ⟨-, heffect⟩ := hside.click (GameScene.clickHandler_click hclick)
  refine ⟨?_, hchange⟩
  rcases h.act hlabel heffect with hnext | hnext
  · exact .holds hnext hboards
  · exact .passes hnext (h.faithful hlabel heffect hnext) hboards

/-- The client that the turn is on its way to reads a part of it, or all. -/
theorem BoardRules.drained (hrules : BoardRules Ok I A R)
    (h : Passes (GameScene.otherTurn label) y x) (told : Faithful y x)
    (boards : A y.scene.board x.scene.board) (hok : Ok x .frame)
    (hstep : x.step .frame = some x') (hdrained : Drained x x') :
    BoardPhase A label x' y ∧ R x.scene.board x'.scene.board := by
  have hqueue : ∀ packet ∈ x.scene.client.unitUpdateQueue,
      ∃ m : Msg, packet = m.packet ∧ m.Shows y.scene.board := by
    intro packet hpacket
    apply told packet
    rw [transit, hdrained.incoming]
    simp [hpacket]
  obtain ⟨msgs, hmsgs, hshows⟩ := Msg.exists_list hqueue
  obtain ⟨hboards, hchange⟩ :=
    hrules.drain _ x x' msgs hok hstep hdrained.drains hmsgs hshows boards
  obtain ⟨hboard, -⟩ := hdrained.read msgs hmsgs
  rw [← hboard] at hboards hchange
  refine ⟨?_, hchange⟩
  rcases h.drain hdrained.incoming hdrained.outgoing hdrained.flags hdrained.select hdrained.read
    with hnext | hnext
  · apply BoardPhase.otherPasses hnext _ hboards
    apply told.congr _ rfl
    intro packet hpacket
    rw [transit] at hpacket ⊢
    rw [hdrained.incoming, List.append_assoc]
    exact List.mem_append_right _ hpacket
  · rw [otherTurn_otherTurn] at hnext
    have hsame : x'.scene.board = y.scene.board := by
      ext ref
      rw [hnext.board ref]
      rw [hdrained.flags ref]
      exact h.flagsReader ref
    rw [hsame] at hboards
    apply BoardPhase.holds hnext
    rw [hsame]
    exact hboards

/-- A client acts, whatever its part in the phase. -/
theorem BoardRules.left (hrules : BoardRules Ok I A R) (hlabel : label ≠ .none)
    (hside : Side label x) (h : BoardPhase A label x y) (hI : I x.scene) {event : LocalEvent}
    (hok : Ok x event) (hstep : x.step event = some x') :
    BoardPhase A label x' y ∧ R x.scene.board x'.scene.board := by
  have hother := label_ne_otherTurn hlabel
  have hquiet {x' : Conn} (hquiet : Quiet x x') :
      BoardPhase A label x' y ∧ R x.scene.board x'.scene.board := by
    refine ⟨h.quiet hlabel hquiet, ?_⟩
    rw [hquiet.board]
    exact hrules.refl _
  cases hside.sideStep hlabel hstep with
  | quiet _ _ hnext => exact hquiet hnext
  | clicked undefinedReturn xpos ypos scene hclick =>
      have hwaiting (hturn : x.scene.playerTurn = GameScene.otherTurn label)
          (hselect : x.scene.select = .fill false) :
          BoardPhase A label { x with scene := scene } y ∧ R x.scene.board scene.board := by
        have hsame := hside.click_waiting (by rw [hturn]; exact hother.symm) hselect
          (GameScene.clickHandler_click hclick)
        rw [hsame]
        exact ⟨h, hrules.refl _⟩
      cases h with
      | holds hholds boards => exact hrules.clicked hlabel hside hholds boards hI hok hclick
      | passes hpasses => exact hwaiting hpasses.turnSender hpasses.selectSender
      | otherHolds hholds => exact hwaiting hholds.turnOther hholds.selectOther
      | otherPasses hpasses => exact hwaiting hpasses.turnReader hpasses.selectReader
  | drained _ hdrained =>
      cases h with
      | holds hholds =>
          have hturn := hdrained.awaits hlabel hside
          rw [hholds.turnHolder] at hturn
          exact absurd hturn hother
      | passes hpasses =>
          exact hquiet (hdrained.quiet (eq_nil_of_transit hpasses.toSender hdrained.incoming).1)
      | otherHolds hholds =>
          exact hquiet (hdrained.quiet (eq_nil_of_transit hholds.toOther hdrained.incoming).1)
      | otherPasses hpasses told boards =>
          exact hrules.drained hpasses told boards hok hstep hdrained

end Steps

/-- A duel of two clients that both have the property `I`, and whose boards
are related if they are on different sides. -/
structure Match (I : GameScene → Prop) (A : Board → Board → Prop) (other : PlayerTurn)
    (a b : Conn) : Prop where
  duel : Duel .player1 other a b
  first : I a.scene
  second : I b.scene
  boards : other = .player2 → BoardPhase A .player1 a b

section Matches

variable {Ok : Conn → LocalEvent → Prop} {I : GameScene → Prop} {A R : Board → Board → Prop}
  {other : PlayerTurn} {a b a' b' : Conn}

theorem Match.start (hrules : BoardRules Ok I A R) {nextUid : Nat} (h : Lobby nextUid a)
    (ha : I a.scene) (blank : Sprite) :
    Match I A other { a with down := a.down ++ [Server.startPacket] }
      { fresh nextUid blank with
        down := [Server.initPacket (idOf other), Server.startPacket] } := by
  have hduel := @Lobby.duel nextUid a h blank other
  refine ⟨hduel, ha, hrules.create blank, ?_⟩
  rintro rfl
  cases hduel.phase rfl with
  | holds hholds =>
      apply BoardPhase.holds hholds
      change A a.scene.board (GameScene.create blank).board
      rw [h.board blank]
      exact hrules.start blank
  | passes hpasses =>
      have hturn : a.scene.playerTurn = .player2 := hpasses.turnSender
      rw [h.turn] at hturn
      cases hturn
  | otherHolds hholds =>
      have hturn : a.scene.playerTurn = .player2 := hholds.turnOther
      rw [h.turn] at hturn
      cases hturn
  | otherPasses hpasses =>
      have hturn : a.scene.playerTurn = .player2 := hpasses.turnReader
      rw [h.turn] at hturn
      cases hturn

theorem Match.left (hrules : BoardRules Ok I A R) (h : Match I A other a b) {event : LocalEvent}
    (hok : Ok a event) (hstep : a.step event = some a') :
    Match I A other a' b ∧ (other = .player2 → R a.scene.board a'.scene.board) := by
  have hduel := h.duel.left (by simp) (step_local hstep)
  have hI := hrules.act _ _ _ _ (by simp) h.duel.sideX h.first hok hstep
  constructor
  · refine ⟨hduel, hI, h.second, ?_⟩
    intro hother
    exact (hrules.left (by simp) h.duel.sideX (h.boards hother) h.first hok hstep).1
  · intro hother
    exact (hrules.left (by simp) h.duel.sideX (h.boards hother) h.first hok hstep).2

theorem Match.right (hrules : BoardRules Ok I A R) (hother : other ≠ .none)
    (h : Match I A other a b) {event : LocalEvent} (hok : Ok b event)
    (hstep : b.step event = some b') :
    Match I A other a b' ∧ (other = .player2 → R b.scene.board b'.scene.board) := by
  have hduel := (h.duel.swap.left hother (step_local hstep)).swap
  have hI := hrules.act _ _ _ _ hother h.duel.sideY h.second hok hstep
  have hstepped (hlabel : other = .player2) :
      BoardPhase A (.player2) b' a ∧ R b.scene.board b'.scene.board := by
    subst hlabel
    exact hrules.left hother h.duel.sideY (h.boards rfl).swap h.second hok hstep
  exact ⟨⟨hduel, h.first, hI, fun hlabel => (hstepped hlabel).1.swap⟩,
    fun hlabel => (hstepped hlabel).2⟩

theorem Match.serve (h : Match I A other a b) (hserve : Serve a b a' b') :
    Match I A other a' b' ∧ a'.scene = a.scene ∧ b'.scene = b.scene := by
  obtain ⟨-, -, ⟨hscenea, hsceneb⟩, hto, hfrom⟩ :=
    h.duel.sideX.serve h.duel.sideY h.duel.uid hserve
  refine ⟨⟨h.duel.serve hserve, ?_, ?_, ?_⟩, hscenea, hsceneb⟩
  · rw [hscenea]
    exact h.first
  · rw [hsceneb]
    exact h.second
  · intro hother
    exact (h.boards hother).congr hscenea hsceneb hto hfrom

theorem Match.serveRight (h : Match I A other a b) (hserve : Serve b a b' a') :
    Match I A other a' b' ∧ a'.scene = a.scene ∧ b'.scene = b.scene := by
  obtain ⟨-, -, ⟨hsceneb, hscenea⟩, hfrom, hto⟩ :=
    h.duel.sideY.serve h.duel.sideX h.duel.uid.symm hserve
  refine ⟨⟨(h.duel.swap.serve hserve).swap, ?_, ?_, ?_⟩, hscenea, hsceneb⟩
  · rw [hscenea]
    exact h.first
  · rw [hsceneb]
    exact h.second
  · intro hother
    exact (h.boards hother).congr hscenea hsceneb hto hfrom

/-- One step of two clients that both stay. -/
theorem Match.step (hrules : BoardRules Ok I A R) (hother : other ≠ .none)
    (h : Match I A other a b) {server : Server} {event : SystemEvent} {after : System}
    (hstays : event.stays = true) (hok : System.ActsMeet Ok ⟨server, [a, b]⟩ event)
    (hstep : System.step ⟨server, [a, b]⟩ event = some after) :
    ∃ a' b', after = ⟨server, [a', b']⟩ ∧ Match I A other a' b' ∧
      (other = .player2 → R a.scene.board a'.scene.board ∧ R b.scene.board b'.scene.board) := by
  obtain ⟨a', b', rfl, hcases⟩ := System.step_pair_cases hstays hstep
  refine ⟨a', b', rfl, ?_⟩
  rcases hcases with ⟨own, rfl, hown, rfl⟩ | ⟨own, rfl, hown, rfl⟩ | hserve | hserve
  · obtain ⟨hmatch, hchange⟩ := h.left hrules (hok a rfl) hown
    exact ⟨hmatch, fun hlabel => ⟨hchange hlabel, hrules.refl _⟩⟩
  · obtain ⟨hmatch, hchange⟩ := h.right hrules hother (hok b rfl) hown
    exact ⟨hmatch, fun hlabel => ⟨hrules.refl _, hchange hlabel⟩⟩
  · obtain ⟨hmatch, hfirst, hsecond⟩ := h.serve hserve
    rw [hfirst, hsecond]
    exact ⟨hmatch, fun _ => ⟨hrules.refl _, hrules.refl _⟩⟩
  · obtain ⟨hmatch, hfirst, hsecond⟩ := h.serveRight hserve
    rw [hfirst, hsecond]
    exact ⟨hmatch, fun _ => ⟨hrules.refl _, hrules.refl _⟩⟩

/-- A run of steps of two clients that both stay. -/
theorem Match.run (hrules : BoardRules Ok I A R) (hother : other ≠ .none)
    (h : Match I A other a b) {server : Server} {events : List SystemEvent} {after : System}
    (hstays : ∀ event ∈ events, event.stays = true)
    (hok : Along System.step (System.ActsMeet Ok) ⟨server, [a, b]⟩ events)
    (hrun : exec System.step ⟨server, [a, b]⟩ events = some after) :
    ∃ a' b', after = ⟨server, [a', b']⟩ ∧ Match I A other a' b' ∧
      (other = .player2 → R a.scene.board a'.scene.board ∧ R b.scene.board b'.scene.board) := by
  induction events generalizing a b with
  | nil =>
      obtain rfl := Option.some.inj hrun
      exact ⟨a, b, rfl, h, fun _ => ⟨hrules.refl _, hrules.refl _⟩⟩
  | cons event events ih =>
      obtain ⟨next, hnext, hrest⟩ := (exec_cons _ _ _ _).mp hrun
      obtain ⟨a₁, b₁, rfl, hmatch, hchange⟩ :=
        h.step hrules hother (hstays event List.mem_cons_self) hok.1 hnext
      obtain ⟨a', b', rfl, hmatch', hchange'⟩ :=
        ih hmatch (fun e he => hstays e (List.mem_cons_of_mem event he)) (hok.2 _ hnext) hrest
      refine ⟨a', b', rfl, hmatch', ?_⟩
      intro hlabel
      obtain ⟨hfirst, hsecond⟩ := hchange hlabel
      obtain ⟨hfirst', hsecond'⟩ := hchange' hlabel
      exact ⟨hrules.trans _ _ _ hfirst hfirst', hrules.trans _ _ _ hsecond hsecond'⟩

end Matches

end Conn

/-- Where a run that keeps the rules is: a client that waits in the lobby has
the property, and two clients that the lobby has put together are a match. -/
structure Matched (I : GameScene → Prop) (A : Board → Board → Prop) (system : System) : Prop where
  lobby : ∀ x, system.conns = [x] → system.server.gameActive = false → I x.scene
  pair : ∀ a b, system.conns = [a, b] → Server.startPacket ∈ b.sent →
    ∃ other, other ≠ .none ∧ Conn.Match I A other a b

section Runs

variable {Ok : Conn → LocalEvent → Prop} {I : GameScene → Prop} {A R : Board → Board → Prop}

theorem Matched.step (hrules : Conn.BoardRules Ok I A R) {system after : System}
    {event : SystemEvent} (hstage : Stage system) (h : Matched I A system)
    (hok : System.ActsMeet Ok system event) (hstep : system.step event = some after) :
    Matched I A after := by
  have halone {server : Server} {x : Conn} (active : server.gameActive = true) :
      Matched I A ⟨server, [x]⟩ :=
    ⟨fun _ _ inactive => absurd (active.symm.trans inactive) (by simp),
      fun a b hconns => by simp at hconns⟩
  cases hstage.next hstep with
  | opened =>
      refine ⟨?_, fun a b hconns => by simp at hconns⟩
      intro x hx _
      obtain rfl := List.singleton_inj.mp hx
      exact hrules.create _
  | started inactive hlobby hother =>
      refine ⟨fun x hconns => by simp at hconns, ?_⟩
      intro a b hconns _
      obtain ⟨rfl, rfl, -⟩ := by simpa using hconns
      exact ⟨_, hother, .start hrules hlobby (h.lobby _ rfl inactive) _⟩
  | joined =>
      refine ⟨fun x hconns => by simp at hconns, ?_⟩
      intro a b hconns hstart
      obtain ⟨-, rfl, -⟩ := by simpa using hconns
      simp [Conn.sent, Conn.newcomer, Conn.fresh, GameScene.create, ClientComponent.fresh,
        Server.startPacket, Server.reconPacket] at hstart
  | @solo server x x' _ hstays hstep =>
      cases hstage with
      | alone active => exact halone active
      | waiting inactive hlobby =>
          refine ⟨?_, fun a b hconns => by simp at hconns⟩
          intro y hy _
          obtain rfl := List.singleton_inj.mp hy
          have hI := h.lobby x rfl inactive
          obtain ⟨x'', heq, hcases⟩ := System.step_solo_cases hstays hstep
          obtain rfl : x' = x'' := by simpa using heq
          rcases hcases with ⟨own, rfl, hown⟩ | ⟨-, hscene⟩
          · exact hrules.act _ _ _ _ (by simp) hlobby.side hI (hok x rfl) hown
          · rw [hscene]
            exact hI
  | @pair server a b a' b' _ hstays hstep hpair =>
      refine ⟨fun x hconns => by simp at hconns, ?_⟩
      intro a₁ b₁ hconns hstart
      obtain ⟨rfl, rfl, -⟩ := by simpa using hconns
      have hstarted : Server.startPacket ∈ b.sent :=
        not_not.mp fun hnot => System.start_not_mem_pair hnot hpair hstart
      obtain ⟨other, hother, hmatch⟩ := h.pair a b rfl hstarted
      obtain ⟨a₂, b₂, heq, hmatch', -⟩ := hmatch.step hrules hother hstays hok hstep
      obtain ⟨rfl, rfl⟩ := by simpa using heq
      exact ⟨other, hother, hmatch'⟩
  | leftFirst active => exact halone active
  | leftSecond active => exact halone active
  | emptied => exact ⟨fun x hconns => by simp at hconns, fun a b hconns => by simp at hconns⟩

/-- What the rules keep holds in every state of a run whose steps meet them. -/
theorem matched_exec (hrules : Conn.BoardRules Ok I A R) {events : List SystemEvent}
    {system : System} (hrun : exec System.step System.initial events = some system)
    (hok : Along System.step (System.ActsMeet Ok) System.initial events) :
    Matched I A system := by
  have hinitial : Matched I A System.initial := by
    constructor
    · intro x hx
      cases hx
    · intro a b hab
      cases hab
  have hmatched := @invariant_exec _ _ System.step
    (fun system => (Stage system ∧ system.server.componentNextUid < 2 ^ 32) ∧ Matched I A system)
    (System.ActsMeet Ok)
    (fun system event after h hok hstep =>
      ⟨Stage.step h.1 hstep, h.2.step hrules h.1.1 hok hstep⟩)
    System.initial system events hrun hok ⟨⟨.empty rfl, by decide⟩, hinitial⟩
  exact hmatched.2

/-- In a started game the players are on opposite sides. -/
theorem Conn.Match.opposing {system : System} {a b : Conn} {other : PlayerTurn}
    (h : Match I A other a b) (hstarted : StartedPair system a b) : other = .player2 := by
  obtain ⟨-, -, hteam⟩ := hstarted.duel
  rcases h.duel.sideY.team with hnone | hsame
  · rw [hteam] at hnone
    cases hnone
  · exact hsame.symm.trans hteam

theorem Matched.started {system : System} {a b : Conn} (h : Matched I A system)
    (hstarted : StartedPair system a b) :
    Conn.Match I A .player2 a b ∧ Conn.BoardPhase A .player1 a b := by
  have hstart : Server.startPacket ∈ b.sent := by simp [Conn.sent, hstarted.startSecond]
  obtain ⟨other, -, hmatch⟩ := h.pair a b hstarted.conns hstart
  have hopposing := hmatch.opposing hstarted
  subst hopposing
  exact ⟨hmatch, hmatch.boards rfl⟩

/-- The rest of a game that has started by its end, from any earlier state of
it. -/
theorem match_rest (hrules : Conn.BoardRules Ok I A R) {played rest : List SystemEvent}
    {system later : System} {a b a' b' : Conn}
    (hplayed : exec System.step System.initial played = some system)
    (hrest : exec System.step system rest = some later) (hconns : system.conns = [a, b])
    (hstays : ∀ event ∈ rest, event.stays = true) (hstarted : StartedPair later a' b')
    (hok : Along System.step (System.ActsMeet Ok) System.initial (played ++ rest)) :
    Conn.Match I A .player2 a' b' ∧ R a.scene.board a'.scene.board ∧
      R b.scene.board b'.scene.board := by
  obtain ⟨hokPlayed, hokRest⟩ := along_append.mp hok
  have hmatched := matched_exec hrules hplayed hokPlayed
  obtain ⟨server, conns⟩ := system
  obtain rfl : conns = [a, b] := hconns
  have hstart : Server.startPacket ∈ b.sent := by
    by_contra hnot
    obtain ⟨a₁, b₁, rfl, hnever⟩ := @System.pair_invariant true
      (fun _ b => Server.startPacket ∉ b.sent)
      (fun _ _ _ _ hnot hstep => System.start_not_mem_pair hnot hstep) server a b rest later
      (fun event hevent => ⟨hstays event hevent, fun _ => rfl⟩) hrest hnot
    obtain ⟨rfl, rfl, -⟩ := by simpa using hstarted.conns
    exact hnever (by simp [Conn.sent, hstarted.startSecond])
  obtain ⟨other, hother, hmatch⟩ := hmatched.pair a b rfl hstart
  obtain ⟨a₁, b₁, rfl, hmatch', hchange⟩ :=
    hmatch.run hrules hother hstays (hokRest _ hplayed) hrest
  obtain ⟨rfl, rfl, -⟩ := by simpa using hstarted.conns
  have hopposing := hmatch'.opposing hstarted
  subst hopposing
  exact ⟨hmatch', hchange rfl⟩

end Runs

end NetworkingGame
