import NetworkingGame.Duel

/-!
The turn and the board between two sides. At any time one side holds the turn
and nothing is in transit, or the turn is on its way behind the changes of the
last one; in either case the two boards agree once what is in transit has been
read, up to the units that the holder has changed.
-/

namespace NetworkingGame

namespace Conn

/-- `x`, whose team is `label`, holds the turn. -/
structure Holds (label : PlayerTurn) (x y : Conn) : Prop where
  toOther : transit x y = []
  toHolder : transit y x = []
  turnHolder : x.scene.playerTurn = label
  turnOther : y.scene.playerTurn = label
  selectOther : y.scene.select = .fill false
  flagsOther : ∀ ref, (y.scene.units.get ref).hasChanged = false
  board : ∀ ref, (x.scene.units.get ref).hasChanged = false →
    x.scene.board.get ref = y.scene.board.get ref

/-- `x`, whose team is `label`, has ended its turn, and `y` has not read so. -/
structure Passes (label : PlayerTurn) (x y : Conn) : Prop where
  toReader : ∃ body : List Msg, transit x y = (body ++ [Msg.endturn]).map Msg.packet ∧
    Msg.endturn ∉ body ∧ body.foldl Msg.onBoard y.scene.board = x.scene.board
  toSender : transit y x = []
  turnSender : x.scene.playerTurn = GameScene.otherTurn label
  turnReader : y.scene.playerTurn = label
  selectSender : x.scene.select = .fill false
  selectReader : y.scene.select = .fill false
  flagsSender : ∀ ref, (x.scene.units.get ref).hasChanged = false
  flagsReader : ∀ ref, (y.scene.units.get ref).hasChanged = false

inductive TurnPhase (label : PlayerTurn) (x y : Conn) : Prop
  | holds (h : Holds label x y)
  | passes (h : Passes label x y)
  | otherHolds (h : Holds (GameScene.otherTurn label) y x)
  | otherPasses (h : Passes (GameScene.otherTurn label) y x)

/-- Two clients that the lobby has put together. With the same local id they
are on one side, and nothing is said about their turns. -/
structure Duel (label other : PlayerTurn) (x y : Conn) : Prop where
  sideX : Side label x
  sideY : Side other y
  uid : x.uid ≠ y.uid
  phase : other = GameScene.otherTurn label → TurnPhase label x y

section Turns

variable {label : PlayerTurn}

theorem otherTurn_otherTurn (turn : PlayerTurn) :
    GameScene.otherTurn (GameScene.otherTurn turn) = turn := by
  cases turn <;> rfl

theorem TurnPhase.swap {x y : Conn} (h : TurnPhase label x y) :
    TurnPhase (GameScene.otherTurn label) y x := by
  cases h with
  | holds h =>
      apply TurnPhase.otherHolds
      rw [otherTurn_otherTurn]
      exact h
  | passes h =>
      apply TurnPhase.otherPasses
      rw [otherTurn_otherTurn]
      exact h
  | otherHolds h => exact .holds h
  | otherPasses h => exact .passes h

theorem Duel.swap {other : PlayerTurn} {x y : Conn} (h : Duel label other x y) :
    Duel other label y x := by
  refine ⟨h.sideY, h.sideX, h.uid.symm, ?_⟩
  intro hlabel
  have hother : other = GameScene.otherTurn label := by
    rw [hlabel, otherTurn_otherTurn]
  rw [hother]
  exact (h.phase hother).swap

theorem label_ne_otherTurn (hlabel : label ≠ .none) : label ≠ GameScene.otherTurn label :=
  fun h => hlabel (GameScene.otherTurn_eq_self h.symm)

theorem shows_changedMsgs {scene : GameScene} {m : Msg} (h : m ∈ scene.changedMsgs) :
    m.Shows scene.board := by
  obtain ⟨ref, -, rfl⟩ := List.mem_map.mp h
  simp [Msg.ofUnit, Msg.Shows, GameScene.board, GameUnit.view]

/-- Reading the changed units brings a board that agrees on the others in
line. -/
theorem foldl_changedMsgs (scene : GameScene) (board : Board)
    (h : ∀ ref, (scene.units.get ref).hasChanged = false →
      scene.board.get ref = board.get ref) :
    scene.changedMsgs.foldl Msg.onBoard board = scene.board := by
  ext ref
  rw [Msg.foldl_onBoard_get fun m => shows_changedMsgs]
  split
  · rfl
  · rename_i hmem
    have hflag : (scene.units.get ref).hasChanged = false := by
      simpa [GameScene.changedMsgs, Msg.ofUnit, Msg.subject, UnitRef.mem_all] using hmem
    exact (h ref hflag).symm

/-- All that a turn writes before `endturn`. -/
theorem turnMsgs_body (undefinedReturn : Bool) (scene : GameScene) :
    ∃ body : List Msg, scene.turnMsgs undefinedReturn = body ++ [.endturn] ∧
      Msg.endturn ∉ body ∧ ∀ board, body.foldl Msg.onBoard board =
        scene.changedMsgs.foldl Msg.onBoard board := by
  refine ⟨_, rfl, ?_, ?_⟩
  · intro hmem
    rcases List.mem_append.mp hmem with hmem | hmem
    · obtain ⟨ref, -, href⟩ := List.mem_map.mp hmem
      cases href
    · split at hmem <;> simp at hmem
  · intro board
    rw [List.foldl_append]
    split <;> rfl

theorem foldl_onTurn {msgs : List Msg} (h : Msg.endturn ∉ msgs) (turn : PlayerTurn) :
    msgs.foldl Msg.onTurn turn = turn := by
  induction msgs generalizing turn with
  | nil => rfl
  | cons m msgs ih =>
      simp only [List.mem_cons, not_or] at h
      rw [List.foldl_cons, ih h.2]
      cases m with
      | unit => rfl
      | endgame => rfl
      | endturn => exact absurd rfl h.1

theorem eq_nil_of_transit {x y x' : Conn} (hnil : transit y x = [])
    (hincoming : x.incoming = x.scene.client.unitUpdateQueue ++ x'.incoming) :
    x.scene.client.unitUpdateQueue = [] ∧ x'.incoming = x.incoming := by
  obtain ⟨hin, -⟩ := List.append_eq_nil_iff.mp hnil
  rw [hincoming] at hin
  obtain ⟨hqueue, hrest⟩ := List.append_eq_nil_iff.mp hin
  exact ⟨hqueue, by rw [hincoming, hqueue, hrest]; rfl⟩

/-- The holder of the turn acts. -/
theorem Holds.act (hlabel : label ≠ .none) {x y x' : Conn} (h : Holds label x y)
    (heffect : Effect label x x') : Holds label x' y ∨ Passes label x' y := by
  cases heffect with
  | quiet incoming outgoing board flags select turn =>
      left
      refine ⟨?_, ?_, turn.trans h.turnHolder, h.turnOther, h.selectOther, h.flagsOther, ?_⟩
      · rw [transit, outgoing]
        exact h.toOther
      · rw [transit, incoming]
        exact h.toHolder
      · intro ref href
        rw [board]
        exact h.board ref ((flags ref).symm.trans href)
  | drained hwait =>
      exact absurd (h.turnHolder.symm.trans hwait) (label_ne_otherTurn hlabel)
  | ended undefinedReturn hturn hteam incoming outgoing scene =>
      right
      obtain ⟨body, hmsgs, hbody, hboard⟩ := turnMsgs_body undefinedReturn x.scene
      rw [GameScene.endTurn_eq] at scene
      have hview : x'.scene.board = x.scene.board := by
        rw [scene]
        ext ref
        simp [GameScene.board]
      refine ⟨⟨body, ?_, hbody, ?_⟩, ?_, ?_, h.turnOther, ?_, h.selectOther, ?_, h.flagsOther⟩
      · have hempty := h.toOther
        rw [transit] at hempty ⊢
        rw [outgoing, ← List.append_assoc, hempty, hmsgs]
        rfl
      · rw [hboard, hview]
        exact foldl_changedMsgs x.scene y.scene.board h.board
      · rw [transit, incoming]
        exact h.toHolder
      · rw [scene, ← h.turnHolder]
      · rw [scene]
      · intro ref
        rw [scene]
        simp [GameUnit.clearChanged]
  | moved hselect incoming outgoing hmoved =>
      left
      refine ⟨?_, ?_, ?_, h.turnOther, h.selectOther, h.flagsOther, ?_⟩
      · rw [transit, outgoing]
        exact h.toOther
      · rw [transit, incoming]
        exact h.toHolder
      · rw [hmoved.rest]
        exact h.turnHolder
      · intro ref href
        rcases hmoved.unit ref with hchanged | ⟨hflag, hview⟩
        · exact absurd (hchanged.symm.trans href) (by simp)
        · have hbefore := h.board ref (hflag.symm.trans href)
          simp only [GameScene.board, Roster.get_map] at hbefore ⊢
          rw [hview]
          exact hbefore

/-- The side without the turn acts, and nothing is on its way to it. -/
theorem Holds.wait (hlabel : label ≠ .none) {x y y' : Conn} (h : Holds label x y)
    (heffect : Effect (GameScene.otherTurn label) y y') : Holds label x y' := by
  have hother : label ≠ GameScene.otherTurn label := label_ne_otherTurn hlabel
  cases heffect with
  | quiet incoming outgoing board flags select turn =>
      refine ⟨?_, ?_, h.turnHolder, turn.trans h.turnOther, select.trans h.selectOther, ?_, ?_⟩
      · rw [transit, incoming]
        exact h.toOther
      · rw [transit, outgoing]
        exact h.toHolder
      · intro ref
        rw [flags ref]
        exact h.flagsOther ref
      · intro ref href
        rw [board]
        exact h.board ref href
  | drained hwait hplaying incoming outgoing flags select read =>
      obtain ⟨hqueue, hsame⟩ := eq_nil_of_transit h.toOther incoming
      obtain ⟨hboard, hturn, -⟩ := read [] hqueue
      refine ⟨?_, ?_, h.turnHolder, hturn.trans h.turnOther, select.trans h.selectOther, ?_, ?_⟩
      · rw [transit, hsame]
        exact h.toOther
      · rw [transit, outgoing]
        exact h.toHolder
      · intro ref
        rw [flags ref]
        exact h.flagsOther ref
      · intro ref href
        rw [hboard]
        exact h.board ref href
  | ended undefinedReturn hturn =>
      exact absurd (h.turnOther.symm.trans hturn) hother
  | moved hselect =>
      rcases hselect with hturn | hselect
      · exact absurd (h.turnOther.symm.trans hturn) hother
      · exact absurd h.selectOther hselect

/-- The side that has passed the turn on acts. -/
theorem Passes.send (hlabel : label ≠ .none) {x y x' : Conn} (h : Passes label x y)
    (heffect : Effect label x x') : Passes label x' y := by
  have hother : label ≠ GameScene.otherTurn label := label_ne_otherTurn hlabel
  obtain ⟨body, htransit, hbody, hboard⟩ := h.toReader
  cases heffect with
  | quiet incoming outgoing board flags select turn =>
      refine ⟨⟨body, ?_, hbody, ?_⟩, ?_, turn.trans h.turnSender, h.turnReader,
        select.trans h.selectSender, h.selectReader, ?_, h.flagsReader⟩
      · rw [Conn.transit, outgoing]
        exact htransit
      · rw [board]
        exact hboard
      · rw [Conn.transit, incoming]
        exact h.toSender
      · intro ref
        rw [flags ref]
        exact h.flagsSender ref
  | drained hwait hplaying incoming outgoing flags select read =>
      obtain ⟨hqueue, hsame⟩ := eq_nil_of_transit h.toSender incoming
      obtain ⟨hview, hturn, -⟩ := read [] hqueue
      refine ⟨⟨body, ?_, hbody, ?_⟩, ?_, hturn.trans h.turnSender, h.turnReader,
        select.trans h.selectSender, h.selectReader, ?_, h.flagsReader⟩
      · rw [Conn.transit, outgoing]
        exact htransit
      · rw [hview]
        exact hboard
      · rw [Conn.transit, hsame]
        exact h.toSender
      · intro ref
        rw [flags ref]
        exact h.flagsSender ref
  | ended undefinedReturn hturn =>
      exact absurd (hturn.symm.trans h.turnSender) hother
  | moved hselect =>
      rcases hselect with hturn | hselect
      · exact absurd (hturn.symm.trans h.turnSender) hother
      · exact absurd h.selectSender hselect

/-- The reader has drained a part of what is on its way, or all of it. -/
theorem Passes.drain {x y y' : Conn} (h : Passes label x y)
    (hincoming : y.incoming = y.scene.client.unitUpdateQueue ++ y'.incoming)
    (houtgoing : y'.outgoing = y.outgoing)
    (hflags : ∀ ref, (y'.scene.units.get ref).hasChanged = (y.scene.units.get ref).hasChanged)
    (hselect : y'.scene.select = y.scene.select)
    (hread : ∀ msgs : List Msg, y.scene.client.unitUpdateQueue = msgs.map Msg.packet →
      y'.scene.board = msgs.foldl Msg.onBoard y.scene.board ∧
      y'.scene.playerTurn = msgs.foldl Msg.onTurn y.scene.playerTurn ∧
      y'.scene.outcome = msgs.foldl Msg.onOutcome y.scene.outcome) :
    Passes label x y' ∨ Holds (GameScene.otherTurn label) y' x := by
  obtain ⟨body, htransit, hbody, hboard⟩ := h.toReader
  rw [Conn.transit, hincoming, List.append_assoc] at htransit
  obtain ⟨first, second, hsplit, hfirst, hsecond⟩ := List.map_eq_append_iff.mp htransit.symm
  obtain ⟨hview, hturn, -⟩ := hread first hfirst.symm
  have hto : Conn.transit y' x = [] := by
    rw [Conn.transit, houtgoing]
    exact h.toSender
  have hclear : ∀ ref, (y'.scene.units.get ref).hasChanged = false := by
    intro ref
    rw [hflags ref]
    exact h.flagsReader ref
  rcases List.eq_nil_or_concat second with rfl | ⟨rest, last, rfl⟩
  · right
    simp only [List.append_nil] at hsplit
    subst hsplit
    rw [List.foldl_append] at hview hturn
    refine ⟨hto, ?_, ?_, h.turnSender, h.selectSender, h.flagsSender, ?_⟩
    · rw [Conn.transit]
      exact hsecond.symm
    · rw [hturn, foldl_onTurn hbody, h.turnReader]
      rfl
    · intro ref _
      rw [hview, hboard]
      rfl
  · left
    rw [List.concat_eq_append, ← List.append_assoc] at hsplit
    obtain ⟨rfl, hlast⟩ := List.append_inj' hsplit rfl
    obtain rfl : Msg.endturn = last := (List.cons.inj hlast).1
    have hnone : Msg.endturn ∉ first := fun hmem => hbody (List.mem_append_left _ hmem)
    refine ⟨⟨rest, ?_, fun hmem => hbody (List.mem_append_right _ hmem), ?_⟩, hto,
      h.turnSender, ?_, h.selectSender, hselect.trans h.selectReader, h.flagsSender, hclear⟩
    · rw [Conn.transit, ← hsecond, List.concat_eq_append]
    · rw [hview, ← List.foldl_append]
      exact hboard
    · rw [hturn, foldl_onTurn hnone]
      exact h.turnReader

/-- The side that the turn is on its way to acts. -/
theorem Passes.read (hlabel : label ≠ .none) {x y y' : Conn} (h : Passes label x y)
    (heffect : Effect (GameScene.otherTurn label) y y') :
    Passes label x y' ∨ Holds (GameScene.otherTurn label) y' x := by
  have hother : label ≠ GameScene.otherTurn label := label_ne_otherTurn hlabel
  obtain ⟨body, htransit, hbody, hboard⟩ := h.toReader
  cases heffect with
  | quiet incoming outgoing board flags select turn =>
      left
      refine ⟨⟨body, ?_, hbody, ?_⟩, ?_, h.turnSender, turn.trans h.turnReader,
        h.selectSender, select.trans h.selectReader, h.flagsSender, ?_⟩
      · rw [Conn.transit, incoming]
        exact htransit
      · rw [board]
        exact hboard
      · rw [Conn.transit, outgoing]
        exact h.toSender
      · intro ref
        rw [flags ref]
        exact h.flagsReader ref
  | drained hwait hplaying incoming outgoing flags select read =>
      exact h.drain incoming outgoing flags select read
  | ended undefinedReturn hturn =>
      exact absurd (h.turnReader.symm.trans hturn) hother
  | moved hselect =>
      rcases hselect with hturn | hselect
      · exact absurd (h.turnReader.symm.trans hturn) hother
      · exact absurd h.selectReader hselect

theorem TurnPhase.act (hlabel : label ≠ .none) {x y x' : Conn} (h : TurnPhase label x y)
    (heffect : Effect label x x') : TurnPhase label x' y := by
  have hnone : GameScene.otherTurn label ≠ .none := otherTurn_ne_none hlabel
  have heffect' : Effect (GameScene.otherTurn (GameScene.otherTurn label)) x x' := by
    rw [otherTurn_otherTurn]
    exact heffect
  cases h with
  | holds h =>
      rcases h.act hlabel heffect with h | h
      · exact .holds h
      · exact .passes h
  | passes h => exact .passes (h.send hlabel heffect)
  | otherHolds h => exact .otherHolds (h.wait hnone heffect')
  | otherPasses h =>
      rcases h.read hnone heffect' with h | h
      · exact .otherPasses h
      · rw [otherTurn_otherTurn] at h
        exact .holds h

section Congr

variable {x y x' y' : Conn}

theorem Holds.congr (h : Holds label x y) (hx : x'.scene = x.scene) (hy : y'.scene = y.scene)
    (hto : transit x' y' = transit x y) (hfrom : transit y' x' = transit y x) :
    Holds label x' y' := by
  obtain ⟨h1, h2, h3, h4, h5, h6, h7⟩ := h
  rw [← hto] at h1
  rw [← hfrom] at h2
  rw [← hx] at h3 h7
  rw [← hy] at h4 h5 h6 h7
  exact ⟨h1, h2, h3, h4, h5, h6, h7⟩

theorem Passes.congr (h : Passes label x y) (hx : x'.scene = x.scene) (hy : y'.scene = y.scene)
    (hto : transit x' y' = transit x y) (hfrom : transit y' x' = transit y x) :
    Passes label x' y' := by
  obtain ⟨h1, h2, h3, h4, h5, h6, h7, h8⟩ := h
  rw [← hto, ← hx, ← hy] at h1
  rw [← hfrom] at h2
  rw [← hx] at h3 h5 h7
  rw [← hy] at h4 h6 h8
  exact ⟨h1, h2, h3, h4, h5, h6, h7, h8⟩

/-- The phases only look at the scenes and at what is in transit. -/
theorem TurnPhase.congr (h : TurnPhase label x y) (hx : x'.scene = x.scene)
    (hy : y'.scene = y.scene) (hto : transit x' y' = transit x y)
    (hfrom : transit y' x' = transit y x) : TurnPhase label x' y' := by
  cases h with
  | holds h => exact .holds (h.congr hx hy hto hfrom)
  | passes h => exact .passes (h.congr hx hy hto hfrom)
  | otherHolds h => exact .otherHolds (h.congr hy hx hfrom hto)
  | otherPasses h => exact .otherPasses (h.congr hy hx hfrom hto)

end Congr

end Turns

section Invariant

variable {label other : PlayerTurn}

theorem Duel.left (hlabel : label ≠ .none) {clicks : Bool} {x y x' : Conn}
    (h : Duel label other x y) (hstep : x.Local clicks x') : Duel label other x' y := by
  obtain ⟨hside, heffect⟩ := h.sideX.step hlabel hstep
  have huid : x'.uid = x.uid := congrArg Peer.uid (System.peer_local hstep)
  refine ⟨hside, h.sideY, by rw [huid]; exact h.uid, ?_⟩
  intro hopposite
  exact (h.phase hopposite).act hlabel heffect

theorem Duel.serve {x y x' y' : Conn} (h : Duel label other x y) (hserve : Serve x y x' y') :
    Duel label other x' y' := by
  obtain ⟨⟨hx, hy⟩, ⟨huidx, huidy⟩, ⟨hscenex, hsceney⟩, hto, hfrom⟩ :=
    h.sideX.serve h.sideY h.uid hserve
  refine ⟨hx, hy, by rw [huidx, huidy]; exact h.uid, ?_⟩
  intro hopposite
  exact (h.phase hopposite).congr hscenex hsceney hto hfrom

/-- A duel goes on as long as both clients stay. -/
theorem Duel.step (hlabel : label ≠ .none) (hother : other ≠ .none) {clicks : Bool}
    {a b a' b' : Conn} (h : Duel label other a b) (hstep : PairStep clicks a b a' b') :
    Duel label other a' b' := by
  cases hstep with
  | left _ hlocal => exact h.left hlabel hlocal
  | right _ hlocal => exact (h.swap.left hother hlocal).swap
  | serveLeft _ _ hserve => exact h.serve hserve
  | serveRight _ _ hserve => exact (h.swap.serve hserve).swap

end Invariant

end Conn

end NetworkingGame
