import NetworkingGame.Resumption

/-!
What a reconnect comes to when nobody clicks in between: the newcomer takes
over the leaver's side of the game that the survivor sees.
-/

namespace NetworkingGame

open Library.Transition Library.Fairness

namespace Conn

/-- No `endturn` of `r` is on its way to `c`, and what `r` has left to drain says
nothing new. -/
structure Fitting (r c : Conn) : Prop where
  received : GameScene.endturnPacket ∉ c.scene.client.unitUpdateQueue ++ c.inbox
  unsent : GameScene.endturnPacket ∉ r.outbox
  steady : Steady r

section Fitting

variable {r c r' c' : Conn}

theorem mem_outbox_of_endturn (h : GameScene.endturnPacket ∈ r.unhandled) :
    GameScene.endturnPacket ∈ r.outbox :=
  List.mem_filter.mpr ⟨h, isGame_packet Msg.endturn⟩

theorem SnapshotFits.fitting (h : SnapshotFits r c) : Fitting r c := by
  have hsent := h.sent
  simp only [inTransit, List.mem_append, not_or] at hsent
  refine ⟨?_, ?_, steady_of_unchanging h.received⟩
  · simp only [inbox, List.mem_append, not_or]
    tauto
  · intro hmem
    have hwritten := List.mem_of_mem_filter hmem
    simp only [unhandled, List.mem_append] at hwritten
    tauto

/-- What has been written about units says nothing new to a steady client. -/
theorem Steady.unchanging (h : Steady r) (hr : Proper r) :
    r.scene.gameFinished = true ∨
      ∀ packet ∈ r.scene.client.unitUpdateQueue ++ r.inbox, packet.type = "unit" →
        r.scene.Unchanging packet := by
  refine h.imp_right ?_
  intro hall packet hpacket htype
  have hmsg : ∃ m : Msg, packet = m.packet := by
    rcases List.mem_append.mp hpacket with hqueue | hinbox
    · exact hr.queue packet hqueue
    · have hsent : packet ∈ r.sent := by
        rw [sent_eq]
        exact List.mem_append_right _ hinbox
      exact (hr.sent packet hsent (by simp [isGame, htype])).of_unit htype
  obtain ⟨m, rfl⟩ := hmsg
  rw [GameScene.Unchanging]
  cases happly : r.scene.applyUnitPacket m.packet with
  | error fault => trivial
  | ok after =>
      have hread := (GameScene.applyUnitPacket_isOk r.scene m.packet).mpr ⟨after, happly⟩
      obtain ⟨hturn, hboard⟩ := hall m hpacket (isOk_iff.mpr hread)
      obtain rfl := GameScene.applyUnitPacket_packet happly
      rw [← GameScene.applyMsg_playerTurn] at hturn
      rw [← GameScene.applyMsg_board] at hboard
      exact ⟨hturn, hboard⟩

theorem Fitting.snapshotFits (h : Fitting r c) (hr : Proper r) : SnapshotFits r c := by
  refine ⟨?_, h.steady.unchanging hr⟩
  intro hmem
  have hreceived := h.received
  have hunsent := mt mem_outbox_of_endturn h.unsent
  simp only [inTransit, inbox, unhandled, List.mem_append, not_or] at hmem hreceived hunsent
  tauto

theorem endturn_not_mem_snapshot (scene : GameScene) (gameTurn : Int) :
    GameScene.endturnPacket ∉ scene.snapshot gameTurn := by
  rw [snapshot_eq, batch]
  simp only [List.cons_append, List.mem_cons, List.mem_append, not_or, List.not_mem_nil,
    not_false_eq_true, and_true]
  refine ⟨?_, ?_, ?_, ?_⟩
  · intro hsame
    have htype := congrArg CustomPacket.type hsame
    simp [GameScene.endturnPacket, GameScene.playerPacket] at htype
  · intro hsame
    have htype := congrArg CustomPacket.type hsame
    simp [GameScene.endturnPacket, GameScene.turnPacket] at htype
  · intro hmem
    obtain ⟨m, hm, hsame⟩ := List.mem_map.mp hmem
    obtain rfl := Msg.packet_eq_endturn.mp hsame
    simp [unitMsgs, Msg.ofUnit] at hm
  · decide

/-- While nobody clicks, no `endturn` is written. -/
theorem Fitting.step (h : Fitting r c) (hresync : Resync r c) (horigins : Origins r c)
    (hstep : PairStep false r c r' c') : Fitting r' c' := by
  have hleft := hresync.pending.noLeftover
  cases hstep with
  | left _ hlocal =>
      have hdeed := hlocal.deed horigins.properA.writes
      have hquiet : false = true → r.scene.isOpen = false := fun hfalse => by cases hfalse
      refine ⟨h.received, ?_,
        (hdeed.steady horigins.properA hquiet hleft.not_adopts h.steady).2.2⟩
      obtain ⟨packets, houtbox, hcases⟩ := hdeed.outbox
      rw [houtbox, List.mem_append, not_or]
      refine ⟨h.unsent, ?_⟩
      rcases hcases with rfl | ⟨-, gameTurn, -, rfl⟩ | ⟨hfalse, -⟩
      · simp
      · exact endturn_not_mem_snapshot _ _
      · cases hfalse
  | right _ hlocal =>
      have hdeed := hlocal.deed horigins.properB.writes
      exact ⟨fun hmem => h.received (hdeed.pending_subset _ hmem), h.unsent, h.steady⟩
  | serveLeft _ _ hserve =>
      have hserved := hserve.served
      have hunhandled := mem_unhandled_of_handled hserved.handled
      rcases hserve.told with ⟨hdown, packets, hdownC, hpackets⟩ | ⟨hresumes, -⟩
      · refine ⟨?_, ?_, ?_⟩
        · rw [inbox, hserved.sceneY, hdownC, ← List.append_assoc, ← List.append_assoc,
            List.mem_append, not_or]
          refine ⟨?_, fun hmem => ?_⟩
          · rw [List.append_assoc]
            exact h.received
          · exact h.unsent (mem_outbox_of_endturn (hpackets _ hmem).1)
        · intro hmem
          exact h.unsent (mem_outbox_of_endturn (hunhandled _ (List.mem_of_mem_filter hmem)))
        · exact h.steady.told hserved.sceneX (by rw [hdown, List.append_nil]) (by simp)
      · exact absurd hresumes hleft.resumes
  | serveRight _ _ hserve =>
      have hserved := hserve.served
      refine ⟨?_, ?_, ?_⟩
      · obtain ⟨packets, hdown, hpackets⟩ := hserved.toX
        rw [inbox, hserved.sceneX, hdown, ← List.append_assoc, ← List.append_assoc,
          List.mem_append, not_or]
        refine ⟨?_, fun hmem => ?_⟩
        · rw [List.append_assoc]
          exact h.received
        · have hsame := (hpackets _ hmem).1
          simp [GameScene.endturnPacket, Server.completedPacket] at hsame
      · rw [outbox, hserved.unhandledY]
        exact h.unsent
      · have htold : ∃ packets, r'.down = r.down ++ packets ∧ "unit" ∉ types packets := by
          rcases hserve.told with ⟨-, packets, hdown, hpackets⟩ | ⟨-, m, n, -, hdown, -⟩
          · exact ⟨packets, hdown, relayed_types hresync.pending.silent hpackets (by simp)⟩
          · exact ⟨_, hdown, completed_types n (by simp)⟩
        obtain ⟨packets, hdown, hunit⟩ := htold
        exact h.steady.told hserved.sceneY hdown hunit

end Fitting

/-- Until a `resume` is handled the snapshot fits, and from then on the two agree. -/
structure TakesOver (r c : Conn) : Prop where
  origins : Origins r c
  team : TeamHandover r c
  paired : Paired r c
  stage : (Resync r c ∧ Fitting r c ∧ Server.completedPacket ∉ c.sent) ∨
    (Resynced r c ∧ c.scene.assignedTeam ≠ .none)

/-- Both clients are in play again and see the same: opposite teams, the same
units, and the turn of exactly one of the two. -/
structure Reunited (a b : Conn) : Prop where
  silent : a.Silent ∧ b.Silent
  inPlay : a.scene.isOpen = true ∧ b.scene.isOpen = true
  teams : OppositeTeams a.scene.assignedTeam b.scene.assignedTeam
  sameTurn : a.scene.playerTurn = b.scene.playerTurn
  oneTurn : a.HasTurn ↔ ¬ b.HasTurn
  sameUnits : ∀ ref, SameUnit (a.scene.units.get ref) (b.scene.units.get ref)

section TakesOver

variable {clicks : Bool} {r c r' c' : Conn}

theorem resumes_of_completed (hstep : PairStep clicks r c r' c')
    (hnone : Server.completedPacket ∉ c.sent) (hmem : Server.completedPacket ∈ c'.sent) :
    r.resumes ∨ c.resumes := by
  cases hstep with
  | left => exact absurd hmem hnone
  | right _ hlocal =>
      rw [hlocal.sent] at hmem
      exact absurd hmem hnone
  | serveLeft _ _ hserve =>
      have hserved := hserve.served
      obtain ⟨packets, hdown, hpackets⟩ := hserved.toY
      rw [sent_append hserved.sceneY hserved.dispatchedY hdown, List.mem_append] at hmem
      rcases hpackets _ (hmem.resolve_left hnone) with ⟨-, hforward⟩ | ⟨-, hresumes⟩
      · exact absurd hforward (by decide)
      · exact Or.inl hresumes
  | serveRight _ _ hserve =>
      have hserved := hserve.served
      obtain ⟨packets, hdown, hpackets⟩ := hserved.toX
      rw [sent_append hserved.sceneX hserved.dispatchedX hdown, List.mem_append] at hmem
      exact Or.inr (hpackets _ (hmem.resolve_left hnone)).2

theorem TakesOver.step (h : TakesOver r c) (hstep : PairStep false r c r' c') :
    TakesOver r' c' := by
  obtain ⟨hteam, hkept⟩ := h.team.step h.origins hstep
  refine ⟨h.origins.step hstep, hteam, h.paired.step h.origins hstep, ?_⟩
  have hagreed (hresynced : Resynced r c) (hsome : c.scene.assignedTeam ≠ .none) :
      Resynced r' c' ∧ c'.scene.assignedTeam ≠ .none :=
    ⟨hresynced.step h.origins hstep, hkept hsome⟩
  rcases h.stage with ⟨hresync, hfitting, hnone⟩ | ⟨hresynced, hsome⟩
  · by_cases hresumes : c.resumes
    · exact Or.inr (hagreed (hresync.resynced hresumes) (h.team.resumed hresumes))
    · left
      have hnone' : Server.completedPacket ∉ c'.sent := by
        intro hmem
        rcases resumes_of_completed hstep hnone hmem with hleftover | hanswered
        · exact hresync.pending.noLeftover.resumes hleftover
        · exact hresumes hanswered
      have hfits (_ : r.scene.sendsSnapshot = true) : SnapshotFits r c :=
        hfitting.snapshotFits h.origins.properA
      exact ⟨(hresync.step h.origins hfits hstep).resolve_right hnone',
        hfitting.step hresync h.origins hstep, hnone'⟩
  · exact Or.inr (hagreed hresynced hsome)

theorem Waiting.takesOver {uid : Nat} {blank : Sprite} (hwaits : Waiting r)
    (hproper : Proper r ∧ Entitled r) (hteam : TeamAtJoin r) (hdeserted : Deserted r)
    (huid : r.uid ≠ uid) (hfits : SnapshotFits (r.joinedBy uid) (newcomer uid blank)) :
    TakesOver (r.joinedBy uid) (newcomer uid blank) := by
  refine ⟨origins_invariant.join uid r blank trivial hproper, hteam.handover uid blank,
    hdeserted.joined huid blank, Or.inl ⟨hwaits.resync uid blank, hfits.fitting, ?_⟩⟩
  simp [sent, newcomer, fresh, GameScene.create, ClientComponent.fresh, Server.completedPacket,
    Server.reconPacket]

theorem otherTurn_oneTurn {turn team : PlayerTurn} (hturn : turn ≠ .none)
    (hteam : team ≠ .none) : turn = team ↔ ¬ turn = GameScene.otherTurn team := by
  cases turn <;> cases team <;> simp_all [GameScene.otherTurn]

/-- In a silent state the `resume` has been handled. -/
theorem TakesOver.reunited (h : TakesOver r c) (hr : r.Silent) (hc : c.Silent)
    (hturn : r.scene.playerTurn ≠ .none) : Reunited r c := by
  obtain ⟨hoverR, hoverC⟩ := h.paired.over hr hc
  have hopenR := hr.isOpen h.paired.admittedR hoverR
  have hopenC := hc.isOpen h.paired.admittedC hoverC
  have hagreed : Resynced r c ∧ c.scene.assignedTeam ≠ .none := by
    rcases h.stage with ⟨hresync, -⟩ | hagreed
    · exact absurd ((not_isOpen hresync.pending.closed).symm.trans hopenC) (by simp)
    · exact hagreed
  obtain ⟨hresynced, hsome⟩ := hagreed
  obtain ⟨hsame, hunits⟩ := hresynced.agree
  have hother := h.team.joinerTeam.resolve_left hsome
  refine ⟨⟨hr, hc⟩, ⟨hopenR, hopenC⟩, ?_, hsame, ?_, hunits⟩
  · rw [hother]
    cases hteam : r.scene.assignedTeam with
    | none => exact absurd hteam h.team.team
    | player1 => exact Or.inl ⟨rfl, rfl⟩
    | player2 => exact Or.inr ⟨rfl, rfl⟩
  · rw [HasTurn, HasTurn, ← hsame, hother]
    exact otherTurn_oneTurn hturn h.team.team

end TakesOver

end Conn

/-- A player who is left alone with nothing of an earlier reconnect is joined by
somebody, and nobody clicks: then under every fair schedule the two go on with
the game that the survivor saw, if the snapshot fits when the newcomer joins. -/
theorem fair_resyncs {events : List SystemEvent} {waiting joined : System} {r : Conn}
    {blank : Sprite} (hrun : exec System.step System.initial events = some waiting)
    (hclicks : Along System.step (System.ActsMeet (Conn.ClickMeets GameScene.ClickStays))
      System.initial events)
    (hfew : events.countP SystemEvent.isConnect < 2 ^ 32)
    (hactive : waiting.server.gameActive = true) (hconns : waiting.conns = [r])
    (hwaits : r.Waiting) (hteam : r.TeamAtJoin)
    (hjoin : waiting.step (.connect blank) = some joined)
    (hfits : ∀ r c, joined.conns = [r, c] → r.SnapshotFits c)
    {schedule : Nat → SystemEvent} (hfair : Fair routine schedule) :
    ∃ final a b, final.conns = [a, b] ∧ Conn.Reunited a b ∧
      ∃ n, ∀ m, n ≤ m → stateAt System.step schedule joined m = final := by
  have hmanned := System.manned_initial.exec (by omega) hrun
  obtain ⟨server, conns⟩ := waiting
  obtain rfl : conns = [r] := hconns
  obtain rfl := System.step_connect_alone hactive hjoin
  have hjoined := (exec_concat _ _ _ _).mpr ⟨_, hrun, hjoin⟩
  have hclicks' : Along System.step
      (System.ActsMeet (Conn.ClickMeets GameScene.ClickStays))
      System.initial (events ++ [.connect blank]) :=
    along_concat.mpr ⟨hclicks, fun _ _ => trivial⟩
  -- the newcomer is owed the game
  have hnext : server.componentNextUid = events.countP SystemEvent.isConnect := by
    have hnumber := hmanned.next
    rwa [Nat.zero_add, Nat.mod_eq_of_lt hfew] at hnumber
  have huid : r.uid ≠ server.componentNextUid := by
    have hlt := hmanned.uids r List.mem_cons_self
    omega
  have hstart := hwaits.takesOver hmanned.origins hteam (hmanned.clients hactive) huid
    (hfits _ _ rfl)
  -- and has got it when the program is at rest
  obtain ⟨n, hrests, hstays⟩ := System.calming.comes_to_rest hfair
    (System.length_conns_le hjoined)
  obtain ⟨performed, honly, hreached⟩ := @exec_stateAt _ _ System.step _ _ hfair _ n
  have hwhole := (exec_append _ _ _ _).mpr ⟨_, hjoined, hreached⟩
  have hquiet := along_routine hclicks' honly
  obtain ⟨a, b, hfinal, htakes⟩ := System.pair_invariant
    (fun _ _ _ _ h (hstep : Conn.PairStep false _ _ _ _) => Conn.TakesOver.step h hstep)
    (fun event hevent => System.routine_stays (honly event hevent)) hreached hstart
  have hruns := System.not_overruns_of_two (System.length_conns_routine honly hreached)
  have hsilent := silent_of_run hwhole hquiet hruns hrests
  obtain ⟨hliterate, -, -⟩ := literate_exec hwhole hquiet (show a ∈ _ by simp [hfinal])
  exact ⟨_, a, b, by rw [hfinal], htakes.reunited (hsilent a (by simp [hfinal]))
    (hsilent b (by simp [hfinal])) hliterate.turn, n, hstays⟩

instance (r : Conn) : Decidable r.Waiting :=
  decidable_of_iff (r.NoLeftover ∧ r.readies = 0 ∧
    (∀ packet ∈ r.inbox, Conn.completes packet = false) ∧
    "update_complete" ∉ Conn.types r.outbox)
    ⟨fun h => ⟨h.1, h.2.1, h.2.2.1, h.2.2.2⟩, fun h => ⟨h.noLeftover, h.ready, h.noEnd, h.unsent⟩⟩

/-- The second player leaves in the middle of the first one's turn. -/
def movedAloneRun : List SystemEvent :=
  openingRun ++ [clickAt 0 100 200, clickAt 0 280 243, .disconnect 1]

theorem fair_resyncs_moved : ∃ waiting joined,
    exec System.step System.initial movedAloneRun = some waiting ∧
      waiting.step (.connect blankSprite) = some joined ∧
      ∃ final a b, final.conns = [a, b] ∧ Conn.Reunited a b ∧ ∃ n, ∀ m, n ≤ m →
        stateAt System.step (rotate routine (by decide)) joined m = final := by
  have hcheck : ((exec System.step System.initial movedAloneRun).any fun waiting =>
      decide (waiting.server.gameActive = true ∧ waiting.conns.length = 1 ∧
        ∀ r ∈ waiting.conns, r.Waiting ∧ r.TeamAtJoin) &&
      (waiting.step (.connect blankSprite)).any fun joined =>
        joined.onPair fun r c => decide (r.SnapshotFits c)) = true := by
    decide +kernel
  obtain ⟨waiting, hrun, hcheck⟩ := (Option.any_eq_true _ _).mp hcheck
  rw [Bool.and_eq_true, decide_eq_true_eq] at hcheck
  obtain ⟨⟨hactive, hlength, hall⟩, hcheck⟩ := hcheck
  obtain ⟨r, hconns⟩ := List.length_eq_one_iff.mp hlength
  obtain ⟨hwaits, hteam⟩ := hall r (by simp [hconns])
  obtain ⟨joined, hjoin, hpair⟩ := (Option.any_eq_true _ _).mp hcheck
  refine ⟨waiting, joined, hrun, hjoin, ?_⟩
  apply fair_resyncs hrun (by decide +kernel) (by decide) hactive hconns
    hwaits hteam hjoin _ (fair_rotate routine (by decide))
  intro r c hconns
  simpa [System.onPair, hconns] using hpair

end NetworkingGame
