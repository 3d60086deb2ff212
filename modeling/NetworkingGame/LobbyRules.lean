import NetworkingGame.Clients
import NetworkingGame.TurnSafety

/-!
The rule for what holds of two clients that the lobby has put together, for as
long as both stay. It is enough to know what the first one keeps while it waits,
that it holds when the second one comes, and that a step of either keeps it; a
step of the one is a step of the other with the two exchanged.
-/

namespace NetworkingGame

open Library.Transition

/-- What keeps a property `P` of two clients and their labels. `C` is known of
every client. -/
structure PairRules (Ok : Conn → LocalEvent → Prop) (C : Conn → Prop)
    (P : PlayerTurn → PlayerTurn → Conn → Conn → Prop) : Prop where
  swap : ∀ label other x y, P label other x y → P other label y x
  acts : ∀ label other x y event x', label ≠ .none → other ≠ .none →
    Conn.Duel label other x y → C x → C y → P label other x y → Ok x event →
    x.step event = some x' → P label other x' y
  serves : ∀ label other x y x' y', Conn.Duel label other x y → P label other x y →
    Conn.Serve x y x' y' → P label other x' y'

/-- What makes `P` hold of two clients that the lobby has put together, with
`L` for the one that waits in the lobby. -/
structure LobbyRules (Ok : Conn → LocalEvent → Prop) (C L : Conn → Prop)
    (P : PlayerTurn → PlayerTurn → Conn → Conn → Prop) : Prop extends PairRules Ok C P where
  opened : ∀ uid blank, L { Conn.fresh uid blank with down := [Server.initPacket 0] }
  waits : ∀ nextUid x event x', x.Lobby nextUid → C x → L x → Ok x event →
    x.step event = some x' → L x'
  started : ∀ nextUid x blank other, x.Lobby nextUid → C x → L x → other ≠ .none →
    P .player1 other { x with down := x.down ++ [Server.startPacket] }
      { Conn.fresh nextUid blank with
        down := [Server.initPacket (Conn.idOf other), Server.startPacket] }

/-- Where a run that keeps the rules is. -/
structure Lobbied (L : Conn → Prop) (P : PlayerTurn → PlayerTurn → Conn → Conn → Prop)
    (system : System) : Prop where
  lobby : ∀ x, system.conns = [x] → system.server.gameActive = false → L x
  pair : ∀ a b, system.conns = [a, b] → Server.startPacket ∈ b.sent →
    ∃ other, other ≠ .none ∧ Conn.Duel .player1 other a b ∧ P .player1 other a b

section Rules

variable {Ok : Conn → LocalEvent → Prop} {Q : CustomPacket → Prop} {C L : Conn → Prop}
  {P : PlayerTurn → PlayerTurn → Conn → Conn → Prop}

/-- One step of two clients that both stay. -/
theorem PairRules.step (hrules : PairRules Ok C P) {server : Server} {a b a' b' : Conn}
    {other : PlayerTurn} {event : SystemEvent} (hother : other ≠ .none)
    (hduel : Conn.Duel .player1 other a b) (hfirst : C a) (hsecond : C b)
    (h : P .player1 other a b) (hstays : event.stays = true)
    (hok : System.ActsMeet Ok ⟨server, [a, b]⟩ event)
    (hstep : System.step ⟨server, [a, b]⟩ event = some ⟨server, [a', b']⟩) :
    P .player1 other a' b' := by
  obtain ⟨a₁, b₁, heq, hcases⟩ := System.step_pair_cases hstays hstep
  obtain ⟨rfl, rfl⟩ := by simpa using heq
  rcases hcases with ⟨own, rfl, hown, rfl⟩ | ⟨own, rfl, hown, rfl⟩ | hserve | hserve
  · exact hrules.acts _ _ _ _ own _ (by simp) hother hduel hfirst hsecond h (hok a rfl) hown
  · exact hrules.swap _ _ _ _ (hrules.acts _ _ _ _ own _ hother (by simp) hduel.swap hsecond
      hfirst (hrules.swap _ _ _ _ h) (hok b rfl) hown)
  · exact hrules.serves _ _ _ _ _ _ hduel h hserve
  · exact hrules.swap _ _ _ _
      (hrules.serves _ _ _ _ _ _ hduel.swap (hrules.swap _ _ _ _ h) hserve)

/-- A run of steps of two clients that both stay. -/
theorem PairRules.run (hrules : PairRules Ok C P) (hclient : System.ClientInvariant Ok Q C)
    {server : Server} {a b : Conn} {other : PlayerTurn} {events : List SystemEvent}
    {after : System} (hother : other ≠ .none) (hduel : Conn.Duel .player1 other a b)
    (hclients : ∀ x ∈ [a, b], C x) (h : P .player1 other a b)
    (hstays : ∀ event ∈ events, event.stays = true)
    (hok : Along System.step (System.ActsMeet Ok) ⟨server, [a, b]⟩ events)
    (hrun : exec System.step ⟨server, [a, b]⟩ events = some after) :
    ∃ a' b', after = ⟨server, [a', b']⟩ ∧ P .player1 other a' b' := by
  induction events generalizing a b with
  | nil =>
      obtain rfl := Option.some.inj hrun
      exact ⟨a, b, rfl, h⟩
  | cons event events ih =>
      obtain ⟨next, hnext, hrest⟩ := (exec_cons _ _ _ _).mp hrun
      have hstay := hstays event List.mem_cons_self
      obtain ⟨a₁, b₁, rfl, hpair⟩ := System.step_pair hstay hnext
      apply ih (hduel.step (by simp) hother hpair)
      · exact hclient.step hclients hok.1 hnext
      · exact hrules.step hother hduel (hclients a (by simp)) (hclients b (by simp)) h hstay hok.1
          hnext
      · exact fun e he => hstays e (List.mem_cons_of_mem event he)
      · exact hok.2 _ hnext
      · exact hrest

/-- A client that waits in the lobby has written nothing for the server to
handle. -/
theorem LobbyRules.solo (hrules : LobbyRules Ok C L P) {server : Server} {x x' : Conn}
    {event : SystemEvent} (hlobby : x.Lobby server.componentNextUid) (hclient : C x) (h : L x)
    (hstays : event.stays = true) (hok : System.ActsMeet Ok ⟨server, [x]⟩ event)
    (hstep : System.step ⟨server, [x]⟩ event = some ⟨server, [x']⟩) : L x' := by
  cases event with
  | connect blank => cases hstays
  | disconnect index => cases hstays
  | serve index =>
      rcases index with _ | index
      · have hup : x.up = [] := (List.append_eq_nil_iff.mp hlobby.unhandled).1
        simp [System.step, hup] at hstep
      · simp [System.step] at hstep
  | act index own =>
      rcases index with _ | index
      · simp only [System.step, List.getElem?_cons_zero, Option.map_eq_some_iff] at hstep
        obtain ⟨next, hnext, heq⟩ := hstep
        obtain rfl : next = x' := by simpa using heq
        exact hrules.waits _ x own next hlobby hclient h (hok x rfl) hnext
      · simp [System.step] at hstep

theorem Lobbied.step (hrules : LobbyRules Ok C L P) {system after : System} {event : SystemEvent}
    (hstage : Stage system) (hclients : ∀ x ∈ system.conns, C x) (h : Lobbied L P system)
    (hok : System.ActsMeet Ok system event) (hstep : system.step event = some after) :
    Lobbied L P after := by
  have halone {server : Server} {x : Conn} (active : server.gameActive = true) :
      Lobbied L P ⟨server, [x]⟩ :=
    ⟨fun _ _ inactive => absurd (active.symm.trans inactive) (by simp),
      fun a b hconns => by simp at hconns⟩
  cases hstage.next hstep with
  | opened =>
      refine ⟨?_, fun a b hconns => by simp at hconns⟩
      intro x hx _
      obtain rfl := List.singleton_inj.mp hx
      exact hrules.opened _ _
  | @started _ x _ other inactive hlobby hother =>
      refine ⟨fun x hconns => by simp at hconns, ?_⟩
      intro a b hconns _
      obtain ⟨rfl, rfl, -⟩ := by simpa using hconns
      exact ⟨other, hother, hlobby.duel _, hrules.started _ _ _ _ hlobby
        (hclients x (by simp)) (h.lobby x rfl inactive) hother⟩
  | joined =>
      refine ⟨fun x hconns => by simp at hconns, ?_⟩
      intro a b hconns hstart
      obtain ⟨-, rfl, -⟩ := by simpa using hconns
      simp [Conn.sent, Conn.newcomer, Conn.fresh, GameScene.create, ClientComponent.fresh,
        Server.startPacket, Server.reconPacket] at hstart
  | @solo server x x' _ hstays hstep =>
      cases hstage with
      | alone active => exact halone active
      | waiting inactive hlobby =>
          refine ⟨?_, fun a b hconns => by simp at hconns⟩
          intro y hy _
          obtain rfl := List.singleton_inj.mp hy
          exact hrules.solo hlobby (hclients x (by simp)) (h.lobby x rfl inactive) hstays hok hstep
  | @pair server a b a' b' _ hstays hstep hpair =>
      refine ⟨fun x hconns => by simp at hconns, ?_⟩
      intro a₁ b₁ hconns hstart
      obtain ⟨rfl, rfl, -⟩ := by simpa using hconns
      have hstarted : Server.startPacket ∈ b.sent :=
        not_not.mp fun hnot => System.start_not_mem_pair hnot hpair hstart
      obtain ⟨other, hother, hduel, hheld⟩ := h.pair a b rfl hstarted
      exact ⟨other, hother, hduel.step (by simp) hother hpair,
        hrules.toPairRules.step hother hduel (hclients a (by simp)) (hclients b (by simp)) hheld
          hstays hok hstep⟩
  | leftFirst active => exact halone active
  | leftSecond active => exact halone active
  | emptied => exact ⟨fun x hconns => by simp at hconns, fun a b hconns => by simp at hconns⟩

/-- What the rules keep holds in every state of a run whose steps meet them. -/
theorem lobbied_exec (hrules : LobbyRules Ok C L P) (hclient : System.ClientInvariant Ok Q C)
    {events : List SystemEvent} {system : System}
    (hrun : exec System.step System.initial events = some system)
    (hok : Along System.step (System.ActsMeet Ok) System.initial events) : Lobbied L P system := by
  have hinitial : (∀ x ∈ System.initial.conns, C x) ∧ Lobbied L P System.initial := by
    refine ⟨?_, ?_, ?_⟩
    · intro x hx
      cases hx
    · intro x hx
      cases hx
    · intro a b hab
      cases hab
  have hall := @invariant_exec _ _ System.step
    (fun system => (Stage system ∧ system.server.componentNextUid < 2 ^ 32) ∧
      (∀ x ∈ system.conns, C x) ∧ Lobbied L P system)
    (System.ActsMeet Ok)
    (fun system event after h hok hstep =>
      ⟨Stage.step h.1 hstep, hclient.step h.2.1 hok hstep,
        h.2.2.step hrules h.1.1 h.2.1 hok hstep⟩)
    System.initial system events hrun hok
    ⟨⟨.empty rfl, by decide⟩, hinitial⟩
  exact hall.2.2

/-- Two clients of opposite teams in a started game. -/
theorem Lobbied.started {system : System} {a b : Conn} (h : Lobbied L P system)
    (hstarted : StartedPair system a b) : P .player1 .player2 a b := by
  have hstart : Server.startPacket ∈ b.sent := by simp [Conn.sent, hstarted.startSecond]
  obtain ⟨other, hother, hduel, hheld⟩ := h.pair a b hstarted.conns hstart
  obtain ⟨-, -, hteam⟩ := hstarted.duel
  rcases hduel.sideY.team with hnone | hsame
  · rw [hteam] at hnone
    cases hnone
  · rw [hsame.symm.trans hteam] at hheld
    exact hheld

end Rules

end NetworkingGame
