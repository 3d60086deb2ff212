import NetworkingGame.NetRefinement
import NetworkingGame.OneGame

/-!
What the refinement of the threaded program is for: whatever the libraries,
their threads and the network are in the middle of, two clients that have both
been told to start show one game.
-/

namespace NetworkingGame

open Library Library.Transition

theorem Stage.length_le {system : System} (h : Stage system) : system.conns.length ≤ 2 := by
  cases h with
  | empty => exact Nat.zero_le 2
  | waiting => exact Nat.le_succ 1
  | duel => exact le_refl 2
  | alone => exact Nat.le_succ 1
  | joined => exact le_refl 2

/-- At most one of the two has the turn. -/
theorem Conn.OnTable.not_both {table : Table} {a b : Conn} (h : OnTable table a b) :
    ¬ (a.scene.playerTurn = .player1 ∧ b.scene.playerTurn = .player2) := by
  rintro ⟨hfirst, hsecond⟩
  rcases h with h | h
  · cases h with
    | holds h => simp [h.turnOther] at hsecond
    | passes h => simp [h.turnReader] at hsecond
  · cases h with
    | holds h => simp [h.turnOther] at hfirst
    | passes h => simp [h.turnReader] at hfirst

namespace NetSystem

/-- Two clients of a run, of opposite teams, which have both received `start`. -/
structure StartedProcesses (net : NetSystem) (i j : Nat) (p q : Process) : Prop where
  run : ∃ events, exec step start events = some net ∧
    events.countP NetEvent.isAccept ≤ 2 ^ 32
  distinct : i ≠ j
  first : net.processes i = some p
  second : net.processes j = some q
  startFirst : Server.startPacket ∈ p.dispatched
  startSecond : Server.startPacket ∈ q.dispatched
  teamFirst : p.scene.assignedTeam = .player1
  teamSecond : q.scene.assignedTeam = .player2

section Started

variable {net : NetSystem} {system : System} {i j : Nat} {p q : Process}

/-- A client that has been told to start is known to the server's program. -/
theorem Shows.known_of_dispatched (h : net.Shows system) (hprocess : net.processes i = some p)
    (hstart : Server.startPacket ∈ p.dispatched) : net.view i p ∈ system.conns := by
  apply h.known i p hprocess
  by_contra hnot
  rw [(h.unknown i p hprocess hnot).1] at hstart
  cases hstart

/-- Two members of a list of two at most are the list. -/
theorem eq_pair_of_mem {α : Type*} {l : List α} {a b : α} (hlength : l.length ≤ 2) (ha : a ∈ l)
    (hb : b ∈ l) (hne : a ≠ b) : l = [a, b] ∨ l = [b, a] := by
  rcases l with _ | ⟨c, _ | ⟨d, _ | ⟨e, rest⟩⟩⟩
  · cases ha
  · rw [List.mem_singleton] at ha hb
    exact absurd (ha.trans hb.symm) hne
  · simp only [List.mem_cons, List.not_mem_nil, or_false] at ha hb
    rcases ha with rfl | rfl
    · rcases hb with rfl | rfl
      · exact absurd rfl hne
      · exact Or.inl rfl
    · rcases hb with rfl | rfl
      · exact Or.inr rfl
      · exact absurd rfl hne
  · simp only [List.length_cons] at hlength
    omega

/-- What the two clients look like is a started game of the system. -/
theorem StartedProcesses.startedPair (h : StartedProcesses net i j p q) :
    ∃ system, StartedPair system (net.view i p) (net.view j q) := by
  obtain ⟨events, hrun, hcount⟩ := h.run
  obtain ⟨acts, system, hacts, hshows⟩ := refines_system hrun hcount
  have hfirst := hshows.known_of_dispatched h.first h.startFirst
  have hsecond := hshows.known_of_dispatched h.second h.startSecond
  have hne : net.view i p ≠ net.view j q := fun heq => h.distinct (congrArg Conn.uid heq)
  have hopposite : OppositeTeams (net.view i p).scene.assignedTeam
      (net.view j q).scene.assignedTeam := Or.inl ⟨h.teamFirst, h.teamSecond⟩
  refine ⟨system, ?_⟩
  rcases eq_pair_of_mem (stage_exec hacts).length_le hfirst hsecond hne with hconns | hconns
  · exact ⟨⟨acts, hacts⟩, hconns, h.startFirst, h.startSecond, hopposite⟩
  · -- the first client in the list of the server is always the first player
    have hswapped : StartedPair system (net.view j q) (net.view i p) :=
      ⟨⟨acts, hacts⟩, hconns, h.startSecond, h.startFirst, hopposite.symm.imp And.symm And.symm⟩
    obtain ⟨-, hteam, -⟩ := hswapped.duel
    exact absurd (h.teamSecond.symm.trans hteam) (by simp)

end Started

/-- However the threads and the network are interleaved, two clients that have
been told to start show one table that fair plays have led to from the
opening, and never both have the turn. -/
theorem threads_play_one_game {net : NetSystem} {i j : Nat} {p q : Process}
    (h : StartedProcesses net i j p q) :
    (∃ table, Table.Plays .opening table ∧ table.Fair ∧
      Conn.OnTable table (net.view i p) (net.view j q)) ∧
    ¬ (p.scene.playerTurn = .player1 ∧ q.scene.playerTurn = .player2) := by
  obtain ⟨system, hstarted⟩ := h.startedPair
  obtain ⟨table, hplays, htable⟩ := hstarted.onTable
  exact ⟨⟨table, hplays, Table.fair_of_plays hplays, htable⟩, htable.not_both⟩

/-- A check on two clients, which fails unless they are there. -/
def onProcesses (net : NetSystem) (i j : Nat) (check : Process → Process → Bool) : Bool :=
  (net.processes i).any fun p => (net.processes j).any fun q => check p q

theorem exists_processes_of_check {events : List NetEvent} {i j : Nat}
    {check : Process → Process → Bool}
    (h : ((exec step start events).any fun net => net.onProcesses i j check) = true) :
    ∃ net p q, exec step start events = some net ∧ net.processes i = some p ∧
      net.processes j = some q ∧ check p q = true := by
  obtain ⟨net, hrun, hcheck⟩ := (Option.any_eq_true _ _).mp h
  obtain ⟨p, hp, hcheck⟩ := (Option.any_eq_true _ _).mp hcheck
  obtain ⟨q, hq, hcheck⟩ := (Option.any_eq_true _ _).mp hcheck
  exact ⟨net, p, q, hrun, hp, hq, hcheck⟩

theorem threads_play_one_game_moving : ∃ net p q,
    exec step start movingThreads = some net ∧
      net.processes 0 = some p ∧ net.processes 1 = some q ∧ p.wireUp ≠ [] ∧
      (∃ table, Table.Plays .opening table ∧
        Conn.OnTable table (net.view 0 p) (net.view 1 q)) ∧
      ¬ (p.scene.playerTurn = .player1 ∧ q.scene.playerTurn = .player2) := by
  obtain ⟨net, p, q, hrun, hp, hq, hcheck⟩ :=
    @exists_processes_of_check movingThreads 0 1 (fun p q =>
      Server.startPacket ∈ p.dispatched && Server.startPacket ∈ q.dispatched &&
        p.scene.assignedTeam = .player1 && q.scene.assignedTeam = .player2 &&
        !p.wireUp.isEmpty) (by decide +kernel)
  simp only [Bool.and_eq_true, decide_eq_true_eq, Bool.not_eq_true',
    List.isEmpty_eq_false_iff] at hcheck
  obtain ⟨⟨⟨⟨hfirst, hsecond⟩, hteam⟩, hteam'⟩, hwire⟩ := hcheck
  obtain ⟨⟨table, hplays, -, htable⟩, hturn⟩ := threads_play_one_game
    ⟨⟨movingThreads, hrun, by decide⟩, by decide, hp, hq, hfirst, hsecond, hteam, hteam'⟩
  exact ⟨net, p, q, hrun, hp, hq, hwire, ⟨table, hplays, htable⟩, hturn⟩

end NetSystem

end NetworkingGame
