import NetworkingGame.TextEntry

/-!
From the typed address to the connection. The update that starts the game
clears the address before it reads it, so every game connects to this machine.
-/

namespace NetworkingGame

open Library.Transition

/-- The fields of `client_connect_params` that `initialize` sets. -/
structure ClientConnectParams where
  channelCount : Nat
  serverHostName : List Char
  serverPort : Nat
deriving DecidableEq

/-- `ClientComponent::initialize`; the host name is passed as a C string. -/
def ClientConnectParams.initialized (connectingIp : List Char) : ClientConnectParams :=
  ⟨2, connectingIp.takeWhile fun c => c ≠ '\x00', 8888⟩

/-- What the constructor of `GameScene` is given, what it hands to `setIp`, and
what it then connects with. -/
structure GameStart where
  ipAddress : List Char
  connectingIp : List Char
  params : ClientConnectParams
deriving DecidableEq

def GameStart.create (ipAddress : List Char) : GameStart :=
  ⟨ipAddress, ipAddress, .initialized ipAddress⟩

def localhost : List Char := "localhost".toList

namespace AddressInput

/-- `ServerConnectScene::update`, with the game that it pushes. -/
def update (input : AddressInput) : AddressInput × Option GameStart :=
  match input.scene.nextScene with
  | .toGame =>
      let input := { input with
        scene := { input.scene with lastScene := false, keyHandler := false }
        typeStr := []
        connectIp := [] }
      let input := if input.connectIp = [] then { input with connectIp := localhost } else input
      ({ input with scene := { input.scene with nextScene := .none } },
        some (.create input.connectIp))
  | .none | .toMenu | .toExit => (input, none)

/-- The text aside, this is the update that the scene manager sees. -/
theorem update_scene (input : AddressInput) :
    input.update.1.scene = input.scene.update.1 ∧
      (input.scene.update.2 = .addScene (.game .create) ↔
        ∃ start, input.update.2 = some start) := by
  unfold update ServerConnectScene.update
  cases input.scene.nextScene with
  | toGame => exact ⟨rfl, by simp⟩
  | none => exact ⟨rfl, by simp⟩
  | toMenu => exact ⟨rfl, by simp⟩
  | toExit => exact ⟨rfl, by simp⟩

/-- The branches of `keyHandler`. -/
inductive Handled (input : AddressInput) : AddressInput → Prop
  | ignored : Handled input input
  | edited (typeStr : List Char) : Handled input { input with typeStr := typeStr }
  | entered (hlast : input.scene.lastScene = true) : Handled input {
      scene := { input.scene with nextScene := .toGame }
      typeStr := []
      connectIp := input.typeStr }
  | escaped (hlast : input.scene.lastScene = true) :
      Handled input { input with scene := { input.scene with nextScene := .toMenu } }

theorem keyHandler_handled {input after : AddressInput} {event : KeyEvent}
    (h : input.keyHandler event = some after) : Handled input after := by
  unfold keyHandler at h
  split at h
  · rename_i hlast
    split at h
    · split at h
      · obtain ⟨rest, -, hafter⟩ := Option.map_eq_some_iff.mp h
        rw [← hafter]
        exact .edited rest
      · split at h
        · rw [← Option.some.inj h]
          exact .entered hlast
        · split at h
          · rw [← Option.some.inj h]
            exact .escaped hlast
          · rw [← Option.some.inj h]
            exact .edited _
    · rw [← Option.some.inj h]
      exact .ignored
  · rw [← Option.some.inj h]
    exact .ignored

/-- Nor does the scene manager see more of a key than Enter and Escape. -/
theorem Handled.scene {input after : AddressInput} (h : Handled input after) :
    after.scene = input.scene ∨ ∃ request : Request, after.scene = input.scene.pressed request := by
  cases h with
  | ignored => exact .inl rfl
  | edited => exact .inl rfl
  | entered hlast => exact .inr ⟨.enter, by simp [ServerConnectScene.pressed, hlast]⟩
  | escaped hlast => exact .inr ⟨.escape, by simp [ServerConnectScene.pressed, hlast]⟩

theorem Handled.lastScene {input after : AddressInput} (h : Handled input after) :
    after.scene.lastScene = input.scene.lastScene := by
  cases h with
  | ignored | edited | entered | escaped => rfl

theorem keyHandler_enter {input : AddressInput} (hlast : input.scene.lastScene = true) :
    input.keyHandler ⟨Keys.enter, Keys.pressed⟩ = some {
      scene := { input.scene with nextScene := .toGame }
      typeStr := []
      connectIp := input.typeStr } := by
  have hfirst : ¬ (Keys.enter = Keys.delete ∨
      Keys.enter = Keys.backspace ∧ input.typeStr.length ≠ 0) := by
    rintro (h | ⟨h, -⟩) <;> exact absurd h (by decide)
  simp only [keyHandler, hlast, if_true]
  rw [if_neg hfirst]

/-- Whatever was typed, the game is started for this machine. -/
theorem update_toGame {input : AddressInput} (h : input.scene.nextScene = .toGame) :
    input.update.2 = some (.create localhost) := by
  unfold update
  rw [h]
  rfl

/-- The next update starts a game that connects to the address. -/
def ConnectsTo (input : AddressInput) (address : List Char) : Prop :=
  ∃ start, input.update.2 = some start ∧ start.ipAddress = address ∧
    start.connectingIp = address ∧ start.params.serverHostName = address

/-- The address that the player asks for with Enter. -/
def wanted (typeStr : List Char) : List Char := if typeStr = [] then localhost else typeStr

theorem connectsTo_iff {input : AddressInput} (h : input.scene.nextScene = .toGame)
    (address : List Char) : input.ConnectsTo address ↔ address = localhost := by
  unfold ConnectsTo
  rw [update_toGame h]
  constructor
  · rintro ⟨start, hstart, haddress, -⟩
    rw [← Option.some.inj hstart] at haddress
    exact haddress.symm
  · rintro rfl
    exact ⟨_, rfl, rfl, rfl, by decide⟩

/-- After any keys and Enter, the game connects to what was typed exactly where
that was nothing, or the name that it connects to anyway. -/
theorem connects_iff {input before after : AddressInput} (hlast : input.scene.lastScene = true)
    {events : List KeyEvent} (hbefore : exec keyHandler input events = some before)
    (hafter : exec keyHandler input (events ++ [⟨Keys.enter, Keys.pressed⟩]) = some after) :
    after.ConnectsTo (wanted before.typeStr) ↔
      before.typeStr = [] ∨ before.typeStr = localhost := by
  have hlast' : before.scene.lastScene = true :=
    invariant_of_step (I := fun input => input.scene.lastScene = true)
      (fun _ _ _ hs ht => (keyHandler_handled ht).lastScene.trans hs) hbefore hlast
  obtain ⟨middle, hmiddle, henter⟩ := (exec_concat _ _ _ _).mp hafter
  obtain rfl : before = middle := Option.some.inj (hbefore.symm.trans hmiddle)
  rw [keyHandler_enter hlast'] at henter
  have hnext : after.scene.nextScene = .toGame := by rw [← Option.some.inj henter]
  rw [connectsTo_iff hnext, wanted]
  by_cases hempty : before.typeStr = []
  · simp [hempty]
  · simp [hempty]

/-- The key `1`, which is then deleted again. -/
def erasedKeys : List KeyEvent := [⟨49, Keys.pressed⟩, ⟨Keys.backspace, Keys.pressed⟩]

/-- A player who erases what was typed plays on this machine. -/
theorem connects_iff_erased : ∃ before after,
    exec keyHandler askingAddress erasedKeys = some before ∧
      exec keyHandler askingAddress (erasedKeys ++ [⟨Keys.enter, Keys.pressed⟩]) = some after ∧
      after.ConnectsTo (wanted before.typeStr) := by
  have hbefore : exec keyHandler askingAddress erasedKeys = some askingAddress := by
    decide +kernel
  have hafter : exec keyHandler askingAddress (erasedKeys ++ [⟨Keys.enter, Keys.pressed⟩]) =
      some ⟨⟨true, .toGame, true⟩, [], []⟩ := by decide +kernel
  exact ⟨_, _, hbefore, hafter, (connects_iff rfl hbefore hafter).mpr (.inl rfl)⟩

/-- The key `1` and Enter. -/
theorem address_forgotten : ∃ after,
    exec keyHandler askingAddress
        [⟨49, Keys.pressed⟩, ⟨Keys.enter, Keys.pressed⟩] = some after ∧
      after.connectIp = ['1'] ∧ after.update.2 = some (.create localhost) ∧
      ¬ after.ConnectsTo (wanted ['1']) := by
  refine ⟨⟨⟨true, .toGame, true⟩, [], ['1']⟩, by decide +kernel, rfl, rfl, ?_⟩
  rw [connectsTo_iff rfl]
  decide

end AddressInput

end NetworkingGame
