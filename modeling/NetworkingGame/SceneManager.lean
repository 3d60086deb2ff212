import Mathlib.Data.List.Induction
import NetworkingGame.Library.Transition

/-!
The stack of scenes: the menu, the scene that asks for the server's address,
and the game. A click or a key only stores what the scene should turn into;
the next update of the scene manager acts on it, and removals wait for the
update after that. Drawing, sound and the typed address are left out, and of
the game itself all but the request to leave it.
-/

namespace NetworkingGame

open Library.Transition

namespace MenuScene

inductive SceneTransitions
  | none
  | toConnect
  | toExit
deriving DecidableEq

end MenuScene

namespace ServerConnectScene

inductive SceneTransitions
  | none
  | toGame
  | toMenu
  | toExit
deriving DecidableEq

end ServerConnectScene

namespace GameScene

inductive SceneTransitions
  | none
  | toMenu
deriving DecidableEq

end GameScene

structure MenuScene where
  lastScene : Bool
  nextScene : MenuScene.SceneTransitions
deriving DecidableEq

/-- `keyHandler` says whether the key handler is registered. -/
structure ServerConnectScene where
  lastScene : Bool
  nextScene : ServerConnectScene.SceneTransitions
  keyHandler : Bool
deriving DecidableEq

/-- What the scene manager sees of a `GameScene`. -/
structure GameScreen where
  lastScene : Bool
  nextScene : GameScene.SceneTransitions
  keyHandler : Bool
deriving DecidableEq

inductive Scene
  | menu (scene : MenuScene)
  | connect (scene : ServerConnectScene)
  | game (scene : GameScreen)
deriving DecidableEq

/-- Clicks on the two buttons of the menu, and the two keys. -/
inductive Request
  | start
  | exit
  | enter
  | escape
deriving DecidableEq

def Request.isClick (request : Request) : Bool := request = .start || request = .exit

def Request.isKey (request : Request) : Bool := request = .enter || request = .escape

/-- What a scene asks of its host in its `update`. -/
inductive HostCall
  | nothing
  | addScene (scene : Scene)
  | removeScene
  | removeTwoScenes
deriving DecidableEq

def MenuScene.create : MenuScene := ⟨false, .none⟩

def ServerConnectScene.create : ServerConnectScene := ⟨false, .none, true⟩

def GameScreen.create : GameScreen := ⟨false, .none, true⟩

def MenuScene.clickHandler (scene : MenuScene) : Request → MenuScene
  | .start => if scene.lastScene then { scene with nextScene := .toConnect } else scene
  | .exit => if scene.lastScene then { scene with nextScene := .toExit } else scene
  | .enter | .escape => scene

def ServerConnectScene.pressed (scene : ServerConnectScene) : Request → ServerConnectScene
  | .enter => if scene.lastScene then { scene with nextScene := .toGame } else scene
  | .escape => if scene.lastScene then { scene with nextScene := .toMenu } else scene
  | .start | .exit => scene

/-- Unlike the other two handlers this one does not ask for `last_scene`. -/
def GameScreen.pressed (scene : GameScreen) : Request → GameScreen
  | .escape => { scene with nextScene := .toMenu }
  | .start | .exit | .enter => scene

def MenuScene.update (scene : MenuScene) : MenuScene × HostCall :=
  match scene.nextScene with
  | .none => (scene, .nothing)
  | .toConnect => (⟨false, .none⟩, .addScene (.connect .create))
  | .toExit => ({ scene with nextScene := .none }, .removeScene)

/-- The test for `TO_MENU` stands inside the `switch`, behind the `break` of
its only case, so that no value of `next_scene` leads to it. -/
def ServerConnectScene.update (scene : ServerConnectScene) : ServerConnectScene × HostCall :=
  match scene.nextScene with
  | .toGame => (⟨false, .none, false⟩, .addScene (.game .create))
  | .none | .toMenu | .toExit => (scene, .nothing)

def GameScreen.update (scene : GameScreen) : GameScreen × HostCall :=
  match scene.nextScene with
  | .none => (scene, .nothing)
  | .toMenu => (⟨false, .none, false⟩, .removeTwoScenes)

namespace Scene

def handle (scene : Scene) (request : Request) : Scene :=
  match scene with
  | .menu scene => .menu (scene.clickHandler request)
  | .connect scene => .connect (scene.pressed request)
  | .game scene => .game (scene.pressed request)

def marked : Scene → Bool
  | .menu scene => scene.lastScene
  | .connect scene => scene.lastScene
  | .game scene => scene.lastScene

/-- The handler is registered: that of the menu for as long as the menu exists. -/
def registered : Scene → Bool
  | .menu _ => true
  | .connect scene => scene.keyHandler
  | .game scene => scene.keyHandler

/-- What the user does is for the scene that has `last_scene` set, and reaches
it while its handler is registered. -/
def deliver (scene : Scene) (request : Request) : Scene :=
  if scene.marked && scene.registered then scene.handle request else scene

/-- `lastScene(true)`. -/
def mark : Scene → Scene
  | .menu scene => .menu { scene with lastScene := true }
  | .connect scene => .connect { scene with lastScene := true }
  | .game scene => .game { scene with lastScene := true }

def update : Scene → Scene × HostCall
  | .menu scene => (.menu scene.update.1, scene.update.2)
  | .connect scene => (.connect scene.update.1, scene.update.2)
  | .game scene => (.game scene.update.1, scene.update.2)

inductive Kind
  | menu
  | connect
  | game
deriving DecidableEq

def kind : Scene → Kind
  | .menu _ => .menu
  | .connect _ => .connect
  | .game _ => .game

/-- The scene is the last one and listens to the request. -/
def hears (request : Request) : Scene → Bool
  | .menu scene => scene.lastScene && request.isClick
  | .connect scene => scene.lastScene && scene.keyHandler && request.isKey
  | .game scene => scene.lastScene && scene.keyHandler && request = .escape

end Scene

inductive SceneSwitching
  | idle
  | removeScene
  | removeTwoScenes
deriving DecidableEq

/-- The back of the vector is the end of the list. -/
structure SceneManager where
  gameScenes : List Scene
  sceneSwitcher : SceneSwitching
  exitGame : Bool
deriving DecidableEq

inductive SceneEvent
  | user (request : Request)
  | update
deriving DecidableEq

namespace SceneManager

/-- What `MyNetGame::init` sets up. -/
def initial : SceneManager := ⟨[.menu .create], .idle, false⟩

/-- `back()->lastScene(false)` and `pop_back()`, which are not defined on an
empty vector. -/
def popBack (manager : SceneManager) : Option SceneManager :=
  if manager.gameScenes = [] then none
  else some { manager with gameScenes := manager.gameScenes.dropLast }

def call (manager : SceneManager) : HostCall → SceneManager
  | .nothing => manager
  | .addScene scene => { manager with gameScenes := manager.gameScenes ++ [scene] }
  | .removeScene => { manager with sceneSwitcher := .removeScene }
  | .removeTwoScenes => { manager with sceneSwitcher := .removeTwoScenes }

/-- The two `if`s at the head of `update`. -/
def switch (manager : SceneManager) : Option SceneManager :=
  match manager.sceneSwitcher with
  | .idle => some manager
  | .removeScene => (popBack manager).map fun manager => { manager with sceneSwitcher := .idle }
  | .removeTwoScenes => ((popBack manager).bind popBack).map fun manager =>
      { manager with sceneSwitcher := .idle }

def updateLast (manager : SceneManager) : SceneManager :=
  match manager.gameScenes.getLast? with
  | none => { manager with exitGame := true }
  | some scene =>
      let result := scene.mark.update
      call { manager with gameScenes := manager.gameScenes.dropLast ++ [result.1] } result.2

def update (manager : SceneManager) : Option SceneManager := (switch manager).map updateLast

def step (manager : SceneManager) : SceneEvent → Option SceneManager
  | .user request => some { manager with
      gameScenes := manager.gameScenes.map fun scene => scene.deliver request }
  | .update => update manager

/-- Some input, then the next update. -/
def frame (inputs : List Request) : List SceneEvent := inputs.map .user ++ [.update]

section Shapes

def atMenu (marked : Bool) (next : MenuScene.SceneTransitions) : SceneManager :=
  ⟨[.menu ⟨marked, next⟩], .idle, false⟩

/-- The menu has asked to be removed and still listens. -/
def leaving (next : MenuScene.SceneTransitions) : SceneManager :=
  ⟨[.menu ⟨true, next⟩], .removeScene, false⟩

def atConnect (marked : Bool) (next : ServerConnectScene.SceneTransitions) : SceneManager :=
  ⟨[.menu ⟨false, .none⟩, .connect ⟨marked, next, true⟩], .idle, false⟩

def inGame (marked : Bool) (next : GameScene.SceneTransitions) : SceneManager :=
  ⟨[.menu ⟨false, .none⟩, .connect ⟨false, .none, false⟩, .game ⟨marked, next, true⟩],
    .idle, false⟩

/-- The game has asked for its removal, together with the connect scene. -/
def returning : SceneManager :=
  ⟨[.menu ⟨false, .none⟩, .connect ⟨false, .none, false⟩, .game ⟨false, .none, false⟩],
    .removeTwoScenes, false⟩

def closed : SceneManager := ⟨[], .idle, true⟩

/-- The managers that a run can reach. A scene without the mark stores no
request. -/
inductive Staged : SceneManager → Prop
  | menu (marked : Bool) (next : MenuScene.SceneTransitions)
      (hnext : marked = false → next = .none) : Staged (atMenu marked next)
  | leaving (next : MenuScene.SceneTransitions) : Staged (leaving next)
  | connecting (marked : Bool) (next : ServerConnectScene.SceneTransitions)
      (hnext : marked = false → next = .none) : Staged (atConnect marked next)
  | playing (marked : Bool) (next : GameScene.SceneTransitions)
      (hnext : marked = false → next = .none) : Staged (inGame marked next)
  | returning : Staged returning
  | closed : Staged closed

end Shapes

section Steps

variable {manager : SceneManager}

theorem Staged.user (h : Staged manager) (request : Request) :
    ∃ after, step manager (.user request) = some after ∧ Staged after := by
  refine ⟨_, rfl, ?_⟩
  cases h with
  | menu marked next hnext =>
      cases marked with
      | false =>
          obtain rfl := hnext rfl
          cases request <;> exact .menu false .none (fun _ => rfl)
      | true => cases request <;> exact .menu true _ (by simp)
  | leaving next => cases request <;> exact .leaving _
  | connecting marked next hnext =>
      cases marked with
      | false =>
          obtain rfl := hnext rfl
          cases request <;> exact .connecting false .none (fun _ => rfl)
      | true => cases request <;> exact .connecting true _ (by simp)
  | playing marked next hnext =>
      cases marked with
      | false =>
          obtain rfl := hnext rfl
          cases request <;> exact .playing false .none (fun _ => rfl)
      | true => cases request <;> exact .playing true _ (by simp)
  | returning => cases request <;> exact .returning
  | closed => exact .closed

theorem Staged.update (h : Staged manager) :
    ∃ after, step manager .update = some after ∧ Staged after := by
  cases h with
  | menu marked next hnext =>
      cases next with
      | none => exact ⟨_, rfl, .menu true .none (by simp)⟩
      | toConnect => exact ⟨_, rfl, .connecting false .none (fun _ => rfl)⟩
      | toExit => exact ⟨_, rfl, .leaving .none⟩
  | leaving next => exact ⟨_, rfl, .closed⟩
  | connecting marked next hnext =>
      cases next with
      | toGame => exact ⟨_, rfl, .playing false .none (fun _ => rfl)⟩
      | none => exact ⟨_, rfl, .connecting true .none (by simp)⟩
      | toMenu => exact ⟨_, rfl, .connecting true .toMenu (by simp)⟩
      | toExit => exact ⟨_, rfl, .connecting true .toExit (by simp)⟩
  | playing marked next hnext =>
      cases next with
      | none => exact ⟨_, rfl, .playing true .none (by simp)⟩
      | toMenu => exact ⟨_, rfl, .returning⟩
  | returning => exact ⟨_, rfl, .menu true .none (by simp)⟩
  | closed => exact ⟨_, rfl, .closed⟩

theorem Staged.step (h : Staged manager) (event : SceneEvent) :
    ∃ after, SceneManager.step manager event = some after ∧ Staged after := by
  cases event with
  | user request => exact h.user request
  | update => exact h.update

/-- No run ever asks an empty vector for its back. -/
theorem Staged.exec (h : Staged manager) (events : List SceneEvent) :
    ∃ after, exec SceneManager.step manager events = some after ∧ Staged after := by
  induction events generalizing manager with
  | nil => exact ⟨manager, rfl, h⟩
  | cons event events ih =>
      obtain ⟨next, hnext, hstaged⟩ := h.step event
      obtain ⟨after, hafter, hstaged'⟩ := ih hstaged
      exact ⟨after, (exec_cons _ _ _ _).mpr ⟨next, hnext, hafter⟩, hstaged'⟩

theorem Staged.kinds (h : Staged manager) :
    manager.gameScenes.map Scene.kind <+: [.menu, .connect, .game] := by
  cases h with
  | menu => exact ⟨[.connect, .game], rfl⟩
  | leaving => exact ⟨[.connect, .game], rfl⟩
  | connecting => exact ⟨[.game], rfl⟩
  | playing => exact ⟨[], rfl⟩
  | returning => exact ⟨[], rfl⟩
  | closed => exact ⟨[.menu, .connect, .game], rfl⟩

end Steps

section Frames

/-- The last click on a button of the menu. -/
def lastClick (inputs : List Request) : Option Request :=
  (inputs.filter Request.isClick).getLast?

/-- The last of the two keys. -/
def lastKey (inputs : List Request) : Option Request :=
  (inputs.filter Request.isKey).getLast?

theorem exec_frame (manager : SceneManager) (inputs : List Request) :
    exec step manager (frame inputs) = update { manager with
      gameScenes := manager.gameScenes.map fun scene => inputs.foldl Scene.deliver scene } := by
  unfold frame
  induction inputs generalizing manager with
  | nil =>
      simp only [List.map_nil, List.nil_append, exec, step, List.foldl_nil, List.map_id']
      cases update manager <;> rfl
  | cons request inputs ih =>
      simp only [List.map_cons, List.cons_append, exec, step, Option.bind_some, ih,
        List.map_map, List.foldl_cons]
      rfl

theorem deliver_of_not_hears {scene : Scene} {request : Request}
    (h : scene.hears request = false) : scene.deliver request = scene := by
  cases scene with
  | menu scene =>
      obtain ⟨marked, next⟩ := scene
      cases marked <;> cases request <;> first | rfl | cases h
  | connect scene =>
      obtain ⟨marked, next, handler⟩ := scene
      cases marked <;> cases handler <;> cases request <;> first | rfl | cases h
  | game scene =>
      obtain ⟨marked, next, handler⟩ := scene
      cases marked <;> cases handler <;> cases request <;> first | rfl | cases h

/-- A scene without the mark hears nothing. -/
theorem foldl_deaf {scene : Scene} (h : ∀ request, scene.hears request = false)
    (inputs : List Request) : inputs.foldl Scene.deliver scene = scene := by
  induction inputs with
  | nil => rfl
  | cons request inputs ih => rw [List.foldl_cons, deliver_of_not_hears (h request), ih]

/-- Before the update that marks its last scene, a manager hears nothing. -/
theorem exec_frame_deaf {manager : SceneManager}
    (h : ∀ scene ∈ manager.gameScenes, ∀ request, scene.hears request = false)
    (inputs : List Request) : exec step manager (frame inputs) = update manager := by
  have hsame : manager.gameScenes.map (fun scene => inputs.foldl Scene.deliver scene) =
      manager.gameScenes := by
    rw [List.map_congr_left fun scene hscene => foldl_deaf (h scene hscene) inputs, List.map_id']
  rw [exec_frame, hsame]

theorem foldl_menu (next : MenuScene.SceneTransitions) (inputs : List Request) :
    inputs.foldl Scene.deliver (.menu ⟨true, next⟩) = .menu ⟨true,
      match lastClick inputs with
      | some .start => .toConnect
      | some .exit => .toExit
      | _ => next⟩ := by
  induction inputs using List.reverseRecOn with
  | nil => rfl
  | append_singleton inputs request ih =>
      rw [List.foldl_append, ih]
      cases request <;>
        simp [lastClick, Request.isClick, Scene.deliver, Scene.marked, Scene.registered,
          Scene.handle, MenuScene.clickHandler, List.filter_append]

theorem foldl_connect (next : ServerConnectScene.SceneTransitions) (inputs : List Request) :
    inputs.foldl Scene.deliver (.connect ⟨true, next, true⟩) = .connect ⟨true,
      match lastKey inputs with
      | some .enter => .toGame
      | some .escape => .toMenu
      | _ => next, true⟩ := by
  induction inputs using List.reverseRecOn with
  | nil => rfl
  | append_singleton inputs request ih =>
      rw [List.foldl_append, ih]
      cases request <;>
        simp [lastKey, Request.isKey, Scene.deliver, Scene.marked, Scene.registered,
          Scene.handle, ServerConnectScene.pressed, List.filter_append]

theorem foldl_game (inputs : List Request) :
    inputs.foldl Scene.deliver (.game ⟨true, .toMenu, true⟩) = .game ⟨true, .toMenu, true⟩ := by
  induction inputs with
  | nil => rfl
  | cons request inputs ih => cases request <;> exact ih

/-- After a request that is kept there is a last one. -/
theorem getLast?_filter_cons {keep : Request → Bool} {request : Request}
    (h : keep request = true) (inputs : List Request) :
    ∃ last, ((request :: inputs).filter keep).getLast? = some last ∧ keep last = true := by
  have hne : (request :: inputs).filter keep ≠ [] := by
    rw [List.filter_cons_of_pos h]
    simp
  refine ⟨_, List.getLast?_eq_some_getLast hne, ?_⟩
  exact (List.mem_filter.mp (List.getLast_mem hne)).2

theorem lastClick_cons {request : Request} (h : request.isClick = true) (inputs : List Request) :
    lastClick (request :: inputs) = some .start ∨ lastClick (request :: inputs) = some .exit := by
  obtain ⟨last, hlast, hkeep⟩ := getLast?_filter_cons h inputs
  unfold lastClick
  rw [hlast]
  simpa [Request.isClick] using hkeep

theorem lastKey_cons {request : Request} (h : request.isKey = true) (inputs : List Request) :
    lastKey (request :: inputs) = some .enter ∨ lastKey (request :: inputs) = some .escape := by
  obtain ⟨last, hlast, hkeep⟩ := getLast?_filter_cons h inputs
  unfold lastKey
  rw [hlast]
  simpa [Request.isKey] using hkeep

theorem frame_atMenu {next : MenuScene.SceneTransitions} {inputs : List Request} :
    (lastClick inputs = some .start →
      exec step (atMenu true next) (frame inputs) = some (atConnect false .none)) ∧
    (lastClick inputs = some .exit →
      exec step (atMenu true next) (frame inputs) = some (leaving .none)) := by
  constructor <;> intro hlast <;> rw [exec_frame] <;>
    simp only [atMenu, List.map_cons, List.map_nil, foldl_menu, hlast] <;> rfl

theorem frame_leaving (next : MenuScene.SceneTransitions) (inputs : List Request) :
    exec step (leaving next) (frame inputs) = some closed := by
  rw [exec_frame]
  rfl

theorem frame_closed (inputs : List Request) :
    exec step closed (frame inputs) = some closed := by
  rw [exec_frame]
  rfl

theorem frame_atConnect_unmarked (inputs : List Request) :
    exec step (atConnect false .none) (frame inputs) = some (atConnect true .none) := by
  rw [exec_frame_deaf]
  · rfl
  · simp [atConnect, Scene.hears]

theorem frame_inGame_unmarked (inputs : List Request) :
    exec step (inGame false .none) (frame inputs) = some (inGame true .none) := by
  rw [exec_frame_deaf]
  · rfl
  · simp [inGame, Scene.hears]

theorem frame_returning (inputs : List Request) :
    exec step returning (frame inputs) = some (atMenu true .none) := by
  rw [exec_frame_deaf]
  · rfl
  · simp [returning, Scene.hears]

/-- The keys do not reach the menu below the connect scene. -/
theorem exec_frame_atConnect (next : ServerConnectScene.SceneTransitions)
    (inputs : List Request) :
    exec step (atConnect true next) (frame inputs) = update (atConnect true
      (match lastKey inputs with
      | some .enter => .toGame
      | some .escape => .toMenu
      | _ => next)) := by
  have hmenu : inputs.foldl Scene.deliver (.menu ⟨false, .none⟩) = .menu ⟨false, .none⟩ :=
    foldl_deaf (fun _ => rfl) inputs
  rw [exec_frame]
  simp only [atConnect, List.map_cons, List.map_nil, hmenu, foldl_connect]

theorem frame_atConnect_enter (next : ServerConnectScene.SceneTransitions)
    {inputs : List Request} (hlast : lastKey inputs = some .enter) :
    exec step (atConnect true next) (frame inputs) = some (inGame false .none) := by
  rw [exec_frame_atConnect, hlast]
  rfl

theorem frame_atConnect_escape (next : ServerConnectScene.SceneTransitions)
    {inputs : List Request} (hlast : lastKey inputs = some .escape) :
    exec step (atConnect true next) (frame inputs) = some (atConnect true .toMenu) := by
  rw [exec_frame_atConnect, hlast]
  rfl

/-- A request to return to the menu stays where it is stored. -/
theorem frame_atConnect_stay {inputs : List Request} (hlast : lastKey inputs ≠ some .enter) :
    exec step (atConnect true .toMenu) (frame inputs) = some (atConnect true .toMenu) := by
  rw [exec_frame_atConnect]
  split
  · exact absurd ‹_› hlast
  · rfl
  · rfl

/-- Escape in the game is the one request that nothing overwrites. -/
theorem frame_inGame (next : GameScene.SceneTransitions) (inputs : List Request) :
    exec step (inGame true next) (frame (.escape :: inputs)) = some returning := by
  have hmenu : (Request.escape :: inputs).foldl Scene.deliver (.menu ⟨false, .none⟩) =
      .menu ⟨false, .none⟩ := foldl_deaf (fun _ => rfl) _
  have hconnect : (Request.escape :: inputs).foldl Scene.deliver (.connect ⟨false, .none, false⟩) =
      .connect ⟨false, .none, false⟩ := foldl_deaf (fun _ => rfl) _
  have hgame : (.escape :: inputs).foldl Scene.deliver (.game ⟨true, next, true⟩) =
      .game ⟨true, .toMenu, true⟩ := by
    rw [List.foldl_cons]
    exact foldl_game inputs
  rw [exec_frame]
  simp only [inGame, List.map_cons, List.map_nil, hmenu, hconnect, hgame]
  rfl

end Frames

section Transitions

/-- The scenes that a request asks for. -/
def CarriedOut (manager : SceneManager) : Request → Prop
  | .start => manager.gameScenes.map Scene.kind = [.menu, .connect]
  | .exit => manager.gameScenes = [] ∧ manager.exitGame = true
  | .enter => manager.gameScenes.map Scene.kind = [.menu, .connect, .game]
  | .escape => manager.gameScenes.map Scene.kind = [.menu]

/-- The request is carried out by one of the next two updates, where `first`
is what the user does before the first and `second` before the second. -/
def Prompt (manager : SceneManager) (request : Request) (first second : List Request) : Prop :=
  ∃ next last, exec step manager (frame (request :: first)) = some next ∧
    exec step next (frame second) = some last ∧
      (next.CarriedOut request ∨ last.CarriedOut request)

/-- No other request to the same scene takes the place of this one, and it is
not for the menu while that is about to be removed; Escape reaches the menu
from the game only. -/
def Undisturbed (manager : SceneManager) (first second : List Request) : Request → Prop
  | .start => manager.sceneSwitcher = .idle ∧ lastClick (.start :: first) = some .start
  | .exit => manager.sceneSwitcher = .removeScene ∨ lastClick (.exit :: first) = some .exit
  | .enter => lastKey (.enter :: first) = some .enter ∨ lastKey second = some .enter
  | .escape => manager.gameScenes.map Scene.kind = [.menu, .connect, .game]

variable {manager : SceneManager} {request : Request} {first second : List Request}

theorem prompt_iff {next last : SceneManager}
    (hnext : exec step manager (frame (request :: first)) = some next)
    (hlast : exec step next (frame second) = some last) :
    manager.Prompt request first second ↔ next.CarriedOut request ∨ last.CarriedOut request := by
  constructor
  · rintro ⟨next', last', hnext', hlast', h⟩
    obtain rfl := Option.some.inj (hnext.symm.trans hnext')
    obtain rfl := Option.some.inj (hlast.symm.trans hlast')
    exact h
  · intro h
    exact ⟨next, last, hnext, hlast, h⟩

theorem prompt_start_iff {next : MenuScene.SceneTransitions} :
    (atMenu true next).Prompt .start first second ↔
      lastClick (.start :: first) = some .start := by
  rcases @lastClick_cons .start rfl first with hclick | hclick
  · rw [prompt_iff (frame_atMenu.1 hclick) (frame_atConnect_unmarked second), hclick]
    exact iff_of_true (Or.inl rfl) rfl
  · rw [prompt_iff (frame_atMenu.2 hclick) (frame_leaving .none second), hclick]
    simp [CarriedOut, leaving, closed, Scene.kind]

theorem prompt_exit_iff {next : MenuScene.SceneTransitions} :
    (atMenu true next).Prompt .exit first second ↔
      lastClick (.exit :: first) = some .exit := by
  rcases @lastClick_cons .exit rfl first with hclick | hclick
  · rw [prompt_iff (frame_atMenu.1 hclick) (frame_atConnect_unmarked second), hclick]
    simp [CarriedOut, atConnect]
  · rw [prompt_iff (frame_atMenu.2 hclick) (frame_leaving .none second), hclick]
    exact iff_of_true (Or.inr ⟨rfl, rfl⟩) rfl

theorem prompt_enter_iff {next : ServerConnectScene.SceneTransitions} :
    (atConnect true next).Prompt .enter first second ↔
      lastKey (.enter :: first) = some .enter ∨ lastKey second = some .enter := by
  rcases @lastKey_cons .enter rfl first with hkey | hkey
  · rw [prompt_iff (frame_atConnect_enter next hkey) (frame_inGame_unmarked second), hkey]
    exact iff_of_true (Or.inl rfl) (Or.inl rfl)
  · have hnext := frame_atConnect_escape next hkey
    by_cases hsecond : lastKey second = some .enter
    · rw [prompt_iff hnext (frame_atConnect_enter .toMenu hsecond)]
      exact iff_of_true (Or.inr rfl) (Or.inr hsecond)
    · rw [prompt_iff hnext (frame_atConnect_stay hsecond), hkey]
      simp [CarriedOut, atConnect, Scene.kind, hsecond]

/-- Escape in the connect scene never leads back to the menu. -/
theorem not_prompt_escape {next : ServerConnectScene.SceneTransitions} :
    ¬ (atConnect true next).Prompt .escape first second := by
  rcases @lastKey_cons .escape rfl first with hkey | hkey
  · rw [prompt_iff (frame_atConnect_enter next hkey) (frame_inGame_unmarked second)]
    simp [CarriedOut, inGame, Scene.kind]
  · have hnext := frame_atConnect_escape next hkey
    by_cases hsecond : lastKey second = some .enter
    · rw [prompt_iff hnext (frame_atConnect_enter .toMenu hsecond)]
      simp [CarriedOut, atConnect, inGame, Scene.kind]
    · rw [prompt_iff hnext (frame_atConnect_stay hsecond)]
      simp [CarriedOut, atConnect, Scene.kind]

theorem prompt_escape {next : GameScene.SceneTransitions} :
    (inGame true next).Prompt .escape first second := by
  rw [prompt_iff (frame_inGame next first) (frame_returning second)]
  exact Or.inr rfl

theorem prompt_exit_leaving {next : MenuScene.SceneTransitions} :
    (leaving next).Prompt .exit first second := by
  rw [prompt_iff (frame_leaving next _) (frame_closed second)]
  exact Or.inl ⟨rfl, rfl⟩

theorem not_prompt_start_leaving {next : MenuScene.SceneTransitions} :
    ¬ (leaving next).Prompt .start first second := by
  rw [prompt_iff (frame_leaving next _) (frame_closed second)]
  simp [CarriedOut, closed]

/-- The requests that some scene listens to. -/
theorem Staged.prompt_iff (h : Staged manager)
    (hears : manager.gameScenes.any (Scene.hears request) = true) :
    manager.Prompt request first second ↔ manager.Undisturbed first second request := by
  cases h with
  | menu marked next hnext =>
      cases marked with
      | false => simp [atMenu, Scene.hears] at hears
      | true =>
          cases request with
          | start => exact prompt_start_iff.trans ⟨fun h => ⟨rfl, h⟩, fun h => h.2⟩
          | exit =>
              exact prompt_exit_iff.trans ⟨Or.inr, fun h => h.resolve_left (by simp [atMenu])⟩
          | enter => simp [atMenu, Scene.hears, Request.isClick] at hears
          | escape => simp [atMenu, Scene.hears, Request.isClick] at hears
  | leaving next =>
      cases request with
      | start =>
          apply iff_of_false not_prompt_start_leaving
          rintro ⟨hidle, -⟩
          cases hidle
      | exit => exact iff_of_true prompt_exit_leaving (Or.inl rfl)
      | enter => simp [SceneManager.leaving, Scene.hears, Request.isClick] at hears
      | escape => simp [SceneManager.leaving, Scene.hears, Request.isClick] at hears
  | connecting marked next hnext =>
      cases marked with
      | false => simp [atConnect, Scene.hears] at hears
      | true =>
          cases request with
          | start => simp [atConnect, Scene.hears, Request.isKey] at hears
          | exit => simp [atConnect, Scene.hears, Request.isKey] at hears
          | enter => exact prompt_enter_iff
          | escape =>
              apply iff_of_false not_prompt_escape
              intro hkinds
              cases hkinds
  | playing marked next hnext =>
      cases marked with
      | false => simp [inGame, Scene.hears] at hears
      | true =>
          cases request with
          | escape => exact iff_of_true prompt_escape rfl
          | start => simp [inGame, Scene.hears] at hears
          | exit => simp [inGame, Scene.hears] at hears
          | enter => simp [inGame, Scene.hears] at hears
  | returning => simp [SceneManager.returning, Scene.hears] at hears
  | closed => simp [SceneManager.closed] at hears

/-- Every run keeps the stack in shape and never empties it too far, and a
request is carried out by one of the next two updates exactly if it is left
undisturbed. -/
theorem stack_discipline (events : List SceneEvent) : ∃ manager,
    exec step initial events = some manager ∧
      manager.gameScenes.map Scene.kind <+: [.menu, .connect, .game] ∧
      ∀ request, manager.gameScenes.any (Scene.hears request) = true → ∀ first second,
        (manager.Prompt request first second ↔ manager.Undisturbed first second request) := by
  have hinitial : Staged initial := .menu false .none fun _ => rfl
  obtain ⟨manager, hrun, hstaged⟩ := hinitial.exec events
  exact ⟨manager, hrun, hstaged.kinds, fun request hears first second =>
    hstaged.prompt_iff hears⟩

/-- Start, two updates, and Escape in the connect scene, which is still the
last scene two updates later. -/
theorem not_prompt_back : ∃ manager,
    exec step initial (frame [] ++ frame [.start] ++ frame []) = some manager ∧
      manager.gameScenes.any (Scene.hears .escape) = true ∧
        ¬ manager.Prompt .escape [] [] := by
  refine ⟨atConnect true .none, rfl, rfl, ?_⟩
  rintro ⟨next, last, hnext, hlast, h⟩
  obtain rfl := Option.some.inj hnext
  obtain rfl := Option.some.inj hlast
  rcases h with h | h <;> cases h

end Transitions

end SceneManager

end NetworkingGame
