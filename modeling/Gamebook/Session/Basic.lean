/-
This file plays through content one command at a time.
A session is a state, and every command leads to a turn: the next state and the remarks on the way.
The files are given anew with each command, because they can change between commands.
-/

import Gamebook.Catalog.Pick
import Gamebook.Session.Command
import Gamebook.Session.Remark

namespace Gamebook

structure Session where
  content : Content
  player : Player
  /-- The kind of the node on which the hero stands. -/
  location : Option String
  /-- The id of the event in progress. -/
  current : Option String
  source : RandomSource

/-- A session stops when it is left, and also when a pick of a neighbour overflows. -/
inductive Stop where
  | left
  | overflow
  deriving DecidableEq

structure Turn where
  session : Session
  remarks : List Remark
  stop : Option Stop

namespace Turn

def quiet (session : Session) : Turn :=
  ⟨session, [], none⟩

def say (session : Session) (remark : Remark) : Turn :=
  ⟨session, [remark], none⟩

/-- What comes next is not reached when the session has stopped. -/
def andThen (turn : Turn) (next : Session → Turn) : Turn :=
  match turn.stop with
  | some _ => turn
  | none =>
      let further := next turn.session
      { further with remarks := turn.remarks ++ further.remarks }

end Turn

namespace Session

def scene (session : Session) : Scene :=
  session.player.scene session.location

def afterScene (session : Session) (scene : Scene) : Session :=
  { session with player := session.player.after scene }

/-- An id without an event was in progress before a reload and shows nothing. -/
def showEvent (session : Session) : Turn :=
  match session.current with
  | none => .say session .noEventInProgress
  | some id =>
      match session.content.events.find? id with
      | none => .quiet session
      | some event =>
          .say session (.shown event.name event.description
            ((event.visibleOptions session.scene).map fun option =>
              ⟨option, option.isAffordable session.scene⟩))

def startEvent (session : Session) (id : String) : Turn :=
  match session.content.events.find? id with
  | none => .say session (.noEvent id)
  | some _ => showEvent { session with current := some id }

def arrive (session : Session) (kind : String) : Turn :=
  match session.content.nodes.find? kind with
  | none => .say session (.noNode kind)
  | some _ =>
      let picked := session.content.nodes.pickEvent kind session.source
      let arrived := { session with location := some kind, source := picked.2 }
      (Turn.say arrived (.arrived kind)).andThen fun session =>
        match picked.1 with
        | some id => session.startEvent id
        | none => .say session .nothingHappens

def travel (session : Session) : Turn :=
  match session.location with
  | none => .say session .notAtNode
  | some kind =>
      match session.content.nodes.pickNeighbour kind session.source with
      | .error .overflow => ⟨session, [], some .overflow⟩
      | .ok (none, source) => .say { session with source := source } (.nowhereToGo kind)
      | .ok (some next, source) => arrive { session with source := source } next

/-- Content that speaks of another title is rendered again for the hero as he is now. -/
def followTitle (tree : FileTree) (session : Session) : Turn :=
  if session.player.title = session.content.context.title then .quiet session
  else
    match session.content.reloadWith tree session.player.templateContext with
    | (content, .ok ()) => .quiet { session with content := content }
    | (content, .error error) => .say { session with content := content } (.reloadRefused error)

/-- After a resolution the story ends, or the next event begins, or the event is over. -/
def moveOn (session : Session) (resolution : Resolution) : Turn :=
  if session.player.stats.isGameOver then .say { session with current := none } .storyEnds
  else
    match resolution.nextEvent with
    | some next => session.startEvent next
    | none => .say { session with current := none } .eventEnds

def resolve (tree : FileTree) (session : Session) (resolution : Resolution) : Turn :=
  (Turn.say session (.resolved resolution)).andThen fun session =>
    (session.followTitle tree).andThen fun session => session.moveOn resolution

def choose (tree : FileTree) (session : Session) (order : Int32) : Turn :=
  match session.current with
  | none => .say session .noEventInProgress
  | some id =>
      match session.content.events.find? id with
      | none => .quiet session
      | some event =>
          match (event.visibleOptions session.scene).find? fun option => option.order == order with
          | none => .say session (.noVisibleOption order)
          | some option =>
              if option.isAffordable session.scene then
                match option.apply session.content.items session.scene with
                | (scene, .ok resolution) => (session.afterScene scene).resolve tree resolution
                | (scene, .error error) => .say (session.afterScene scene) (.refused error)
              else .say session (.cannotAfford option.costText)

/-- These are the orders of the options that can be chosen now. -/
def choices (session : Session) (event : Event) : List Int32 :=
  ((event.visibleOptions session.scene).filter fun option =>
    option.isAffordable session.scene).map EventOption.order

/-- Without an event in progress the hero travels first. -/
def findEvent (session : Session) : Turn :=
  match session.current, session.location with
  | some _, _ => .quiet session
  | none, none => .say session .autoNeedsPlace
  | none, some _ => session.travel

/-- One event is resolved by a random choice. The flag says whether play can go on. -/
def autoChoice (tree : FileTree) (session : Session) : Turn × Bool :=
  match session.current with
  | none => (.quiet session, false)
  | some id =>
      match session.content.events.find? id with
      | none => (.quiet session, false)
      | some event =>
          match session.source.choose (session.choices event) with
          | (none, source) => (.say { session with source := source } (.stuck id), false)
          | (some order, source) =>
              let turn := (Turn.say { session with source := source } (.autoPicks order)).andThen
                fun session => session.choose tree order
              (turn, !turn.session.player.stats.isGameOver)

/-- The hero plays alone until the steps are done or no step can follow. -/
def auto (tree : FileTree) : Nat → Session → Turn
  | 0, session => .quiet session
  | steps + 1, session =>
      session.findEvent.andThen fun session =>
        match session.autoChoice tree with
        | (turn, false) => turn
        | (turn, true) => turn.andThen fun session => auto tree steps session

def useSlot (session : Session) (slot : Nat) : Turn :=
  match session.scene.useItem session.content.items slot with
  | (scene, .ok ()) =>
      let used := session.afterScene scene
      .say used (.inventory used.player.inventory)
  | (scene, .error error) => .say (session.afterScene scene) (.refused error)

def unequipSlot (session : Session) (slot : Nat) : Turn :=
  match session.scene.unequipItem session.content.items slot with
  | (scene, .ok (some item)) => .say (session.afterScene scene) (.putAway item.name)
  | (scene, .ok none) => .say (session.afterScene scene) (.emptySlot slot)
  | (scene, .error error) => .say (session.afterScene scene) (.refused error)

def reload (tree : FileTree) (session : Session) : Turn :=
  match session.content.reloadWith tree session.player.templateContext with
  | (content, .ok ()) =>
      .say { session with content := content }
        (.reloaded content.events.size content.items.size content.nodes.size)
  | (content, .error error) => .say { session with content := content } (.kept error)

def step (tree : FileTree) (session : Session) : Command → Turn
  | .choose order => session.choose tree order
  | .quit => ⟨session, [.goodbye], some .left⟩
  | .help => .say session .help
  | .look => session.showEvent
  | .event (some id) => session.startEvent id
  | .event none => .say session (.usage "event" "id")
  | .node (some kind) => session.arrive kind
  | .node none => .say session (.usage "node" "kind")
  | .travel => session.travel
  | .auto steps => auto tree steps session
  | .stats => .say session (.stats session.player session.location)
  | .inventory => .say session (.inventory session.player.inventory)
  | .useSlot (some slot) => session.useSlot slot
  | .useSlot none => .say session (.usage "use" "slot")
  | .unequip (some slot) => session.unequipSlot slot
  | .unequip none => .say session (.usage "unequip" "slot")
  | .reload => session.reload tree
  | .unknown word => .say session (.unknownCommand word)

end Session

end Gamebook
