/-
This file shows that a hero who plays alone makes no move that his player could not make. All that he
passes on is the order of an option that he can see and afford. Loaded content leads from this order
back to the same option.
-/

import Gamebook.Proofs.Compile.Verdict
import Gamebook.Proofs.Random.Choice
import Gamebook.Proofs.Session.Ending

namespace Gamebook

/-- These remarks turn a choice down. -/
def Remark.turnsDown : Remark → Bool
  | .noVisibleOption _ => true
  | .cannotAfford _ => true
  | .refused _ => true
  | _ => false

/-- A turn goes through when it turns no choice down. -/
def Turn.GoesThrough (turn : Turn) : Prop :=
  ∀ remark ∈ turn.remarks, remark.turnsDown = false

namespace Turn

theorem GoesThrough.quiet (session : Session) : (quiet session).GoesThrough :=
  List.forall_mem_nil _

theorem GoesThrough.say (session : Session) {remark : Remark} (other : remark.turnsDown = false) :
    (say session remark).GoesThrough :=
  List.forall_mem_singleton.mpr other

theorem GoesThrough.andThen {turn : Turn} {next : Session → Turn} (through : turn.GoesThrough)
    (further : (next turn.session).GoesThrough) : (turn.andThen next).GoesThrough := by
  rw [Turn.andThen]
  split
  · exact through
  · intro remark told
    rcases List.mem_append.mp told with earlier | later
    · exact through remark earlier
    · exact further remark later

/-- What turns say together is said in one of them. -/
theorem exists_told_of_joined {session : Session} {turns : List Turn} {remark : Remark}
    (told : remark ∈ (joined session turns).remarks) : ∃ turn ∈ turns, remark ∈ turn.remarks := by
  induction turns generalizing session with
  | nil => cases told
  | cons turn rest inductionHypothesis =>
      rw [joined, andThen] at told
      split at told
      · exact ⟨turn, List.mem_cons_self, told⟩
      · rcases List.mem_append.mp told with first | further
        · exact ⟨turn, List.mem_cons_self, first⟩
        · obtain ⟨later, listed, said⟩ := inductionHypothesis further
          exact ⟨later, List.mem_cons_of_mem _ listed, said⟩

end Turn

/-- Options that can be seen are in ascending order as well, so that an order leads to at most one. -/
theorem Event.IsAscending.find?_visible_eq_some_iff {event : Event} (ascending : event.IsAscending)
    {scene : Scene} {order : Int32} {option : EventOption} :
    ((event.visibleOptions scene).find? fun option => option.order == order) = some option ↔
      option ∈ event.visibleOptions scene ∧ option.order = order := by
  have visible : IsAscending { event with options := event.visibleOptions scene } :=
    List.Pairwise.filter _ ascending
  exact visible.option?_eq_some_iff

/-- An option that the hero can afford fails only by an item that is not loaded. -/
theorem EventOption.unknown_of_affordable {items : ItemCatalog} (sound : items.Sound)
    {option : EventOption} {scene : Scene} {error : EvaluationError}
    (affordable : option.isAffordable scene = true)
    (failed : (option.apply items scene).2 = .error error) :
    ∃ item, error = .unknownItem item ∧ Effect.grantItem item ∈ option.effects ∧
      items.contains item = false := by
  cases (option.apply_failure sound scene failed).1 with
  | unpaid cost first =>
      obtain ⟨unpaid, before, later, same, -⟩ := first
      rw [isAffordable, Stats.canPay, List.all_eq_true] at affordable
      have payable := affordable cost (same ▸ List.mem_append_right before List.mem_cons_self)
      exact absurd (of_decide_eq_true payable) (UInt32.not_le.mpr unpaid)
  | unknown payable item first => exact ⟨item, rfl, first.granted⟩

/-- Content is loaded when there were files, once, from which it was loaded for some hero. -/
def Content.IsLoaded (content : Content) : Prop :=
  ∃ tree paths context, Content.load tree paths context = .ok content

/-- Content is checked when it is what the files hold and the checker finds no problem in them. -/
structure Content.IsChecked (tree : FileTree) (content : Content) : Prop where
  loaded : Content.load tree content.paths content.context = .ok content
  clean : (validate tree content.paths content.context).isOk = true

namespace Content

/-- Content that is built is what its files hold, at the paths and for the hero that it keeps. -/
theorem load_of_build {plan : ContentPlan} {tree : FileTree} {content : Content}
    (built : plan.build tree = .ok content) :
    load tree content.paths content.context = .ok content := by
  rw [ContentPlan.build] at built
  split at built
  next => cases built
  next events _ =>
    have loaded := mapError_eq_ok_iff.mp built
    obtain ⟨placed, rendered, -⟩ := load_eq_ok_iff.mp loaded
    rw [placed, rendered]
    exact loaded

theorem isLoaded_reloadWith {tree : FileTree} (content : Content) (context : TemplateContext)
    (loaded : content.IsLoaded) : (content.reloadWith tree context).1.IsLoaded := by
  rw [reloadWith]
  split
  next again => exact ⟨tree, content.paths, context, again⟩
  next => exact loaded

theorem isChecked_reloadWith {tree : FileTree} (content : Content) (context : TemplateContext)
    (checked : content.IsChecked tree) : (content.reloadWith tree context).1.IsChecked tree := by
  obtain ⟨draft, holds, placed, same⟩ := exists_held checked.loaded
  have clean := checked.clean
  rw [← placed, validate_for_hero tree draft.paths content.context context] at clean
  rw [same, holds.reloadWith_eq]
  exact ⟨holds.loads context, clean⟩

theorem IsChecked.isLoaded {tree : FileTree} {content : Content} (checked : content.IsChecked tree) :
    content.IsLoaded :=
  ⟨tree, content.paths, content.context, checked.loaded⟩

theorem IsChecked.closed {tree : FileTree} {content : Content} (checked : content.IsChecked tree) :
    content.Closed :=
  closed_of_isOk checked.clean checked.loaded

theorem IsLoaded.sound {content : Content} (loaded : content.IsLoaded) : content.items.Sound := by
  obtain ⟨tree, paths, context, loaded⟩ := loaded
  exact (items_built loaded).sound

theorem IsLoaded.ascending {content : Content} (loaded : content.IsLoaded) :
    ∀ event ∈ content.events.entries, event.IsAscending := by
  obtain ⟨tree, paths, context, loaded⟩ := loaded
  exact (consistent_of_load loaded).ascending

end Content

namespace Session

section

variable (session : Session)

theorem showEvent_goesThrough : session.showEvent.GoesThrough := by
  rw [showEvent]
  split
  next => exact .say session rfl
  next =>
    split
    next => exact .quiet session
    next => exact .say session rfl

theorem startEvent_goesThrough (id : String) : (session.startEvent id).GoesThrough := by
  rw [startEvent]
  split
  next => exact .say session rfl
  next => exact showEvent_goesThrough _

theorem arrive_goesThrough (kind : String) : (session.arrive kind).GoesThrough := by
  rw [arrive]
  split
  next => exact .say session rfl
  next =>
    refine Turn.GoesThrough.andThen (.say _ rfl) ?_
    split
    next id _ => exact startEvent_goesThrough _ id
    next => exact .say _ rfl

theorem findEvent_goesThrough : session.findEvent.GoesThrough := by
  rw [findEvent]
  split
  next => exact .quiet session
  next => exact .say session rfl
  next =>
    rw [travel]
    split
    next => exact .say session rfl
    next =>
      split
      next => exact .quiet session
      next => exact .say _ rfl
      next next _ _ => exact arrive_goesThrough _ next

theorem followTitle_goesThrough (tree : FileTree) : (session.followTitle tree).GoesThrough := by
  rw [followTitle]
  split
  next => exact .quiet session
  next =>
    split
    next => exact .quiet _
    next => exact .say _ rfl

theorem moveOn_goesThrough (resolution : Resolution) : (session.moveOn resolution).GoesThrough := by
  rw [moveOn]
  split
  next => exact .say _ rfl
  next =>
    split
    next id _ => exact startEvent_goesThrough _ id
    next => exact .say _ rfl

theorem resolve_goesThrough (tree : FileTree) (resolution : Resolution) :
    (session.resolve tree resolution).GoesThrough :=
  Turn.GoesThrough.andThen (.say session rfl)
    (.andThen (followTitle_goesThrough _ tree) (moveOn_goesThrough _ resolution))

end

/-- In this turn an option is applied without a question whether it can be chosen. -/
def take (tree : FileTree) (session : Session) (option : EventOption) : Turn :=
  match option.apply session.content.items session.scene with
  | (scene, .ok resolution) => (session.afterScene scene).resolve tree resolution
  | (scene, .error error) => .say (session.afterScene scene) (.refused error)

/-- These are the sessions in which a hero who plays alone looks at the event in progress. Each begins
one of his steps, after a journey to an event if he had none. -/
inductive Considers (tree : FileTree) : Nat → Session → Session → Prop
  | now {steps : Nat} {session : Session} (found : session.findEvent.stop = none) :
      Considers tree (steps + 1) session session.findEvent.session
  | later {steps : Nat} {session moment : Session} (found : session.findEvent.stop = none)
      (goesOn : (session.findEvent.session.autoChoice tree).2 = true)
      (unstopped : (session.findEvent.session.autoChoice tree).1.stop = none)
      (considers : Considers tree steps (session.findEvent.session.autoChoice tree).1.session moment) :
      Considers tree (steps + 1) session moment

/-- This is the session after a draw from its random source. -/
def afterDraw (session : Session) (source : RandomSource) : Session :=
  { session with source := source }

/-- A session draws an order when its random source picks it for the event in progress. -/
structure Draws (session : Session) (event : Event) (order : Int32) (source : RandomSource) :
    Prop where
  inProgress : ∃ id, session.current = some id ∧ session.content.events.find? id = some event
  drawn : session.source.choose (session.choices event) = (some order, source)

/-- An order is a legal move for an option when it leads to this option alone, when the option can be
seen and afforded, and when to choose the order is to apply the option. -/
structure IsLegal (session : Session) (event : Event) (order : Int32) (option : EventOption) :
    Prop where
  owned : option ∈ event.options
  visible : option.isVisible session.scene = true
  affordable : option.isAffordable session.scene = true
  named : option.order = order
  only : ∀ other ∈ event.options, other.order = order → other = option
  taken : ∀ tree, session.choose tree order = session.take tree option

section

variable {tree : FileTree} {steps : Nat} {session moment : Session} {event : Event} {order : Int32}
  {source : RandomSource} {option : EventOption}

/-- The turns of a hero who plays alone are journeys to an event and choices in it. -/
theorem cases_of_mem_autoTurns {turn : Turn} (listed : turn ∈ session.autoTurns tree steps) :
    (∃ earlier : Session, turn = earlier.findEvent) ∨
      ∃ moment, session.Considers tree steps moment ∧ turn = (moment.autoChoice tree).1 := by
  induction steps generalizing session with
  | zero => cases listed
  | succ steps inductionHypothesis =>
      rw [autoTurns] at listed
      dsimp only at listed
      split at listed
      next => exact .inl ⟨session, List.mem_singleton.mp listed⟩
      next unstopped =>
        have found : session.findEvent.stop = none := by simpa using unstopped
        split at listed
        next further =>
          obtain ⟨goesOn, chosen⟩ := Bool.and_eq_true_iff.mp further
          rcases List.mem_cons.mp listed with rfl | listed
          · exact .inl ⟨session, rfl⟩
          rcases List.mem_cons.mp listed with rfl | listed
          · exact .inr ⟨_, .now found, rfl⟩
          rcases inductionHypothesis listed with journey | ⟨moment, considers, rfl⟩
          · exact .inl journey
          · exact .inr ⟨moment, .later found goesOn (Option.isNone_iff_eq_none.mp chosen) considers,
              rfl⟩
        next =>
          rcases List.mem_cons.mp listed with rfl | listed
          · exact .inl ⟨session, rfl⟩
          · exact .inr ⟨_, .now found, List.mem_singleton.mp listed⟩

/-- Without a draw a hero who plays alone says why he stops, if anything. -/
theorem draws_or_goesThrough (tree : FileTree) (session : Session) :
    (∃ event order source, session.Draws event order source) ∨
      (session.autoChoice tree).1.GoesThrough := by
  rw [autoChoice]
  split
  next => exact .inr (.quiet session)
  next id inProgress =>
    split
    next => exact .inr (.quiet session)
    next event found =>
      split
      next => exact .inr (.say _ rfl)
      next order source drawn => exact .inl ⟨event, order, source, ⟨id, inProgress, found⟩, drawn⟩

/-- What every reload keeps is kept until a hero who plays alone considers an event. -/
theorem Considers.content {motive : Content → Prop}
    (reloads : ∀ content context, motive content → motive (content.reloadWith tree context).1)
    (considers : session.Considers tree steps moment) (begins : motive session.content) :
    motive moment.content := by
  -- A journey leaves the content as it is, and a choice can load it again.
  induction considers with
  | @now _ session _ =>
      rw [session.findEvent_spares.content]
      exact begins
  | @later _ session _ _ _ _ _ inductionHypothesis =>
      rw [← session.findEvent_spares.content] at begins
      exact inductionHypothesis (content_autoChoice reloads begins)

theorem choose_eq_take {id : String} (inProgress : session.current = some id)
    (found : session.content.events.find? id = some event)
    (offered : ((event.visibleOptions session.scene).find? fun option => option.order == order) =
      some option)
    (affordable : option.isAffordable session.scene = true) (tree : FileTree) :
    session.choose tree order = session.take tree option := by
  rcases applied : option.apply session.content.items session.scene with ⟨scene, error | resolution⟩
  all_goals simp only [choose, take, inProgress, found, offered, affordable, applied, if_true]

/-- The order that is drawn leads back to the option from which it was taken. -/
theorem Draws.exists_legal (draws : session.Draws event order source)
    (ascending : ∀ event ∈ session.content.events.entries, event.IsAscending) :
    ∃ option, (session.afterDraw source).IsLegal event order option := by
  obtain ⟨id, inProgress, found⟩ := draws.inProgress
  have ascends := ascending event (Catalog.mem_of_find? found).1
  have drawn := RandomSource.mem_of_choose (congrArg Prod.fst draws.drawn)
  obtain ⟨option, choosable, rfl⟩ := List.mem_map.mp drawn
  obtain ⟨shown, affordable⟩ := List.mem_filter.mp choosable
  obtain ⟨owned, visible⟩ := List.mem_filter.mp shown
  have offered := ascends.find?_visible_eq_some_iff.mpr ⟨shown, rfl⟩
  refine ⟨option, owned, visible, affordable, rfl, fun other listed same => ?_, fun tree => ?_⟩
  · have first := ascends.option?_eq_some_iff.mpr ⟨listed, same⟩
    exact Option.some.inj (first.symm.trans (ascends.option?_eq_some_iff.mpr ⟨owned, rfl⟩))
  · have inProgress : (session.afterDraw source).current = some id := inProgress
    exact choose_eq_take inProgress found offered affordable tree

/-- A move goes through but for an item that is not loaded. -/
theorem IsLegal.refused_of_told (legal : session.IsLegal event order option)
    (sound : session.content.items.Sound) {remark : Remark}
    (told : remark ∈ (session.take tree option).remarks) (down : remark.turnsDown = true) :
    ∃ item, remark = .refused (.unknownItem item) ∧ Effect.grantItem item ∈ option.effects ∧
      session.content.items.contains item = false := by
  rw [take] at told
  split at told
  next scene resolution _ =>
    cases (resolve_goesThrough _ tree resolution remark told).symm.trans down
  next scene error failed =>
    obtain rfl := List.mem_singleton.mp told
    obtain ⟨item, rfl, granted⟩ :=
      EventOption.unknown_of_affordable sound legal.affordable (congrArg Prod.snd failed)
    exact ⟨item, rfl, granted⟩

/-- In closed content every item that an option grants is loaded. -/
theorem IsLegal.grant_loaded (legal : session.IsLegal event order option)
    (inProgress : ∃ id, session.current = some id ∧ session.content.events.find? id = some event)
    (closed : session.content.Closed) {item : String}
    (granted : Effect.grantItem item ∈ option.effects) :
    session.content.items.contains item = true := by
  obtain ⟨id, -, found⟩ := inProgress
  exact closed.optionEffects event (Catalog.mem_of_find? found).1 option legal.owned _ granted

theorem IsLegal.exists_resolves (legal : session.IsLegal event order option)
    (inProgress : ∃ id, session.current = some id ∧ session.content.events.find? id = some event)
    (loaded : session.content.IsLoaded) (closed : session.content.Closed) :
    ∃ scene resolution, session.Resolves order option scene resolution := by
  obtain ⟨id, stands, found⟩ := inProgress
  have shown := (loaded.ascending event (Catalog.mem_of_find? found).1).find?_visible_eq_some_iff.mpr
    ⟨List.mem_filter.mpr ⟨legal.owned, legal.visible⟩, legal.named⟩
  rcases applied : option.apply session.content.items session.scene with ⟨scene, error | resolution⟩
  · obtain ⟨item, -, granted, missing⟩ := EventOption.unknown_of_affordable loaded.sound
      legal.affordable (congrArg Prod.snd applied)
    cases missing.symm.trans (legal.grant_loaded ⟨id, stands, found⟩ closed granted)
  · exact ⟨scene, resolution, ⟨id, event, stands, found, shown⟩, legal.affordable, applied⟩

/-- What a hero says who draws an order is what a player is told who chooses it. -/
theorem Draws.autoChoice_remarks (draws : session.Draws event order source)
    (legal : (session.afterDraw source).IsLegal event order option) :
    (session.autoChoice tree).1.remarks =
      .autoPicks order :: ((session.afterDraw source).take tree option).remarks := by
  obtain ⟨id, inProgress, found⟩ := draws.inProgress
  have chosen : (session.autoChoice tree).1 =
      (Turn.say (session.afterDraw source) (.autoPicks order)).andThen (choose tree · order) := by
    simp only [autoChoice, afterDraw, inProgress, found, draws.drawn]
  rw [chosen, ← legal.taken tree]
  rfl

end

/-- Nothing is turned down in content that was loaded but an option with an item that is not. -/
theorem refused_of_auto {tree : FileTree} {steps : Nat} {session : Session}
    (loaded : session.content.IsLoaded) {remark : Remark}
    (told : remark ∈ (auto tree steps session).remarks) (down : remark.turnsDown = true) :
    ∃ item, remark = .refused (.unknownItem item) ∧
      ∃ moment event order source option, session.Considers tree steps moment ∧
        moment.Draws event order source ∧ (moment.afterDraw source).IsLegal event order option ∧
        Effect.grantItem item ∈ option.effects ∧ moment.content.items.contains item = false := by
  rw [auto_eq_joined] at told
  obtain ⟨turn, listed, told⟩ := Turn.exists_told_of_joined told
  rcases cases_of_mem_autoTurns listed with ⟨earlier, rfl⟩ | ⟨moment, considers, rfl⟩
  · cases (findEvent_goesThrough earlier remark told).symm.trans down
  rcases draws_or_goesThrough tree moment with ⟨event, order, source, draws⟩ | through
  · have loaded := considers.content Content.isLoaded_reloadWith loaded
    obtain ⟨option, legal⟩ := draws.exists_legal loaded.ascending
    rw [draws.autoChoice_remarks legal] at told
    rcases List.mem_cons.mp told with rfl | told
    · cases down
    obtain ⟨item, refused, unknown⟩ := legal.refused_of_told loaded.sound told down
    exact ⟨item, refused, moment, event, order, source, option, considers, draws, legal, unknown⟩
  · cases (through remark told).symm.trans down

/-- A hero who plays alone makes nothing but legal moves in content that was built, whatever becomes of
the files. He is never told that he cannot see or afford what he chooses, and only an item that is not
loaded can keep him from it. In content that is checked without problems nothing can, whatever he
carries, as long as the files stay as they are. -/
theorem auto_moves_legally {plan : ContentPlan} {files : FileTree} {session : Session}
    (built : plan.build files = .ok session.content) (steps : Nat) :
    (∀ tree,
      (∀ order, .noVisibleOption order ∉ (auto tree steps session).remarks) ∧
      (∀ cost, .cannotAfford cost ∉ (auto tree steps session).remarks) ∧
      (∀ error, .refused error ∈ (auto tree steps session).remarks →
        ∃ item, error = .unknownItem item) ∧
      ∀ moment, session.Considers tree steps moment →
        ∀ event order source, moment.Draws event order source →
          ∃ option, (moment.afterDraw source).IsLegal event order option ∧
            (moment.autoChoice tree).1.remarks =
              .autoPicks order :: ((moment.afterDraw source).take tree option).remarks) ∧
    ∀ context, (validate files session.content.paths context).isOk = true →
      (∀ error, .refused error ∉ (auto files steps session).remarks) ∧
      ∀ moment, session.Considers files steps moment →
        ∀ event order source, moment.Draws event order source →
          ∃ option scene resolution, (moment.afterDraw source).IsLegal event order option ∧
            (moment.afterDraw source).Resolves order option scene resolution := by
  have loaded := Content.load_of_build built
  have isLoaded : session.content.IsLoaded := ⟨files, _, _, loaded⟩
  refine ⟨fun tree => ⟨?_, ?_, ?_, ?_⟩, fun context clean => ?_⟩
  · intro order told
    obtain ⟨item, same, -⟩ := refused_of_auto isLoaded told rfl
    cases same
  · intro cost told
    obtain ⟨item, same, -⟩ := refused_of_auto isLoaded told rfl
    cases same
  · intro error told
    obtain ⟨item, same, -⟩ := refused_of_auto isLoaded told rfl
    exact ⟨item, Remark.refused.inj same⟩
  · intro moment considers event order source draws
    have stillLoaded := considers.content Content.isLoaded_reloadWith isLoaded
    obtain ⟨option, legal⟩ := draws.exists_legal stillLoaded.ascending
    exact ⟨option, legal, draws.autoChoice_remarks legal⟩
  · rw [validate_for_hero files session.content.paths context session.content.context] at clean
    have checked : ∀ moment, session.Considers files steps moment →
        moment.content.IsChecked files :=
      fun moment considers => considers.content Content.isChecked_reloadWith ⟨loaded, clean⟩
    refine ⟨fun error told => ?_, fun moment considers event order source draws => ?_⟩
    · obtain ⟨item, -, moment, event, order, source, option, considers, draws, legal, granted,
        missing⟩ := refused_of_auto isLoaded told rfl
      have known := legal.grant_loaded draws.inProgress (checked moment considers).closed granted
      cases missing.symm.trans known
    · have stillLoaded := (checked moment considers).isLoaded
      obtain ⟨option, legal⟩ := draws.exists_legal stillLoaded.ascending
      obtain ⟨scene, resolution, resolves⟩ :=
        legal.exists_resolves draws.inProgress stillLoaded (checked moment considers).closed
      exact ⟨option, scene, resolution, legal, resolves⟩

/-- Whoever is strong can row out of this harbour for a meal. -/
def harbourTree : FileTree where
  directories := [["events"]]
  files := [
    (["events", "harbour.ron"],
      ("(Id:\"harbour\",Name:\"H\",Description:\"H\",Options:[(DisplayText:\"Row\"," ++
        "ResolutionText:\"R\",Order:3,Conditions:[\"strength:5\"],Costs:[\"food:1\"])])").toUTF8)]

def harbourPaths : ContentPaths where
  events := "events"
  items := none
  nodes := none

def rowOut : EventOption where
  displayText := "Row"
  resolutionText := "R"
  order := 3
  displayCost := false
  conditions := [.threshold .strength 5]
  costs := [⟨.food, 1⟩]
  effects := []
  nextEvent := none

def harbour : Event where
  id := "harbour"
  name := "H"
  description := "H"
  options := [rowOut]

/-- All that is drawn for the hero in this session is zero. -/
def harbourSession (content : Content) : Session where
  content := content
  player := {
    name := "Astrid"
    birth := .girl
    title := "Thrall"
    stats := Stats.ofList [(.population, 5), (.food, 4), (.strength, 5), (.maxStrength, 5)] }
  location := none
  current := some "harbour"
  source := ⟨fun _ => 0, 0⟩

theorem auto_moves_legally_harbour :
    ∃ content, (ContentPlan.withPaths {} harbourPaths).build harbourTree = .ok content ∧
      (validate harbourTree content.paths .neutral).isOk = true ∧
      (harbourSession content).Considers harbourTree 1 (harbourSession content) ∧
      ∃ source, (harbourSession content).Draws harbour 3 source ∧
        ∃ scene resolution, ((harbourSession content).afterDraw source).IsLegal harbour 3 rowOut ∧
          ((harbourSession content).afterDraw source).Resolves 3 rowOut scene resolution := by
  have decided : ((ContentPlan.withPaths {} harbourPaths).build harbourTree).toOption.map
      (fun content => decide (content.events.find? "harbour" = some harbour ∧
        (validate harbourTree content.paths .neutral).isOk = true)) = some true := by
    decide +kernel
  cases built : (ContentPlan.withPaths {} harbourPaths).build harbourTree with
  | error error =>
      rw [built] at decided
      cases decided
  | ok content =>
      rw [built] at decided
      obtain ⟨found, clean⟩ := of_decide_eq_true (Option.some.inj decided)
      have held : (ContentPlan.withPaths {} harbourPaths).build harbourTree =
          .ok (harbourSession content).content := built
      have considers : (harbourSession content).Considers harbourTree 1 (harbourSession content) :=
        .now rfl
      have picked : (RandomSource.choose ⟨fun _ => 0, 0⟩ [(3 : Int32)]).1 = some 3 := by
        decide +kernel
      have draws : (harbourSession content).Draws harbour 3
          (RandomSource.choose ⟨fun _ => 0, 0⟩ [(3 : Int32)]).2 :=
        ⟨⟨"harbour", rfl, found⟩, Prod.ext picked rfl⟩
      obtain ⟨-, checked⟩ := auto_moves_legally held 1
      obtain ⟨option, scene, resolution, legal, resolves⟩ :=
        (checked .neutral clean).2 _ considers _ _ _ draws
      obtain rfl := List.mem_singleton.mp legal.owned
      exact ⟨content, rfl, clean, considers, _, draws, scene, resolution, legal, resolves⟩

end Session

end Gamebook
