import Lvos.System.Popup

set_option autoImplicit false

namespace Lvos.System.Ui

open Lvos.Core Lvos.Ipc Lvos.Agent Lvos.Desktop
open Transition (run Meets run_keeps_of_meets)

/-- The generations of the lookups that were begun on the connection, in the order in which
their `BeginLookup` was queued. -/
def queuedGenerations (messages : List AgentToUi) : List Nat :=
  messages.filterMap (fun message =>
    match message with
    | .beginLookup _ state => some state.queryId
    | _ => none)

/-- The messages of the lookups find the connection up. -/
def staysUp (world : Popup) : PopupStep → Bool
  | .advance _ .sendBegin | .advance _ .sendUpdate => world.dialogue.reaches
  | _ => true

/-- The card is of the lookup that was begun last in the queue. -/
theorem queryId_shownBy (messages : List AgentToUi) :
    (shownBy messages).map (fun card => card.2.queryId) =
      (queuedGenerations messages).getLast? := by
  induction messages using List.reverseRecOn with
  | nil => rfl
  | append_singleton before message ih =>
      rw [shownBy_append, queuedGenerations, List.filterMap_append]
      change _ = (queuedGenerations before ++ _).getLast?
      cases message with
      | beginLookup displaySessionId state => simp [showAfter]
      | updateLookup displaySessionId state =>
          rw [List.filterMap_cons_none rfl, List.filterMap_nil, List.append_nil, ← ih]
          rw [showAfter]
          split
          · rename_i own
            obtain ⟨card, found, same⟩ := (Option.any_eq_true _ _).mp own
            rw [Bool.and_eq_true, decide_eq_true_eq, decide_eq_true_eq] at same
            rw [found, Option.map_some, Option.map_some, same.2]
          · rfl
      | _ =>
          rw [List.filterMap_cons_none rfl, List.filterMap_nil, List.append_nil, ← ih]
          rfl

/-- A lookup that has been begun. -/
def announces (generation : Nat) : AgentToUi → Bool
  | .beginLookup _ state | .updateLookup _ state =>
      UiSession.validLookup state && decide (1 ≤ state.queryId ∧ state.queryId ≤ generation)
  | _ => true

theorem announces_mono {generation later : Nat} (later_le : generation ≤ later)
    {message : AgentToUi} (known : announces generation message = true) :
    announces later message = true := by
  cases message with
  | beginLookup displaySessionId state =>
      simp only [announces, Bool.and_eq_true, decide_eq_true_eq] at known ⊢
      exact ⟨known.1, known.2.1, Nat.le_trans known.2.2 later_le⟩
  | updateLookup displaySessionId state =>
      simp only [announces, Bool.and_eq_true, decide_eq_true_eq] at known ⊢
      exact ⟨known.1, known.2.1, Nat.le_trans known.2.2 later_le⟩
  | _ => rfl

theorem validMessage_of_announces {generation : Nat} {message : AgentToUi}
    (known : announces generation message = true) : validMessage message = true := by
  cases message with
  | beginLookup displaySessionId state => exact (Bool.and_eq_true_iff.mp known).1
  | updateLookup displaySessionId state => exact (Bool.and_eq_true_iff.mp known).1
  | _ => rfl

/-- What is shown has been begun. -/
theorem queryId_of_announces {generation : Nat} {messages : List AgentToUi}
    (known : ∀ message ∈ messages, announces generation message = true)
    {displaySessionId : DrawnId} {state : LookupUiState}
    (shown : shownBy messages = some (displaySessionId, state)) :
    1 ≤ state.queryId ∧ state.queryId ≤ generation := by
  have latest := queryId_shownBy messages
  rw [shown, Option.map_some] at latest
  obtain ⟨message, member, found⟩ :=
    List.mem_filterMap.mp (List.mem_of_getLast? latest.symm)
  have announced := known message member
  cases message with
  | beginLookup other begun =>
      have same : begun.queryId = state.queryId := Option.some.inj found
      rw [← same]
      exact of_decide_eq_true (Bool.and_eq_true_iff.mp announced).2
  | _ => cases found

/-- Every lookup at work and every lookup announced has been begun. -/
structure LookupInv (world : Popup) : Prop where
  exit : ExitInv world.dialogue
  card : CardInv world.dialogue
  sent : ∀ message ∈ world.dialogue.sent, announces world.generation message = true
  tasks : ∀ task ∈ world.tasks,
    1 ≤ task.generation ∧ task.generation ≤ world.generation ∧ task.Sound
  counted : world.generation = world.begun.length
  last : world.lastSource = world.begun.getLast?

section Steps

variable {world next : Popup}

theorem LookupInv.shown (inv : LookupInv world) {displaySessionId : DrawnId}
    {state : LookupUiState} (shown : shownBy world.dialogue.sent = some (displaySessionId, state)) :
    1 ≤ state.queryId ∧ state.queryId ≤ world.generation :=
  queryId_of_announces inv.sent shown

/-- What has been applied was sent. -/
theorem LookupInv.applied (inv : LookupInv world) (connected : world.dialogue.connected = true)
    {displaySessionId : DrawnId} {state : LookupUiState}
    (shown : shownBy world.dialogue.applied = some (displaySessionId, state)) :
    1 ≤ state.queryId ∧ state.queryId ≤ world.generation := by
  refine queryId_of_announces ?_ shown
  intro message member
  cases approval : isApproval message with
  | true =>
      cases message with
      | idleExitApproved requestId generation => rfl
      | _ => cases approval
  | false =>
      apply inv.sent
      rw [← (inv.exit.linked connected).logged]
      apply List.mem_filter.mpr
      exact ⟨List.mem_append_left _ member, by rw [approval]; rfl⟩

theorem LookupInv.post (inv : LookupInv world) {message : AgentToUi}
    (command : isCommand message = true) (known : announces world.generation message = true) :
    LookupInv (world.post message) := by
  have taken : world.dialogue.step (.send message) = some (world.post message).dialogue := by
    rw [Dialogue.step, if_pos command, Popup.post]
  refine ⟨inv.exit.step taken, inv.card.post message, ?_, inv.tasks, inv.counted, inv.last⟩
  intro other member
  rw [Popup.post, (post_sent world.dialogue message).2] at member
  rcases List.mem_append.mp member with before | now
  · exact inv.sent other before
  · split at now
    · rw [List.mem_singleton.mp now]
      exact known
    · cases now

theorem LookupInv.place (inv : LookupInv world) {slot : Slot} {old : LookupTask}
    {new : Option LookupTask} (member : old ∈ world.tasks)
    (kept : ∀ task, new = some task →
      task.generation = old.generation ∧ (old.Sound → task.Sound)) :
    LookupInv (world.place slot new) := by
  refine ⟨?_, ?_, ?_, ?_, ?_, ?_⟩
  · rw [Popup.place_dialogue]
    exact inv.exit
  · rw [Popup.place_dialogue]
    exact inv.card
  · rw [Popup.place_dialogue, Popup.place_generation]
    exact inv.sent
  · intro task among
    rw [Popup.place_generation]
    rcases Popup.mem_tasks_of_place among with before | now
    · exact inv.tasks task before
    · obtain ⟨own, sound⟩ := kept task now
      obtain ⟨begun, bound, right⟩ := inv.tasks old member
      rw [own]
      exact ⟨begun, bound, sound right⟩
  · rw [Popup.place_generation, Popup.place_begun]
    exact inv.counted
  · rw [Popup.place_lastSource, Popup.place_begun]
    exact inv.last

theorem announced_step {dialogue later : Dialogue} {generation : Nat} {action : DialogueStep}
    (plain : ∀ message, action = .send message → UiSession.isLookup message = false)
    (taken : dialogue.step action = some later)
    (known : ∀ message ∈ dialogue.sent, announces generation message = true) :
    ∀ message ∈ later.sent, announces generation message = true := by
  intro message member
  cases lookup : UiSession.isLookup message with
  | true =>
      rcases step_lookups plain taken with same | none
      · have among := List.mem_filter.mpr ⟨member, lookup⟩
        rw [same] at among
        exact known message (List.mem_filter.mp among).1
      · rw [none] at member
        cases member
  | false =>
      cases message with
      | beginLookup displaySessionId state => cases lookup
      | updateLookup displaySessionId state => cases lookup
      | _ => rfl

theorem LookupInv.step [ContentTables] (inv : LookupInv world) {action : PopupStep}
    (stepped : world.step action = some next) : LookupInv next := by
  cases Popup.step_effect stepped with
  | aside dialogue generation last begun tasks =>
      have keeps : ExitInv next.dialogue ∧ CardInv next.dialogue ∧
          ∀ message ∈ next.dialogue.sent, announces next.generation message = true := by
        rw [generation]
        rcases dialogue with same | ⟨action, plain, taken⟩
        · rw [same]
          exact ⟨inv.exit, inv.card, inv.sent⟩
        · refine ⟨inv.exit.step taken, inv.card.step inv.exit ?_ taken, ?_⟩
          · intro message member
            exact validMessage_of_announces (inv.sent message member)
          · exact announced_step plain taken inv.sent
      refine ⟨keeps.1, keeps.2.1, keeps.2.2, ?_, ?_, ?_⟩
      · rw [tasks, generation]
        exact inv.tasks
      · rw [generation, begun]
        exact inv.counted
      · rw [last, begun]
        exact inv.last
  | @begins task dialogue stage own generation last begun tasks =>
      refine ⟨by rw [dialogue]; exact inv.exit, by rw [dialogue]; exact inv.card, ?_, ?_, ?_, ?_⟩
      · rw [dialogue, generation]
        intro message member
        exact announces_mono (Nat.le_succ _) (inv.sent message member)
      · intro other member
        rw [generation]
        rcases tasks other member with before | rfl
        · obtain ⟨one, bound, sound⟩ := inv.tasks other before
          exact ⟨one, Nat.le_succ_of_le bound, sound⟩
        · refine ⟨by omega, Nat.le_of_eq own, ?_⟩
          unfold LookupTask.Sound
          rw [stage]
          rintro state (done | done) <;> cases done
      · rw [generation, begun, List.length_append, inv.counted]
        rfl
      · rw [last, begun, List.getLast?_concat]
  | moves found whole kept goesOn =>
      rw [whole]
      exact inv.place (Popup.mem_tasks_of_taskAt found) kept
  | @sendBegin slot task found reached whole =>
      have member := Popup.mem_tasks_of_taskAt found
      obtain ⟨one, bound, -⟩ := inv.tasks task member
      rw [whole]
      have posted := @LookupInv.post world inv (.beginLookup task.displaySessionId
        (.loading task.generation task.source)) rfl (Bool.and_eq_true_iff.mpr
          ⟨rfl, decide_eq_true ⟨one, bound⟩⟩)
      apply posted.place member
      rintro later ⟨⟩
      refine ⟨rfl, ?_⟩
      rintro - state (done | done) <;> cases done
  | @sendUpdate slot task state found stage chosen whole =>
      have member := Popup.mem_tasks_of_taskAt found
      obtain ⟨one, bound, sound⟩ := inv.tasks task member
      obtain ⟨own, -, valid⟩ := sound state (.inr stage)
      rw [whole]
      have posted := @LookupInv.post world inv (.updateLookup task.displaySessionId state) rfl
        (by simp [announces, own, one, bound, valid])
      apply posted.place member
      rintro later ⟨⟩

/-- The lookup of the latest generation, once it is the one shown, is complete or its task is
still at work. -/
def LatestInv (world : Popup) : Prop :=
  ∀ displaySessionId state, shownBy world.dialogue.sent = some (displaySessionId, state) →
    state.queryId = world.generation → isLoading state = false ∨
      ∃ task ∈ world.tasks, task.stage ≠ .begun ∧ task.generation = world.generation ∧
        task.displaySessionId = displaySessionId

theorem shownBy_post (message : AgentToUi) (reached : world.dialogue.reaches = true) :
    shownBy (world.post message).dialogue.sent =
      showAfter (shownBy world.dialogue.sent) message := by
  rw [Popup.post, (post_sent world.dialogue message).2, if_pos reached, shownBy_append]

theorem LatestInv.step [ContentTables] (latest : LatestInv world) (inv : LookupInv world)
    {action : PopupStep} (up : staysUp world action = true)
    (stepped : world.step action = some next) : LatestInv next := by
  cases Popup.step_effect stepped with
  | aside dialogue generation last begun tasks =>
      intro displaySessionId state shown
      rw [generation, tasks]
      apply latest displaySessionId state
      rcases dialogue with same | ⟨moved, plain, taken⟩
      · rw [← same]
        exact shown
      · rcases step_lookups plain taken with same | none
        · rw [← shownBy_lookups, ← same, shownBy_lookups]
          exact shown
        · rw [none] at shown
          cases shown
  | begins dialogue stage own generation last begun tasks =>
      -- Nothing of the new generation has been shown.
      intro displaySessionId state shown same
      rw [dialogue] at shown
      have bound := (inv.shown shown).2
      omega
  | @moves slot old new found whole kept goesOn =>
      rw [whole]
      intro displaySessionId state shown same
      rw [Popup.place_dialogue] at shown
      rw [Popup.place_generation] at same ⊢
      refine (latest displaySessionId state shown same).imp_right ?_
      rintro ⟨task, member, stage, newest, session⟩
      by_cases replaced : task = old
      · subst replaced
        obtain ⟨later, rfl, begun, own, id⟩ := goesOn (inv.tasks task member).2.2 stage newest
        exact ⟨later, Popup.mem_tasks_place_self _ _ _, begun, own.trans newest,
          id.trans session⟩
      · exact ⟨task, Popup.mem_tasks_place found member replaced, stage, newest, session⟩
  | @sendBegin slot task found reached whole =>
      rw [whole]
      intro displaySessionId state shown same
      rw [Popup.place_dialogue, shownBy_post _ reached] at shown
      rw [Popup.place_generation] at same ⊢
      cases shown
      exact .inr ⟨_, Popup.mem_tasks_place_self _ _ _, nofun, same, rfl⟩
  | @sendUpdate slot task result found stage chosen whole =>
      subst chosen
      rw [whole]
      intro displaySessionId state shown same
      rw [Popup.place_dialogue, shownBy_post _ up] at shown
      rw [Popup.place_generation] at same ⊢
      change state.queryId = world.generation at same
      obtain ⟨own, done, -⟩ :=
        (inv.tasks task (Popup.mem_tasks_of_taskAt found)).2.2 result (.inr stage)
      rw [showAfter] at shown
      split at shown
      · cases shown
        exact .inl done
      · rename_i other
        -- The task that the card waits for is another one.
        refine (latest displaySessionId state shown same).imp_right ?_
        rintro ⟨waiting, member, begun, newest, session⟩
        refine ⟨waiting, Popup.mem_tasks_place found member ?_, begun, newest, session⟩
        rintro rfl
        apply other
        rw [shown]
        simp [session, own, newest, same]

end Steps

theorem LookupInv.initial : LookupInv Popup.initial := by
  refine ⟨ExitInv.initial, CardInv.initial, ?_, ?_, rfl, rfl⟩
  · rintro message ⟨⟩
  · rintro task ⟨⟩

theorem LatestInv.initial : LatestInv Popup.initial := by
  rintro displaySessionId state ⟨⟩

/-- The Popup shows what was sent, once all of it has been applied. -/
theorem shownBy_sent {dialogue : Dialogue} (exit : ExitInv dialogue)
    (connected : dialogue.connected = true) (arrived : dialogue.toUi = []) :
    shownBy dialogue.applied = shownBy dialogue.sent := by
  have logged := (exit.linked connected).logged
  rw [arrived, List.append_nil] at logged
  rw [← shownBy_lookups dialogue.applied, ← shownBy_lookups dialogue.sent, ← logged,
    List.filter_filter]
  congr 1
  apply List.filter_congr
  intro message _
  cases message <;> rfl

/-- However the lookups interleave: when they have finished and their messages are applied, an
open Popup shows the result of the latest generation exactly if that generation's
`BeginLookup` was queued last. -/
theorem latest_query_wins_iff [ContentTables] {actions : List PopupStep} {last : Popup}
    (up : Meets Popup.step (fun world action => staysUp world action = true) Popup.initial actions)
    (ran : run Popup.step Popup.initial actions = some last)
    (connected : last.dialogue.connected = true) (finished : last.tasks = [])
    (arrived : last.dialogue.toUi = []) (active : last.dialogue.gui.hosts.popup = .active) :
    (∃ state, last.dialogue.gui.hosts.card = some state ∧ state.queryId = last.generation ∧
        isLoading state = false) ↔
      (queuedGenerations last.dialogue.sent).getLast? = some last.generation := by
  have keeps : ∀ world action next, LookupInv world ∧ LatestInv world →
      staysUp world action = true → Popup.step world action = some next →
      LookupInv next ∧ LatestInv next := by
    rintro world action next ⟨inv, latest⟩ reached stepped
    exact ⟨inv.step stepped, latest.step inv reached stepped⟩
  obtain ⟨inv, results⟩ := run_keeps_of_meets keeps actions Popup.initial last
    ⟨.initial, .initial⟩ up ran
  obtain ⟨displaySessionId, state, shown, -, card⟩ := inv.card.card connected active
  rw [shownBy_sent inv.exit connected arrived] at shown
  have generation := queryId_shownBy last.dialogue.sent
  rw [shown, Option.map_some] at generation
  rw [card, ← generation]
  constructor
  · rintro ⟨other, same, latest, -⟩
    cases same
    rw [latest]
  · intro latest
    have own : state.queryId = last.generation := Option.some.inj latest
    refine ⟨state, rfl, own, ?_⟩
    rcases results displaySessionId state shown own with done | ⟨task, member, -⟩
    · exact done
    · rw [finished] at member
      cases member

section Runs

attribute [local instance] Sample.twoWords

def houseTask (stage : LookupStage) : Slot := .capture ⟨1, 0, "house", stage⟩

def giftTask (stage : LookupStage) : Slot := .capture ⟨2, 1, "gift", stage⟩

def houseFound : LookupOutcome := .found Sample.houseKey "house" "maison" false 1

def houseReady : LookupUiState := .ready 1 Sample.houseKey.toHex "house" "maison" false 1

def giftReady : LookupUiState := .ready 2 Sample.giftKey.toHex "gift" "cadeau" false 1

/-- The later lookup finishes first and the earlier one is dropped; `begins` are the two
`BeginLookup` in the order in which they are queued. -/
def twoLookups (begins : List PopupStep) : List PopupStep :=
  Sample.started ++ [PopupStep.capture "house", .capture "gift"] ++ begins ++
    [PopupStep.advance (giftTask .shown) (.complete (.found Sample.giftKey "gift" "cadeau" false 1)),
      .advance (giftTask (.completed giftReady)) .test,
      .advance (giftTask (.current giftReady)) .sendUpdate,
      .advance (houseTask .shown) (.complete houseFound),
      .advance (houseTask (.completed houseReady)) .test,
      .dialogue (.apply true), .dialogue (.apply true), .dialogue (.apply true)]

def inOrder : List PopupStep :=
  twoLookups [.advance (houseTask .begun) .sendBegin, .advance (giftTask .begun) .sendBegin]

def crossed : List PopupStep :=
  twoLookups [.advance (giftTask .begun) .sendBegin, .advance (houseTask .begun) .sendBegin]

theorem latest_query_wins_in_order :
    ∃ last, run Popup.step Popup.initial inOrder = some last ∧ last.generation = 2 ∧
      ∃ state, last.dialogue.gui.hosts.card = some state ∧ state.queryId = last.generation ∧
        isLoading state = false := by
  have up : Meets Popup.step (fun world action => staysUp world action = true) Popup.initial
      inOrder := by
    decide
  have facts : (run Popup.step Popup.initial inOrder).any (fun last =>
      decide (last.generation = 2 ∧ last.dialogue.connected = true ∧ last.tasks = [] ∧
        last.dialogue.toUi = [] ∧ last.dialogue.gui.hosts.popup = .active ∧
        (queuedGenerations last.dialogue.sent).getLast? = some last.generation)) = true := by
    decide
  obtain ⟨last, ran, holds⟩ := (Option.any_eq_true _ _).mp facts
  obtain ⟨two, connected, finished, arrived, active, queued⟩ := of_decide_eq_true holds
  exact ⟨last, ran, two,
    (latest_query_wins_iff up ran connected finished arrived active).mpr queued⟩

/-- The older lookup's `BeginLookup` is queued after the newer one's: the Popup keeps its
loading state. -/
theorem older_query_stays :
    Meets Popup.step (fun world action => staysUp world action = true) Popup.initial crossed ∧
      ∃ last, run Popup.step Popup.initial crossed = some last ∧
        last.dialogue.connected = true ∧ last.tasks = [] ∧ last.dialogue.toUi = [] ∧
        last.dialogue.gui.hosts.popup = .active ∧ last.generation = 2 ∧
        last.dialogue.gui.hosts.card = some (.loading 1 "house") := by
  have up : Meets Popup.step (fun world action => staysUp world action = true) Popup.initial
      crossed := by
    decide
  have facts : (run Popup.step Popup.initial crossed).any (fun last =>
      decide (last.dialogue.connected = true ∧ last.tasks = [] ∧ last.dialogue.toUi = [] ∧
        last.dialogue.gui.hosts.popup = .active ∧ last.generation = 2 ∧
        last.dialogue.gui.hosts.card = some (.loading 1 "house"))) = true := by
    decide
  obtain ⟨last, ran, holds⟩ := (Option.any_eq_true _ _).mp facts
  exact ⟨up, last, ran, of_decide_eq_true holds⟩

end Runs

end Lvos.System.Ui
