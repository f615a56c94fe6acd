import Lvos.Lib.Replay
import Lvos.System.Answers
import Lvos.System.Resync

set_option autoImplicit false

namespace Lvos.System.Ui

open Lvos.Ipc Lvos.Agent Lvos.Desktop
open Relational (Table)
open Replay (replay replay_self replay_next replay_append replay_all)
open Transition (run Meets run_keeps_of_meets)

/-- The patches are numbered in their order, every snapshot is of some number, and the
cached state is the last snapshot with the patches up to the cached revision. -/
structure LogInv (world : Dialogue) : Prop where
  counted : world.patches.length = world.revision
  numbered : ∀ index patch, world.patches[index]? = some patch →
    patch.baseRevision = index ∧ patch.revision = index + 1
  created : ∀ patch ∈ world.held, patch ∈ world.patches
  queued : ∀ patch, .patch patch ∈ world.toUi → patch ∈ world.patches
  snapshots : ∀ snapshot, .snapshot snapshot ∈ world.toUi →
    snapshot.revision ≤ world.revision
  read : ∀ requestId snapshot, world.serving = some (.snapshotRead requestId snapshot) →
    snapshot.revision ≤ world.revision
  greeted : ∀ snapshot, world.handshake = .read snapshot → snapshot.revision ≤ world.revision
  cached : ∀ snapshot, world.origin = some snapshot →
    snapshot.revision ≤ world.gui.cache.revision ∧ world.gui.cache.revision ≤ world.revision ∧
      world.gui.cache.main = some (replay applyMainPatch world.patches snapshot.revision
        world.gui.cache.revision snapshot.main)
  started : world.handshake = .applied ∨ world.connected = true → world.origin.isSome = true

section Log

variable {world next : Dialogue}

/-- A patch of the log stands at its base revision. -/
theorem LogInv.found (inv : LogInv world) {patch : MainUiPatch} (member : patch ∈ world.patches) :
    world.patches[patch.baseRevision]? = some patch ∧
      patch.revision = patch.baseRevision + 1 := by
  obtain ⟨index, found⟩ := List.mem_iff_getElem?.mp member
  obtain ⟨base, revision⟩ := inv.numbered index patch found
  rw [base]
  exact ⟨found, revision⟩

/-- A step that leaves the log, the cache and the snapshots alone. -/
theorem LogInv.aside (inv : LogInv world) (revision : next.revision = world.revision)
    (patches : next.patches = world.patches)
    (held : ∀ patch ∈ next.held, patch ∈ world.patches)
    (queued : ∀ patch, .patch patch ∈ next.toUi → patch ∈ world.patches)
    (snapshots : ∀ snapshot, .snapshot snapshot ∈ next.toUi →
      snapshot.revision ≤ world.revision)
    (read : ∀ requestId snapshot, next.serving = some (.snapshotRead requestId snapshot) →
      snapshot.revision ≤ world.revision)
    (handshake : next.handshake = world.handshake)
    (connected : next.connected = true → world.connected = true ∨ world.handshake = .applied)
    (origin : next.origin = world.origin) (cache : next.gui.cache = world.gui.cache) :
    LogInv next := by
  refine ⟨by rw [patches, revision]; exact inv.counted, by rw [patches]; exact inv.numbered,
    by rw [patches]; exact held, by rw [patches]; exact queued, by rw [revision]; exact snapshots,
    by rw [revision]; exact read, by rw [handshake, revision]; exact inv.greeted, ?_, ?_⟩
  · rw [origin, cache, revision, patches]
    exact inv.cached
  · rw [handshake, origin]
    rintro (done | link)
    · exact inv.started (.inl done)
    · exact inv.started (connected link).symm

theorem LogInv.post (inv : LogInv world) {message : AgentToUi}
    (patches : ∀ patch, message = .patch patch → patch ∈ world.patches)
    (snapshots : ∀ snapshot, message = .snapshot snapshot →
      snapshot.revision ≤ world.revision) : LogInv (world.post message) := by
  have queued : ∀ patch, .patch patch ∈ (world.post message).toUi → patch ∈ world.patches := by
    intro patch member
    rcases mem_toUi_post.mp member with before | ⟨-, now⟩
    · exact inv.queued patch before
    · exact patches patch now.symm
  have shots : ∀ snapshot, .snapshot snapshot ∈ (world.post message).toUi →
      snapshot.revision ≤ world.revision := by
    intro snapshot member
    rcases mem_toUi_post.mp member with before | ⟨-, now⟩
    · exact inv.snapshots snapshot before
    · exact snapshots snapshot now.symm
  unfold Dialogue.post at queued shots ⊢
  split at queued
  · rename_i reached
    rw [if_pos reached] at shots ⊢
    exact inv.aside rfl rfl inv.created queued shots inv.read rfl .inl rfl rfl
  · rename_i apart
    rw [if_neg apart]
    exact inv

theorem LogInv.createPatch (inv : LogInv world) (content : MainUiPatch) :
    LogInv { world with
      revision := world.revision + 1
      held := world.held ++ [world.patchOf content]
      patches := world.patches ++ [world.patchOf content] } := by
  refine ⟨?_, ?_, ?_, ?_, ?_, ?_, ?_, ?_, inv.started⟩
  · change (world.patches ++ [_]).length = world.revision + 1
    rw [List.length_append, inv.counted]
    rfl
  · intro index patch found
    by_cases before : index < world.patches.length
    · rw [List.getElem?_append_left before] at found
      exact inv.numbered index patch found
    · have bound := (List.getElem?_eq_some_iff.mp found).1
      rw [List.length_append, List.length_singleton] at bound
      have here : index = world.patches.length := by omega
      rw [here, List.getElem?_append_right (Nat.le_refl _), Nat.sub_self] at found
      cases found
      rw [here, inv.counted]
      exact ⟨rfl, rfl⟩
  · intro patch member
    rcases List.mem_append.mp member with before | now
    · exact List.mem_append_left _ (inv.created patch before)
    · exact List.mem_append_right _ now
  · intro patch member
    exact List.mem_append_left _ (inv.queued patch member)
  · intro snapshot member
    exact Nat.le_succ_of_le (inv.snapshots snapshot member)
  · intro requestId snapshot reads
    exact Nat.le_succ_of_le (inv.read requestId snapshot reads)
  · intro snapshot reads
    exact Nat.le_succ_of_le (inv.greeted snapshot reads)
  · intro snapshot origin
    obtain ⟨from_, bound, main⟩ := inv.cached snapshot origin
    refine ⟨from_, Nat.le_succ_of_le bound, ?_⟩
    change world.gui.cache.main = some (replay applyMainPatch (world.patches ++ [_]) _ _ _)
    rw [replay_append _ (by rw [inv.counted]; exact bound)]
    exact main

/-- Applying a message keeps the cached state a replay of the log. -/
theorem LogInv.cacheAfter (inv : LogInv world) {message : AgentToUi} {sequence : Nat}
    {after : UiCache} (patches : ∀ patch, message = .patch patch → patch ∈ world.patches)
    (snapshots : ∀ snapshot, message = .snapshot snapshot → snapshot.revision ≤ world.revision)
    (applied : after = UiSession.cacheAfter { world.gui.cache with lastSequence := sequence }
      message) :
    ∀ start, Dialogue.originAfter world.origin message = some start →
      start.revision ≤ after.revision ∧ after.revision ≤ world.revision ∧
        after.main = some (replay applyMainPatch world.patches start.revision after.revision
          start.main) := by
  intro start found
  cases message with
  | snapshot new =>
      rw [UiSession.cacheAfter] at applied
      rw [Dialogue.originAfter] at found
      split at found
      · rename_i same
        rw [if_neg (not_not.mpr same)] at applied
        cases found
        rw [applied]
        exact ⟨Nat.le_refl _, snapshots start rfl, by rw [replay_self]⟩
      · rename_i mixed
        rw [if_pos mixed] at applied
        rw [applied]
        exact inv.cached start found
  | patch new =>
      obtain ⟨order, bound, main⟩ := inv.cached start found
      rw [UiSession.cacheAfter] at applied
      split at applied
      · rw [applied]
        exact ⟨order, bound, main⟩
      · rename_i cached follow
        unfold UiSession.follows at follow
        split at follow
        · cases follow
        · rename_i fits
          obtain ⟨base, newer⟩ := not_or.mp fits
          rw [not_not] at base
          obtain ⟨position, next⟩ := inv.found (patches new rfl)
          change new.baseRevision = world.gui.cache.revision at base
          change world.gui.cache.main = some cached at follow
          rw [base] at position next
          rw [main, Option.some.injEq] at follow
          have inside := (List.getElem?_eq_some_iff.mp position).1
          rw [inv.counted] at inside
          rw [applied]
          refine ⟨?_, ?_, ?_⟩
          · change start.revision ≤ new.revision
            omega
          · change new.revision ≤ world.revision
            omega
          · change some (applyMainPatch cached new) = some (replay _ _ _ new.revision _)
            rw [next, replay_next position order, follow]
  | _ =>
      rw [applied]
      exact inv.cached start found

theorem LogInv.applyNext (inv : LogInv world) (exit : ExitInv world)
    (connected : world.connected = true) {done : Bool}
    (applied : world.applyNext done = some next) : LogInv next := by
  have linked := exit.linked connected
  unfold Dialogue.applyNext at applied
  split at applied
  · cases applied
  · rename_i message rest queue
    have order : world.gui.cache.lastSequence < world.delivered + 3 := by
      rw [linked.sequence]
      omega
    have cache := (UiSession.apply_cache message done order).1
    have queued : ∀ patch, message = .patch patch → patch ∈ world.patches := by
      rintro patch rfl
      apply inv.queued
      rw [queue]
      exact List.mem_cons_self ..
    have shots : ∀ snapshot, message = .snapshot snapshot →
        snapshot.revision ≤ world.revision := by
      rintro snapshot rfl
      apply inv.snapshots
      rw [queue]
      exact List.mem_cons_self ..
    obtain ⟨origin, found⟩ := Option.isSome_iff_exists.mp (inv.started (.inr connected))
    cases applied
    refine ⟨inv.counted, inv.numbered, inv.created, ?_, ?_, inv.read, inv.greeted,
      inv.cacheAfter queued shots cache, ?_⟩
    · intro patch member
      apply inv.queued
      rw [queue]
      exact List.mem_cons_of_mem _ member
    · intro snapshot member
      apply inv.snapshots
      rw [queue]
      exact List.mem_cons_of_mem _ member
    · intro _
      change (Dialogue.originAfter world.origin message).isSome = true
      unfold Dialogue.originAfter
      repeat' split
      · rfl
      · rw [found]
        rfl
      · rw [found]
        rfl

theorem LogInv.receive (inv : LogInv world) {message : UiToAgent} {rest : List UiToAgent} :
    LogInv (Dialogue.receive { world with toAgent := rest } message) := by
  cases message with
  | request requestId operation =>
      exact inv.aside rfl rfl inv.created inv.queued inv.snapshots
        (by rintro _ _ ⟨⟩) rfl .inl rfl rfl
  | requestIdleExit requestId generation =>
      unfold Dialogue.receive Dialogue.approve
      dsimp only
      split
      · refine inv.aside rfl rfl inv.created ?_ ?_ inv.read rfl .inl rfl rfl
        · intro patch member
          rcases List.mem_append.mp member with before | now
          · exact inv.queued patch before
          · cases List.mem_singleton.mp now
        · intro snapshot member
          rcases List.mem_append.mp member with before | now
          · exact inv.snapshots snapshot before
          · cases List.mem_singleton.mp now
      · exact inv.aside rfl rfl inv.created inv.queued inv.snapshots inv.read rfl .inl rfl rfl
  | _ => exact inv.aside rfl rfl inv.created inv.queued inv.snapshots inv.read rfl .inl rfl rfl

theorem LogInv.serve (inv : LogInv world) {action : DialogueStep}
    (served : world.serve action = some next) : LogInv next := by
  have aside (serving : Option Serving) (read : ∀ requestId snapshot,
      serving = some (.snapshotRead requestId snapshot) → snapshot.revision ≤ world.revision) :
      LogInv { world with serving := serving } :=
    inv.aside rfl rfl inv.created inv.queued inv.snapshots read rfl .inl rfl rfl
  cases action with
  | readSnapshot main =>
      unfold Dialogue.serve at served
      dsimp only at served
      split at served
      · cases served
        apply aside
        intro requestId snapshot read
        cases read
        exact Nat.le_refl _
      · cases served
  | queueSnapshot =>
      unfold Dialogue.serve at served
      dsimp only at served
      split at served
      · rename_i requestId snapshot reads
        cases served
        refine (aside _ (by rintro _ _ ⟨⟩)).post (by rintro _ ⟨⟩) ?_
        rintro found ⟨⟩
        exact inv.read requestId snapshot reads
      · cases served
  | answer success message output =>
      unfold Dialogue.serve at served
      dsimp only at served
      split at served
      · simp only [Option.ite_none_left_eq_some, Option.some.injEq] at served
        obtain ⟨-, rfl⟩ := served
        exact (aside _ (by rintro _ _ ⟨⟩)).post (by rintro _ ⟨⟩) (by rintro _ ⟨⟩)
      · cases served
        exact (aside _ (by rintro _ _ ⟨⟩)).post (by rintro _ ⟨⟩) (by rintro _ ⟨⟩)
      · cases served
  | _ => cases served

theorem LogInv.applyStart (inv : LogInv world) (exit : ExitInv world) {generation : Nat}
    {snapshot : UiSnapshot} {done : Bool}
    (starting : world.state.phase = .starting generation)
    (handshake : world.handshake = .read snapshot) :
    LogInv (Dialogue.moveGui { world with
      handshake := .applied
      origin := some snapshot } (world.gui.apply 2 (.snapshot snapshot) done)) := by
  obtain ⟨-, unready⟩ := exit.starting generation starting
  have fresh := unready.fresh (by rw [handshake]; nofun)
  obtain ⟨-, -, -, -, -, -, cache⟩ := UiSession.apply_start world.gui.generation world.gui.drawn
    done (unready.consistent snapshot handshake)
  rw [← fresh] at cache
  refine ⟨inv.counted, inv.numbered, inv.created, inv.queued, inv.snapshots, inv.read, ?_, ?_,
    fun _ => rfl⟩
  · rintro other ⟨⟩
  · rintro start ⟨⟩
    rw [Dialogue.moveGui_gui, cache]
    exact ⟨Nat.le_refl _, inv.greeted snapshot handshake, by rw [replay_self]⟩

/-- The connection ends, or the process does. -/
theorem LogInv.ends (inv : LogInv world) {state : ProcessState} {toAgent : List UiToAgent} :
    LogInv { world with
      state := state
      connected := false
      toUi := []
      toAgent := toAgent } := by
  refine inv.aside rfl rfl inv.created ?_ ?_ inv.read rfl ?_ rfl rfl
  · rintro patch ⟨⟩
  · rintro snapshot ⟨⟩
  · rintro ⟨⟩

theorem LogInv.initial : LogInv Dialogue.initial := by
  refine ⟨rfl, ?_, ?_, ?_, ?_, ?_, ?_, ?_, ?_⟩
  · rintro index patch ⟨⟩
  · rintro patch ⟨⟩
  · rintro patch ⟨⟩
  · rintro snapshot ⟨⟩
  · rintro requestId snapshot ⟨⟩
  · rintro snapshot ⟨⟩
  · rintro snapshot ⟨⟩
  · rintro (⟨⟨⟩⟩ | ⟨⟨⟩⟩)

theorem LogInv.step (inv : LogInv world) (exit : ExitInv world) {action : DialogueStep}
    (stepped : world.step action = some next) : LogInv next := by
  unfold Dialogue.step at stepped
  cases action with
  | launch =>
      simp only [Option.ite_none_right_eq_some, Option.some.injEq] at stepped
      obtain ⟨stopped, rfl⟩ := stepped
      refine ⟨inv.counted, inv.numbered, inv.created, (by rintro _ ⟨⟩), (by rintro _ ⟨⟩), inv.read,
        (by rintro _ ⟨⟩), (by rintro _ ⟨⟩), ?_⟩
      rintro (done | link)
      · cases done
      · rcases (exit.linked link).phase with ⟨now, -⟩ | ⟨now, -⟩ <;>
          (rw [now] at stopped; cases stopped)
  | readStart main =>
      dsimp only at stepped
      split at stepped
      · rename_i generation starting greeted
        cases stepped
        refine ⟨inv.counted, inv.numbered, inv.created, inv.queued, inv.snapshots, inv.read, ?_,
          inv.cached, ?_⟩
        · rintro snapshot ⟨⟩
          exact Nat.le_refl _
        · rintro (done | link)
          · cases done
          · exact inv.started (.inr link)
      · cases stepped
  | applyStart done =>
      dsimp only at stepped
      split at stepped
      · rename_i generation snapshot starting handshake
        cases stepped
        exact inv.applyStart exit starting handshake
      · cases stepped
  | ready processId =>
      dsimp only at stepped
      split at stepped
      · rename_i handshake became
        cases stepped
        exact inv.aside rfl rfl inv.created inv.queued inv.snapshots inv.read rfl
          (fun _ => .inr handshake) rfl rfl
      · cases stepped
  | lose kept =>
      simp only [Option.ite_none_right_eq_some, Option.some.injEq] at stepped
      obtain ⟨-, rfl⟩ := stepped
      exact inv.ends
  | stopped =>
      cases stepped
      exact inv.ends
  | send message =>
      simp only [Option.ite_none_right_eq_some, Option.some.injEq] at stepped
      obtain ⟨command, rfl⟩ := stepped
      apply inv.post
      · rintro patch rfl
        cases command
      · rintro snapshot rfl
        cases command
  | createPatch content =>
      cases stepped
      exact inv.createPatch content
  | sendPatch patch =>
      simp only [Option.ite_none_right_eq_some, Option.some.injEq] at stepped
      obtain ⟨member, rfl⟩ := stepped
      have aside : LogInv { world with held := world.held.erase patch } :=
        inv.aside rfl rfl (fun other among => inv.created other (List.mem_of_mem_erase among))
          inv.queued inv.snapshots inv.read rfl .inl rfl rfl
      refine aside.post ?_ (by rintro _ ⟨⟩)
      rintro other ⟨⟩
      exact inv.created _ member
  | readMessage =>
      dsimp only at stepped
      split at stepped
      · cases stepped
        exact inv.receive
      · cases stepped
  | readSnapshot main => exact inv.serve stepped
  | queueSnapshot => exact inv.serve stepped
  | answer success message output => exact inv.serve stepped
  | apply done =>
      simp only [Bool.and_eq_true, Bool.not_eq_true', Option.ite_none_right_eq_some] at stepped
      obtain ⟨⟨connected, -⟩, applied⟩ := stepped
      exact inv.applyNext exit connected applied
  | event event =>
      simp only [Bool.and_eq_true, Bool.not_eq_true', Option.ite_none_right_eq_some,
        Option.some.injEq] at stepped
      obtain ⟨-, rfl⟩ := stepped
      exact inv.aside rfl rfl inv.created inv.queued inv.snapshots inv.read rfl .inl rfl
        (UiSession.undisturbed_onEvent world.gui event).cache

end Log

/-! The cache once the queue is applied. -/

/-- The cache that the messages on their way lead to. -/
def projected (world : Dialogue) : UiCache := world.toUi.foldl UiSession.cacheAfter world.gui.cache

/-- No patch above the revision has left its task. -/
def upTo (world : Dialogue) (revision : Nat) : Bool :=
  world.patches.all (fun patch => patch.revision ≤ revision || world.held.contains patch)

/-- Where a state of the GUI takes effect, no newer patch has been sent: at the start, where
a snapshot is queued, and where an idle exit is cancelled. -/
def keepsUp (world : Dialogue) : DialogueStep → Bool
  | .ready _ => upTo world world.gui.cache.revision
  | .queueSnapshot =>
      match world.serving with
      | some (.snapshotRead _ snapshot) => !world.reaches || upTo world snapshot.revision
      | _ => true
  | .readMessage =>
      match world.toAgent with
      | .cancelIdleExit requestId generation :: _ =>
          world.state.cancelIdleExit false requestId generation = world.state ||
            (projected world).resyncPending || upTo world (projected world).revision
      | _ => true
  | _ => true

/-- The cache waits for a snapshot, or every newer patch is still to come. -/
def Caught (world : Dialogue) (cache : UiCache) : Prop :=
  cache.resyncPending = true ∨ upTo world cache.revision = true

def FollowInv (world : Dialogue) : Prop :=
  ∀ generation, world.state.phase = .ready generation → Caught world (projected world)

theorem upTo_iff {world : Dialogue} {revision : Nat} : upTo world revision = true ↔
    ∀ patch ∈ world.patches, patch.revision ≤ revision ∨ patch ∈ world.held := by
  simp [upTo]

theorem cacheAfter_numbered (cache : UiCache) (sequence : Nat) (message : AgentToUi) :
    UiSession.cacheAfter { cache with lastSequence := sequence } message =
      { UiSession.cacheAfter cache message with lastSequence := sequence } := by
  cases message with
  | snapshot snapshot =>
      unfold UiSession.cacheAfter
      dsimp only
      split <;> rfl
  | patch patch =>
      have same : UiSession.follows { cache with lastSequence := sequence } patch =
        UiSession.follows cache patch := rfl
      unfold UiSession.cacheAfter
      dsimp only
      rw [same]
      split <;> rfl
  | _ => rfl

theorem foldl_numbered (messages : List AgentToUi) (cache : UiCache) (sequence : Nat) :
    messages.foldl UiSession.cacheAfter { cache with lastSequence := sequence } =
      { messages.foldl UiSession.cacheAfter cache with lastSequence := sequence } := by
  induction messages generalizing cache with
  | nil => rfl
  | cons message rest ih =>
      rw [List.foldl_cons, List.foldl_cons, cacheAfter_numbered]
      exact ih _

section Follow

variable {world next : Dialogue}

theorem projected_post (message : AgentToUi) : projected (world.post message) =
    if world.reaches then UiSession.cacheAfter (projected world) message else projected world := by
  unfold Dialogue.post
  split
  · simp [projected]
  · rfl

theorem FollowInv.aside (inv : FollowInv world) (phase : next.state.phase = world.state.phase)
    (toUi : next.toUi = world.toUi) (cache : next.gui.cache = world.gui.cache)
    (patches : next.patches = world.patches) (held : next.held = world.held) :
    FollowInv next := by
  intro generation ready
  rw [phase] at ready
  have same : projected next = projected world := by
    rw [projected, toUi, cache]
    rfl
  have caught := inv generation ready
  unfold Caught upTo at caught ⊢
  rwa [same, patches, held]

/-- A message that the cache does not depend on. -/
theorem FollowInv.post (inv : FollowInv world) {message : AgentToUi}
    (plain : ∀ cache, UiSession.cacheAfter cache message = cache) :
    FollowInv (world.post message) := by
  intro generation ready
  rw [(post_keeps world message).2.2.2.2.1] at ready
  have caught := inv generation ready
  rw [projected_post, plain, ite_self]
  unfold Dialogue.post
  split <;> exact caught

theorem reaches_of_ready (exit : ExitInv world) {generation : Nat}
    (ready : world.state.phase = .ready generation) : world.reaches = true := by
  have connected := exit.online generation ready
  apply (reaches_iff exit).mpr
  refine ⟨connected, ?_⟩
  rcases (exit.linked connected).phase with ⟨now, -⟩ | ⟨stopping, -⟩
  · exact now
  · rw [stopping] at ready
    cases ready

theorem FollowInv.createPatch (inv : FollowInv world) (content : MainUiPatch) :
    FollowInv { world with
      revision := world.revision + 1
      held := world.held ++ [world.patchOf content]
      patches := world.patches ++ [world.patchOf content] } := by
  intro generation ready
  refine (inv generation ready).imp_right ?_
  intro current
  rw [upTo_iff] at current ⊢
  intro patch member
  rcases List.mem_append.mp member with before | now
  · exact (current patch before).imp_right (List.mem_append_left _)
  · exact .inr (List.mem_append_right _ now)

/-- A patch that follows advances the cache; any other makes it wait for a snapshot. -/
theorem FollowInv.sendPatch (inv : FollowInv world) (exit : ExitInv world) (log : LogInv world)
    {patch : MainUiPatch} (member : patch ∈ world.held) : FollowInv (world.sendPatch patch) := by
  intro generation ready
  have kept := (post_keeps { world with held := world.held.erase patch } (.patch patch)).2.2.2.2.1
  unfold Dialogue.sendPatch at ready ⊢
  rw [kept] at ready
  have reached : world.reaches = true := reaches_of_ready exit ready
  have caught := inv generation ready
  have posted : Dialogue.reaches { world with held := world.held.erase patch } = true := reached
  rw [projected_post, if_pos posted]
  have same : projected { world with held := world.held.erase patch } = projected world := rfl
  rw [same, Dialogue.post, if_pos posted]
  unfold UiSession.cacheAfter
  dsimp only
  split
  · exact .inl rfl
  · rename_i main follow
    refine caught.imp_right ?_
    intro current
    have base : patch.baseRevision = (projected world).revision := by
      unfold UiSession.follows at follow
      split at follow
      · cases follow
      · rename_i fits
        exact not_not.mp (not_or.mp fits).1
    have next := (log.found (log.created patch member)).2
    rw [upTo_iff] at current ⊢
    intro other among
    change other.revision ≤ patch.revision ∨ other ∈ world.held.erase patch
    by_cases equal : other = patch
    · exact .inl (Nat.le_of_eq (congrArg _ equal))
    · rcases current other among with old | held
      · left
        omega
      · exact .inr ((List.mem_erase_of_ne equal).mpr held)

theorem FollowInv.queueSnapshot (exit : ExitInv world) {requestId : DrawnId}
    {snapshot : UiSnapshot} {queued : Bool}
    (consistent : snapshot.revision = snapshot.main.revision)
    (current : world.reaches = true → upTo world snapshot.revision = true) :
    FollowInv (Dialogue.post { world with serving := some (.answering requestId queued) }
      (.snapshot snapshot)) := by
  intro generation ready
  have kept := (post_keeps { world with serving := some (.answering requestId queued) }
    (.snapshot snapshot)).2.2.2.2.1
  rw [kept] at ready
  have reached : world.reaches = true := reaches_of_ready exit ready
  have posted : Dialogue.reaches { world with
    serving := some (.answering requestId queued) } = true := reached
  right
  rw [projected_post, if_pos posted, UiSession.cacheAfter, if_neg (not_not.mpr consistent),
    Dialogue.post, if_pos posted]
  exact current reached

theorem FollowInv.serve (inv : FollowInv world) (exit : ExitInv world) (queues : QueueInv world)
    {action : DialogueStep} (current : keepsUp world action = true)
    (served : world.serve action = some next) : FollowInv next := by
  have aside (serving : Option Serving) : FollowInv { world with serving := serving } :=
    inv.aside rfl rfl rfl rfl rfl
  cases action with
  | readSnapshot main =>
      unfold Dialogue.serve at served
      dsimp only at served
      split at served
      · cases served
        exact aside _
      · cases served
  | queueSnapshot =>
      unfold Dialogue.serve at served
      dsimp only at served
      split at served
      · rename_i requestId snapshot reads
        cases served
        apply FollowInv.queueSnapshot exit (queues.read requestId snapshot reads)
        intro reached
        simp only [keepsUp, reads, reached, Bool.not_true, Bool.false_or] at current
        exact current
      · cases served
  | answer success message output =>
      unfold Dialogue.serve at served
      dsimp only at served
      split at served
      · simp only [Option.ite_none_left_eq_some, Option.some.injEq] at served
        obtain ⟨-, rfl⟩ := served
        exact (aside _).post (fun _ => rfl)
      · cases served
        exact (aside _).post (fun _ => rfl)
      · cases served
  | _ => cases served

theorem FollowInv.receive (inv : FollowInv world) {message : UiToAgent} {rest : List UiToAgent}
    (queue : world.toAgent = message :: rest) (current : keepsUp world .readMessage = true) :
    FollowInv (Dialogue.receive { world with toAgent := rest } message) := by
  cases message with
  | requestIdleExit requestId generation =>
      unfold Dialogue.receive Dialogue.approve
      dsimp only
      split
      · rename_i state connection approved
        obtain ⟨-, -, -, rfl⟩ := ProcessState.approveIdleExit_ok approved
        rintro other ⟨⟩
      · exact inv.aside rfl rfl rfl rfl rfl
  | cancelIdleExit requestId generation =>
      intro other ready
      simp only [keepsUp, queue, Bool.or_eq_true, decide_eq_true_eq] at current
      rcases current with (same | waits) | upToDate
      · change (world.state.cancelIdleExit false requestId generation).phase = _ at ready
        rw [same] at ready
        exact inv other ready
      · exact .inl waits
      · exact .inr upToDate
  | _ => exact inv.aside rfl rfl rfl rfl rfl

/-- Applying the head of the queue changes nothing of what the queue leads to. -/
theorem FollowInv.applyNext (inv : FollowInv world) (exit : ExitInv world)
    (connected : world.connected = true) {done : Bool}
    (applied : world.applyNext done = some next) : FollowInv next := by
  have linked := exit.linked connected
  unfold Dialogue.applyNext at applied
  split at applied
  · cases applied
  · rename_i message rest queue
    have order : world.gui.cache.lastSequence < world.delivered + 3 := by
      rw [linked.sequence]
      omega
    have cache := (UiSession.apply_cache message done order).1
    cases applied
    intro generation ready
    have caught := inv generation ready
    have same : rest.foldl UiSession.cacheAfter
        (world.gui.apply (world.delivered + 3) message done).1.cache =
        { projected world with lastSequence := world.delivered + 3 } := by
      rw [cache, cacheAfter_numbered, foldl_numbered, projected, queue, List.foldl_cons]
    unfold Caught upTo projected at caught ⊢
    rw [Dialogue.moveGui_gui, Dialogue.moveGui_toUi, same]
    exact caught

theorem FollowInv.initial : FollowInv Dialogue.initial := by
  rintro generation ⟨⟩

theorem FollowInv.step (inv : FollowInv world) (exit : ExitInv world) (queues : QueueInv world)
    (log : LogInv world) {action : DialogueStep} (current : keepsUp world action = true)
    (stepped : world.step action = some next) : FollowInv next := by
  unfold Dialogue.step at stepped
  cases action with
  | launch =>
      simp only [Option.ite_none_right_eq_some, Option.some.injEq] at stepped
      obtain ⟨stopped, rfl⟩ := stepped
      intro generation ready
      change (world.state.ensureReady world.nextGeneration).1.phase = _ at ready
      simp only [ProcessState.ensureReady, stopped] at ready
      cases ready
  | readStart main =>
      dsimp only at stepped
      split at stepped
      · cases stepped
        exact inv.aside rfl rfl rfl rfl rfl
      · cases stepped
  | applyStart done =>
      dsimp only at stepped
      split at stepped
      · rename_i generation snapshot starting handshake
        cases stepped
        intro other ready
        change world.state.phase = _ at ready
        rw [starting] at ready
        cases ready
      · cases stepped
  | ready processId =>
      dsimp only at stepped
      split at stepped
      · rename_i handshake became
        cases stepped
        obtain ⟨starting, -⟩ := ProcessState.becomeReady_ok became
        obtain ⟨-, unready⟩ := exit.starting _ starting
        intro generation ready
        right
        rw [projected, unready.toUi]
        exact current
      · cases stepped
  | lose kept =>
      simp only [Option.ite_none_right_eq_some, Option.some.injEq] at stepped
      obtain ⟨connected, rfl⟩ := stepped
      rw [(exit.linked connected).markDisconnected]
      rintro generation ⟨⟩
  | stopped =>
      cases stepped
      have after := exit.stopped
      intro generation ready
      exact absurd (after.online generation ready) Bool.false_ne_true
  | send message =>
      simp only [Option.ite_none_right_eq_some, Option.some.injEq] at stepped
      obtain ⟨command, rfl⟩ := stepped
      apply inv.post
      intro cache
      cases message with
      | snapshot snapshot => cases command
      | patch patch => cases command
      | _ => rfl
  | createPatch content =>
      cases stepped
      exact inv.createPatch content
  | sendPatch patch =>
      simp only [Option.ite_none_right_eq_some, Option.some.injEq] at stepped
      obtain ⟨member, rfl⟩ := stepped
      exact inv.sendPatch exit log member
  | readMessage =>
      dsimp only at stepped
      split at stepped
      · rename_i message rest idle queue
        cases stepped
        exact inv.receive queue current
      · cases stepped
  | readSnapshot main => exact inv.serve exit queues current stepped
  | queueSnapshot => exact inv.serve exit queues current stepped
  | answer success message output => exact inv.serve exit queues current stepped
  | apply done =>
      simp only [Bool.and_eq_true, Bool.not_eq_true', Option.ite_none_right_eq_some] at stepped
      obtain ⟨⟨connected, -⟩, applied⟩ := stepped
      exact inv.applyNext exit connected applied
  | event event =>
      simp only [Bool.and_eq_true, Bool.not_eq_true', Option.ite_none_right_eq_some,
        Option.some.injEq] at stepped
      obtain ⟨-, rfl⟩ := stepped
      exact inv.aside rfl rfl (UiSession.undisturbed_onEvent world.gui event).cache rfl rfl

end Follow

/-- In every run in which no newer patch has been sent where a state of the GUI takes effect:
at rest in the phase Ready the GUI has the Agent's revision, and its state is the snapshot it
started from with all later patches. -/
theorem gui_follows_agent {actions : List DialogueStep} {last : Dialogue} {generation : Nat}
    (current : Meets Dialogue.step (fun world action => keepsUp world action = true)
      Dialogue.initial actions)
    (ran : run Dialogue.step Dialogue.initial actions = some last)
    (ready : last.state.phase = .ready generation) (arrived : last.toUi = [])
    (sent : last.held = []) (answered : last.gui.pending.rows = []) :
    last.gui.cache.revision = last.revision ∧ ∃ snapshot, last.origin = some snapshot ∧
      last.gui.cache.main =
        some ((last.patches.drop snapshot.revision).foldl applyMainPatch snapshot.main) := by
  have keeps : ∀ world action next,
      (ExitInv world ∧ QueueInv world ∧ WaitInv world ∧ LogInv world ∧ FollowInv world) →
      keepsUp world action = true → Dialogue.step world action = some next →
      ExitInv next ∧ QueueInv next ∧ WaitInv next ∧ LogInv next ∧ FollowInv next := by
    rintro world action next ⟨exit, queues, waits, log, follow⟩ met stepped
    exact ⟨exit.step stepped, queues.step exit stepped, waits.step exit queues stepped,
      log.step exit stepped, follow.step exit queues log met stepped⟩
  obtain ⟨exit, -, waits, log, follow⟩ := run_keeps_of_meets keeps actions Dialogue.initial last
    ⟨.initial, .initial, .initial, .initial, .initial⟩ current ran
  have connected := exit.online generation ready
  obtain ⟨snapshot, origin⟩ := Option.isSome_iff_exists.mp (log.started (.inr connected))
  obtain ⟨-, bound, main⟩ := log.cached snapshot origin
  have settled : ¬ last.gui.cache.resyncPending = true := by
    intro pending
    obtain ⟨requestId, awaits⟩ := waits connected pending
    exact rows_of_pendingIds awaits.pending answered
  have caught := follow generation ready
  rw [projected, arrived] at caught
  have all := upTo_iff.mp (caught.resolve_left settled)
  have reached : last.gui.cache.revision = last.revision := by
    apply Nat.le_antisymm bound
    rw [← log.counted]
    -- The last patch of the log has been applied.
    by_cases none : last.patches.length = 0
    · omega
    · have inside : last.patches.length - 1 < last.patches.length := by omega
      have found := List.getElem?_eq_getElem inside
      have numbered := (log.numbered _ _ found).2
      rcases all _ (List.getElem_mem inside) with below | held
      · change _ ≤ last.gui.cache.revision at below
        omega
      · rw [sent] at held
        cases held
  refine ⟨reached, snapshot, origin, ?_⟩
  rw [main, replay_all (reached.trans log.counted.symm)]

/-- Two patches in the wrong order, a recovery, and a patch after it. -/
def caughtUpRun : List DialogueStep :=
  [.launch, .readStart emptyMain, .applyStart true, .ready 100, .createPatch (patchNumber 0),
    .createPatch (patchNumber 1), .sendPatch (patchNumber 1), .sendPatch (patchNumber 0),
    .apply true, .apply true, .readMessage, .readSnapshot emptyMain, .queueSnapshot,
    .answer true "" .none, .apply true, .apply true,
    .createPatch { patchNumber 2 with syncStatus := some "Connected" },
    .sendPatch { patchNumber 2 with syncStatus := some "Connected" }, .apply true]

theorem gui_follows_agent_recovered :
    ∃ last, run Dialogue.step Dialogue.initial caughtUpRun = some last ∧
      last.revision = 3 ∧ last.gui.cache.revision = last.revision ∧
      (∃ snapshot, last.origin = some snapshot ∧ last.gui.cache.main =
        some ((last.patches.drop snapshot.revision).foldl applyMainPatch snapshot.main)) ∧
      last.gui.cache.main.map (fun main => main.syncStatus) = some "Connected" := by
  have current : Meets Dialogue.step (fun world action => keepsUp world action = true)
      Dialogue.initial caughtUpRun := by
    decide
  have facts : (run Dialogue.step Dialogue.initial caughtUpRun).any (fun last =>
      decide (last.revision = 3 ∧
        last.gui.cache.main.map (fun main => main.syncStatus) = some "Connected" ∧
        last.state.phase = .ready 1 ∧ last.toUi = [] ∧ last.held = [] ∧
        last.gui.pending.rows = [])) = true := by
    decide
  obtain ⟨last, ran, holds⟩ := (Option.any_eq_true _ _).mp facts
  obtain ⟨revision, status, ready, arrived, sent, answered⟩ := of_decide_eq_true holds
  obtain ⟨same, main⟩ := gui_follows_agent current ran ready arrived sent answered
  exact ⟨last, ran, revision, same, main, status⟩

/-- The patch is dropped after the first snapshot was read. -/
def startRun : List DialogueStep :=
  [.launch, .readStart emptyMain, .createPatch (patchNumber 0), .sendPatch (patchNumber 0),
    .applyStart true, .ready 100]

/-- The patch is dropped while an idle exit is approved, which the GUI then cancels. -/
def cancelRun : List DialogueStep :=
  [.launch, .readStart emptyMain, .applyStart true, .ready 100, .send .openMainWindow, .apply true,
    .event (.closeMain true), .send .openMainWindow, .readMessage, .createPatch (patchNumber 0),
    .sendPatch (patchNumber 0), .apply true, .readMessage, .apply true]

/-- The patch is queued between the reading of a snapshot and its queueing. -/
def overtakenRun : List DialogueStep :=
  [.launch, .readStart emptyMain, .applyStart true, .ready 100, .createPatch (patchNumber 0),
    .createPatch (patchNumber 1), .sendPatch (patchNumber 1), .sendPatch (patchNumber 0),
    .apply true, .apply true, .readMessage, .readSnapshot emptyMain, .createPatch (patchNumber 2),
    .sendPatch (patchNumber 2), .queueSnapshot, .answer true "" .none, .apply true, .apply true,
    .apply true]

/-- A snapshot that an earlier GUI asked for reaches the next one. -/
def inheritedRun : List DialogueStep :=
  [.launch, .readStart emptyMain, .applyStart true, .ready 100, .createPatch (patchNumber 0),
    .createPatch (patchNumber 1), .sendPatch (patchNumber 1), .sendPatch (patchNumber 0),
    .apply true, .readMessage, .readSnapshot emptyMain, .lose 0, .stopped,
    .createPatch (patchNumber 2), .sendPatch (patchNumber 2), .launch, .readStart emptyMain,
    .applyStart true, .ready 101, .queueSnapshot, .answer true "" .none, .apply true, .apply true]

theorem gui_left_behind :
    [startRun, cancelRun, overtakenRun, inheritedRun].Forall (fun actions =>
      ∃ last, run Dialogue.step Dialogue.initial actions = some last ∧
        (∃ generation, last.state.phase = .ready generation) ∧ last.serving = none ∧
        last.toUi = [] ∧ last.toAgent = [] ∧ last.held = [] ∧ last.gui.pending.rows = [] ∧
        last.gui.cache.revision < last.revision) := by
  have facts : [startRun, cancelRun, overtakenRun, inheritedRun].all (fun actions =>
      (run Dialogue.step Dialogue.initial actions).any (fun last =>
        decide (last.state.phase = .ready last.gui.generation ∧ last.serving = none ∧
          last.toUi = [] ∧ last.toAgent = [] ∧ last.held = [] ∧ last.gui.pending.rows = [] ∧
          last.gui.cache.revision < last.revision))) = true := by
    decide
  apply List.forall_iff_forall_mem.mpr
  intro actions member
  obtain ⟨last, ran, holds⟩ := (Option.any_eq_true _ _).mp (List.all_eq_true.mp facts actions member)
  obtain ⟨ready, rest⟩ := of_decide_eq_true holds
  exact ⟨last, ran, ⟨_, ready⟩, rest⟩

end Lvos.System.Ui
