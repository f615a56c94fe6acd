import Lvos.System.Exchange
import Mathlib.Data.List.Dedup
import Mathlib.Data.List.Perm.Subperm

set_option autoImplicit false

namespace Lvos.System

open Lvos.Core Lvos.Sync Lvos.Storage
open Relational (Table)
open Desktop (findAcknowledgement pairAcknowledgements matchAcknowledgements)
open Transaction (bind_ok_iff)

/-! The acknowledgements of a batch, in whatever order the server lists them. -/

section Find

variable {acks other : List PushAck}

theorem findAcknowledgement_isSome (acks : List PushAck) (eventId : String) :
    (findAcknowledgement acks eventId).isSome = true ↔ eventId ∈ acks.map PushAck.eventId := by
  unfold findAcknowledgement
  rw [List.find?_isSome, List.mem_map]
  simp

/-- Where no id comes twice, the acknowledgement of an id does not depend on the order. -/
theorem findAcknowledgement_unique (distinct : (acks.map PushAck.eventId).Nodup)
    {eventId : String} {ack : PushAck} :
    findAcknowledgement acks eventId = some ack ↔ ack ∈ acks ∧ ack.eventId = eventId := by
  have backwards : (acks.reverse.map PushAck.eventId).Nodup := by
    rw [List.map_reverse, List.nodup_reverse]
    exact distinct
  unfold findAcknowledgement
  rw [Table.find_unique PushAck.eventId eventId ack backwards, List.mem_reverse]

theorem findAcknowledgement_perm (distinct : (acks.map PushAck.eventId).Nodup)
    (same : other.Perm acks) (eventId : String) :
    findAcknowledgement other eventId = findAcknowledgement acks eventId := by
  have alsoDistinct : (other.map PushAck.eventId).Nodup :=
    (same.map PushAck.eventId).nodup_iff.mpr distinct
  apply Option.ext
  intro ack
  rw [findAcknowledgement_unique distinct, findAcknowledgement_unique alsoDistinct, same.mem_iff]

theorem pairAcknowledgements_congr
    (same : ∀ eventId, findAcknowledgement other eventId = findAcknowledgement acks eventId)
    (pairs : List (OutboxEvent × PushEvent)) :
    pairAcknowledgements other pairs = pairAcknowledgements acks pairs := by
  induction pairs with
  | nil => rfl
  | cons pair rest ih =>
      unfold pairAcknowledgements
      rw [same, ih]

/-- The pairing succeeds exactly if every event finds its id. -/
theorem pairAcknowledgements_iff (acks : List PushAck) (pairs : List (OutboxEvent × PushEvent)) :
    (∃ items, pairAcknowledgements acks pairs = .ok items) ↔
      ∀ pair ∈ pairs, pair.1.eventId.text ∈ acks.map PushAck.eventId := by
  induction pairs with
  | nil => simp [pairAcknowledgements]
  | cons pair rest ih =>
      obtain ⟨event, sent⟩ := pair
      rw [List.forall_mem_cons, ← ih, ← findAcknowledgement_isSome acks event.eventId.text,
        pairAcknowledgements]
      cases findAcknowledgement acks event.eventId.text with
      | none => simp
      | some ack =>
          constructor
          · rintro ⟨items, success⟩
            obtain ⟨others, tail, -⟩ := bind_ok_iff.mp success
            exact ⟨rfl, others, tail⟩
          · rintro ⟨-, others, tail⟩
            exact ⟨_, bind_ok_iff.mpr ⟨others, tail, rfl⟩⟩

end Find

section Match

variable {events : List OutboxEvent} {sent : List PushEvent} {acks other : List PushAck}

/-- The two length tests of the matching: as many acknowledgements as events, no id twice. -/
theorem matchAcknowledgements_guards (lengths : sent.length = events.length) :
    matchAcknowledgements events sent acks =
      if acks.length = events.length ∧ (acks.map PushAck.eventId).Nodup then
        pairAcknowledgements acks (events.zip sent)
      else .error .invalidResponse := by
  have dedup : (acks.map PushAck.eventId).dedup.length = (acks.map PushAck.eventId).length ↔
      (acks.map PushAck.eventId).Nodup := by
    rw [← List.dedup_eq_self]
    exact ⟨(List.dedup_sublist _).eq_of_length, congrArg List.length⟩
  rw [List.length_map] at dedup
  unfold matchAcknowledgements
  by_cases equal : acks.length = events.length
  · rw [if_neg (by omega)]
    by_cases distinct : (acks.map PushAck.eventId).Nodup
    · rw [if_neg (not_not.mpr ((dedup.mpr distinct).trans equal)), if_pos ⟨equal, distinct⟩]
    · rw [if_pos (fun same => distinct (dedup.mp (same.trans equal.symm))),
        if_neg (fun both => distinct both.2)]
  · rw [if_pos (by omega), if_neg (fun both => equal both.1)]

theorem matchAcknowledgements_iff (distinct : (events.map (fun event => event.eventId)).Nodup)
    (lengths : sent.length = events.length) (acks : List PushAck) :
    (∃ items, matchAcknowledgements events sent acks = .ok items) ↔
      (acks.map PushAck.eventId).Perm (events.map (fun event => event.eventId.text)) := by
  have texts : (events.map (fun event => event.eventId.text)).Nodup := by
    rw [show (fun event : OutboxEvent => event.eventId.text) =
      Uuid.text ∘ (fun event => event.eventId) from rfl, ← List.map_map]
    exact distinct.map (fun _ _ same => Uuid.text_injective same)
  have fronts : (events.zip sent).map Prod.fst = events := List.map_fst_zip (by omega)
  have named : (∀ pair ∈ events.zip sent, pair.1.eventId.text ∈ acks.map PushAck.eventId) ↔
      events.map (fun event => event.eventId.text) ⊆ acks.map PushAck.eventId := by
    constructor
    · intro all id member
      obtain ⟨event, listed, rfl⟩ := List.mem_map.mp member
      rw [← fronts] at listed
      obtain ⟨pair, inside, rfl⟩ := List.mem_map.mp listed
      exact all pair inside
    · intro subset pair inside
      apply subset
      rw [← fronts]
      exact List.mem_map_of_mem (List.mem_map_of_mem inside)
  rw [matchAcknowledgements_guards lengths]
  constructor
  · rintro ⟨items, success⟩
    split at success
    · rename_i guards
      have subset := named.mp ((pairAcknowledgements_iff acks _).mp ⟨items, success⟩)
      refine ((List.subperm_of_subset texts subset).perm_of_length_le ?_).symm
      rw [List.length_map, List.length_map]
      omega
    · cases success
  · intro same
    have equal : acks.length = events.length := by simpa using same.length_eq
    rw [if_pos ⟨equal, same.nodup_iff.mpr texts⟩]
    exact (pairAcknowledgements_iff acks _).mpr (named.mpr same.symm.subset)

/-- A result pairs every event of the batch, in its order, with the one acknowledgement of its
id and with the count it was sent with. -/
def Paired (events : List OutboxEvent) (sent : List PushEvent) (acks : List PushAck)
    (items : List AcknowledgedEvent) : Prop :=
  List.Forall₂ (fun pair item => item.event = pair.1 ∧
    (∀ ack, ack = item.acknowledgement ↔ ack ∈ acks ∧ ack.eventId = pair.1.eventId.text) ∧
    item.sentQueryCount = pair.2.queryStats.map QueryStatsSnapshot.queryCount)
    (events.zip sent) items

theorem matchAcknowledgements_paired (lengths : sent.length = events.length)
    {items : List AcknowledgedEvent}
    (success : matchAcknowledgements events sent acks = .ok items) :
    Paired events sent acks items := by
  have related := matchAcknowledgements_ok success
  rw [matchAcknowledgements_guards lengths] at success
  split at success
  · rename_i guards
    refine related.imp ?_
    rintro pair item ⟨event, listed, named, count⟩
    refine ⟨event, ?_, count⟩
    intro ack
    rw [← findAcknowledgement_unique guards.2]
    have found := (findAcknowledgement_unique guards.2).mpr ⟨listed, named⟩
    rw [found, Option.some.injEq]
    exact eq_comm
  · cases success

theorem matchAcknowledgements_perm (lengths : sent.length = events.length)
    (same : other.Perm acks) :
    matchAcknowledgements events sent other = matchAcknowledgements events sent acks := by
  have ids := (same.map PushAck.eventId).nodup_iff
  rw [matchAcknowledgements_guards lengths, matchAcknowledgements_guards lengths]
  by_cases guards : acks.length = events.length ∧ (acks.map PushAck.eventId).Nodup
  · rw [if_pos guards, if_pos ⟨same.length_eq.trans guards.1, ids.mpr guards.2⟩]
    exact pairAcknowledgements_congr (findAcknowledgement_perm guards.2 same) _
  · rw [if_neg guards, if_neg]
    rintro ⟨equal, distinct⟩
    exact guards ⟨same.length_eq.symm.trans equal, ids.mp distinct⟩

/-- The matching succeeds exactly on a permutation of the ids of the batch, pairs every event
with its own acknowledgement and its own count, and what is acknowledged then does not depend on
the order the server lists the acknowledgements in. -/
theorem acknowledgements_match (distinct : (events.map (fun event => event.eventId)).Nodup)
    (lengths : sent.length = events.length) (acks : List PushAck) :
    ((∃ items, matchAcknowledgements events sent acks = .ok items) ↔
      (acks.map PushAck.eventId).Perm (events.map (fun event => event.eventId.text))) ∧
    ∀ items, matchAcknowledgements events sent acks = .ok items →
      Paired events sent acks items ∧
      ∀ other, other.Perm acks → ∃ others,
        matchAcknowledgements events sent other = .ok others ∧
        ∀ db now, acknowledgeEvents db others now = acknowledgeEvents db items now := by
  refine ⟨matchAcknowledgements_iff distinct lengths acks, ?_⟩
  intro items success
  refine ⟨matchAcknowledgements_paired lengths success, ?_⟩
  intro other same
  exact ⟨items, (matchAcknowledgements_perm lengths same).trans success, fun _ _ => rfl⟩

end Match

section Witness

/-- The addition of the word and its statistics, in one batch. -/
def giftBatch : List OutboxEvent :=
  [⟨⟨Sample.eventId 2, Sample.giftKey, .favoriteUpsert,
      .favorite ⟨Sample.giftKey.toHex, "active", 0, ⟨Sample.giftKey.toHex, 1, 60, 60⟩⟩, some 0, 61,
      61, 0, none, none, 0⟩, .favorite Sample.giftKey⟩,
    ⟨⟨Sample.eventId 3, Sample.giftKey, .queryStatsUpsert,
      .queryStats ⟨Sample.giftKey.toHex, 2, 60, 62⟩, none, 62, 62, 0, none, none, 0⟩,
      .queryStats "desk" Sample.giftKey⟩]

def giftRequest : List PushEvent :=
  giftBatch.map (fun event => ⟨event.eventId.text, protocolOperation event.operation,
    Sample.giftKey.toHex, 1, 0, none, some ⟨2, 60, 62, 62⟩⟩)

/-- The server lists the second event first. -/
def giftAcknowledgements : List PushAck :=
  [⟨(Sample.eventId 3).text, .noChange, none, 1, some ⟨2, 60, 62⟩⟩,
    ⟨(Sample.eventId 2).text, .applied, some 1, 1, some ⟨2, 60, 62⟩⟩]

theorem acknowledgements_match_gift : ∃ items,
    matchAcknowledgements giftBatch giftRequest giftAcknowledgements = .ok items ∧
    Paired giftBatch giftRequest giftAcknowledgements items ∧
    ∃ others, matchAcknowledgements giftBatch giftRequest giftAcknowledgements.reverse =
      .ok others ∧
      ∀ db now, acknowledgeEvents db others now = acknowledgeEvents db items now := by
  have settled := @acknowledgements_match giftBatch giftRequest
    (by decide) rfl giftAcknowledgements
  obtain ⟨items, success⟩ := settled.1.mpr (List.Perm.swap _ _ _)
  obtain ⟨paired, orders⟩ := settled.2 items success
  exact ⟨items, success, paired, orders _ (List.reverse_perm _)⟩

end Witness

end Lvos.System
