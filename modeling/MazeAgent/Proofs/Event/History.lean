import MazeAgent.Proofs.Event.Bus
import Mathlib.Data.Set.Card

/-!
# Histories of a bus

A history is what comes of a bus when it is called in any order. The clones of a bus have its
channels, so the calls of a history are those on the bus and on all its clones, in the order in
which they take effect. Seen from a subscription, the events of its topic that were published since
it was made are a queue: readings take them from the front, and one that finds more of them than the
channel retains gives up the oldest.

**Results.**
* `Reading.next`: what a reader gets when the given items are unread.
* `Reading.Accounts`: readings that account for items, each of them once and in order.
* `Bus.History.Stands`: a subscription in the sequence of the events of its topic.
* `Bus.history_accounts`: what every subscriber obtains and what every publisher is told.
-/

namespace MazeAgent

/-! ## Readings -/

namespace Reading

variable {α : Type} {readings : List (Reading α)} {items : List α}

/-- What a reader gets that has not read the given items yet, from a channel that retains so many
of them. -/
def next (retained : Nat) (unread : List α) : Reading α :=
  if retained < unread.length then
    .lagged (unread.length - retained)
  else
    match unread with
    | [] => .empty
    | value :: _ => .item value

/-- How many items a reading takes from those that are unread. -/
def span : Reading α → Nat
  | item _ => 1
  | empty => 0
  | lagged count => count

/-- Readings account for items: for each of them once, in their order, and by its number only where
it was lost. -/
inductive Accounts : List (Reading α) → List α → Prop where
  | nil : Accounts [] []
  | item {readings : List (Reading α)} {items : List α} (h : Accounts readings items) (value : α) :
      Accounts (readings ++ [.item value]) (items ++ [value])
  | empty {readings : List (Reading α)} {items : List α} (h : Accounts readings items) :
      Accounts (readings ++ [.empty]) items
  | lagged {readings : List (Reading α)} {items lost : List α} (h : Accounts readings items)
      (hlost : lost ≠ []) : Accounts (readings ++ [.lagged lost.length]) (items ++ lost)

theorem span_next_le (retained : Nat) (unread : List α) :
    (next retained unread).span ≤ unread.length := by
  unfold next
  split
  · exact Nat.sub_le _ _
  · cases unread with
    | nil => exact Nat.le_refl 0
    | cons value unread => exact Nat.le_add_left 1 _

/-- A reading accounts for the items that it takes from the front of what is unread. -/
theorem Accounts.next (h : Accounts readings items) (retained : Nat) (unread : List α) :
    Accounts (readings ++ [Reading.next retained unread])
      (items ++ unread.take (Reading.next retained unread).span) := by
  unfold Reading.next
  split
  · next hmany =>
    have hlength : (unread.take (unread.length - retained)).length = unread.length - retained := by
      rw [List.length_take]
      omega
    have hlagged := h.lagged (List.ne_nil_of_length_pos (by rw [hlength]; omega))
    rwa [hlength] at hlagged
  · cases unread with
    | nil => exact (List.append_nil items).symm ▸ h.empty
    | cons value unread => exact h.item value

end Reading

/-! ## Channels -/

namespace Channel

variable {α : Type} {channel : Channel α} {retained : Nat} {items : List α}

/-- The given items have been sent, and as many of the last ones are kept as the channel retains. -/
def Holds (channel : Channel α) (retained : Nat) (items : List α) : Prop :=
  channel = ⟨retained, items.length, items.drop (items.length - retained)⟩

theorem holds_empty (retained : Nat) : (empty retained : Channel α).Holds retained [] := by
  simp [Holds, empty]

theorem Holds.send (h : channel.Holds retained items) (item : α) :
    (channel.send item).Holds retained (items ++ [item]) := by
  rw [Holds] at h ⊢
  subst h
  have hkept : items.drop (items.length - retained) ++ [item] =
      (items ++ [item]).drop (items.length - retained) :=
    (List.drop_append_of_le_length (Nat.sub_le _ _)).symm
  unfold Channel.send
  dsimp only
  rw [hkept, List.drop_drop, List.length_append, List.length_drop, List.length_append]
  congr 2
  simp only [List.length_singleton]
  omega

/-- A reader that is done with the items of the first list gets what comes next of the second. -/
theorem Holds.read {done unread : List α} (h : channel.Holds retained (done ++ unread)) :
    channel.read done.length =
      (Reading.next retained unread, done.length + (Reading.next retained unread).span) := by
  rw [Holds] at h
  subst h
  have holdest : oldest ⟨retained, (done ++ unread).length,
      (done ++ unread).drop ((done ++ unread).length - retained)⟩ =
        done.length + unread.length - retained := by
    simp only [oldest, List.length_drop, List.length_append]
    omega
  unfold Channel.read Reading.next
  rw [holdest]
  by_cases hmany : retained < unread.length
  · rw [if_pos (by omega), if_pos hmany]
    have hcount : done.length + unread.length - retained - done.length =
        unread.length - retained := by omega
    simp only [hcount, Reading.span, Prod.mk.injEq, true_and]
    omega
  · rw [if_neg (by omega), if_neg hmany]
    have hplace : done.length + unread.length - retained +
        (done.length - (done.length + unread.length - retained)) = done.length := by omega
    rw [List.getElem?_drop, List.length_append, hplace, List.getElem?_append_right (Nat.le_refl _),
      Nat.sub_self]
    cases unread with
    | nil => rfl
    | cons value unread => rfl

end Channel

/-! ## Histories -/

namespace Bus

/-- What can be done with a bus, be it directly or with a clone of it. -/
inductive Call where
  | subscribe (topic : Topic)
  | publish (event : Event)
  /-- The presenter of the bus publishes an overlay. -/
  | present (overlay : OverlayEvent)
  | receive (number : Nat)
  | cancel (number : Nat)

/-- What was done with a bus, and what came of it. -/
inductive Occurrence where
  | subscribed (topic : Topic) (number : Nat)
  | published (event : Event) (count : Nat)
  | presented (overlay : OverlayEvent) (result : Except PresenterError Unit)
  | received (number : Nat) (reading : Reading Event)
  | cancelled (number : Nat)

/-- The event that is published, whether anybody sees it or not. -/
def Occurrence.event? : Occurrence → Option Event
  | published event _ => some event
  | presented overlay _ => some (.overlay overlay)
  | _ => none

/-- What the subscription of a number gets. -/
def Occurrence.reading? (number : Nat) : Occurrence → Option (Reading Event)
  | received other reading => if other = number then some reading else none
  | _ => none

/-- The events of a topic that were published. -/
def offered (topic : Topic) (log : List Occurrence) : List Event :=
  (log.filterMap Occurrence.event?).filter (fun event => event.topic = topic)

/-- What the subscription of a number has got. -/
def obtained (number : Nat) (log : List Occurrence) : List (Reading Event) :=
  log.filterMap (Occurrence.reading? number)

/-- A subscription to a topic was made and has not been cancelled. -/
def Joined (log : List Occurrence) (topic : Topic) (number : Nat) : Prop :=
  .subscribed topic number ∈ log ∧ .cancelled number ∉ log

/-- A bus and what has happened to it. -/
structure History where
  bus : Bus
  log : List Occurrence

/-- The history after a call. Only a live subscription can be read or cancelled. -/
def History.call (history : History) : Call → History
  | .subscribe topic =>
      let (number, bus) := history.bus.subscribe topic
      ⟨bus, history.log ++ [.subscribed topic number]⟩
  | .publish event =>
      let (count, bus) := history.bus.publish event
      ⟨bus, history.log ++ [.published event count]⟩
  | .present overlay =>
      let (result, bus) := present overlay history.bus
      ⟨bus, history.log ++ [.presented overlay result]⟩
  | .receive number =>
      match history.bus.receive number with
      | some (reading, bus) => ⟨bus, history.log ++ [.received number reading]⟩
      | none => history
  | .cancel number =>
      match history.bus.live? number with
      | some _ => ⟨history.bus.cancel number, history.log ++ [.cancelled number]⟩
      | none => history

/-- The history of a bus from now on. -/
def history (bus : Bus) (calls : List Call) : History :=
  calls.foldl History.call ⟨bus, []⟩

theorem history_concat (bus : Bus) (calls : List Call) (call : Call) :
    bus.history (calls ++ [call]) = (bus.history calls).call call :=
  List.foldl_concat _ _ _ _

theorem offered_concat (topic : Topic) (log : List Occurrence) (occurrence : Occurrence) :
    offered topic (log ++ [occurrence]) =
      offered topic log ++ occurrence.event?.toList.filter (fun event => event.topic = topic) := by
  unfold offered
  rw [List.filterMap_append, List.filter_append]
  cases hevent : occurrence.event? <;> simp [hevent]

theorem obtained_concat (number : Nat) (log : List Occurrence) (occurrence : Occurrence) :
    obtained number (log ++ [occurrence]) =
      obtained number log ++ (occurrence.reading? number).toList := by
  unfold obtained
  rw [List.filterMap_append]
  cases hreading : occurrence.reading? number <;> simp [hreading]

theorem present_snd (overlay : OverlayEvent) (bus : Bus) :
    (present overlay bus).2 = (bus.publish (.overlay overlay)).2 := by
  unfold present
  split <;> simp [*]

namespace History

variable {history later : History} {retained number : Nat} {topic : Topic} {isLive : Bool}
  {prior accounted unread : List Event} {occurrence : Occurrence}

/-- A subscription since it was made: of the events of its topic it has accounted for some, and the
others are still to be read. Before all of them the channel has sent the prior events. -/
structure Stands (history : History) (retained number : Nat) (topic : Topic) (isLive : Bool)
    (prior accounted unread : List Event) : Prop where
  getElem?_eq : history.bus.subscriptions[number]? =
    some ⟨topic, (prior ++ accounted).length, isLive⟩
  isLive_iff : isLive = true ↔ .cancelled number ∉ history.log
  holds : isLive = true →
    (history.bus.channel topic).Holds retained ((prior ++ accounted) ++ unread)
  offered_eq : offered topic history.log = accounted ++ unread
  accounts : Reading.Accounts (obtained number history.log) accounted

/-- What has nothing to do with a subscription leaves it where it stands. -/
theorem Stands.aside (h : history.Stands retained number topic isLive prior accounted unread)
    (hlog : later.log = history.log ++ [occurrence])
    (hsubscription : later.bus.subscriptions[number]? = history.bus.subscriptions[number]?)
    (hchannel : later.bus.channel topic = history.bus.channel topic)
    (hevent : ∀ event ∈ occurrence.event?, event.topic ≠ topic)
    (hreading : occurrence.reading? number = none) (hcancelled : occurrence ≠ .cancelled number) :
    later.Stands retained number topic isLive prior accounted unread where
  getElem?_eq := hsubscription.trans h.getElem?_eq
  isLive_iff := by
    rw [h.isLive_iff, hlog, List.mem_append, List.mem_singleton, not_or]
    exact (and_iff_left (Ne.symm hcancelled)).symm
  holds := hchannel ▸ h.holds
  offered_eq := by
    have hnone : occurrence.event?.toList.filter (fun event => event.topic = topic) = [] := by
      rw [List.filter_eq_nil_iff]
      intro event hmem
      simpa using hevent event (Option.mem_toList.mp hmem)
    rw [hlog, offered_concat, hnone, List.append_nil, h.offered_eq]
  accounts := by
    rw [hlog, obtained_concat, hreading, Option.toList_none, List.append_nil]
    exact h.accounts

/-- An event of the topic waits behind the others, and one of another topic is no concern. -/
theorem Stands.announce (h : history.Stands retained number topic isLive prior accounted unread)
    {event : Event} (hbus : later.bus = (history.bus.publish event).2)
    (hlog : later.log = history.log ++ [occurrence]) (hevent : occurrence.event? = some event)
    (hreading : occurrence.reading? number = none) (hcancelled : occurrence ≠ .cancelled number) :
    ∃ unread, later.Stands retained number topic isLive prior accounted unread := by
  by_cases htopic : event.topic = topic
  · refine ⟨unread ++ [event], ?_, ?_, ?_, ?_, ?_⟩
    · rw [hbus, subscriptions_publish]
      exact h.getElem?_eq
    · rw [h.isLive_iff, hlog, List.mem_append, List.mem_singleton, not_or]
      exact (and_iff_left (Ne.symm hcancelled)).symm
    · intro hlive
      -- A live subscription is an audience, so the event goes to the channel.
      have hfollows : history.bus.Follows number topic := ⟨_, hlive ▸ h.getElem?_eq⟩
      rw [hbus, channel_publish, if_pos ⟨htopic, hfollows.audience_pos⟩, ← List.append_assoc]
      exact (h.holds hlive).send event
    · rw [hlog, offered_concat, hevent, h.offered_eq]
      simp [htopic]
    · rw [hlog, obtained_concat, hreading, Option.toList_none, List.append_nil]
      exact h.accounts
  · refine ⟨unread, h.aside hlog ?_ ?_ ?_ hreading hcancelled⟩
    · rw [hbus, subscriptions_publish]
    · rw [hbus, channel_publish, if_neg fun hboth => htopic hboth.1]
    · intro other hother
      rw [hevent] at hother
      cases hother
      exact htopic

/-- A live subscription gets what is next of the unread events. -/
theorem Stands.receive_eq (h : history.Stands retained number topic true prior accounted unread) :
    history.bus.receive number = some (Reading.next retained unread, { history.bus with
      subscriptions := history.bus.subscriptions.set number
        ⟨topic, (prior ++ accounted).length + (Reading.next retained unread).span, true⟩ }) := by
  have hlive : history.bus.live? number = some ⟨topic, (prior ++ accounted).length, true⟩ :=
    live?_eq_some_iff.mpr ⟨h.getElem?_eq, rfl⟩
  unfold Bus.receive
  simp only [hlive, (h.holds rfl).read]

/-- A reading takes what it accounts for from the front of the unread events. -/
theorem Stands.receive (h : history.Stands retained number topic true prior accounted unread) :
    (history.call (.receive number)).Stands retained number topic true prior
      (accounted ++ unread.take (Reading.next retained unread).span)
      (unread.drop (Reading.next retained unread).span) := by
  obtain ⟨hlt, -⟩ := List.getElem?_eq_some_iff.mp h.getElem?_eq
  have hspan := Reading.span_next_le retained unread
  have hlength : (prior ++ (accounted ++ unread.take (Reading.next retained unread).span)).length =
      (prior ++ accounted).length + (Reading.next retained unread).span := by
    simp only [List.length_append, List.length_take]
    omega
  simp only [call, h.receive_eq]
  refine ⟨?_, ?_, ?_, ?_, ?_⟩
  · rw [hlength]
    exact List.getElem?_set_self hlt
  · rw [h.isLive_iff, List.mem_append]
    simp
  · intro _
    rw [← List.append_assoc prior, List.append_assoc _ (unread.take _), List.take_append_drop]
    exact h.holds rfl
  · rw [offered_concat, h.offered_eq, List.append_assoc accounted (unread.take _),
      List.take_append_drop]
    simp [Occurrence.event?]
  · rw [obtained_concat]
    simp only [Occurrence.reading?, if_true, Option.toList_some]
    exact h.accounts.next retained unread

/-- A subscription that is cancelled keeps its place. -/
theorem Stands.cancel (h : history.Stands retained number topic true prior accounted unread) :
    (history.call (.cancel number)).Stands retained number topic false prior accounted unread := by
  obtain ⟨hlt, -⟩ := List.getElem?_eq_some_iff.mp h.getElem?_eq
  have hlive : history.bus.live? number = some ⟨topic, (prior ++ accounted).length, true⟩ :=
    live?_eq_some_iff.mpr ⟨h.getElem?_eq, rfl⟩
  simp only [call, hlive]
  refine ⟨?_, ?_, fun hfalse => absurd hfalse Bool.false_ne_true, ?_, ?_⟩
  · unfold Bus.cancel
    simp only [hlive]
    exact List.getElem?_set_self hlt
  · simp
  · rw [offered_concat, h.offered_eq]
    simp [Occurrence.event?]
  · rw [obtained_concat]
    simpa [Occurrence.reading?] using h.accounts

theorem Stands.live?_eq_none
    (h : history.Stands retained number topic false prior accounted unread) :
    history.bus.live? number = none := by
  unfold live?
  rw [h.getElem?_eq]
  rfl

/-- Whatever is done with the bus, a subscription stands somewhere in the sequence of events. -/
theorem Stands.call (h : history.Stands retained number topic isLive prior accounted unread)
    (call : Call) :
    ∃ isLive accounted unread,
      (history.call call).Stands retained number topic isLive prior accounted unread := by
  obtain ⟨hlt, -⟩ := List.getElem?_eq_some_iff.mp h.getElem?_eq
  cases call with
  | subscribe made =>
      refine ⟨isLive, accounted, unread, h.aside rfl ?_ (channel_subscribe _ _ _)
        (fun _ hnone => nomatch hnone) rfl (fun heq => nomatch heq)⟩
      exact List.getElem?_append_left hlt
  | publish event =>
      obtain ⟨unread, hstands⟩ : ∃ unread, (history.call (.publish event)).Stands
          retained number topic isLive prior accounted unread :=
        h.announce rfl rfl rfl rfl (fun heq => nomatch heq)
      exact ⟨isLive, accounted, unread, hstands⟩
  | present overlay =>
      obtain ⟨unread, hstands⟩ : ∃ unread, (history.call (.present overlay)).Stands
          retained number topic isLive prior accounted unread :=
        h.announce (present_snd overlay history.bus) rfl rfl rfl (fun heq => nomatch heq)
      exact ⟨isLive, accounted, unread, hstands⟩
  | receive other =>
      cases hreceive : history.bus.receive other with
      | none =>
          simp only [History.call, hreceive]
          exact ⟨isLive, accounted, unread, h⟩
      | some got =>
          obtain ⟨reading, bus⟩ := got
          obtain ⟨subscription, position, hlive, rfl⟩ := receive_eq_some hreceive
          by_cases hother : other = number
          · subst hother
            cases isLive with
            | false => cases h.live?_eq_none.symm.trans hlive
            | true => exact ⟨true, _, _, h.receive⟩
          · simp only [History.call, hreceive]
            refine ⟨isLive, accounted, unread, h.aside rfl (List.getElem?_set_ne hother)
              (channel_receive hreceive topic) (fun _ hnone => nomatch hnone) ?_
              (fun heq => nomatch heq)⟩
            simp [Occurrence.reading?, hother]
  | cancel other =>
      cases hlive : history.bus.live? other with
      | none =>
          simp only [History.call, hlive]
          exact ⟨isLive, accounted, unread, h⟩
      | some subscription =>
          by_cases hother : other = number
          · subst hother
            cases isLive with
            | false => cases h.live?_eq_none.symm.trans hlive
            | true => exact ⟨false, accounted, unread, h.cancel⟩
          · simp only [History.call, hlive]
            refine ⟨isLive, accounted, unread, h.aside rfl ?_ (channel_cancel _ _ _)
              (fun _ hnone => nomatch hnone) rfl ?_⟩
            · unfold Bus.cancel
              rw [hlive]
              exact List.getElem?_set_ne hother
            · rintro ⟨⟩
              exact hother rfl

/-- Every channel retains so many of the events that have been sent on it. -/
def Retains (history : History) (retained : Nat) : Prop :=
  ∀ topic, ∃ items, (history.bus.channel topic).Holds retained items

theorem Retains.announce (h : history.Retains retained) {event : Event}
    (hbus : later.bus = (history.bus.publish event).2) : later.Retains retained := by
  intro topic
  obtain ⟨items, hitems⟩ := h topic
  rw [hbus, channel_publish]
  split
  · exact ⟨_, hitems.send event⟩
  · exact ⟨items, hitems⟩

theorem Retains.call (h : history.Retains retained) (call : Call) :
    (history.call call).Retains retained := by
  cases call with
  | subscribe made => exact fun topic => channel_subscribe history.bus made topic ▸ h topic
  | publish event => exact h.announce rfl
  | present overlay => exact h.announce (present_snd overlay history.bus)
  | receive number =>
      intro topic
      cases hreceive : history.bus.receive number with
      | none =>
          simp only [History.call, hreceive]
          exact h topic
      | some got =>
          simp only [History.call, hreceive]
          rw [channel_receive hreceive]
          exact h topic
  | cancel number =>
      intro topic
      cases hlive : history.bus.live? number with
      | none =>
          simp only [History.call, hlive]
          exact h topic
      | some subscription =>
          simp only [History.call, hlive, channel_cancel]
          exact h topic

/-! ## Audiences -/

end History

variable {bus later : Bus} {number other : Nat} {topic made : Topic}

theorem follows_subscribe_iff : (bus.subscribe made).2.Follows number topic ↔
    bus.Follows number topic ∨ topic = made ∧ number = bus.subscriptions.length := by
  unfold Follows subscribe
  dsimp only
  rcases Nat.lt_trichotomy number bus.subscriptions.length with hlt | rfl | hgt
  · rw [List.getElem?_append_left hlt]
    exact (or_iff_left fun heq => absurd heq.2 hlt.ne).symm
  · rw [List.getElem?_concat_length, List.getElem?_eq_none (Nat.le_refl _)]
    simp [eq_comm]
  · rw [List.getElem?_eq_none (by simp; omega), List.getElem?_eq_none (by omega)]
    simp
    omega

theorem follows_receive_iff {reading : Reading Event}
    (h : bus.receive other = some (reading, later)) :
    later.Follows number topic ↔ bus.Follows number topic := by
  refine ⟨fun hfollows => ?_, fun hfollows => hfollows.receive h⟩
  obtain ⟨position, hnumber⟩ := hfollows
  obtain ⟨subscription, moved, hlive, rfl⟩ := receive_eq_some h
  obtain ⟨hother, hisLive⟩ := live?_eq_some_iff.mp hlive
  by_cases heq : other = number
  · subst heq
    obtain ⟨hlt, -⟩ := List.getElem?_eq_some_iff.mp hother
    rw [List.getElem?_set_self hlt] at hnumber
    have htopic : subscription.topic = topic :=
      congrArg Subscription.topic (Option.some.inj hnumber)
    refine ⟨subscription.position, ?_⟩
    rw [hother, ← htopic, ← hisLive]
  · exact ⟨position, (List.getElem?_set_ne heq).symm.trans hnumber⟩

theorem follows_cancel_iff : (bus.cancel other).Follows number topic ↔
    bus.Follows number topic ∧ other ≠ number := by
  refine ⟨fun hfollows => ?_, fun hfollows => hfollows.1.cancel hfollows.2⟩
  obtain ⟨position, hnumber⟩ := hfollows
  unfold cancel at hnumber
  split at hnumber
  · next subscription hlive =>
    obtain ⟨hother, -⟩ := live?_eq_some_iff.mp hlive
    obtain ⟨hlt, -⟩ := List.getElem?_eq_some_iff.mp hother
    by_cases heq : other = number
    · subst heq
      rw [List.getElem?_set_self hlt] at hnumber
      cases hnumber
    · exact ⟨⟨position, (List.getElem?_set_ne heq).symm.trans hnumber⟩, heq⟩
  · next hdead =>
    refine ⟨⟨position, hnumber⟩, ?_⟩
    rintro rfl
    cases hdead.symm.trans (live?_eq_some_iff.mpr ⟨hnumber, rfl⟩)

/-- How many items of a list are of some kind is at how many places there is one. -/
theorem countP_eq_ncard {α : Type} (kind : α → Bool) (items : List α) :
    items.countP kind = {place : Nat | ∃ item, items[place]? = some item ∧ kind item}.ncard := by
  induction items using List.reverseRecOn with
  | nil => simp
  | append_singleton items last ih =>
      have hplaces : {place : Nat | ∃ item, (items ++ [last])[place]? = some item ∧ kind item} =
          {place : Nat | place = items.length ∧ kind last} ∪
            {place : Nat | ∃ item, items[place]? = some item ∧ kind item} := by
        ext place
        simp only [Set.mem_ofPred_eq, Set.mem_union]
        rcases Nat.lt_trichotomy place items.length with hlt | rfl | hgt
        · rw [List.getElem?_append_left hlt]
          simp [hlt.ne]
        · simp
        · rw [List.getElem?_eq_none (by simp; omega), List.getElem?_eq_none (by omega)]
          simp [hgt.ne']
      have hfinite : {place : Nat | ∃ item, items[place]? = some item ∧ kind item}.Finite := by
        refine (Set.finite_lt_nat items.length).subset ?_
        rintro place ⟨item, hitem, -⟩
        exact (List.getElem?_eq_some_iff.mp hitem).1
      rw [List.countP_append, List.countP_singleton, ih, hplaces]
      cases hlast : kind last with
      | false => simp
      | true =>
          have hfresh : items.length ∉
              {place : Nat | ∃ item, items[place]? = some item ∧ kind item} := by
            simp
          simp [Set.ncard_insert_of_notMem hfresh hfinite]

/-- The audience of a topic are the live subscriptions to it. -/
theorem audience_eq_ncard (bus : Bus) (topic : Topic) :
    bus.audience topic = {number | bus.Follows number topic}.ncard := by
  rw [audience, countP_eq_ncard]
  congr 1
  ext number
  refine ⟨?_, ?_⟩
  · rintro ⟨⟨made, position, isLive⟩, hnumber, hkind⟩
    obtain ⟨rfl, rfl⟩ : isLive = true ∧ made = topic := by simpa using hkind
    exact ⟨position, hnumber⟩
  · rintro ⟨position, hnumber⟩
    exact ⟨_, hnumber, by simp⟩

namespace History

variable {history later : History}

/-- The log tells which subscriptions are live. -/
structure Tells (history : History) : Prop where
  follows_iff : ∀ number topic, history.bus.Follows number topic ↔ Joined history.log topic number
  lt_length : ∀ number, .cancelled number ∈ history.log → number < history.bus.subscriptions.length

/-- An occurrence that is neither about joining nor about leaving changes no audience. -/
theorem Tells.aside {occurrence : Occurrence} (h : history.Tells)
    (hlog : later.log = history.log ++ [occurrence])
    (hfollows : ∀ number topic, later.bus.Follows number topic ↔ history.bus.Follows number topic)
    (hlength : later.bus.subscriptions.length = history.bus.subscriptions.length)
    (hsubscribed : ∀ topic number, occurrence ≠ .subscribed topic number)
    (hcancelled : ∀ number, occurrence ≠ .cancelled number) : later.Tells where
  follows_iff number topic := by
    rw [hfollows, h.follows_iff, hlog, Joined, Joined, List.mem_append, List.mem_append,
      List.mem_singleton, List.mem_singleton]
    rw [or_iff_left (Ne.symm (hsubscribed _ _)), or_iff_left (Ne.symm (hcancelled _))]
  lt_length number := by
    rw [hlength, hlog, List.mem_append, List.mem_singleton,
      or_iff_left (Ne.symm (hcancelled number))]
    exact h.lt_length number

theorem Tells.announce {occurrence : Occurrence} (h : history.Tells) {event : Event}
    (hbus : later.bus = (history.bus.publish event).2)
    (hlog : later.log = history.log ++ [occurrence])
    (hsubscribed : ∀ topic number, occurrence ≠ .subscribed topic number)
    (hcancelled : ∀ number, occurrence ≠ .cancelled number) : later.Tells := by
  refine h.aside hlog (fun number topic => ?_) ?_ hsubscribed hcancelled
  · rw [hbus, Follows, Follows, subscriptions_publish]
  · rw [hbus, subscriptions_publish]

theorem Tells.call (h : history.Tells) (call : Call) : (history.call call).Tells := by
  cases call with
  | subscribe made =>
      have hfresh : .cancelled history.bus.subscriptions.length ∉ history.log :=
        fun hmem => Nat.lt_irrefl _ (h.lt_length _ hmem)
      refine ⟨fun number topic => ?_, fun number => ?_⟩
      · simp only [History.call, Joined, List.mem_append, List.mem_singleton, reduceCtorEq,
          or_false]
        rw [follows_subscribe_iff, h.follows_iff, Joined, Occurrence.subscribed.injEq]
        refine ⟨?_, ?_⟩
        · rintro (⟨hmade, hstill⟩ | ⟨rfl, rfl⟩)
          · exact ⟨Or.inl hmade, hstill⟩
          · exact ⟨Or.inr ⟨rfl, rfl⟩, hfresh⟩
        · rintro ⟨hmade | hnew, hstill⟩
          · exact Or.inl ⟨hmade, hstill⟩
          · exact Or.inr hnew
      · simp only [History.call, List.mem_append, List.mem_singleton, reduceCtorEq, or_false]
        intro hmem
        simp only [Bus.subscribe, List.length_append]
        exact Nat.lt_add_right 1 (h.lt_length number hmem)
  | publish event =>
      exact h.announce rfl rfl (fun _ _ heq => nomatch heq) (fun _ heq => nomatch heq)
  | present overlay =>
      exact h.announce (present_snd overlay history.bus) rfl (fun _ _ heq => nomatch heq)
        (fun _ heq => nomatch heq)
  | receive number =>
      cases hreceive : history.bus.receive number with
      | none => simpa only [History.call, hreceive] using h
      | some got =>
          simp only [History.call, hreceive]
          refine h.aside rfl (fun _ _ => follows_receive_iff hreceive) ?_
            (fun _ _ heq => nomatch heq) (fun _ heq => nomatch heq)
          obtain ⟨subscription, position, -, hbus⟩ := receive_eq_some hreceive
          rw [hbus, List.length_set]
  | cancel number =>
      cases hlive : history.bus.live? number with
      | none => simpa only [History.call, hlive] using h
      | some subscription =>
          obtain ⟨hnumber, -⟩ := live?_eq_some_iff.mp hlive
          obtain ⟨hlt, -⟩ := List.getElem?_eq_some_iff.mp hnumber
          have hlength : (history.bus.cancel number).subscriptions.length =
              history.bus.subscriptions.length := by
            unfold Bus.cancel
            rw [hlive, List.length_set]
          simp only [History.call, hlive]
          refine ⟨fun other topic => ?_, fun other => ?_⟩
          · simp only [Joined, List.mem_append, List.mem_singleton, reduceCtorEq, or_false]
            rw [follows_cancel_iff, h.follows_iff, Joined, Occurrence.cancelled.injEq, not_or,
              and_assoc, ne_comm]
          · rw [hlength]
            simp only [List.mem_append, List.mem_singleton]
            rintro (hmem | hother)
            · exact h.lt_length other hmem
            · cases hother
              exact hlt

/-! ## What subscribers obtain and publishers are told -/

/-- What a subscriber has got accounts for the first of the events of its topic that were published
since it joined, and unless it has left it gets what is next of the others. -/
def Serves (history : History) (retained number : Nat) (topic : Topic) : Prop :=
  ∃ accounted unread, offered topic history.log = accounted ++ unread ∧
    Reading.Accounts (obtained number history.log) accounted ∧
    (.cancelled number ∉ history.log →
      ∃ later, history.bus.receive number = some (Reading.next retained unread, later))

theorem Stands.serves {retained number : Nat} {topic : Topic} {isLive : Bool}
    {prior accounted unread : List Event}
    (h : history.Stands retained number topic isLive prior accounted unread) :
    history.Serves retained number topic := by
  refine ⟨accounted, unread, h.offered_eq, h.accounts, fun hstill => ?_⟩
  obtain rfl := h.isLive_iff.mpr hstill
  exact ⟨_, h.receive_eq⟩

/-- Publishers are told how many there are that have joined the topic and have not left; without
anybody nothing is published. -/
structure Informs (history : History) : Prop where
  publish_fst : ∀ event, (history.bus.publish event).1 =
    {number | Joined history.log event.topic number}.ncard
  publish_snd : ∀ event, (history.bus.publish event).1 = 0 →
    (history.bus.publish event).2 = history.bus
  present_eq : ∀ overlay, present overlay history.bus =
    (if (history.bus.publish (.overlay overlay)).1 = 0 then .error .unavailable else .ok (),
      (history.bus.publish (.overlay overlay)).2)

theorem Tells.informs (h : history.Tells) : history.Informs where
  publish_fst event := by
    rw [publish_fst_eq, audience_eq_ncard]
    simp only [h.follows_iff]
  publish_snd event hnobody := by
    rw [publish_fst_eq] at hnobody
    rw [publish_eq, hnobody]
    rfl
  present_eq overlay := by
    unfold present
    rcases history.bus.publish (.overlay overlay) with ⟨count, bus⟩
    cases count <;> rfl

end History

theorem ofCapacity_eq_ok {capacity : Nat} {bus : Bus} (h : ofCapacity capacity = .ok bus) :
    bus = ⟨.empty capacity.nextPowerOfTwo, .empty capacity.nextPowerOfTwo, []⟩ := by
  unfold ofCapacity at h
  split at h
  · cases h
  · split at h
    · cases h
    · cases h
      rfl

theorem history_retains {bus : Bus} {retained : Nat} (h : History.Retains ⟨bus, []⟩ retained)
    (calls : List Call) : (bus.history calls).Retains retained := by
  induction calls using List.reverseRecOn with
  | nil => exact h
  | append_singleton calls call ih => exact history_concat bus calls call ▸ ih.call call

theorem history_tells {bus : Bus} (h : History.Tells ⟨bus, []⟩) (calls : List Call) :
    (bus.history calls).Tells := by
  induction calls using List.reverseRecOn with
  | nil => exact h
  | append_singleton calls call ih => exact history_concat bus calls call ▸ ih.call call

theorem history_stands {bus : Bus} {retained number : Nat} {topic : Topic} {prior : List Event}
    (h : History.Stands ⟨bus, []⟩ retained number topic true prior [] []) (calls : List Call) :
    ∃ isLive accounted unread,
      (bus.history calls).Stands retained number topic isLive prior accounted unread := by
  induction calls using List.reverseRecOn with
  | nil => exact ⟨true, [], [], h⟩
  | append_singleton calls call ih =>
      obtain ⟨isLive, accounted, unread, hstands⟩ := ih
      exact history_concat bus calls call ▸ hstands.call call

/-- A new subscription stands behind everything that has been sent. -/
theorem stands_subscribe {bus : Bus} {retained : Nat} (h : History.Retains ⟨bus, []⟩ retained)
    (topic : Topic) :
    ∃ prior, History.Stands ⟨(bus.subscribe topic).2, []⟩ retained (bus.subscribe topic).1 topic
      true prior [] [] := by
  obtain ⟨prior, hprior⟩ := h topic
  refine ⟨prior, ?_, by simp, fun _ => ?_, rfl, .nil⟩
  · have hsent : (bus.channel topic).sent = prior.length := congrArg Channel.sent hprior
    simp only [Bus.subscribe, hsent, List.append_nil, List.getElem?_concat_length]
  · rw [channel_subscribe, List.append_nil, List.append_nil]
    exact hprior

/-- Whatever is done with a bus, before and after somebody joins it: what a subscriber obtains
accounts for the events of its topic since it joined, and publishers are told of their audience. -/
theorem history_accounts {capacity : Nat} {bus : Bus} (hbus : ofCapacity capacity = .ok bus) :
    (∀ (earlier : List Call) (topic : Topic) (later : List Call),
      let (number, joined) := (bus.history earlier).bus.subscribe topic
      (joined.history later).Serves capacity.nextPowerOfTwo number topic) ∧
    ∀ calls : List Call, (bus.history calls).Informs := by
  obtain rfl := ofCapacity_eq_ok hbus
  refine ⟨fun earlier topic later => ?_, fun calls => ?_⟩
  · have hempty : History.Retains ⟨⟨.empty capacity.nextPowerOfTwo,
        .empty capacity.nextPowerOfTwo, []⟩, []⟩ capacity.nextPowerOfTwo := by
      intro topic
      cases topic <;> exact ⟨[], Channel.holds_empty _⟩
    have hretains := history_retains hempty earlier
    obtain ⟨prior, hstart⟩ := stands_subscribe hretains topic
    obtain ⟨isLive, accounted, unread, hstands⟩ := history_stands hstart later
    exact hstands.serves
  · refine (history_tells ⟨fun number topic => ?_, fun number hmem => nomatch hmem⟩ calls).informs
    simp [Follows, Joined]

/-- A bus whose channels retain four events each. -/
def roomy : Bus := ⟨.empty 4, .empty 4, []⟩

/-- An overlay that nobody sees, and somebody who follows the decisions. -/
def lull : List Call := [.publish (.overlay (.path [])), .subscribe .decision]

def glimpse (row : Int32) : OverlayEvent := .path [⟨row, 1⟩]

/-- Six overlays, five of them before the second reading, and a decision for the other reader. -/
def rush : List Call :=
  [.present (glimpse 1), .receive 1, .publish (.overlay (glimpse 2)),
    .publish (.overlay (glimpse 3)), .publish (.decision ⟨7, .up, ⟨1, 1⟩, .traveling⟩),
    .publish (.overlay (glimpse 4)), .present (glimpse 5), .publish (.overlay (glimpse 6)),
    .receive 1, .receive 1]

/-- The second overlay is lost to a reader that joins after the lull. -/
theorem history_accounts_rush :
    ofCapacity 3 = .ok roomy ∧
      let (number, joined) := (roomy.history lull).bus.subscribe .overlay
      number = 1 ∧ (joined.history rush).Serves (Nat.nextPowerOfTwo 3) number .overlay ∧
        offered .overlay (joined.history rush).log =
          [glimpse 1, glimpse 2, glimpse 3, glimpse 4, glimpse 5, glimpse 6].map .overlay ∧
        obtained number (joined.history rush).log =
          [.item (.overlay (glimpse 1)), .lagged 1, .item (.overlay (glimpse 3))] ∧
        (roomy.history lull).Informs ∧
        ((roomy.history lull).bus.publish (.overlay (glimpse 1))).1 = 0 := by
  have hroomy : ofCapacity 3 = .ok roomy := by decide +kernel
  obtain ⟨hserves, hinforms⟩ := history_accounts hroomy
  exact ⟨hroomy, rfl, hserves lull .overlay rush, rfl, rfl, hinforms lull, rfl⟩

end Bus

end MazeAgent
