import MazeAgent.Event.Bus
import Mathlib.Tactic

/-!
# What the operations of the bus change

An event goes to the channel of its topic when somebody follows that topic, and changes nothing
else. Subscriptions do not touch the channels, and a subscription is live until it is cancelled.

**Results.**
* `Bus.Follows`: a live subscription to a topic.
* `Bus.channel_announce`: the channel of a topic after several events.
* `Bus.Follows.subscribe`, `Bus.Follows.receive`, `Bus.Follows.cancel`: a subscription stays live.
-/

namespace MazeAgent

/-- The channel after several items. -/
def Channel.sendAll {α : Type} (channel : Channel α) (items : List α) : Channel α :=
  items.foldl Channel.send channel

theorem Channel.sendAll_append {α : Type} (channel : Channel α) (first second : List α) :
    channel.sendAll (first ++ second) = (channel.sendAll first).sendAll second :=
  List.foldl_append

namespace Bus

variable {bus later : Bus} {number other : Nat} {topic : Topic}

/-- The subscription of a number is live and follows a topic. -/
def Follows (bus : Bus) (number : Nat) (topic : Topic) : Prop :=
  ∃ position, bus.subscriptions[number]? = some ⟨topic, position, true⟩

theorem Follows.audience_pos (h : bus.Follows number topic) : 0 < bus.audience topic := by
  obtain ⟨position, hnumber⟩ := h
  exact List.countP_pos_iff.mpr ⟨_, List.mem_of_getElem? hnumber, by simp⟩

/-! ## Events -/

/-- The bus after several events. -/
def announce (bus : Bus) (events : List Event) : Bus :=
  events.foldl (fun bus event => (bus.publish event).2) bus

theorem publish_fst_eq (bus : Bus) (event : Event) :
    (bus.publish event).1 = bus.audience event.topic := by
  unfold publish
  split <;> simp [*]

theorem publish_eq (bus : Bus) (event : Event) :
    (bus.publish event).2 = if 0 < bus.audience event.topic then bus.append event else bus := by
  unfold publish
  split
  · next hnone => simp [hnone]
  · next count hsome => simp [hsome]

theorem subscriptions_append (bus : Bus) (event : Event) :
    (bus.append event).subscriptions = bus.subscriptions := by
  unfold append
  split <;> rfl

theorem channel_append (bus : Bus) (event : Event) (topic : Topic) :
    (bus.append event).channel topic =
      if event.topic = topic then (bus.channel topic).send event else bus.channel topic := by
  unfold append
  cases event <;> cases topic <;> rfl

@[simp] theorem subscriptions_publish (bus : Bus) (event : Event) :
    (bus.publish event).2.subscriptions = bus.subscriptions := by
  rw [publish_eq]
  split
  · exact subscriptions_append bus event
  · rfl

@[simp] theorem audience_publish (bus : Bus) (event : Event) (topic : Topic) :
    (bus.publish event).2.audience topic = bus.audience topic := by
  unfold audience
  rw [subscriptions_publish]

theorem channel_publish (bus : Bus) (event : Event) (topic : Topic) :
    (bus.publish event).2.channel topic =
      if event.topic = topic ∧ 0 < bus.audience topic then (bus.channel topic).send event
      else bus.channel topic := by
  rw [publish_eq]
  by_cases htopic : event.topic = topic
  · subst htopic
    split <;> simp [*, channel_append]
  · split <;> simp [*, channel_append]

@[simp] theorem subscriptions_announce (bus : Bus) (events : List Event) :
    (bus.announce events).subscriptions = bus.subscriptions := by
  induction events generalizing bus with
  | nil => rfl
  | cons event rest ih =>
      change ((bus.publish event).2.announce rest).subscriptions = bus.subscriptions
      rw [ih, subscriptions_publish]

/-- Of several events a followed channel gets those of its own topic. -/
theorem channel_announce (bus : Bus) (events : List Event) (topic : Topic) :
    (bus.announce events).channel topic =
      if 0 < bus.audience topic then
        (bus.channel topic).sendAll (events.filter (fun event => event.topic = topic))
      else bus.channel topic := by
  induction events generalizing bus with
  | nil => split <;> rfl
  | cons event rest ih =>
      change ((bus.publish event).2.announce rest).channel topic = _
      rw [ih, audience_publish, channel_publish]
      by_cases htopic : event.topic = topic
      · split <;> simp [*, Channel.sendAll]
      · split <;> simp [*]

/-! ## Subscriptions -/

@[simp] theorem channel_subscribe (bus : Bus) (made topic : Topic) :
    (bus.subscribe made).2.channel topic = bus.channel topic := by
  cases topic <;> rfl

theorem Follows.announce (h : bus.Follows number topic) (events : List Event) :
    (bus.announce events).Follows number topic := by
  unfold Follows
  rw [subscriptions_announce]
  exact h

theorem Follows.subscribe (h : bus.Follows number topic) (made : Topic) :
    (bus.subscribe made).2.Follows number topic := by
  obtain ⟨position, hnumber⟩ := h
  refine ⟨position, ?_⟩
  obtain ⟨hlt, -⟩ := List.getElem?_eq_some_iff.mp hnumber
  exact (List.getElem?_append_left hlt).trans hnumber

theorem live?_eq_some_iff {subscription : Subscription} :
    bus.live? number = some subscription ↔
      bus.subscriptions[number]? = some subscription ∧ subscription.isLive = true := by
  unfold live?
  cases bus.subscriptions[number]? with
  | none => simp
  | some found =>
      dsimp only
      split
      · next hlive =>
        refine ⟨?_, fun h => h.1⟩
        rintro ⟨⟩
        exact ⟨rfl, hlive⟩
      · next hlive =>
        refine ⟨fun h => (nomatch h), ?_⟩
        rintro ⟨⟨⟩, h⟩
        exact absurd h hlive

theorem receive_eq_some {reading : Reading Event} (h : bus.receive number = some (reading, later)) :
    ∃ subscription position, bus.live? number = some subscription ∧
      later = { bus with subscriptions :=
        bus.subscriptions.set number { subscription with position := position } } := by
  unfold receive at h
  split at h
  · next subscription hlive =>
    cases h
    exact ⟨subscription, _, hlive, rfl⟩
  · cases h

theorem channel_receive {reading : Reading Event}
    (h : bus.receive other = some (reading, later)) (topic : Topic) :
    later.channel topic = bus.channel topic := by
  obtain ⟨subscription, position, -, rfl⟩ := receive_eq_some h
  cases topic <;> rfl

theorem Follows.receive {reading : Reading Event} (h : bus.Follows number topic)
    (hreceive : bus.receive other = some (reading, later)) : later.Follows number topic := by
  obtain ⟨position, hnumber⟩ := h
  obtain ⟨subscription, next, hlive, rfl⟩ := receive_eq_some hreceive
  obtain ⟨hother, -⟩ := live?_eq_some_iff.mp hlive
  -- Reading moves the position of a subscription and leaves it live.
  by_cases heq : other = number
  · subst heq
    rw [hnumber] at hother
    cases hother
    obtain ⟨hlt, -⟩ := List.getElem?_eq_some_iff.mp hnumber
    exact ⟨next, List.getElem?_set_self hlt⟩
  · exact ⟨position, (List.getElem?_set_ne heq).trans hnumber⟩

@[simp] theorem channel_cancel (bus : Bus) (number : Nat) (topic : Topic) :
    (bus.cancel number).channel topic = bus.channel topic := by
  unfold cancel
  split <;> cases topic <;> rfl

theorem Follows.cancel (h : bus.Follows number topic) (hother : other ≠ number) :
    (bus.cancel other).Follows number topic := by
  obtain ⟨position, hnumber⟩ := h
  unfold Bus.cancel
  split
  · exact ⟨position, (List.getElem?_set_ne hother).trans hnumber⟩
  · exact ⟨position, hnumber⟩

end Bus
end MazeAgent
